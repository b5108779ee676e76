/-!
Lines of text. A line ends at any of the line boundary characters of Unicode and at the file,
group and record separators; a carriage return followed by a line feed is one boundary.
-/
namespace Provenance.Text

/-- The characters that end a line. -/
def isLineBoundary (c : Char) : Bool :=
  let n := c.toNat
  (10 ≤ n && n ≤ 13) || (28 ≤ n && n ≤ 30) || n == 0x85 || n == 0x2028 || n == 0x2029

/-- The lines of a text without their boundaries. A boundary at the end of the text does not start
another line, so the empty text has none. -/
def splitLines : List Char → List (List Char)
  | [] => []
  | '\r' :: '\n' :: rest => [] :: splitLines rest
  | c :: rest =>
    if isLineBoundary c then [] :: splitLines rest
    else
      match splitLines rest with
      | [] => [[c]]
      | line :: lines => (c :: line) :: lines

/-- The text with each carriage return, alone or before a line feed, turned into a line feed. -/
def universalNewlines : List Char → List Char
  | [] => []
  | '\r' :: '\n' :: rest => '\n' :: universalNewlines rest
  | c :: rest => (if c = '\r' then '\n' else c) :: universalNewlines rest

/-- Each line followed by an ending. -/
def terminated {α : Type} (ending : α) (lines : List (List α)) : List α :=
  lines.flatMap fun line => line ++ [ending]

end Provenance.Text
