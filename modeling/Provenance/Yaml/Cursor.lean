import Provenance.Raised
import Provenance.Text.Hex

/-!
A place in a YAML text: the characters from there on, and how many characters, lines and columns
lie before it.
-/
namespace Provenance.Yaml

/-- Why a text has no value: it is not well formed, or it asks for a value that does not exist. -/
inductive Fault where
  | malformed
  | noSuchValue (e : Raised)
  deriving DecidableEq, Repr

/-- A place in a text. -/
structure Cursor where
  rest : List Char
  index : Nat := 0
  line : Nat := 0
  column : Nat := 0
  deriving DecidableEq, Repr

/-- The characters that may stand in a text at all. -/
def isAllowed (c : Char) : Bool :=
  let n := c.toNat
  n == 9 || n == 10 || n == 13 || (0x20 ≤ n && n ≤ 0x7E) || n == 0x85 ||
    (0xA0 ≤ n && n ≤ 0xFFFD) || 0x10000 ≤ n

/-- The characters that end a line. -/
def isBreak (c : Char) : Bool :=
  c == '\n' || c == '\r' || c == '\u0085' || c == '\u2028' || c == '\u2029'

/-- The end of the text, which is read as a NUL, and the ends of lines. -/
def isBreakOrEnd (c : Char) : Bool := c == '\x00' || isBreak c

/-- What may follow an indicator: a space, the end of a line or of the text. -/
def isSpaceOrEnd (c : Char) : Bool := c == ' ' || isBreakOrEnd c

/-- What may follow an indicator, with tabs allowed. -/
def isGap (c : Char) : Bool := c == '\t' || isSpaceOrEnd c

/-- The characters of names of directives, anchors and tag handles. -/
def isNameChar (c : Char) : Bool :=
  ('0' ≤ c && c ≤ '9') || ('A' ≤ c && c ≤ 'Z') || ('a' ≤ c && c ≤ 'z') || c == '-' || c == '_'

namespace Cursor

/-- The character at the place, NUL at the end of the text. -/
def peek (c : Cursor) : Char := c.rest.headD '\x00'

/-- The character a number of places further on. -/
def peekAt (c : Cursor) (n : Nat) : Char := c.rest.getD n '\x00'

/-- The place after one more character. A byte order mark takes no column. -/
def step (c : Cursor) : Cursor :=
  match c.rest with
  | [] => c
  | ch :: rest =>
    if ch == '\n' || ch == '\u0085' || ch == '\u2028' || ch == '\u2029' ||
        (ch == '\r' && rest.head? != some '\n') then
      ⟨rest, c.index + 1, c.line + 1, 0⟩
    else if ch == '\ufeff' then ⟨rest, c.index + 1, c.line, c.column⟩
    else ⟨rest, c.index + 1, c.line, c.column + 1⟩

/-- The place a number of characters further on. -/
def skip (c : Cursor) : Nat → Cursor
  | 0 => c
  | n + 1 => c.step.skip n

/-- The characters from the place on that satisfy `p`, and the place after them. -/
def spanWhile (c : Cursor) (p : Char → Bool) : List Char × Cursor :=
  let taken := c.rest.takeWhile p
  (taken, c.skip taken.length)

/-- The place after the characters that satisfy `p`. -/
def skipWhile (c : Cursor) (p : Char → Bool) : Cursor := (c.spanWhile p).2

/-- One line break, which becomes a line feed unless it is a separator of lines or paragraphs, and
the place after it. -/
def takeBreak (c : Cursor) : List Char × Cursor :=
  match c.rest with
  | '\r' :: '\n' :: _ => (['\n'], c.skip 2)
  | ch :: _ =>
    if ch == '\n' || ch == '\r' || ch == '\u0085' then (['\n'], c.step)
    else if isBreak ch then ([ch], c.step)
    else ([], c)
  | [] => ([], c)

/-- Whether one of the marks `---` and `...`, and a gap after it, begins here. -/
def isAtMark (c : Cursor) : Bool :=
  match c.rest with
  | '-' :: '-' :: '-' :: rest | '.' :: '.' :: '.' :: rest => isGap (rest.headD '\x00')
  | _ => false

/-- A comment up to the end of its line, if one begins here. -/
def skipComment (c : Cursor) : Cursor :=
  if c.peek == '#' then c.skipWhile (!isBreakOrEnd ·) else c

/-- The rest of a line that holds only spaces and a comment, with its break. -/
def restOfLine (c : Cursor) : Except Fault Cursor :=
  let c := (c.skipWhile (· == ' ')).skipComment
  if isBreakOrEnd c.peek then .ok c.takeBreak.2 else .error .malformed

end Cursor

end Provenance.Yaml
