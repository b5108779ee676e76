import Provenance.Text.Quoted

/-!
JSON text. All characters outside printable ASCII are written as escapes of UTF-16 units. A value
is written on one line, or on many with two spaces per level.
-/
namespace Provenance

/-- A JSON value; the fields of an object keep their order. -/
inductive Json where
  | text (s : String)
  | number (n : Int)
  | list (items : List Json)
  | object (fields : List (String × Json))
  deriving Repr

namespace Json

/-- One UTF-16 unit as an escape. -/
def escapedUnit (n : Nat) : List Char := '\\' :: 'u' :: Text.hexPadded 4 n

/-- A character of a JSON text. -/
def escaped (c : Char) : List Char :=
  let n := c.toNat
  if c = '"' ∨ c = '\\' then ['\\', c]
  else if c = '\n' then ['\\', 'n']
  else if c = '\r' then ['\\', 'r']
  else if c = '\t' then ['\\', 't']
  else if n = 8 then ['\\', 'b']
  else if n = 12 then ['\\', 'f']
  else if 0x20 ≤ n ∧ n < 0x7F then [c]
  else if n < 0x10000 then escapedUnit n
  else
    escapedUnit (0xD800 + (n - 0x10000) / 0x400) ++ escapedUnit (0xDC00 + (n - 0x10000) % 0x400)

/-- A text between quotes. -/
def quotedText (s : String) : String :=
  String.ofList ('"' :: (s.toList.flatMap escaped ++ ['"']))

/-- Texts between brackets: on one line, or, at a level, on a line each. -/
def enclosed (open_ close : String) (level : Option Nat) (items : List String) : String :=
  match items, level with
  | [], _ => open_ ++ close
  | items, none => open_ ++ ", ".intercalate items ++ close
  | items, some level =>
    let indent (n : Nat) := "\n" ++ String.ofList (List.replicate (2 * n) ' ')
    open_ ++ indent (level + 1) ++ ("," ++ indent (level + 1)).intercalate items ++
      indent level ++ close

mutual

/-- A value; `level` is the depth it stands at if every part of it gets a line. -/
def write (level : Option Nat) : Json → String
  | .text s => quotedText s
  | .number n => toString n
  | .list items => enclosed "[" "]" level (writeAll (level.map (· + 1)) items)
  | .object fields => enclosed "\x7b" "\x7d" level (writeFields (level.map (· + 1)) fields)

/-- Values one after the other. -/
def writeAll (level : Option Nat) : List Json → List String
  | [] => []
  | item :: items => write level item :: writeAll level items

/-- Names with their values one after the other. -/
def writeFields (level : Option Nat) : List (String × Json) → List String
  | [] => []
  | (name, item) :: fields =>
    (quotedText name ++ ": " ++ write level item) :: writeFields level fields

end

/-- The value on one line. -/
def compact (j : Json) : String := j.write none

/-- The value on lines of its own. -/
def pretty (j : Json) : String := j.write (some 0)

end Json

end Provenance
