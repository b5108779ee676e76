/-!
Letter case, as far as it decides whether a word is one of a few words in ASCII letters.
-/
namespace Provenance.Text

/-- The upper-case form of a character whose upper-case form lies in ASCII; a character without
one stays as it is. -/
def upperChar (c : Char) : List Char :=
  match c.toNat with
  | 0xDF => ['S', 'S']
  | 0x131 => ['I']
  | 0x17F => ['S']
  | 0xFB00 => ['F', 'F']
  | 0xFB01 => ['F', 'I']
  | 0xFB02 => ['F', 'L']
  | 0xFB03 => ['F', 'F', 'I']
  | 0xFB04 => ['F', 'F', 'L']
  | 0xFB05 => ['S', 'T']
  | 0xFB06 => ['S', 'T']
  | _ => [c.toUpper]

/-- The text with the letters that have an upper-case form in ASCII in that form. Two texts in
ASCII capitals are told apart by it exactly as by full upper-casing. -/
def upper (s : String) : String :=
  String.ofList (s.toList.flatMap upperChar)

/-- The text with the letters of ASCII, and the Kelvin sign, in lower case. -/
def lower (s : String) : String :=
  String.ofList (s.toList.map fun c => if c.toNat = 0x212A then 'k' else c.toLower)

end Provenance.Text
