import Provenance.Text.Utf8

/-!
Wordings: texts in which one half of a surrogate pair may stand without the other. Only characters
have bytes, so a wording with a lone surrogate can be put together and shown, but not encoded.
-/
namespace Provenance

/-- A code point: a character, or half a surrogate pair that stands alone, counted from U+D800. -/
inductive Mark where
  | char (c : Char)
  | lone (half : Fin 2048)
  deriving DecidableEq, Repr

/-- A text in which surrogates may stand alone. -/
abbrev Wording := List Mark

namespace Mark

/-- The number of a code point. -/
def code : Mark → Nat
  | .char c => c.toNat
  | .lone half => 0xD800 + half

/-- The character that a code point is. -/
def char? : Mark → Option Char
  | .char c => some c
  | .lone _ => none

end Mark

namespace Text

/-- A way to turn texts into bytes: its name, the code points that it has bytes for, and what is
said about the others. -/
structure Codec where
  name : String
  has : Mark → Bool
  refusal : String

/-- Why a text has no bytes: the codec, and the first run of code points that it does not have. -/
structure EncodeFault where
  codec : String
  position : Nat
  codes : List Nat
  reason : String
  deriving DecidableEq, Repr

/-- The first fault of a wording that a codec does not have all code points of. -/
def Codec.faultOf (codec : Codec) (w : Wording) : EncodeFault where
  codec := codec.name
  position := (w.takeWhile codec.has).length
  codes := ((w.dropWhile codec.has).takeWhile fun mark => !codec.has mark).map Mark.code
  reason := codec.refusal

/-- The codec of all characters. -/
def Codec.utf8 : Codec := ⟨"utf-8", fun mark => mark.char?.isSome, "surrogates not allowed"⟩

/-- A code point as an escape. -/
def escapedCode (n : Nat) : String :=
  if n < 0x100 then "\\x" ++ String.ofList (hexPadded 2 n)
  else if n < 0x10000 then "\\u" ++ String.ofList (hexPadded 4 n)
  else "\\U" ++ String.ofList (hexPadded 8 n)

/-- The fault in words: one code point is named, several are given by their first and last
position. -/
def EncodeFault.message (fault : EncodeFault) : String :=
  let place :=
    match fault.codes with
    | [n] => s!"character '{escapedCode n}' in position {fault.position}"
    | codes => s!"characters in position {fault.position}-{fault.position + codes.length - 1}"
  s!"'{fault.codec}' codec can't encode {place}: {fault.reason}"

end Text

namespace Wording

/-- Characters as a wording. -/
def ofChars (s : List Char) : Wording := s.map .char

instance : Coe String Wording := ⟨fun s => ofChars s.toList⟩

/-- The characters of a wording, if no surrogate stands alone in it. -/
def chars? (w : Wording) : Option (List Char) := w.mapM Mark.char?

/-- The bytes of a wording, if it has any. -/
def encode (w : Wording) : Except Text.EncodeFault (List UInt8) :=
  match w.chars? with
  | some s => .ok (Text.Utf8.encode s)
  | none => .error (Text.Codec.utf8.faultOf w)

/-- The wording for the eye: the replacement character stands for a lone surrogate. -/
def shown (w : Wording) : String := String.ofList (w.map fun mark => mark.char?.getD '\uFFFD')

end Wording

end Provenance
