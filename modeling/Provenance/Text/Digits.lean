import Provenance.Raised
import Provenance.Text.Blank
import Provenance.Text.Quoted

/-!
Whole numbers in decimal. They are read with the digits of any script; blanks may surround the
number, a sign may precede it, and single underscores may stand between digits. Numbers of very many
digits are neither read nor written.
-/
namespace Provenance.Text

/-- The zeros of the decimal digit sequences of Unicode 14; nine more digits follow each. -/
def digitZeros : Array Nat := #[
    0x30, 0x660, 0x6F0, 0x7C0, 0x966, 0x9E6, 0xA66, 0xAE6, 0xB66, 0xBE6, 0xC66, 0xCE6, 0xD66,
    0xDE6, 0xE50, 0xED0, 0xF20, 0x1040, 0x1090, 0x17E0, 0x1810, 0x1946, 0x19D0, 0x1A80, 0x1A90,
    0x1B50, 0x1BB0, 0x1C40, 0x1C50, 0xA620, 0xA8D0, 0xA900, 0xA9D0, 0xA9F0, 0xAA50, 0xABF0,
    0xFF10, 0x104A0, 0x10D30, 0x11066, 0x110F0, 0x11136, 0x111D0, 0x112F0, 0x11450, 0x114D0,
    0x11650, 0x116C0, 0x11730, 0x118E0, 0x11950, 0x11C50, 0x11D50, 0x11DA0, 0x16A60, 0x16AC0,
    0x16B50, 0x1D7CE, 0x1D7D8, 0x1D7E2, 0x1D7EC, 0x1D7F6, 0x1E140, 0x1E2F0, 0x1E950, 0x1FBF0
  ]

/-- The value of a decimal digit of any script. -/
def digitValue? (c : Char) : Option Nat :=
  let n := c.toNat
  if n < 128 then if 48 ≤ n ∧ n ≤ 57 then some (n - 48) else none
  else (digitZeros.find? fun first => first ≤ n && n ≤ first + 9).map (n - ·)

/-- The values of the digits of a number in which single underscores may separate digits. -/
def digitGroups : List Char → Option (List Nat)
  | [] => none
  | c :: rest =>
    match digitValue? c, rest with
    | none, _ => none
    | some d, [] => some [d]
    | some d, '_' :: rest => (digitGroups rest).map (d :: ·)
    | some d, rest => (digitGroups rest).map (d :: ·)

/-- The most digits that a number in decimal may have. -/
def maxDigits : Nat := 4300

/-- The least number that has more digits. -/
def numberBound : Nat := Nat.pow 10 maxDigits

/-- The blanks that may stand around a number: all but the information separators. -/
def isNumberBlank (c : Char) : Bool :=
  isBlank c && !(28 ≤ c.toNat && c.toNat ≤ 31)

/-- How the reading of a number may end. -/
inductive NumberText where
  | value (n : Int)
  /-- More than `maxDigits` digits; their count. -/
  | tooLong (digits : Nat)
  | malformed
  deriving DecidableEq, Repr

/-- Digits as a number, the first digit being the most significant. -/
def ofDigits (base : Nat) (ds : List Nat) : Nat :=
  ds.foldl (fun n d => n * base + d) 0

/-- Reads a whole number in decimal. -/
def readNumber (s : List Char) : NumberText :=
  let (negative, body) :=
    match trimWhile isNumberBlank s with
    | '-' :: rest => (true, rest)
    | '+' :: rest => (false, rest)
    | rest => (false, rest)
  match digitGroups body with
  | none => .malformed
  | some ds =>
    if maxDigits < ds.length then .tooLong ds.length
    else
      let n := ofDigits 10 ds
      .value (if negative then -(n : Int) else n)

/-- The number that a text is in decimal. -/
def wholeNumber (s : List Char) : Except Raised Int :=
  match readNumber s with
  | .value n => .ok n
  | .malformed =>
    .error (.badValue s!"invalid literal for int() with base 10: {quoted (String.ofList s)}")
  | .tooLong digits =>
    .error (.badValue <|
      s!"Exceeds the limit ({maxDigits} digits) for integer string conversion: " ++
      s!"value has {digits} digits; use sys.set_int_max_str_digits() to increase the limit")

/-- The error of a number that has too many digits to be written. -/
def tooManyDigits : Raised :=
  .badValue <| s!"Exceeds the limit ({maxDigits} digits) for integer string conversion; " ++
    "use sys.set_int_max_str_digits() to increase the limit"

/-- A number in decimal. -/
def decimal (n : Int) : Except Raised String :=
  if numberBound ≤ n.natAbs then .error tooManyDigits else .ok (toString n)

/-- Whether a character is a digit in a wider sense: a decimal one of any script, or one that stands
above, below or in a frame. -/
def isDigitLike (c : Char) : Bool :=
  (digitValue? c).isSome || digitForms.any fun (first, last) => first ≤ c.toNat && c.toNat ≤ last
where
  /-- The ranges of the digits that are not decimal ones, in Unicode 14. -/
  digitForms : List (Nat × Nat) := [
    (0xB2, 0xB3), (0xB9, 0xB9), (0x1369, 0x1371), (0x19DA, 0x19DA), (0x2070, 0x2070),
    (0x2074, 0x2079), (0x2080, 0x2089), (0x2460, 0x2468), (0x2474, 0x247C), (0x2488, 0x2490),
    (0x24EA, 0x24EA), (0x24F5, 0x24FD), (0x24FF, 0x24FF), (0x2776, 0x277E), (0x2780, 0x2788),
    (0x278A, 0x2792), (0x10A40, 0x10A43), (0x10E60, 0x10E68), (0x11052, 0x1105A),
    (0x1F100, 0x1F10A)]

end Provenance.Text
