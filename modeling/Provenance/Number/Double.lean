import Provenance.Text.Digits

/-!
Numbers of double precision. `nearest` rounds a quotient to the nearest of them, `read` reads
decimal text, and `text` writes the fewest digits that read back. Everything is exact arithmetic on
whole numbers; a sign is kept apart.
-/
namespace Provenance

/-- A number that is not negative: `m * 2 ^ e`, or infinite. -/
inductive Double where
  | finite (m : Nat) (e : Int)
  | infinite
  deriving DecidableEq, Repr

namespace Double

/-- Significands are smaller than this. -/
def significandBound : Nat := Nat.pow 2 53

/-- The least exponent. -/
def leastExponent : Int := -1074

/-- The greatest exponent. -/
def greatestExponent : Int := 971

/-- The quotient of two numbers, rounded to the nearest whole number, a half to the even one. -/
def roundQuotient (num den : Nat) : Nat :=
  let q := num / den
  let r := num % den
  if 2 * r < den then q else if den < 2 * r then q + 1 else q + q % 2

/-- A quotient divided by a power of two. -/
def scaleDown (num den : Nat) (e : Int) : Nat × Nat :=
  if 0 ≤ e then (num, den * Nat.pow 2 e.toNat) else (num * Nat.pow 2 (-e).toNat, den)

/-- The nearest number to a quotient, a half going to the even significand. -/
def nearest (num den : Nat) : Double :=
  if num = 0 then .finite 0 0
  else
    let estimate : Int := (num.log2 : Int) - den.log2 - 53
    let (n, d) := scaleDown num den estimate
    let e := max leastExponent (if n / d < significandBound then estimate else estimate + 1)
    let (n, d) := scaleDown num den e
    let m := roundQuotient n d
    let (m, e) := if m = significandBound then (m / 2, e + 1) else (m, e)
    if greatestExponent < e then .infinite else .finite m e

/-- A finite number as a quotient. -/
def quotient (m : Nat) (e : Int) : Nat × Nat :=
  if 0 ≤ e then (m * Nat.pow 2 e.toNat, 1) else (m, Nat.pow 2 (-e).toNat)

/-- The nearest number to `c * 10 ^ p`, where `c` has `digits` digits. Exponents far beyond the
range are not computed with. -/
def ofDecimal (c digits : Nat) (p : Int) : Double :=
  if c = 0 then .finite 0 0
  else if 400 < digits + p then .infinite
  else if digits + p < -400 then .finite 0 0
  else if 0 ≤ p then nearest (c * Nat.pow 10 p.toNat) 1
  else nearest c (Nat.pow 10 (-p).toNat)

/-- The place of the decimal point of a quotient: the least `k` from `low` on with the quotient
below `10 ^ k`. -/
def pointFrom (num den : Nat) (low : Int) : Nat → Int
  | 0 => low
  | steps + 1 =>
    let below := if 0 ≤ low then num < den * Nat.pow 10 low.toNat
      else num * Nat.pow 10 (-low).toNat < den
    if below then low else pointFrom num den (low + 1) steps

/-- The whole number of units `10 ^ p` in a quotient. -/
def unitsOf (num den : Nat) (p : Int) : Nat :=
  if 0 ≤ p then num / (den * Nat.pow 10 p.toNat) else num * Nat.pow 10 (-p).toNat / den

/-- Whether the lower of two neighbouring multiples of `10 ^ p` is at least as near to a quotient
as the upper one; if both are equally near, the even one is taken. -/
def lowerIsNearer (num den : Nat) (p : Int) (units : Nat) : Bool :=
  let twice := unitsOf (2 * num) den p
  let isExact := if 0 ≤ p then 2 * num % (den * Nat.pow 10 p.toNat) = 0
    else 2 * num * Nat.pow 10 (-p).toNat % den = 0
  twice = 2 * units ∨ (isExact ∧ twice = 2 * units + 1 ∧ units % 2 = 0)

/-- The fewest digits, from `n` on, that read back as the number, with the place of the decimal
point. -/
def shortestFrom (x : Double) (num den : Nat) (point : Int) (n : Nat) : Nat → Nat × Int
  | 0 => (unitsOf num den (point - n), point - n)
  | steps + 1 =>
    let p := point - n
    let lower := unitsOf num den p
    let reads (c : Nat) : Bool := ofDecimal c n p = x
    match reads lower, reads (lower + 1) with
    | true, false => (lower, p)
    | false, true => (lower + 1, p)
    | true, true => (if lowerIsNearer num den p lower then lower else lower + 1, p)
    | false, false => shortestFrom x num den point (n + 1) steps

/-- Digits with a decimal point after the first `point` of them: positional from `0.0001` up to
sixteen digits before the point, and else with an exponent of two digits at least. -/
def layOut (digits : List Char) (point : Int) : List Char :=
  if -4 < point ∧ point ≤ 16 then
    if point ≤ 0 then ['0', '.'] ++ List.replicate (-point).toNat '0' ++ digits
    else
      let whole := point.toNat
      let filled := digits ++ List.replicate (whole - digits.length) '0'
      let fraction := filled.drop whole
      filled.take whole ++ ['.'] ++ (if fraction.isEmpty then ['0'] else fraction)
  else
    let exponent := point - 1
    let shown := Nat.toDigits 10 exponent.natAbs
    let shown := List.replicate (2 - shown.length) '0' ++ shown
    digits.take 1 ++ (if digits.length ≤ 1 then [] else '.' :: digits.drop 1) ++
      ['e', if exponent < 0 then '-' else '+'] ++ shown

/-- The number in the fewest digits that read back. -/
def text : Double → String
  | .infinite => "inf"
  | .finite m e =>
    if m = 0 then "0.0"
    else
      let (num, den) := quotient m e
      let point := pointFrom num den (-330) 700
      let (c, p) := shortestFrom (.finite m e) num den point 1 17
      let digits := Nat.toDigits 10 c
      let kept := Text.trimEndWhile (· == '0') digits
      String.ofList (layOut kept (p + digits.length))

/-- The sum of two numbers, rounded. -/
def add : Double → Double → Double
  | .finite m e, .finite n f =>
    let (a, b) := quotient m e
    let (c, d) := quotient n f
    nearest (a * d + c * b) (b * d)
  | _, _ => .infinite

/-- The product of a number and a whole number, rounded after the whole number has been. -/
def scale (x : Double) (n : Nat) : Double :=
  match x, nearest n 1 with
  | .finite m e, .finite k f =>
    let (a, b) := quotient m e
    let (c, d) := quotient k f
    nearest (a * c) (b * d)
  | _, _ => .infinite

/-- The value of digits, with any decimal digits of Unicode. -/
def digitValues (s : List Char) : Option (List Nat) :=
  s.mapM Text.digitValue?

/-- Reads a decimal number without a sign: digits with a point in, before or after them, and an
exponent if any. -/
def readDecimal (s : List Char) : Option Double := do
  let whole := s.takeWhile fun c => (Text.digitValue? c).isSome
  let rest := s.drop whole.length
  let (fraction, rest) :=
    match rest with
    | '.' :: rest =>
      let fraction := rest.takeWhile fun c => (Text.digitValue? c).isSome
      (fraction, rest.drop fraction.length)
    | rest => ([], rest)
  let exponent : Int ←
    match rest with
    | [] => some 0
    | c :: rest =>
      if c = 'e' ∨ c = 'E' then
        let (sign, digits) : Int × List Char :=
          match rest with
          | '-' :: rest => (-1, rest)
          | '+' :: rest => (1, rest)
          | rest => (1, rest)
        if digits.isEmpty then none
        else (digitValues digits).map fun ds => sign * (Text.ofDigits 10 ds : Nat)
      else none
  let ds ← digitValues (whole ++ fraction)
  if ds.isEmpty then none
  else
    let significant := ds.dropWhile (· == 0)
    some (ofDecimal (Text.ofDigits 10 significant) significant.length
      (exponent - fraction.length))

/-- What decimal text stands for: a number with its sign, or no number at all. -/
inductive Reading where
  | number (negative : Bool) (x : Double)
  | notANumber
  deriving DecidableEq, Repr

/-- Reads a number, with blanks around it and a sign before it. -/
def read (s : List Char) : Option Reading :=
  let (negative, body) :=
    match Text.trimWhile Text.isNumberBlank s with
    | '-' :: rest => (true, rest)
    | '+' :: rest => (false, rest)
    | rest => (false, rest)
  let word := String.ofList (body.map Char.toLower)
  if word = "nan" then some .notANumber
  else if word = "inf" ∨ word = "infinity" then some (.number negative .infinite)
  else (readDecimal body).map (.number negative)

/-- The text of a number with its sign. -/
def signedText (negative : Bool) (x : Double) : String :=
  if negative then "-" ++ x.text else x.text

end Double

end Provenance
