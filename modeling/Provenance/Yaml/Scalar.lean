import Provenance.Number.Double
import Provenance.Value
import Provenance.Yaml.Tag

/-!
The values of scalars. A text that a tag asks too much of has no value.
-/
namespace Provenance.Yaml

/-- The fault of a text that is no such value. -/
def badValue {α : Type} (message : String) : Except Fault α :=
  .error (.noSuchValue (.badValue message))

/-- The fault of a number without any digits or sign to look at. -/
def emptyNumber {α : Type} : Except Fault α :=
  .error (.noSuchValue ⟨"IndexError", "string index out of range"⟩)

/-- Why a text is no whole number to a base. -/
def notWhole {α : Type} (base : Nat) (s : List Char) : Except Fault α :=
  badValue s!"invalid literal for int() with base {base}: {Text.quoted (String.ofList s)}"

/-- The value of a digit to a base above ten. -/
def digitIn? (base : Nat) (c : Char) : Option Nat :=
  match (Text.digitValue? c).or (Text.hexDigit? c) with
  | some d => if d < base then some d else none
  | none => none

/-- A whole number in decimal. -/
def wholeNumber (s : List Char) : Except Fault Int :=
  (Text.wholeNumber s).mapError .noSuchValue

/-- The letter that announces a base. -/
def baseLetter : Nat → Char
  | 2 => 'b'
  | 8 => 'o'
  | _ => 'x'

/-- A whole number to a base that is a power of two, with a sign and with the announcement of the
base if it is there. -/
def wholeNumberIn (base : Nat) (s : List Char) : Except Fault Int :=
  let (negative, body) :=
    match Text.trimWhile Text.isNumberBlank s with
    | '-' :: rest => (true, rest)
    | '+' :: rest => (false, rest)
    | rest => (false, rest)
  let body :=
    match body with
    | '0' :: letter :: rest => if letter.toLower = baseLetter base then rest else body
    | body => body
  match body.mapM (digitIn? base) with
  | some [] | none => notWhole base s
  | some digits =>
    let n : Int := Text.ofDigits base digits
    .ok (if negative then -n else n)

/-- Groups to the base sixty, the first being the most significant. -/
def sixtieths (groups : List Int) : Int :=
  groups.foldl (fun n group => n * 60 + group) 0

/-- The text without underscores and without its first sign, and whether that was a minus. -/
def signed (s : List Char) : Option (Bool × List Char) :=
  match s.filter (· ≠ '_') with
  | [] => none
  | '-' :: rest => some (true, rest)
  | '+' :: rest => some (false, rest)
  | rest => some (false, rest)

/-- A whole number as YAML writes it. -/
def intValue (s : List Char) : Except Fault Value :=
  match signed s with
  | none => emptyNumber
  | some (negative, body) =>
    let magnitude : Except Fault Int :=
      match body with
      | ['0'] => .ok 0
      | '0' :: 'b' :: rest => wholeNumberIn 2 rest
      | '0' :: 'x' :: rest => wholeNumberIn 16 rest
      | '0' :: _ => wholeNumberIn 8 body
      | [] => emptyNumber
      | body =>
        if body.contains ':' then ((Text.splitAt ':' body).mapM wholeNumber).map sixtieths
        else wholeNumber body
    magnitude.map fun n => .int (if negative then -n else n)

/-- The sum of groups to the base sixty, the last group first, each one weighing sixty times as
much as the one before it. -/
def sumSixtieths (sum : Double) (weight : Nat) : List Double → Double
  | [] => sum
  | group :: rest => sumSixtieths (sum.add (group.scale weight)) (weight * 60) rest

/-- A number with a point as YAML writes it. -/
def floatValue (s : List Char) : Except Fault Value :=
  match signed (s.map Char.toLower) with
  | none => emptyNumber
  | some (negative, body) =>
    let no (part : List Char) : Except Fault Double.Reading :=
      badValue s!"could not convert string to float: {Text.quoted (String.ofList part)}"
    let read (part : List Char) : Except Fault Double.Reading :=
      match Double.read part with
      | some reading => .ok reading
      | none => no part
    let shown : Double.Reading → Value
      | .notANumber => .float "nan"
      | .number minus x => .float (Double.signedText (negative != minus) x)
    if body == ".inf".toList then .ok (shown (.number false .infinite))
    else if body == ".nan".toList then .ok (.float "nan")
    else if body.contains ':' then
      ((Text.splitAt ':' body).mapM read).map fun groups =>
        let groups := groups.map fun
          | .number _ x => x
          | .notANumber => .infinite
        shown (.number false (sumSixtieths (.finite 0 0) 1 groups.reverse))
    else (read body).map shown

/-- The number of digits that are all ASCII. -/
def plainNumber (s : List Char) : Nat :=
  s.foldl (fun n c => n * 10 + (c.toNat - 48)) 0

/-- Whether a year has a day more. -/
def isLeapYear (year : Nat) : Bool :=
  year % 4 == 0 && (year % 100 != 0 || year % 400 == 0)

/-- The number of days of a month. -/
def daysOf (year month : Nat) : Nat :=
  if month = 2 then if isLeapYear year then 29 else 28
  else if month ∈ [4, 6, 9, 11] then 30
  else 31

/-- Refuses a day that no calendar has. -/
def checkDay (year month day : Nat) : Except Fault Unit :=
  if year = 0 then badValue "year 0 is out of range"
  else if month = 0 ∨ 12 < month then badValue "month must be in 1..12"
  else if day = 0 ∨ daysOf year month < day then badValue "day is out of range for month"
  else .ok ()

/-- Refuses a distance from universal time of a day or more. -/
def checkOffset (minutes : Int) : Except Fault Unit :=
  if minutes.natAbs < 1440 then .ok ()
  else
    let days := minutes.fdiv 1440
    let seconds := minutes.fmod 1440 * 60
    let span := if seconds = 0 then s!"days={days}" else s!"days={days}, seconds={seconds}"
    badValue <| "offset must be a timedelta strictly between -timedelta(hours=24) and " ++
      s!"timedelta(hours=24), not datetime.timedelta({span})."

/-- A point in time. -/
def timeValue (s : List Char) : Except Fault Value := do
  let body := if s.getLast? = some '\n' then s.dropLast else s
  match timeParts? body with
  | none =>
    throw (.noSuchValue ⟨"AttributeError", "'NoneType' object has no attribute 'groupdict'"⟩)
  | some parts =>
    let year := plainNumber parts.year
    let month := plainNumber parts.month
    let day := plainNumber parts.day
    match parts.time with
    | none =>
      checkDay year month day
      return .date year month day
    | some (hour, minute, second) =>
      let hour := plainNumber hour
      let minute := plainNumber minute
      let second := plainNumber second
      let fraction := (parts.fraction ++ List.replicate 6 '0').take 6
      let offset : Option Int := parts.zone.map fun (sign, hours, minutes) =>
        let distance : Int := plainNumber hours * 60 + plainNumber minutes
        if sign = '-' then -distance else distance
      match offset with
      | some minutes => checkOffset minutes
      | none => pure ()
      checkDay year month day
      if 23 < hour then badValue "hour must be in 0..23"
      if 59 < minute then badValue "minute must be in 0..59"
      if 59 < second then badValue "second must be in 0..59"
      return .moment { year, month, day, hour, minute, second,
                       microsecond := plainNumber fraction, offset }

/-- The value of a character that carries six bits. -/
def sextet? (c : Char) : Option Nat :=
  if 'A' ≤ c ∧ c ≤ 'Z' then some (c.toNat - 65)
  else if 'a' ≤ c ∧ c ≤ 'z' then some (c.toNat - 71)
  else if '0' ≤ c ∧ c ≤ '9' then some (c.toNat + 4)
  else if c = '+' then some 62
  else if c = '/' then some 63
  else none

/-- Bytes from characters of six bits each. `held` are the bits not used yet, `place` the number of
characters of the present group of four, and `pads` the signs of equality after them. Characters
that carry nothing are passed over; a group that breaks off has no value. -/
def sextetBytes (held place pads : Nat) : List Char → Option (List UInt8)
  | [] => if place = 0 then some [] else none
  | c :: rest =>
    if c = '=' then
      if 2 ≤ place then
        if 4 ≤ place + pads + 1 then some [] else sextetBytes held place (pads + 1) rest
      else sextetBytes held place pads rest
    else
      match sextet? c with
      | none => sextetBytes held place pads rest
      | some n =>
        match place with
        | 0 => sextetBytes n 1 0 rest
        | 1 => (sextetBytes (n % 16) 2 0 rest).map (UInt8.ofNat (held * 4 + n / 16) :: ·)
        | 2 => (sextetBytes (n % 4) 3 0 rest).map (UInt8.ofNat (held * 16 + n / 4) :: ·)
        | _ => (sextetBytes 0 0 0 rest).map (UInt8.ofNat (held * 64 + n) :: ·)

/-- Bytes written in characters of ASCII. -/
def bytesValue (s : List Char) : Except Fault Value :=
  if s.all (·.toNat < 128) then
    match sextetBytes 0 0 0 s with
    | some bytes => .ok (.bytes bytes)
    | none => .error .malformed
  else .error .malformed

/-- The value of a switch. -/
def switchValue (s : List Char) : Except Fault Value :=
  let word := String.ofList (s.map Char.toLower)
  match switches.lookup word with
  | some b => .ok (.bool b)
  | none => .error (.noSuchValue (.missingName (Text.quoted word)))

/-- The value of a scalar with a tag. -/
def scalarValue (tag : Tag) (s : List Char) : Except Fault Value :=
  match tag with
  | .null => .ok .null
  | .bool => switchValue s
  | .int => intValue s
  | .float => floatValue s
  | .binary => bytesValue s
  | .timestamp => timeValue s
  | .text => .ok (.text (String.ofList s))
  | .sequence | .mapping | .orderedMap | .pairs | .set | .merge | .standIn | .other _ =>
    .error .malformed

end Provenance.Yaml
