import Provenance.Text.Digits

/-!
Values without a fixed type, as settings files and error contexts hold them. `Value.shown` shows
a value alone, `Value.placed` within a sentence, and `Value.literal` as a part of another value:
there texts stand in quotes. Not every value can be shown: numbers of very many digits cannot, and
values of other kinds decide for themselves.
-/
namespace Provenance

/-- A point in time: a day, a time of day down to microseconds, and the distance from universal
time in minutes if it is known. -/
structure Moment where
  year : Nat
  month : Nat
  day : Nat
  hour : Nat
  minute : Nat
  second : Nat
  microsecond : Nat
  offset : Option Int
  deriving DecidableEq, Repr

/-- What a value of another kind does when it is asked for its text. -/
inductive Telling where
  | text (s : String)
  | raises (e : Raised)
  deriving DecidableEq, Repr

/-- The text that is told, if one is. -/
def Telling.answer : Telling → Except Raised String
  | .text s => .ok s
  | .raises e => .error e

/-- A value. A floating point number is given by the fewest decimal digits that read back as it. -/
inductive Value where
  | null
  | bool (b : Bool)
  | int (n : Int)
  | float (digits : String)
  | text (s : String)
  | bytes (bs : List UInt8)
  | date (year month day : Nat)
  | moment (m : Moment)
  | list (items : List Value)
  | tuple (items : List Value)
  | map (items : List (Value × Value))
  | set (items : List Value)
  /-- A list or a map that holds this very value. -/
  | enclosing (isMap : Bool)
  /-- A value of any other kind, with what it tells within a sentence, alone, and as a part of
  another value. -/
  | other (kind : String) (placed shown literal : Telling)
  deriving Repr, Inhabited, BEq

namespace Value

/-- A number with zeros in front up to a width. -/
def zeroPadded (width n : Nat) : String :=
  let digits := Nat.toDigits 10 n
  String.ofList (List.replicate (width - digits.length) '0' ++ digits)

/-- A day as year, month and day. -/
def dayText (year month day : Nat) : String :=
  s!"{zeroPadded 4 year}-{zeroPadded 2 month}-{zeroPadded 2 day}"

/-- The distance from universal time, with its sign. -/
def offsetText (minutes : Int) : String :=
  let sign := if minutes < 0 then "-" else "+"
  s!"{sign}{zeroPadded 2 (minutes.natAbs / 60)}:{zeroPadded 2 (minutes.natAbs % 60)}"

/-- A moment, with the given text between the day and the time. -/
def momentText (between : String) (m : Moment) : String :=
  dayText m.year m.month m.day ++ between ++
    s!"{zeroPadded 2 m.hour}:{zeroPadded 2 m.minute}:{zeroPadded 2 m.second}" ++
    (if m.microsecond = 0 then "" else s!".{zeroPadded 6 m.microsecond}") ++
    (m.offset.elim "" offsetText)

/-- The literal of a distance from universal time. -/
def offsetLiteral (minutes : Int) : String :=
  if minutes = 0 then "datetime.timezone.utc"
  else
    let days := minutes.fdiv 1440
    let seconds := minutes.fmod 1440 * 60
    let span :=
      if days = 0 then s!"seconds={seconds}"
      else if seconds = 0 then s!"days={days}"
      else s!"days={days}, seconds={seconds}"
    s!"datetime.timezone(datetime.timedelta({span}))"

/-- The literal of a moment; seconds and microseconds are left out where they are zero. -/
def momentLiteral (m : Moment) : String :=
  let seconds :=
    if m.microsecond ≠ 0 then s!", {m.second}, {m.microsecond}"
    else if m.second ≠ 0 then s!", {m.second}"
    else ""
  let offset := m.offset.elim "" fun minutes => s!", tzinfo={offsetLiteral minutes}"
  s!"datetime.datetime({m.year}, {m.month}, {m.day}, {m.hour}, {m.minute}{seconds}{offset})"

/-- One byte between quotes of the given kind. -/
def byteLiteral (quote : Char) (b : UInt8) : List Char :=
  let c := Char.ofNat b.toNat
  if 127 ≤ b.toNat then '\\' :: 'x' :: Text.hexPadded 2 b.toNat else Text.quotedChar quote c

/-- Bytes between quotes. -/
def bytesLiteral (bs : List UInt8) : String :=
  let quote := Text.quoteFor (bs.map fun b => Char.ofNat b.toNat)
  String.ofList ('b' :: quote :: (bs.flatMap (byteLiteral quote) ++ [quote]))

/-- Texts with commas between them. -/
def commaSeparated (items : List String) : String :=
  ", ".intercalate items

mutual

/-- A value as a part of another one. -/
def literal : Value → Except Raised String
  | .null => .ok "None"
  | .bool true => .ok "True"
  | .bool false => .ok "False"
  | .int n => Text.decimal n
  | .float digits => .ok digits
  | .text s => .ok (Text.quoted s)
  | .bytes bs => .ok (bytesLiteral bs)
  | .date year month day => .ok s!"datetime.date({year}, {month}, {day})"
  | .moment m => .ok (momentLiteral m)
  | .list items => (literals items).map fun texts => "[" ++ commaSeparated texts ++ "]"
  | .tuple items =>
    (literals items).map fun
      | [item] => "(" ++ item ++ ",)"
      | texts => "(" ++ commaSeparated texts ++ ")"
  | .map items => (pairLiterals items).map fun texts => "\x7b" ++ commaSeparated texts ++ "\x7d"
  | .set [] => .ok "set()"
  | .set items => (literals items).map fun texts => "\x7b" ++ commaSeparated texts ++ "\x7d"
  | .enclosing true => .ok "\x7b...\x7d"
  | .enclosing false => .ok "[...]"
  | .other _ _ _ told => told.answer

/-- The literals of values. -/
def literals : List Value → Except Raised (List String)
  | [] => .ok []
  | item :: items => do return (← literal item) :: (← literals items)

/-- The literals of pairs of a key and a value. -/
def pairLiterals : List (Value × Value) → Except Raised (List String)
  | [] => .ok []
  | (key, item) :: items => do
    return ((← literal key) ++ ": " ++ (← literal item)) :: (← pairLiterals items)

end

/-- A value alone. -/
def shown : Value → Except Raised String
  | .text s => .ok s
  | .date year month day => .ok (dayText year month day)
  | .moment m => .ok (momentText " " m)
  | .other _ _ told _ => told.answer
  | value => value.literal

/-- A value within a sentence. -/
def placed : Value → Except Raised String
  | .other _ told _ _ => told.answer
  | value => value.shown

/-- Whether a value counts as a yes: all do but the absent one, zero, and what is empty. -/
def isTruthy : Value → Bool
  | .null => false
  | .bool b => b
  | .int n => n ≠ 0
  | .float digits => digits ≠ "0.0" && digits ≠ "-0.0"
  | .text s => s ≠ ""
  | .bytes bs => !bs.isEmpty
  | .date .. | .moment _ | .enclosing _ | .other .. => true
  | .list items | .tuple items | .set items => !items.isEmpty
  | .map items => !items.isEmpty

/-- The name of the kind of a value. -/
def kind : Value → String
  | .null => "NoneType"
  | .bool _ => "bool"
  | .int _ => "int"
  | .float _ => "float"
  | .text _ => "str"
  | .bytes _ => "bytes"
  | .date .. => "datetime.date"
  | .moment _ => "datetime.datetime"
  | .list _ | .enclosing false => "list"
  | .tuple _ => "tuple"
  | .map _ | .enclosing true => "dict"
  | .set _ => "set"
  | .other kind .. => kind

end Value

end Provenance
