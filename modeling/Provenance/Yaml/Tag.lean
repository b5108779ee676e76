import Provenance.Text.Fields
import Provenance.Yaml.Cursor

/-!
Tags of nodes, and the tag that a scalar without one has: its text tells whether it is a switch, a
number, a point in time, or just text.
-/
namespace Provenance.Yaml

/-- What a node is. -/
inductive Tag where
  | null | bool | int | float | binary | timestamp | text
  | sequence | mapping | orderedMap | pairs | set
  /-- The key whose value is merged into the mapping around it. -/
  | merge
  /-- The key whose value stands for the mapping around it. -/
  | standIn
  | other (name : String)
  deriving DecidableEq, Repr

/-- How the tags of the standard begin. -/
def standardStem : String := "tag:yaml.org,2002:"

/-- The tag of a full name. -/
def Tag.ofName (name : String) : Tag :=
  let stem := standardStem.toList
  if stem.isPrefixOf name.toList then
    match String.ofList (name.toList.drop stem.length) with
    | "null" => .null
    | "bool" => .bool
    | "int" => .int
    | "float" => .float
    | "binary" => .binary
    | "timestamp" => .timestamp
    | "str" => .text
    | "seq" => .sequence
    | "map" => .mapping
    | "omap" => .orderedMap
    | "pairs" => .pairs
    | "set" => .set
    | "merge" => .merge
    | "value" => .standIn
    | _ => .other name
  else .other name

/-- The words for switches, and what they say. -/
def switches : List (String × Bool) :=
  [("yes", true), ("no", false), ("true", true), ("false", false), ("on", true), ("off", false)]

/-- Whether a word is written in one letter case, or with a capital first letter. -/
def hasPlainCase (s : List Char) : Bool :=
  let tail := s.drop 1
  s.all Char.isLower || s.all Char.isUpper ||
    ((s.take 1).all Char.isUpper && tail.all Char.isLower)

/-- Whether a text is a switch. -/
def isSwitch (s : List Char) : Bool :=
  hasPlainCase s && (switches.lookup (String.ofList (s.map Char.toLower))).isSome

/-- Whether a text stands for the absence of a value. -/
def isNull (s : List Char) : Bool :=
  s.isEmpty || ["~", "null", "Null", "NULL"].contains (String.ofList s)

/-- Digits of a base, with underscores anywhere among them; at least one of either. -/
def areDigits (isDigit : Char → Bool) (s : List Char) : Bool :=
  !s.isEmpty && s.all fun c => isDigit c || c == '_'

/-- The text without a sign. -/
def unsigned (s : List Char) : List Char :=
  match s with
  | '-' :: rest | '+' :: rest => rest
  | s => s

/-- Decimal digits and underscores after a first digit that satisfies `p`. -/
def isWhole (p : Char → Bool) (s : List Char) : Bool :=
  match s with
  | [] => false
  | c :: rest => c.isDigit && p c && rest.all fun c => c.isDigit || c == '_'

/-- One or two digits below sixty. -/
def isSixtieth (s : List Char) : Bool :=
  match s with
  | [c] => c.isDigit
  | [c, d] => '0' ≤ c && c ≤ '5' && d.isDigit
  | _ => false

/-- Groups of digits to the base sixty with colons between them. -/
def isSexagesimal (p : Char → Bool) (s : List Char) : Bool :=
  match Text.splitAt ':' s with
  | first :: next :: rest => isWhole p first && (next :: rest).all isSixtieth
  | _ => false

/-- Whether a text is a whole number. -/
def isInt (s : List Char) : Bool :=
  let notZero (c : Char) : Bool := c != '0'
  match unsigned s with
  | '0' :: 'b' :: rest => areDigits (fun c => c == '0' || c == '1') rest
  | '0' :: 'x' :: rest => areDigits (fun c => (Text.hexDigit? c).isSome) rest
  | ['0'] => true
  | '0' :: rest => areDigits (fun c => '0' ≤ c && c ≤ '7') rest
  | body => isWhole notZero body || isSexagesimal notZero body

/-- Whether a text is an exponent with its sign, or nothing. -/
def isExponent (s : List Char) : Bool :=
  match s with
  | [] => true
  | e :: sign :: rest =>
    (e == 'e' || e == 'E') && (sign == '-' || sign == '+') && !rest.isEmpty && rest.all Char.isDigit
  | _ => false

/-- Whether a text is a number with a point. A number that begins with the point has no sign. -/
def isFloat (s : List Char) : Bool :=
  let any (_ : Char) : Bool := true
  let isPart (c : Char) : Bool := c.isDigit || c == '_'
  let body := unsigned s
  let whole := body.takeWhile (· != '.')
  let rest := (body.drop whole.length).drop 1
  let fraction := rest.takeWhile isPart
  let hasPoint := whole.length < body.length
  hasPoint &&
    (if whole.isEmpty then
      let word := String.ofList rest
      ["inf", "Inf", "INF"].contains word ||
        (body == s && (["nan", "NaN", "NAN"].contains word ||
          (isWhole any fraction && isExponent (rest.drop fraction.length))))
    else
      (isWhole any whole && isExponent (rest.drop fraction.length)) ||
        (isSexagesimal any whole && rest.all isPart))

/-- The parts of a point in time; the time of day has its fraction as written, and its zone as a
sign with hours and minutes, if they are given. -/
structure TimeParts where
  year : List Char
  month : List Char
  day : List Char
  time : Option (List Char × List Char × List Char) := none
  fraction : List Char := []
  zone : Option (Char × List Char × List Char) := none
  deriving DecidableEq, Repr

/-- Takes between `low` and `high` digits, as many as there are. -/
def takeDigits (low high : Nat) (s : List Char) : Option (List Char × List Char) :=
  let digits := (s.take high).takeWhile Char.isDigit
  if digits.length < low then none else some (digits, s.drop digits.length)

/-- Takes one given character. -/
def takeChar (c : Char) (s : List Char) : Option (List Char) :=
  match s with
  | d :: rest => if c = d then some rest else none
  | [] => none

/-- The zone after a time of day, with blanks before it, up to the end. -/
def zoneOf (s : List Char) : Option (Option (Char × List Char × List Char)) := do
  match s with
  | [] => return none
  | _ =>
    match s.dropWhile fun c => c == ' ' || c == '\t' with
    | ['Z'] => return some ('Z', [], [])
    | sign :: rest =>
      if sign ≠ '-' ∧ sign ≠ '+' then none
      else
        let (hours, rest) ← takeDigits 1 2 rest
        match rest with
        | [] => return some (sign, hours, [])
        | _ =>
          let rest ← takeChar ':' rest
          let (minutes, rest) ← takeDigits 2 2 rest
          if rest.isEmpty then return some (sign, hours, minutes) else none
    | [] => none

/-- The parts of a day, with a time of day or without. -/
def timeParts? (s : List Char) : Option TimeParts := do
  let (year, rest) ← takeDigits 4 4 s
  let rest ← takeChar '-' rest
  let (month, rest) ← takeDigits 1 2 rest
  let rest ← takeChar '-' rest
  let (day, rest) ← takeDigits 1 2 rest
  let parts : TimeParts := { year, month, day }
  if rest.isEmpty then return parts
  let isGap (c : Char) : Bool := c == ' ' || c == '\t'
  let rest ←
    match rest with
    | 't' :: rest | 'T' :: rest => some rest
    | rest => if isGap (rest.headD 'x') then some (rest.dropWhile isGap) else none
  let (hour, rest) ← takeDigits 1 2 rest
  let rest ← takeChar ':' rest
  let (minute, rest) ← takeDigits 2 2 rest
  let rest ← takeChar ':' rest
  let (second, rest) ← takeDigits 2 2 rest
  let (fraction, rest) :=
    match rest with
    | '.' :: rest => (rest.takeWhile Char.isDigit, rest.dropWhile Char.isDigit)
    | rest => ([], rest)
  let zone ← zoneOf rest
  return { parts with time := some (hour, minute, second), fraction, zone }

/-- Whether a text is a point in time. A day alone needs two digits for month and day. -/
def isTimestamp (s : List Char) : Bool :=
  match timeParts? s with
  | none => false
  | some parts => parts.time.isSome || (parts.month.length == 2 && parts.day.length == 2)

/-- The tag of a plain scalar. A line feed at the end of its text is passed over. -/
def plainTag (s : List Char) : Tag :=
  let body := if s.getLast? = some '\n' then s.dropLast else s
  if s.isEmpty then .null
  else if body.isEmpty then .text
  else if isSwitch body then .bool
  else if isFloat body then .float
  else if isInt body then .int
  else if body == "<<".toList then .merge
  else if isNull body then .null
  else if isTimestamp body then .timestamp
  else if body == "=".toList then .standIn
  else .text

end Provenance.Yaml
