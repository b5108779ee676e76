import Provenance.FileSystem.Basic
import Provenance.Failure
import Provenance.Text.Digits

/-!
The environment of a run: its variables, and the home directories that `~` stands for.
-/
namespace Provenance

/-- Variables in the order in which they were set, and the home directories of accounts; `user` is
the account of the run. -/
structure Environment where
  assigned : List (String × String)
  user : String := "root"
  accounts : List (String × String) := [("root", "/root")]
  deriving DecidableEq, Repr

namespace Environment

/-- The value of a variable. -/
def get? (env : Environment) (name : String) : Option String :=
  env.assigned.lookup name

/-- Variables with one of them set. A variable that is set already keeps its place. -/
def assign (name value : String) : List (String × String) → List (String × String)
  | [] => [(name, value)]
  | (key, old) :: rest =>
    if key = name then (key, value) :: rest else (key, old) :: assign name value rest

/-- The environment with a variable set. -/
def set (env : Environment) (name value : String) : Environment :=
  { env with assigned := assign name value env.assigned }

/-- The environment without a variable. -/
def unset (env : Environment) (name : String) : Environment :=
  { env with assigned := env.assigned.filter (·.1 ≠ name) }

/-- A home directory without slashes at its end; nothing else than slashes is the root. -/
def trimHome (home : String) : String :=
  let trimmed := Text.trimEndWhile (· == '/') home.toList
  if trimmed = [] then "/" else String.ofList trimmed

/-- The text that `~` or `~account` stands for. The variable `HOME` decides about `~`. -/
def homeText? (env : Environment) (tilde : List Char) : Option String :=
  match tilde.drop 1 with
  | [] => ((env.get? "HOME").or (env.accounts.lookup env.user)).map trimHome
  | account => (env.accounts.lookup (String.ofList account)).map trimHome

/-- The path with a leading `~` or `~account` replaced by the home directory. -/
def expand (env : Environment) (p : Path) : Except Failure Path :=
  match p.root, p.parts with
  | .relative, first :: rest =>
    if first.toList.head? ≠ some '~' then .ok p
    else
      match env.homeText? first.toList with
      | none => .error .homeUnknown
      | some home =>
        if home.toList.head? = some '~' then .error .homeUnknown
        else
          let home := Path.ofText home
          .ok { home with parts := home.parts ++ rest }
  | _, _ => .ok p

/-- The width of a terminal that does not tell its own. -/
def defaultColumns : Nat := 80

/-- The number that a variable tells if it is made of digits alone, of whatever kind. Not all such
texts are numbers. -/
def dimension (env : Environment) (name : String) : Except Raised (Option Nat) :=
  match env.get? name with
  | none => .ok none
  | some s =>
    if s ≠ "" ∧ s.toList.all Text.isDigitLike then
      (Text.wholeNumber s.toList).map fun n => some n.toNat
    else .ok none

/-- The width of the terminal in cells, which the variable `COLUMNS` may tell. The variable `LINES`
for its height is read with it. -/
def columns (env : Environment) : Except Raised Nat := do
  let columns ← env.dimension "COLUMNS"
  let _ ← env.dimension "LINES"
  return columns.getD defaultColumns

/-- The width that help pages are made for. What is no number, or not a positive one, tells
nothing. -/
def pageColumns (env : Environment) : Nat :=
  match (env.get? "COLUMNS").map fun s => Text.wholeNumber s.toList with
  | some (.ok n) => if 0 < n then n.toNat else defaultColumns
  | _ => defaultColumns

/-- The home directory of the run. -/
def home (env : Environment) : Except Failure Path :=
  env.expand (Path.ofText "~")

end Environment

end Provenance
