import Provenance.FileSystem.Operations
import Provenance.Settings.Basic
import Provenance.Settings.Loader

/-!
Loading settings: the first settings file that exists, over the built-in values, and the variables
over both. A store keeps what was loaded last.
-/
namespace Provenance.Settings

/-- The place of a settings file in a directory. -/
def fileIn (directory : Path) : Path :=
  (directory.child ".reversetree").child "config.yaml"

/-- The places where a settings file may be, by falling precedence. An empty explicit place is
none. -/
def candidates (env : Environment) (explicit : Option String) : Except Failure (List Path) := do
  let given := (explicit.toList.filter (· ≠ "")).map Path.ofText
  let home ← env.home
  return given ++ [fileIn (Path.ofText ""), fileIn home]

/-- The first of the places where there is anything. -/
def firstPresent (files : FileSystem) : List Path → Except Failure (Option Path)
  | [] => .ok none
  | p :: rest =>
    match files.isPresent p with
    | .error e => .error (.file e)
    | .ok true => .ok (some p)
    | .ok false => firstPresent files rest

/-- The document in a settings file. One that counts as a no is an empty mapping; anything else
that is no mapping is refused. -/
def readDocument (loader : Loader) (files : FileSystem) (p : Path) :
    Except Failure (List (Value × Value)) := do
  let bytes ← (files.read p).mapError .file
  match ← (loader bytes).mapError (·.failure p) with
  | .map items => return items
  | value =>
    if value.isTruthy then throw (.diagnosed (.badConfig p.text "top level must be a mapping" none))
    else return []

/-- One item of a settings file takes effect. Other keys than those of the settings are passed
over. -/
def applyItem (s : Settings) (item : Value × Value) : Settings :=
  match item.1 with
  | .text name =>
    match Field.ofName? name with
    | some field => s.set field item.2
    | none => s
  | _ => s

/-- Loads the settings. -/
def load (loader : Loader) (env : Environment) (files : FileSystem) (explicit : Option String) :
    Except Failure Settings := do
  let places ← candidates env explicit
  match ← firstPresent files places with
  | none => return ({} : Settings).applyVariables env
  | some p =>
    let items ← readDocument loader files p
    return (items.foldl applyItem {}).applyVariables env

/-- Where the last settings loaded are kept. -/
structure Store where
  kept : Option Settings := none
  deriving Repr

namespace Store

/-- Loads settings anew and keeps them; if that fails, the store stays as it is. -/
def load (store : Store) (loader : Loader) (env : Environment) (files : FileSystem)
    (explicit : Option String) : Except Failure Settings × Store :=
  match Settings.load loader env files explicit with
  | .ok settings => (.ok settings, ⟨some settings⟩)
  | .error failure => (.error failure, store)

/-- The settings that are kept, or else those loaded now. -/
def get (store : Store) (loader : Loader) (env : Environment) (files : FileSystem) :
    Except Failure Settings × Store :=
  match store.kept with
  | some settings => (.ok settings, store)
  | none => store.load loader env files none

/-- Forgets what is kept. -/
def reset (_ : Store) : Store := ⟨none⟩

end Store

end Provenance.Settings
