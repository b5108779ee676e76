import Mathlib.Data.List.Induction
import Provenance.Settings.Load

/-!
Where the values of settings come from. Each setting is decided on its own: by the last variable
that overrides it, else by its last item in the settings file that is chosen, else it keeps its
built-in value (`get_of_load`). The file is chosen as a whole, before its items are looked at
(`chosenItems`).
-/
namespace Provenance.Settings

/-- Where the value of a setting comes from, and what is said there. -/
inductive Source where
  | override (text : String)
  | item (value : Value)
  | builtIn

/-- The value that a source gives to a setting. -/
def Source.value (field : Field) : Source → Value
  | .override text => field.valueOf text
  | .item value => value
  | .builtIn => ({} : Settings).get field

/-- What the last of some pairs says about a setting; `named` tells which setting a key is about. -/
def lastAbout {α β : Type} (named : α → Option Field) (field : Field) (pairs : List (α × β)) :
    Option β :=
  (pairs.reverse.find? fun pair => named pair.1 = some field).map Prod.snd

/-- The setting that an item of a settings file is about. -/
def Field.ofKey? : Value → Option Field
  | .text name => Field.ofName? name
  | _ => none

/-- The source that decides about a setting, given the variables and the items of the settings
file. -/
def Field.source (field : Field) (env : Environment) (items : List (Value × Value)) : Source :=
  match lastAbout Field.ofVariable? field env.assigned with
  | some text => .override text
  | none =>
    match lastAbout Field.ofKey? field items with
    | some value => .item value
    | none => .builtIn

/-- The items of the settings file that loading goes by; none if no place has one. -/
def chosenItems (loader : Loader) (env : Environment) (files : FileSystem)
    (explicit : Option String) : Except Failure (List (Value × Value)) := do
  let places ← candidates env explicit
  match ← firstPresent files places with
  | none => return []
  | some p => readDocument loader files p

/-! ## One setting among the others -/

theorem get_set (s : Settings) (changed field : Field) (value : Value) :
    (s.set changed value).get field = if changed = field then value else s.get field := by
  cases changed <;> cases field <;> rfl

/-- What pairs give to settings one after the other: the last about a setting decides, and the
setting stays as it was if there is none. -/
theorem get_foldl {α β : Type} (named : α → Option Field) (value : Field → β → Value)
    {step : Settings → α × β → Settings}
    (steps : ∀ s pair, step s pair =
      match named pair.1 with
      | none => s
      | some field => s.set field (value field pair.2))
    (s : Settings) (field : Field) (pairs : List (α × β)) :
    (pairs.foldl step s).get field =
      ((lastAbout named field pairs).map (value field)).getD (s.get field) := by
  induction pairs using List.reverseRecOn with
  | nil => rfl
  | append_singleton pairs last ih =>
    have first : lastAbout named field (pairs ++ [last]) =
        if named last.1 = some field then some last.2 else lastAbout named field pairs := by
      unfold lastAbout
      rw [List.reverse_append, List.reverse_singleton, List.singleton_append, List.find?_cons]
      by_cases about : named last.1 = some field <;> simp [about]
    rw [List.foldl_append, List.foldl_cons, List.foldl_nil, steps, first]
    by_cases about : named last.1 = some field
    · rw [if_pos about, about]
      dsimp only
      rw [get_set, if_pos rfl]
      rfl
    · rw [if_neg about, ← ih]
      cases other : named last.1 with
      | none => rfl
      | some changed =>
        dsimp only
        rw [get_set, if_neg fun same => about (by rw [other, same])]

theorem get_foldl_applyItem (s : Settings) (field : Field) (items : List (Value × Value)) :
    (items.foldl applyItem s).get field =
      (lastAbout Field.ofKey? field items).getD (s.get field) := by
  rw [get_foldl Field.ofKey? fun _ value => value]
  · rw [Option.map_id']
  · intro s item
    unfold applyItem Field.ofKey?
    cases item.1 with
    | text name => cases found : Field.ofName? name <;> simp only [found]
    | _ => rfl

theorem get_applyVariables (s : Settings) (env : Environment) (field : Field) :
    (s.applyVariables env).get field =
      ((lastAbout Field.ofVariable? field env.assigned).map field.valueOf).getD (s.get field) :=
  get_foldl Field.ofVariable? (fun field text => field.valueOf text) (fun _ _ => rfl) s field _

/-! ## Loading -/

variable {loader : Loader}

theorem load_eq (env : Environment) (files : FileSystem) (explicit : Option String) :
    load loader env files explicit =
      (chosenItems loader env files explicit).map fun items =>
        (items.foldl applyItem {}).applyVariables env := by
  unfold load chosenItems
  cases candidates env explicit with
  | error failure => rfl
  | ok places =>
    simp only [bind, Except.bind]
    cases firstPresent files places with
    | error failure => rfl
    | ok place =>
      cases place with
      | none => rfl
      | some p => cases readDocument loader files p <;> rfl

/-- Where there is no settings file, loading goes by no items. -/
theorem chosenItems_of_absent {env : Environment} {files : FileSystem} {explicit : Option String}
    {places : List Path} (named : candidates env explicit = .ok places)
    (absent : ∀ p ∈ places, files.isPresent p = .ok false) :
    chosenItems loader env files explicit = .ok [] := by
  have nothing : firstPresent files places = .ok none := by
    clear named
    induction places with
    | nil => rfl
    | cons p rest ih =>
      rw [firstPresent, absent p List.mem_cons_self]
      exact ih fun p later => absent p (List.mem_cons_of_mem _ later)
  simp [chosenItems, named, nothing, bind, Except.bind, pure, Except.pure]

/-- Every setting that is loaded has the value that its source gives to it. -/
theorem get_of_load {env : Environment} {files : FileSystem} {explicit : Option String}
    {settings : Settings} (loaded : load loader env files explicit = .ok settings) :
    ∃ items, chosenItems loader env files explicit = .ok items ∧
      ∀ field, settings.get field = (field.source env items).value field := by
  rw [load_eq] at loaded
  cases chosen : chosenItems loader env files explicit with
  | error failure =>
    rw [chosen] at loaded
    cases loaded
  | ok items =>
    rw [chosen] at loaded
    cases loaded
    refine ⟨items, rfl, fun field => ?_⟩
    rw [get_applyVariables, get_foldl_applyItem]
    unfold Field.source
    cases lastAbout Field.ofVariable? field env.assigned with
    | some text => rfl
    | none => cases lastAbout Field.ofKey? field items <;> rfl

end Provenance.Settings
