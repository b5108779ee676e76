import Provenance.Dispatcher
import Provenance.Proofs.FileSystem.Directory
import Provenance.Proofs.Settings.Sources

/-!
When loaded settings have values of their types. What a variable or a settings file says is taken
over unchecked, so a setting has a value of its type exactly if the source that decides about it
says something proper; whether chains are recorded, and whether the repository has a path, goes by
that (`loaded_fits_iff`).
-/
namespace Provenance.Settings

/-- A value of the type of a setting: a text for the repository, yes or no for a switch. -/
def Field.Fits : Field → Value → Prop
  | .localRepository, value => ∃ s, value = .text s
  | .recordReverseTree, value | .debug, value => ∃ b, value = .bool b

/-- A word for yes, in any letter case. -/
def IsYes (s : String) : Prop := Text.lower s ∈ ["true", "yes", "1"]

/-- A word for no, in any letter case. -/
def IsNo (s : String) : Prop := Text.lower s ∈ ["false", "no", "0"]

namespace Source

/-- The source says something that a setting can be: any text of a variable is a repository, and
words for yes and no are for switches. -/
def Proper (field : Field) : Source → Prop
  | .override text => field = .localRepository ∨ IsYes text ∨ IsNo text
  | .item value => field.Fits value
  | .builtIn => True

/-- The source switches something on. -/
def SaysYes : Source → Prop
  | .override text => IsYes text
  | .item value => value = .bool true
  | .builtIn => False

/-- The source says neither yes nor no to a switch, but something that counts as a yes: any other
word of a variable, and any other value of a settings file that is not zero or empty. -/
def CountsAsYes : Source → Prop
  | .override text => ¬IsYes text ∧ ¬IsNo text ∧ text ≠ ""
  | .item value => (∀ b, value ≠ .bool b) ∧ value.isTruthy = true
  | .builtIn => False

end Source

/-! ## Switches -/

theorem switchOrText_of_yes {s : String} (yes : IsYes s) : switchOrText s = .bool true :=
  if_pos yes

theorem switchOrText_of_no {s : String} (notYes : ¬IsYes s) (no : IsNo s) :
    switchOrText s = .bool false :=
  (if_neg notYes).trans (if_pos no)

theorem switchOrText_of_other {s : String} (notYes : ¬IsYes s) (notNo : ¬IsNo s) :
    switchOrText s = .text s :=
  (if_neg notYes).trans (if_neg notNo)

theorem switchOrText_bool_iff {s : String} :
    (∃ b, switchOrText s = .bool b) ↔ IsYes s ∨ IsNo s := by
  by_cases yes : IsYes s
  · simp [switchOrText_of_yes yes, yes]
  · by_cases no : IsNo s
    · simp [switchOrText_of_no yes no, no]
    · simp [switchOrText_of_other yes no, yes, no]

theorem isTruthy_switchOrText_iff {s : String} :
    (switchOrText s).isTruthy = true ↔ IsYes s ∨ ¬IsYes s ∧ ¬IsNo s ∧ s ≠ "" := by
  by_cases yes : IsYes s
  · simp [switchOrText_of_yes yes, yes, Value.isTruthy]
  · by_cases no : IsNo s
    · simp [switchOrText_of_no yes no, yes, no, Value.isTruthy]
    · simp [switchOrText_of_other yes no, yes, no, Value.isTruthy]

/-! ## The values of sources -/

theorem Source.fits_value_iff (field : Field) (source : Source) :
    field.Fits (source.value field) ↔ source.Proper field := by
  cases source with
  | override text =>
    cases field with
    | localRepository => simp [Source.value, Field.valueOf, Field.Fits, Source.Proper]
    | recordReverseTree | debug =>
      simpa [Source.value, Field.valueOf, Field.Fits, Source.Proper] using switchOrText_bool_iff
  | item value => rfl
  | builtIn => cases field <;> simp [Source.value, Field.Fits, Source.Proper, get]

theorem Source.isTruthy_value_iff (source : Source) :
    (source.value .recordReverseTree).isTruthy = true ↔ source.SaysYes ∨ source.CountsAsYes := by
  cases source with
  | override text => exact isTruthy_switchOrText_iff
  | item value =>
    simp only [Source.value, SaysYes, CountsAsYes]
    cases value <;> simp [Value.isTruthy]
  | builtIn => simp [Source.value, SaysYes, CountsAsYes, get, Value.isTruthy]

/-! ## What goes by the values -/

theorem install_none (d : Dispatcher) (settings : Settings) (repository : Repository)
    (handle : String) :
    (d.install settings repository handle none).2.1 =
      if settings.recordReverseTree.isTruthy then d.register handle [.track] else d := by
  unfold Dispatcher.install
  split <;> rfl

theorem expand_ne_notAPath (env : Environment) (p : Path) (value : Value) :
    env.expand p ≠ .error (.notAPath value) := by
  unfold Environment.expand
  split
  · split
    · simp
    · split
      · simp
      · dsimp only
        split <;> simp
  · simp

/-- Only what is no text is refused as a path. -/
theorem repositoryPath_notAPath_iff (settings : Settings) (env : Environment) (files : FileSystem) :
    (∃ value, settings.repositoryPath env files = .error (.notAPath value)) ↔
      ¬Field.localRepository.Fits settings.localRepository := by
  have text : ∀ s value, absolutePath env files s ≠ .error (.notAPath value) := by
    intro s value failed
    unfold absolutePath at failed
    cases expanded : env.expand (Path.ofText s) with
    | ok p =>
      rw [expanded] at failed
      cases failed
    | error failure =>
      rw [expanded] at failed
      cases failed
      exact expand_ne_notAPath env _ value expanded
  unfold repositoryPath Field.Fits
  cases settings.localRepository with
  | text s => simpa using text s
  | _ => simp

/-- Without a settings file, a setting is what its variable makes of it. -/
theorem load_of_variable (loader : Loader) {files : FileSystem} (atRoot : files.working = [])
    (noProject : files.lookup [".reversetree"] = none) (noHome : files.lookup ["home"] = none)
    {name text : String} {field : Field} (named : Field.ofVariable? name = some field) :
    load loader ⟨[("HOME", "/home"), (name, text)], "root", []⟩ files none =
      .ok (({} : Settings).set field (field.valueOf text)) := by
  have asked : candidates ⟨[("HOME", "/home"), (name, text)], "root", []⟩ none =
      .ok [⟨.relative, [".reversetree", "config.yaml"]⟩,
        ⟨.slash, ["home", ".reversetree", "config.yaml"]⟩] := rfl
  have home : Field.ofVariable? "HOME" = none := by decide
  rw [load_eq, chosenItems_of_absent asked]
  · simp [Except.map, applyVariables, applyVariable, home, named]
  · intro p member
    have root := FileSystem.lookup_root files
    rcases List.mem_pair.mp member with rfl | rfl
    · refine FileSystem.isPresent_of_absent rfl (by decide) ?_ (by decide) ?_
      · simp [FileSystem.start, atRoot]
      · simpa [FileSystem.start, atRoot] using noProject
    · exact FileSystem.isPresent_of_absent rfl (by decide) root (by decide) noHome

/-- Without a settings file, the switch is what its variable makes of it. -/
theorem load_switched (loader : Loader) (text : String) :
    load loader ⟨[("HOME", "/home"), ("REVERSETREE_RECORD_REVERSE_TREE", text)], "root", []⟩
        ⟨[], []⟩ none =
      .ok { recordReverseTree := switchOrText text } := by
  have switch : Field.ofVariable? "REVERSETREE_RECORD_REVERSE_TREE" = some .recordReverseTree := by
    decide
  exact load_of_variable loader rfl rfl rfl switch

/-- A loaded setting has a value of its type if and only if the source that decides about it says
something proper. A listener is registered if and only if the source of the switch says yes or says
something else that counts as a yes. The repository is refused as a path if and only if its source
says something improper. -/
theorem loaded_fits_iff {loader : Loader} {env : Environment} {files : FileSystem}
    {explicit : Option String} {settings : Settings}
    (loaded : load loader env files explicit = .ok settings) :
    ∃ items, chosenItems loader env files explicit = .ok items ∧
      (∀ field : Field, field.Fits (settings.get field) ↔ (field.source env items).Proper field) ∧
      (∀ (d : Dispatcher) (repository : Repository) (handle : String),
        let switch := Field.recordReverseTree.source env items
        let installed := (d.install settings repository handle none).2.1
        (switch.SaysYes ∨ switch.CountsAsYes → installed = d.register handle [.track]) ∧
          (¬(switch.SaysYes ∨ switch.CountsAsYes) → installed = d)) ∧
      ∀ (env' : Environment) (files' : FileSystem),
        (∃ value, settings.repositoryPath env' files' = .error (.notAPath value)) ↔
          ¬(Field.localRepository.source env items).Proper .localRepository := by
  obtain ⟨items, chosen, values⟩ := get_of_load loaded
  have fits : ∀ field : Field,
      field.Fits (settings.get field) ↔ (field.source env items).Proper field := by
    intro field
    rw [values, Source.fits_value_iff]
  refine ⟨items, chosen, fits, ?_, ?_⟩
  · intro d repository handle switch installed
    have truthy := switch.isTruthy_value_iff
    rw [← values] at truthy
    constructor
    · intro yes
      exact (install_none d settings repository handle).trans (if_pos (truthy.mpr yes))
    · intro no
      exact (install_none d settings repository handle).trans (if_neg (mt truthy.mp no))
  · intro env' files'
    rw [repositoryPath_notAPath_iff]
    exact not_congr (fits .localRepository)

/-- A word for yes switches the records on. -/
theorem recording_switched_on :
    let env : Environment :=
      ⟨[("HOME", "/home"), ("REVERSETREE_RECORD_REVERSE_TREE", "Yes")], "root", []⟩
    let settings : Settings := { recordReverseTree := .bool true }
    load .yaml env ⟨[], []⟩ none = .ok settings ∧
      Field.recordReverseTree.Fits settings.recordReverseTree ∧
      (({} : Dispatcher).install settings ⟨.ofText "/repo"⟩ "t" none).2.1 =
        ({} : Dispatcher).register "t" [.track] := by
  intro env settings
  have yes : IsYes "Yes" := by
    unfold IsYes
    decide
  have loaded : load .yaml env ⟨[], []⟩ none = .ok settings :=
    (load_switched .yaml "Yes").trans (by rw [switchOrText_of_yes yes])
  obtain ⟨items, -, fits, installed, -⟩ := loaded_fits_iff loaded
  have source : Field.recordReverseTree.source env items = .override "Yes" := rfl
  rw [source] at installed
  refine ⟨loaded, (fits .recordReverseTree).mpr ?_, (installed _ _ _).1 (.inl yes)⟩
  rw [source]
  exact .inr (.inl yes)

/-- A word that is neither for yes nor for no is no switch, and switches the records on. -/
theorem recording_switched_on_by_off :
    ∃ settings, load .yaml
        ⟨[("HOME", "/home"), ("REVERSETREE_RECORD_REVERSE_TREE", "off")], "root", []⟩
        ⟨[], []⟩ none = .ok settings ∧
      ¬Field.recordReverseTree.Fits settings.recordReverseTree ∧
      (({} : Dispatcher).install settings ⟨.ofText "/repo"⟩ "t" none).2.1 =
        ({} : Dispatcher).register "t" [.track] := by
  have other : switchOrText "off" = .text "off" := by
    apply switchOrText_of_other
    · unfold IsYes
      decide
    · unfold IsNo
      decide
  refine ⟨_, load_switched .yaml "off", ?_, ?_⟩
  · rw [other]
    intro ⟨b, same⟩
    cases same
  · rw [install_none, other]
    rfl

end Provenance.Settings
