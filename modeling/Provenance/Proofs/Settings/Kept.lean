import Provenance.Proofs.Settings.Typing

/-!
What is kept of the settings while a program runs. Loading and getting settings, forgetting them,
and changes of the variables and files may follow each other in any order. What is kept is what the
last act that loaded settings has loaded, if nothing was forgotten since (`kept_iff_lastLoaded`); so
getting settings answers that, whatever has changed, and loads them only if there is none
(`get_after_acts`).
-/
namespace Provenance.Settings

/-- What a program may do with its settings, and what may happen to it. -/
inductive Act where
  | load (explicit : Option String)
  | get
  | reset
  | setVariables (env : Environment)
  | setFiles (files : FileSystem)

/-- A program with the variables and files around it. -/
structure Program where
  env : Environment
  files : FileSystem
  store : Store

variable (loader : Loader)

/-- What an act answers, if it asks for settings, and the program after it. -/
def Program.perform (p : Program) : Act → Option (Except Failure Settings) × Program
  | .load explicit =>
    let (answer, store) := p.store.load loader p.env p.files explicit
    (some answer, { p with store })
  | .get =>
    let (answer, store) := p.store.get loader p.env p.files
    (some answer, { p with store })
  | .reset => (none, { p with store := p.store.reset })
  | .setVariables env => (none, { p with env })
  | .setFiles files => (none, { p with files })

/-- An act that was performed: when it was, and what it answered. -/
structure Deed where
  act : Act
  env : Environment
  files : FileSystem
  answer : Option (Except Failure Settings)

/-- The deed that an act of a program is. -/
def Program.deed (p : Program) (act : Act) : Deed :=
  ⟨act, p.env, p.files, (p.perform loader act).1⟩

/-- One more act of a program, and one more deed. -/
def Program.act (run : List Deed × Program) (act : Act) : List Deed × Program :=
  (run.1 ++ [run.2.deed loader act], (run.2.perform loader act).2)

/-- The deeds of a program, and the program after them. -/
def Program.through (p : Program) (acts : List Act) : List Deed × Program :=
  acts.foldl (Program.act loader) ([], p)

/-- The deed loaded settings: they are what the variables and files of its time give, and it
answered them. Getting settings counts, too, if it answered what loading would have given. -/
def Deed.Loads (d : Deed) (settings : Settings) : Prop :=
  ∃ explicit, (d.act = .load explicit ∨ d.act = .get ∧ explicit = none) ∧
    Settings.load loader d.env d.files explicit = .ok settings ∧ d.answer = some (.ok settings)

/-- The settings that were loaded last and not forgotten since. -/
def LastLoaded (deeds : List Deed) (settings : Settings) : Prop :=
  ∃ past d later, deeds = past ++ d :: later ∧ d.Loads loader settings ∧
    ∀ other ∈ later, other.act ≠ .reset ∧ ∀ settings', ¬other.Loads loader settings'

theorem lastLoaded_concat_iff {deeds : List Deed} {d : Deed} {settings : Settings} :
    LastLoaded loader (deeds ++ [d]) settings ↔ d.Loads loader settings ∨
      (d.act ≠ .reset ∧ ∀ settings', ¬d.Loads loader settings') ∧
        LastLoaded loader deeds settings := by
  constructor
  · rintro ⟨past, loading, later, whole, loads, quiet⟩
    rcases List.eq_nil_or_concat later with rfl | ⟨before, last, rfl⟩
    · obtain ⟨-, same⟩ := List.append_inj' whole rfl
      cases same
      exact .inl loads
    · rw [List.concat_eq_append] at whole quiet
      have split : deeds ++ [d] = (past ++ loading :: before) ++ [last] := by simpa using whole
      obtain ⟨rfl, same⟩ := List.append_inj' split rfl
      cases same
      exact .inr ⟨quiet d (by simp), past, loading, before, rfl, loads,
        fun other member => quiet other (List.mem_append_left _ member)⟩
  · rintro (loads | ⟨quiet, past, loading, later, rfl, loads, before⟩)
    · exact ⟨deeds, d, [], rfl, loads, by simp⟩
    · refine ⟨past, loading, later ++ [d], by simp, loads, ?_⟩
      intro other member
      rcases List.mem_append.mp member with earlier | last
      · exact before other earlier
      · rw [List.mem_singleton.mp last]
        exact quiet

/-! ## One act -/

variable {loader}

theorem Store.load_of_ok {store : Store} {env : Environment} {files : FileSystem}
    {explicit : Option String} {settings : Settings}
    (loaded : Settings.load loader env files explicit = .ok settings) :
    store.load loader env files explicit = (.ok settings, ⟨some settings⟩) := by
  rw [Store.load, loaded]

theorem Store.load_of_error {store : Store} {env : Environment} {files : FileSystem}
    {explicit : Option String} {failure : Failure}
    (failed : Settings.load loader env files explicit = .error failure) :
    store.load loader env files explicit = (.error failure, store) := by
  rw [Store.load, failed]

theorem Store.load_answer {store : Store} {env : Environment} {files : FileSystem}
    {explicit : Option String} :
    (store.load loader env files explicit).1 = Settings.load loader env files explicit := by
  unfold Store.load
  split
  · next loaded => exact loaded.symm
  · next failed => exact failed.symm

/-- Getting settings while some are kept answers these, so it loads no others. -/
theorem loads_get_of_kept {p : Program} {held : Settings} (kept : p.store.kept = some held)
    {settings : Settings} (loads : (p.deed loader .get).Loads loader settings) :
    settings = held := by
  obtain ⟨-, -, -, answer⟩ := loads
  simpa [Program.deed, Program.perform, Store.get, kept, eq_comm] using answer

/-- What is kept after an act was loaded by it, or kept before it and neither forgotten nor
replaced. -/
theorem kept_perform_iff (p : Program) (act : Act) (settings : Settings) :
    (p.perform loader act).2.store.kept = some settings ↔
      (p.deed loader act).Loads loader settings ∨
        ((p.deed loader act).act ≠ .reset ∧
            ∀ settings', ¬(p.deed loader act).Loads loader settings') ∧
          p.store.kept = some settings := by
  cases act with
  | load explicit =>
    cases loaded : Settings.load loader p.env p.files explicit with
    | ok held => simp [Program.perform, Program.deed, Deed.Loads, Store.load_of_ok loaded, loaded]
    | error failure =>
      simp [Program.perform, Program.deed, Deed.Loads, Store.load_of_error loaded]
  | get =>
    cases kept : p.store.kept with
    | some held =>
      have after : (p.perform loader .get).2.store.kept = some held := by
        simp [Program.perform, Store.get, kept]
      rw [after]
      constructor
      · rintro ⟨rfl⟩
        by_cases loads : (p.deed loader .get).Loads loader settings
        · exact .inl loads
        · refine .inr ⟨⟨nofun, fun settings' other => ?_⟩, rfl⟩
          rw [loads_get_of_kept kept other] at other
          exact loads other
      · rintro (loads | ⟨-, same⟩)
        · rw [loads_get_of_kept kept loads]
        · exact same
    | none =>
      cases loaded : Settings.load loader p.env p.files none with
      | ok held =>
        simp [Program.perform, Program.deed, Deed.Loads, Store.get, kept, Store.load_of_ok loaded,
          loaded]
      | error failure =>
        simp [Program.perform, Program.deed, Deed.Loads, Store.get, kept,
          Store.load_of_error loaded]
  | reset => simp [Program.perform, Program.deed, Deed.Loads, Store.reset]
  | setVariables env => simp [Program.perform, Program.deed, Deed.Loads]
  | setFiles files => simp [Program.perform, Program.deed, Deed.Loads]

/-- An act that fails changes nothing. -/
theorem perform_of_failed {p : Program} {act : Act} {failure : Failure}
    (failed : (p.perform loader act).1 = some (.error failure)) : (p.perform loader act).2 = p := by
  have unloaded : ∀ explicit, (p.store.load loader p.env p.files explicit).1 = .error failure →
      (p.store.load loader p.env p.files explicit).2 = p.store := by
    intro explicit stopped
    cases loaded : Settings.load loader p.env p.files explicit with
    | ok held =>
      rw [Store.load_of_ok loaded] at stopped
      cases stopped
    | error other => rw [Store.load_of_error loaded]
  cases act with
  | load explicit =>
    have stopped := Option.some.inj failed
    simp only [Program.perform, unloaded explicit stopped]
  | get =>
    have stopped : (p.store.get loader p.env p.files).1 = .error failure := Option.some.inj failed
    have same : (p.store.get loader p.env p.files).2 = p.store := by
      unfold Store.get at stopped ⊢
      split at stopped
      · cases stopped
      · exact unloaded none stopped
    simp only [Program.perform, same]
  | reset | setVariables env | setFiles files => cases failed

/-! ## Any number of acts -/

theorem through_concat (p : Program) (acts : List Act) (act : Act) :
    p.through loader (acts ++ [act]) = Program.act loader (p.through loader acts) act := by
  rw [Program.through, List.foldl_append]
  rfl

/-- What is kept after any acts of a program that has just begun was loaded last. -/
theorem kept_iff_lastLoaded {p : Program} (new : p.store.kept = none) (acts : List Act)
    (settings : Settings) :
    (p.through loader acts).2.store.kept = some settings ↔
      LastLoaded loader (p.through loader acts).1 settings := by
  induction acts using List.reverseRecOn with
  | nil => simp [Program.through, LastLoaded, new]
  | append_singleton acts act ih =>
    rw [through_concat, Program.act, kept_perform_iff, lastLoaded_concat_iff, ih]

/-- Loading settings answers what the variables and files of that time give. Getting settings
answers what was loaded last and not forgotten since, whatever has changed, and leaves everything as
it is; if there is no such thing, it does what loading does. An attempt to load or to get settings
that fails leaves everything as it was, so what is got afterwards is what would have been got
before. -/
theorem get_after_acts (loader : Loader) (env : Environment) (files : FileSystem)
    (acts : List Act) :
    let run := Program.through loader ⟨env, files, {}⟩ acts
    (∀ explicit, (run.2.perform loader (.load explicit)).1 =
      some (Settings.load loader run.2.env run.2.files explicit)) ∧
    (∀ settings, LastLoaded loader run.1 settings →
      run.2.perform loader .get = (some (.ok settings), run.2)) ∧
    ((¬∃ settings, LastLoaded loader run.1 settings) →
      run.2.perform loader .get = run.2.perform loader (.load none)) ∧
    ∀ act failure, (run.2.perform loader act).1 = some (.error failure) →
      (run.2.perform loader act).2 = run.2 ∧
        ∀ settings, LastLoaded loader (run.1 ++ [run.2.deed loader act]) settings ↔
          LastLoaded loader run.1 settings := by
  intro run
  have kept : ∀ settings, run.2.store.kept = some settings ↔ LastLoaded loader run.1 settings :=
    kept_iff_lastLoaded rfl acts
  refine ⟨fun explicit => ?_, ?_, ?_, ?_⟩
  · exact congrArg some Store.load_answer
  · intro settings last
    simp [Program.perform, Store.get, (kept settings).mpr last]
  · intro nothing
    have empty : run.2.store.kept = none := by
      cases held : run.2.store.kept with
      | none => rfl
      | some settings => exact absurd ⟨settings, (kept settings).mp held⟩ nothing
    simp [Program.perform, Store.get, empty]
  · intro act failure failed
    refine ⟨perform_of_failed failed, fun settings => ?_⟩
    have fresh : (⟨env, files, {}⟩ : Program).store.kept = none := rfl
    have later := @kept_iff_lastLoaded loader _ fresh (acts ++ [act]) settings
    rw [through_concat] at later
    refine later.symm.trans ?_
    rw [← kept settings]
    simp only [Program.act]
    rw [perform_of_failed failed]

/-- Switched on by a variable and loaded; the variable and the home directory go away, and a second
attempt to load fails. What was loaded first is still got, until it is forgotten. -/
theorem get_after_failed_load :
    let start : Program :=
      ⟨⟨[("HOME", "/home"), ("REVERSETREE_RECORD_REVERSE_TREE", "yes")], "root", []⟩, ⟨[], []⟩, {}⟩
    let acts : List Act :=
      [.load none, .setVariables ⟨[], "root", []⟩, .load (some "settings.yaml")]
    let run := start.through .yaml acts
    let forgotten := start.through .yaml (acts ++ [.reset])
    run.2.perform .yaml .get = (some (.ok { recordReverseTree := .bool true }), run.2) ∧
      ((run.2.perform .yaml (.load none)).1 = some (.error .homeUnknown) ∧
        (run.2.perform .yaml (.load none)).2 = run.2) ∧
      forgotten.2.perform .yaml .get = forgotten.2.perform .yaml (.load none) := by
  intro start acts run forgotten
  have yes : IsYes "yes" := by
    unfold IsYes
    decide
  have loaded : load .yaml start.env start.files none = .ok { recordReverseTree := .bool true } :=
    (load_switched .yaml "yes").trans (by rw [switchOrText_of_yes yes])
  have whole : run = ([⟨.load none, start.env, start.files,
      some (.ok { recordReverseTree := .bool true })⟩,
      ⟨.setVariables ⟨[], "root", []⟩, start.env, start.files, none⟩,
      ⟨.load (some "settings.yaml"), ⟨[], "root", []⟩, start.files, some (.error .homeUnknown)⟩],
      ⟨⟨[], "root", []⟩, start.files, ⟨some { recordReverseTree := .bool true }⟩⟩) := by
    have first : start.through .yaml [.load none] = ([⟨.load none, start.env, start.files,
        some (.ok { recordReverseTree := .bool true })⟩],
        { start with store := ⟨some { recordReverseTree := .bool true }⟩ }) := by
      simp [Program.through, Program.act, Program.deed, Program.perform, Store.load_of_ok loaded]
    change List.foldl (Program.act .yaml) (start.through .yaml [.load none]) _ = _
    rw [first]
    rfl
  have last : LastLoaded .yaml run.1 { recordReverseTree := .bool true } := by
    rw [whole]
    refine ⟨[], _, _, rfl, ⟨none, .inl rfl, loaded, rfl⟩, ?_⟩
    intro other member
    simp only [List.mem_cons, List.not_mem_nil, or_false] at member
    rcases member with rfl | rfl
    · exact ⟨nofun, fun _ ⟨_, _, _, answer⟩ => by cases answer⟩
    · exact ⟨nofun, fun _ ⟨_, _, _, answer⟩ => by cases answer⟩
  have nothing : ¬∃ settings, LastLoaded .yaml forgotten.1 settings := by
    have reset : forgotten.1 = run.1 ++ [run.2.deed .yaml .reset] := by
      rw [show forgotten = Program.act .yaml run .reset from through_concat start acts .reset]
      rfl
    rintro ⟨settings, loading⟩
    rw [reset, lastLoaded_concat_iff] at loading
    rcases loading with ⟨_, _, _, answer⟩ | ⟨⟨kept, _⟩, _⟩
    · cases answer
    · exact kept rfl
  have failed : (run.2.perform .yaml (.load none)).1 = some (.error .homeUnknown) := by
    rw [whole]
    rfl
  obtain ⟨-, got, -, failing⟩ := get_after_acts .yaml start.env start.files acts
  obtain ⟨-, -, afresh, -⟩ := get_after_acts .yaml start.env start.files (acts ++ [.reset])
  exact ⟨got _ last, ⟨failed, (failing _ _ failed).1⟩, afresh nothing⟩

end Provenance.Settings
