import Provenance.Proofs.Settings.Precedence

/-!
How loading settings fails. The first settings file decides: what is wrong with it is told by the
failure (`readDocument_eq_error_iff`), and only some of these failures are diagnostics that name the
file. A directory in its place, and whatever else leaves the loader than the news that the document
is malformed, is told in other ways (`load_reported_iff`).
-/
namespace Provenance.Settings

open FileSystem

/-! ## One settings file -/

/-- What keeps the settings file at a place from being used, and the failure that this ends in. -/
inductive Spoils (loader : Loader) (files : FileSystem) (p : Path) : Failure → Prop
  | directory (there : files.isDirectory p = .ok true) :
      Spoils loader files p (.file (.refused .isDirectory p))
  | unloaded {bytes : List UInt8} {fault : LoadFault} (read : files.read p = .ok bytes)
      (told : loader bytes = .error fault) : Spoils loader files p (fault.failure p)
  | noMapping {bytes : List UInt8} {value : Value} (read : files.read p = .ok bytes)
      (loaded : loader bytes = .ok value) (other : itemsOf? value = none) :
      Spoils loader files p (.diagnosed (.badConfig p.text "top level must be a mapping" none))

variable {loader : Loader}

/-- The document of a settings file, once the file is read. -/
theorem readDocument_of_read {files : FileSystem} {p : Path} {bytes : List UInt8}
    (read : files.read p = .ok bytes) :
    readDocument loader files p =
      match loader bytes with
      | .error fault => .error (fault.failure p)
      | .ok value =>
        match itemsOf? value with
        | some items => .ok items
        | none => .error (.diagnosed (.badConfig p.text "top level must be a mapping" none)) := by
  simp only [readDocument, read, Except.mapError, bind, Except.bind]
  cases loader bytes with
  | error fault => rfl
  | ok value =>
    cases value with
    | map items => rfl
    | _ =>
      simp only [itemsOf?]
      split <;> simp_all [throw, throwThe, MonadExceptOf.throw, pure, Except.pure]

/-- A directory cannot be opened for reading. -/
theorem read_of_isDirectory {files : FileSystem} {p : Path}
    (there : files.isDirectory p = .ok true) : files.read p = .error (.refused .isDirectory p) := by
  obtain ⟨place, located⟩ := isDirectory_eq_true_iff.mp there
  simp [FileSystem.read, located, bind, Except.bind, throw, throwThe, MonadExceptOf.throw]

/-- Where there is something in the place of a settings file, it is a directory, or it is read. -/
theorem isDirectory_or_read {files : FileSystem} (follows : files.FollowsLinks) {p : Path}
    (present : files.isPresent p = .ok true) :
    files.isDirectory p = .ok true ∨ ∃ bytes, files.read p = .ok bytes := by
  obtain ⟨place, entry, located⟩ := isPresent_eq_true_iff.mp present
  cases entry with
  | directory => exact .inl (isDirectory_eq_true_iff.mpr ⟨place, located⟩)
  | file bytes => exact .inr ⟨bytes, read_eq_ok_iff.mpr ⟨place, located⟩⟩
  | link target => exact absurd located (follows p place target)

/-- Reading a settings file fails exactly with what spoils it. -/
theorem readDocument_eq_error_iff {files : FileSystem} (follows : files.FollowsLinks) {p : Path}
    (present : files.isPresent p = .ok true) {failure : Failure} :
    readDocument loader files p = .error failure ↔ Spoils loader files p failure := by
  constructor
  · intro failed
    rcases isDirectory_or_read follows present with there | ⟨bytes, read⟩
    · simp only [readDocument, read_of_isDirectory there, Except.mapError, bind, Except.bind,
        Except.error.injEq] at failed
      exact failed ▸ .directory there
    · rw [readDocument_of_read read] at failed
      rcases told : loader bytes with fault | value
      · rw [told] at failed
        cases failed
        exact .unloaded read told
      · rw [told] at failed
        dsimp only at failed
        split at failed
        · cases failed
        · rename_i other
          cases failed
          exact .noMapping read told other
  · intro spoils
    cases spoils with
    | directory there =>
      simp only [readDocument, read_of_isDirectory there, Except.mapError, bind, Except.bind]
    | unloaded read told => rw [readDocument_of_read read, told]
    | noMapping read loaded other =>
      rw [readDocument_of_read read, loaded]
      dsimp only
      rw [other]

/-! ## Loading -/

/-- Among some places, `p` is one that there is no asking about, and there is nothing in those
before it. -/
def StopsAt (files : FileSystem) (places : List Path) (p : Path) : Prop :=
  ∃ before after, places = before ++ p :: after ∧ (∀ q ∈ before, files.isPresent q = .ok false) ∧
    files.Refuses p

theorem stopsAt_cons_iff {files : FileSystem} {q p : Path} {rest : List Path} :
    StopsAt files (q :: rest) p ↔ q = p ∧ files.Refuses p ∨
      files.isPresent q = .ok false ∧ StopsAt files rest p :=
  exists_first_cons_iff

theorem firstPresent_eq_error_iff {files : FileSystem} {places : List Path} {failure : Failure} :
    firstPresent files places = .error failure ↔
      ∃ p, StopsAt files places p ∧ failure = .file (.refused .nameTooLong p) := by
  induction places with
  | nil => simp [firstPresent, StopsAt]
  | cons q rest ih =>
    simp only [stopsAt_cons_iff]
    rw [firstPresent]
    rcases asked : files.isPresent q with e | (_ | _)
    · obtain ⟨rfl, refuses⟩ := isPresent_eq_error_iff.mp asked
      constructor
      · rintro ⟨⟩
        exact ⟨q, .inl ⟨rfl, refuses⟩, rfl⟩
      · rintro ⟨p, ⟨rfl, _⟩ | ⟨missing, _⟩, rfl⟩
        · rfl
        · cases missing
    · rw [ih]
      constructor
      · rintro ⟨p, stops, told⟩
        exact ⟨p, .inr ⟨rfl, stops⟩, told⟩
      · rintro ⟨p, ⟨rfl, refuses⟩ | ⟨_, stops⟩, told⟩
        · exact absurd refuses (not_refuses_of_isPresent asked)
        · exact ⟨p, stops, told⟩
    · constructor
      · intro failed
        cases failed
      · rintro ⟨p, ⟨rfl, refuses⟩ | ⟨missing, _⟩, told⟩
        · exact absurd refuses (not_refuses_of_isPresent asked)
        · cases missing

/-- The failures of loading, where the home directory is known: a place that there is no asking
about before any settings file is found, or what spoils the first settings file. -/
theorem load_eq_error_iff {env : Environment} {files : FileSystem} (follows : files.FollowsLinks)
    {home : Path} (known : env.home = .ok home) (explicit : Option String) {failure : Failure} :
    load loader env files explicit = .error failure ↔
      (∃ p, StopsAt files (places explicit home) p ∧
        failure = .file (.refused .nameTooLong p)) ∨
      ∃ p, IsFirst files (places explicit home) p ∧ Spoils loader files p failure := by
  have fails : load loader env files explicit = .error failure ↔
      chosenItems loader env files explicit = .error failure := by
    rw [load_eq]
    cases chosenItems loader env files explicit <;> simp [Except.map]
  rw [fails, chosenItems_of_home known, bind_eq_error_iff, firstPresent_eq_error_iff]
  refine or_congr Iff.rfl ?_
  constructor
  · rintro ⟨_ | p, found, unread⟩
    · cases unread
    · have first := firstPresent_eq_some_iff.mp found
      have present := first.choose_spec.choose_spec.2.2
      exact ⟨p, first, (readDocument_eq_error_iff follows present).mp unread⟩
  · rintro ⟨p, first, spoils⟩
    have present := first.choose_spec.choose_spec.2.2
    exact ⟨some p, firstPresent_eq_some_iff.mpr first,
      (readDocument_eq_error_iff follows present).mpr spoils⟩

/-- Loading gives settings, or a diagnostic about the settings file at `p` says that it cannot be
used. -/
inductive Reported (p : Path) : Except Failure Settings → Prop
  | loaded (settings : Settings) : Reported p (.ok settings)
  | diagnosed {d : Diagnostic} (code : d.code = .configInvalid)
      (named : d.context.lookup "path" = some (.text p.text)) : Reported p (.error (.diagnosed d))

/-- Where there is a settings file, only what spoils the first one makes loading fail. -/
theorem load_error_of_isFirst {env : Environment} {files : FileSystem}
    (follows : files.FollowsLinks) {home : Path} (known : env.home = .ok home)
    {explicit : Option String} {p : Path} (first : IsFirst files (places explicit home) p)
    {failure : Failure} :
    load loader env files explicit = .error failure ↔ Spoils loader files p failure := by
  rw [load_eq_error_iff follows known explicit]
  have found := firstPresent_eq_some_iff.mpr first
  constructor
  · rintro (⟨q, stops, rfl⟩ | ⟨q, other, spoils⟩)
    · cases found.symm.trans (firstPresent_eq_error_iff.mpr ⟨q, stops, rfl⟩)
    · cases found.symm.trans (firstPresent_eq_some_iff.mpr other)
      exact spoils
  · exact fun spoils => .inr ⟨p, first, spoils⟩

/-- What spoils a settings file is told by a diagnostic that names it, if the file can be read and
the loader does not fail in another way than to tell that the document is malformed. -/
theorem Spoils.diagnosed_iff {files : FileSystem} {p : Path} {failure : Failure}
    (spoils : Spoils loader files p failure) :
    Reported p (.error failure) ↔
      ∃ bytes, files.read p = .ok bytes ∧
        ∀ fault, loader bytes = .error fault → ∃ detail, fault = .malformed detail := by
  cases spoils with
  | directory there =>
    constructor
    · rintro ⟨⟩
    · rintro ⟨bytes, read, -⟩
      cases read.symm.trans (read_of_isDirectory there)
  | @unloaded bytes fault read told =>
    have only : (∃ bytes, files.read p = .ok bytes ∧
        ∀ fault, loader bytes = .error fault → ∃ detail, fault = .malformed detail) ↔
          ∃ detail, fault = .malformed detail := by
      simp [read, told]
    rw [only]
    cases fault with
    | malformed detail => exact iff_of_true (.diagnosed rfl rfl) ⟨detail, rfl⟩
    | undecodable | raised => exact iff_of_false (by rintro ⟨⟩) (by simp)
  | noMapping read loaded other =>
    refine iff_of_true (.diagnosed rfl rfl) ⟨_, read, fun fault told => ?_⟩
    cases loaded.symm.trans told

/-- All the ways in which loading settings fails, whatever the loader does: the home directory is
not known, a place before the first settings file is refused, or something spoils the first settings
file. So where all places are empty, loading succeeds. Where there is a settings file, loading
succeeds or a diagnostic names that file, exactly if the file can be read and the loader gives a
value for it or tells that the document is malformed. -/
theorem load_reported_iff (loader : Loader) {files : FileSystem} (follows : files.FollowsLinks)
    (env : Environment) (explicit : Option String) :
    (∀ failure, load loader env files explicit = .error failure ↔
      env.home = .error failure ∨ ∃ home, env.home = .ok home ∧
        ((∃ p, StopsAt files (places explicit home) p ∧
            failure = .file (.refused .nameTooLong p)) ∨
          ∃ p, IsFirst files (places explicit home) p ∧ Spoils loader files p failure)) ∧
    ∀ home, env.home = .ok home →
      ((∀ p ∈ places explicit home, files.isPresent p = .ok false) →
        ∃ settings, load loader env files explicit = .ok settings) ∧
      ∀ p, IsFirst files (places explicit home) p →
        (Reported p (load loader env files explicit) ↔
          ∃ bytes, files.read p = .ok bytes ∧
            ∀ fault, loader bytes = .error fault → ∃ detail, fault = .malformed detail) := by
  refine ⟨fun failure => ?_, fun home known => ⟨fun absent => ?_, fun p first => ?_⟩⟩
  · rcases known : env.home with unknown | home
    · simp [load, candidates, known, bind, Except.bind]
    · simp only [reduceCtorEq, false_or, Except.ok.injEq, exists_eq_left']
      exact load_eq_error_iff follows known explicit
  · rw [load_eq, chosenItems_of_home known, firstPresent_eq_none_iff.mpr absent]
    exact ⟨_, rfl⟩
  · rcases answer : load loader env files explicit with failure | settings
    · exact ((load_error_of_isFirst follows known first).mp answer).diagnosed_iff
    · obtain ⟨bytes, items, read, value, loaded, -⟩ := holds_of_load known first answer
      refine iff_of_true (.loaded settings) ⟨bytes, read, fun fault told => ?_⟩
      cases loaded.symm.trans told

/-- Files with one entry in the place of the settings file of the project. -/
def settingsEntry (entry : Entry) : FileSystem :=
  ⟨[([".reversetree"], .directory), ([".reversetree", "config.yaml"], entry)], []⟩

/-- An environment that tells a home directory, and no settings. -/
def homeOnly : Environment := ⟨[("HOME", "/home")], "root", []⟩

theorem home_homeOnly : homeOnly.home = .ok ⟨.slash, ["home"]⟩ := rfl

/-- What is said of a document that is no document. -/
def faultOf? : Except LoadFault Value → Option LoadFault
  | .error fault => some fault
  | .ok _ => none

theorem eq_of_faultOf? {document : Except LoadFault Value} {fault : LoadFault}
    (told : faultOf? document = some fault) : document = .error fault := by
  cases document with
  | error other => exact congrArg _ (Option.some.inj told)
  | ok value => cases told

section SettingsEntry

variable {entry : Entry} (tree : (settingsEntry entry).IsTree)
  (linkFree : (settingsEntry entry).NoLinks)
include tree linkFree

theorem locate_settingsEntry :
    (settingsEntry entry).locate true (fileIn (.ofText "")) =
      .ok (.found [".reversetree", "config.yaml"] entry) :=
  tree.locate_of_lookup linkFree (by decide) (by decide) rfl true

theorem isFirst_settingsEntry (home : Path) :
    IsFirst (settingsEntry entry) (places none home) (fileIn (.ofText "")) :=
  ⟨[], [fileIn home], rfl, by simp,
    isPresent_eq_true_iff.mpr ⟨_, _, locate_settingsEntry tree linkFree⟩⟩

theorem load_settingsEntry {failure : Failure}
    (spoils : Spoils loader (settingsEntry entry) (fileIn (.ofText "")) failure) :
    load loader homeOnly (settingsEntry entry) none = .error failure :=
  (load_error_of_isFirst linkFree.followsLinks home_homeOnly
    (isFirst_settingsEntry tree linkFree _)).mpr spoils

end SettingsEntry

/-- A settings file that is no document is reported. -/
theorem load_reported_iff_malformed :
    let files := settingsEntry (.file (Text.Utf8.encode "[".toList))
    files.FollowsLinks ∧
      load .yaml homeOnly files none = .error (.diagnosed (.badConfig ".reversetree/config.yaml"
        "<yaml>" (some (.malformedDocument "<yaml>")))) ∧
      Reported (fileIn (.ofText "")) (load .yaml homeOnly files none) := by
  intro files
  have linkFree : files.NoLinks := by decide
  have tree : files.IsTree := isTree_iff.mpr (by decide)
  have first := isFirst_settingsEntry tree linkFree ⟨.slash, ["home"]⟩
  have read : files.read (fileIn (.ofText "")) = .ok (Text.Utf8.encode "[".toList) :=
    read_eq_ok_iff.mpr ⟨_, locate_settingsEntry tree linkFree⟩
  have bad : Loader.yaml (Text.Utf8.encode "[".toList) = .error (.malformed "<yaml>") :=
    eq_of_faultOf? (by decide +kernel)
  obtain ⟨fails, reported⟩ := load_reported_iff .yaml linkFree.followsLinks homeOnly none
  refine ⟨linkFree.followsLinks, (fails _).mpr (.inr ⟨_, home_homeOnly, .inr
    ⟨_, first, .unloaded read bad⟩⟩), ?_⟩
  refine ((reported _ home_homeOnly).2 _ first).mpr ⟨_, read, fun fault told => ?_⟩
  cases bad.symm.trans told
  exact ⟨_, rfl⟩

/-- What is in the place of the first settings file is not always reported as a settings file that
cannot be used: not if it is a directory, no text, or a date that does not exist. -/
theorem load_unreported :
    let place := fileIn (.ofText "")
    let noText := settingsEntry (.file [0xff])
    let noDate := settingsEntry (.file (Text.Utf8.encode "debug: 2001-13-45".toList))
    let directory := settingsEntry .directory
    (∀ files ∈ [noText, noDate, directory],
      IsFirst files (places none ⟨.slash, ["home"]⟩) place ∧
        ¬Reported place (load .yaml homeOnly files none)) ∧
      load .yaml homeOnly noText none = .error (.undecodable ⟨0, [0xff], .invalidStart⟩) ∧
      load .yaml homeOnly noDate none =
        .error (.raised (.badValue "month must be in 1..12")) ∧
      load .yaml homeOnly directory none = .error (.file (.refused .isDirectory place)) := by
  intro place noText noDate directory
  have noTextTree : noText.IsTree := isTree_iff.mpr (by decide)
  have noDateTree : noDate.IsTree := isTree_iff.mpr (by decide)
  have directoryTree : directory.IsTree := isTree_iff.mpr (by decide)
  have undecoded : Loader.yaml [0xff] = .error (.undecodable ⟨0, [0xff], .invalidStart⟩) :=
    eq_of_faultOf? (by decide +kernel)
  have noSuchDate : Loader.yaml (Text.Utf8.encode "debug: 2001-13-45".toList) =
      .error (.raised (.badValue "month must be in 1..12")) :=
    eq_of_faultOf? (by decide +kernel)
  have loadText := load_settingsEntry noTextTree (by decide)
    (.unloaded (read_eq_ok_iff.mpr ⟨_, locate_settingsEntry noTextTree (by decide)⟩) undecoded)
  have loadDate := load_settingsEntry noDateTree (by decide)
    (.unloaded (read_eq_ok_iff.mpr ⟨_, locate_settingsEntry noDateTree (by decide)⟩) noSuchDate)
  have loadDirectory : load .yaml homeOnly directory none =
      .error (.file (.refused .isDirectory place)) := load_settingsEntry directoryTree (by decide)
    (.directory (isDirectory_eq_true_iff.mpr
      ⟨_, locate_settingsEntry directoryTree (by decide)⟩))
  refine ⟨?_, loadText, loadDate, loadDirectory⟩
  simp only [List.forall_mem_cons, List.not_mem_nil, false_imp_iff, forall_true_iff, and_true]
  refine ⟨⟨isFirst_settingsEntry noTextTree (by decide) _, ?_⟩,
    ⟨isFirst_settingsEntry noDateTree (by decide) _, ?_⟩,
    isFirst_settingsEntry directoryTree (by decide) _, ?_⟩
  · rw [loadText]
    rintro ⟨⟩
  · rw [loadDate]
    rintro ⟨⟩
  · rw [loadDirectory]
    rintro ⟨⟩

end Provenance.Settings
