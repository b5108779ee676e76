import Provenance.CommandLine.Report
import Provenance.Proofs.Tracking.Catalogue

/-!
What listing a repository tells after a run of events: the listing shows each recorded artifact
once, and looking one up by the coordinates that are shown for it finds the same records
(`listArtifacts_over`).
-/
namespace Provenance

namespace CommandLine

/-- A row of a listing tells an artifact by its coordinates, which lead back to the artifact, to its
tracking directory and to the records whose names the row holds: all that were written for it. -/
structure Listed.Shows (files : FileSystem) (r : Repository) (written : List Opened)
    (row : Listed) (a : Artifact) : Prop where
  coordinates : row.coordinates = Text.ofFields ':' [a.group, a.name, a.version]
  parsed : Artifact.parse row.coordinates = some a
  explained : ∃ records, explainArtifact files r a = .ok ⟨a, r.trackingOf a, records⟩ ∧
    row.roots = records.map (·.rootKey)
  roots : ∀ name, name ∈ row.roots ↔ ∃ w ∈ written, w.identity = a.identity ∧ w.name = name

end CommandLine

open CommandLine

/-- The row of an artifact that was written. -/
theorem Catalogued.listDirectory {r : Repository} {opened : List Opened} {fs : FileSystem}
    (catalogued : Catalogued r opened fs) (absolute : r.base.isAbsolute = true) {a : Artifact}
    (listed : a.IsListed) (recorded : ∃ o ∈ opened, o.identity = a.identity) :
    ∃ row, listDirectory fs r (r.trackingOf a) = .ok row ∧ row.Shows fs r opened a := by
  obtain ⟨o, member, identity⟩ := recorded
  have coordinates := Repository.coordinatesOf?_trackingOf (r := r) listed.laidOut
  have parsed := Artifact.parse_bare listed.laidOut listed.readable
  rcases catalogued.faithful.read absolute listed.laidOut with
    ⟨path, _, _, ⟨_, nothing⟩ | detour⟩ | ⟨fault, name, cut, _, last, short⟩ | ⟨records, read, tell⟩
  · obtain ⟨v, last⟩ := exists_lastOpened?_iff.mpr ⟨o, member, identity, rfl⟩
    rw [nothing] at last
    cases last
  · exact absurd trivial detour
  · rw [catalogued.whole cut (mem_of_lastOpened? last).1] at short
    cases short
  · refine ⟨⟨a.bare.text, records.map (·.rootKey)⟩, ?_, ?_, ?_, ⟨records, ?_, rfl⟩, ?_⟩
    · simp [CommandLine.listDirectory, coordinates, read, bind, Except.bind, pure, Except.pure]
    · exact Artifact.bare_text a
    · rw [parsed, listed.bare]
    · simp [explainArtifact, read, bind, Except.bind, pure, Except.pure]
    · intro name
      rw [← exists_lastOpened?_iff, List.mem_map]
      exact tell.names name

/-- After every run in which no event fails, a listing shows each recorded artifact once, in the
order of the parts of the tracking directories, and each row leads back to the records it tells
of. It is refused only if some directory below the base lies too deep for the search. -/
theorem listArtifacts_over {r : Repository} {fs : FileSystem} (absolute : r.base.isAbsolute = true)
    (base : fs.isDirectory r.base = .ok true) (tree : fs.IsTree) (linkFree : fs.NoLinks)
    (untracked : fs.Untracked r.place) {occasions : List Occasion}
    (of : ∀ occasion ∈ occasions, occasion.2.IsOf r)
    (readable : ∀ occasion ∈ occasions, occasion.2.artifact.IsReadable)
    (well : ∀ handled ∈ (Run.through fs occasions).history, handled.WentWell) :
    let run := Run.through fs occasions
    (∃ names path, run.files.lookup (r.place ++ names) = some .directory ∧
        path = { r.base with parts := r.base.parts ++ (names ++ [trackingName]) } ∧
        listArtifacts run.files r = .error (.file (.refused .nameTooLong path)) ∧ ¬path.Fits) ∨
      ∃ (found : List Artifact) (rows : List Listed),
        trackedDirectories run.files r.base = .ok (found.map r.trackingOf) ∧
        listArtifacts run.files r = .ok rows ∧
        List.Forall₂ (Listed.Shows run.files r run.written) rows found ∧
        found.Pairwise (fun a b => (r.trackingOf a).parts < (r.trackingOf b).parts) ∧
        ∀ identity, (∃ a ∈ found, a.identity = identity) ↔
          ∃ w ∈ run.written, w.identity = identity := by
  intro run
  have begins : Catalogued r (Run.opened ⟨[], fs⟩) (Run.files ⟨[], fs⟩) :=
    .init linkFree tree untracked base
  have catalogued : Catalogued r run.opened run.files :=
    catalogued_over absolute of readable well begins
  rw [catalogued.written_eq]
  rcases catalogued.trackedDirectories_cases absolute with
    ⟨names, path, there, deep, refused, tooLong⟩ | ⟨found, searched, listed, increasing, recorded⟩
  · refine .inl ⟨names, path, there, deep, ?_, tooLong⟩
    rw [listArtifacts, refused]
    rfl
  · right
    have rows : ∀ a ∈ found, ∃ row, (listDirectory run.files r ∘ r.trackingOf) a = .ok row ∧
        row.Shows run.files r run.opened a :=
      fun a member => catalogued.listDirectory absolute (listed a member)
        ((recorded _).mp ⟨a, member, rfl⟩)
    obtain ⟨rows, answered, shown⟩ := mapM_eq_ok_of_forall rows
    refine ⟨found, rows, searched, ?_, shown, increasing, recorded⟩
    rw [listArtifacts, searched]
    exact (List.mapM_map ..).trans answered

/-- The files of a machine with an empty directory `/repo`. -/
def emptyRepository : FileSystem := (⟨[], []⟩ : FileSystem).set ([] ++ ["repo"]) .directory

theorem emptyRepository_isTree : emptyRepository.IsTree :=
  (FileSystem.isTree_empty []).set .directory (by decide) (by decide) (by decide)

/-- The record of the library is written into the empty repository. -/
theorem libraryEvent_recorded : ∃ path,
    (record .standard .ample emptyRepository libraryEvent).answer =
      .ok (.recorded path ["com.x:lib:2.0 (project)", "  com.x:app:1.0 (project)"]) := by
  let tracking : Path := ⟨.slash, ["repo", "com", "x", "lib", "2.0", ".tracking"]⟩
  have clear : emptyRepository.Clear tracking := by decide
  let file := (⟨.ofText "/repo"⟩ : Repository).pathOf libraryEvent.artifact
  let step : CollectStep := ⟨"project",
    [⟨{ group := "com.x", name := "app", version := "1.0" }, "compile"⟩],
    ⟨{ group := "com.x", name := "lib", version := "2.0" }, "compile"⟩⟩
  have name : FileSystem.IsName "com.x_app_1.0" := by decide
  have target : recordPath file (.dependency step.root) =
      ⟨.slash, ["repo", "com", "x", "lib", "2.0", ".tracking", "com.x_app_1.0"]⟩ := by decide
  have written : (persist .ample emptyRepository file (.dependency step.root) step.lines).answer =
      .ok ⟨recordPath file (.dependency step.root), none⟩ := by
    refine persist_succeeds emptyRepository_isTree (by decide) (by decide) ?_ ?_ name ?_ ?_ ?_ <;>
      rw [target]
    · exact clear
    all_goals decide
  have answer : (record .standard .ample emptyRepository libraryEvent).answer =
      .ok (.recorded (recordPath file (.dependency step.root)) step.lines) := by
    have handled : record .standard .ample emptyRepository libraryEvent =
        Outcome.ofPersisted libraryEvent.artifact step.lines
          (persist .ample emptyRepository file (.dependency step.root) step.lines) := by
      have accepted : Filter.standard.accepts libraryEvent = true := by decide
      have found : libraryEvent.trace.nearestStep? = some step := rfl
      have same : Filter.standard.acceptsStep libraryEvent step = true := by decide
      have held : libraryEvent.artifact.file = some file := rfl
      simp only [record, accepted, found, same, held, Bool.not_true, Bool.false_eq_true, if_false]
    rw [handled, Outcome.ofPersisted, written]
  have lines : step.lines =
      [("com.x:lib:2.0 (project)" : Wording), ("  com.x:app:1.0 (project)" : Wording)] := by decide
  exact ⟨_, by rw [answer, lines]⟩

theorem listArtifacts_over_libraryEvent :
    let r : Repository := ⟨.ofText "/repo"⟩
    let run := Run.through emptyRepository [(.ample, libraryEvent)]
    (∃ names path, run.files.lookup (r.place ++ names) = some .directory ∧
        path = { r.base with parts := r.base.parts ++ (names ++ [trackingName]) } ∧
        listArtifacts run.files r = .error (.file (.refused .nameTooLong path)) ∧ ¬path.Fits) ∨
      ∃ (found : List Artifact) (rows : List Listed),
        trackedDirectories run.files r.base = .ok (found.map r.trackingOf) ∧
        listArtifacts run.files r = .ok rows ∧
        List.Forall₂ (Listed.Shows run.files r run.written) rows found ∧
        found.Pairwise (fun a b => (r.trackingOf a).parts < (r.trackingOf b).parts) ∧
        ∀ identity, (∃ a ∈ found, a.identity = identity) ↔
          ∃ w ∈ run.written, w.identity = identity := by
  intro r run
  have base : emptyRepository.isDirectory r.base = .ok true := by
    have leads := emptyRepository_isTree.leads (by decide) true FileSystem.maxLinks
      (by decide : emptyRepository.lookup ([] ++ r.base.parts) = some .directory)
    exact FileSystem.isDirectory_eq_true_iff.mpr
      ⟨_, FileSystem.locate_eq_ok_iff.mpr ⟨by decide, by decide, leads⟩⟩
  have well : ∀ handled ∈ run.history, handled.WentWell := by
    intro handled member
    obtain ⟨path, answer⟩ := libraryEvent_recorded
    rw [List.mem_singleton.mp member]
    exact ⟨_, answer, fun _ _ _ same => by cases same⟩
  exact listArtifacts_over (by decide) base emptyRepository_isTree (by decide) (by decide)
    (by simpa using libraryEvent_isOf) (by decide) well

/-- A name of 255 bytes. -/
def longName : String := String.ofList (.replicate 255 'n')

/-- The files of a machine with directories inside one another, all with the long name. -/
def chain : Nat → FileSystem
  | 0 => ⟨[], []⟩
  | depth + 1 => (chain depth).set (.replicate depth longName ++ [longName]) .directory

theorem longName_isName : FileSystem.IsName longName := by
  have name : IsLayoutName longName := isLayoutName_replicate (by decide)
  have part := Artifact.isPart_of_layoutName name (Text.isPlain_replicate 255)
  have long : longName.utf8ByteSize = 255 := utf8ByteSize_replicate 255
  exact ⟨part.notIdle, name.2.2.1, by rw [long]; decide⟩

theorem chain_lookup (depth : Nat) :
    (chain depth).lookup (.replicate depth longName) = some .directory ∧
      ∀ deeper, depth < deeper → (chain depth).lookup (.replicate deeper longName) = none := by
  induction depth with
  | zero =>
    refine ⟨rfl, fun deeper below => ?_⟩
    have nonempty : List.replicate deeper longName ≠ [] := by simpa using below.ne'
    simp [chain, FileSystem.lookup, nonempty]
  | succ depth ih =>
    have last : List.replicate depth longName ++ [longName] = .replicate (depth + 1) longName := by
      rw [List.replicate_succ']
    refine ⟨?_, fun deeper below => ?_⟩
    · rw [chain, last]
      exact FileSystem.lookup_set_self _ _ (by simp)
    · have other : List.replicate deeper longName ≠ .replicate (depth + 1) longName := by
        intro same
        have lengths := congrArg List.length same
        simp at lengths
        omega
      rw [chain, last, FileSystem.lookup_set_of_ne _ other]
      exact ih.2 deeper (by omega)

theorem chain_isTree (depth : Nat) : (chain depth).IsTree := by
  induction depth with
  | zero => exact FileSystem.isTree_empty []
  | succ depth ih =>
    obtain ⟨there, free⟩ := chain_lookup depth
    refine ih.set _ there longName_isName ?_
    rw [← List.replicate_succ', free (depth + 1) (by omega)]
    simp

theorem chain_noLinks (depth : Nat) : (chain depth).NoLinks := by
  induction depth with
  | zero => decide
  | succ depth ih => exact ih.set _ rfl

/-- How long the path of the tracking directory at the bottom is. -/
theorem chain_text (depth : Nat) :
    let text := Text.ofFields '/' (.replicate depth longName ++ [trackingName])
    '\x00' ∉ text.toList ∧ text.utf8ByteSize = 256 * depth + 9 := by
  induction depth with
  | zero => decide
  | succ depth ih =>
    obtain ⟨noNull, size⟩ := ih
    have next : Text.ofFields '/' (.replicate (depth + 1) longName ++ [trackingName]) =
        longName ++ ("/" ++ Text.ofFields '/' (.replicate depth longName ++ [trackingName])) := by
      cases depth with
      | zero => exact Text.ofFields_cons_cons _ _ _
      | succ depth => exact Text.ofFields_cons_cons _ _ _
    have plain : '\x00' ∉ longName.toList := fun member =>
      (Text.isPlain_replicate 255 _ member).2.1 rfl
    have long : longName.utf8ByteSize = 255 := utf8ByteSize_replicate 255
    have one : "/".utf8ByteSize = 1 := by decide
    dsimp only
    rw [next]
    constructor
    · simp [String.toList_append, plain, noNull]
    · rw [String.utf8ByteSize_append, String.utf8ByteSize_append, size, long, one]
      omega

/-- Directories below the root whose paths exceed the limit make the listing fail, although nothing
was ever recorded. -/
theorem listArtifacts_refused :
    let r : Repository := ⟨.ofText "/"⟩
    r.base.isAbsolute = true ∧ (chain 16).isDirectory r.base = .ok true ∧ (chain 16).IsTree ∧
      (chain 16).NoLinks ∧ (chain 16).Untracked r.place ∧
      ¬∃ rows, listArtifacts (Run.through (chain 16) []).files r = .ok rows := by
  intro r
  have tree := chain_isTree 16
  have linkFree := chain_noLinks 16
  have located : (chain 16).locate true r.base = .ok (.found [] .directory) := by
    refine FileSystem.locate_eq_ok_iff.mpr ⟨by decide, by decide, ?_⟩
    exact tree.leads linkFree true FileSystem.maxLinks (FileSystem.lookup_root _)
  refine ⟨by decide, FileSystem.isDirectory_eq_true_iff.mpr ⟨[], located⟩, tree, linkFree,
    by decide +kernel, ?_⟩
  rintro ⟨rows, listed⟩
  have asked := FileSystem.directory?_eq_some_iff.mpr located
  have member : List.replicate 16 longName ∈ (chain 16).directoriesFrom [] :=
    (tree.mem_directoriesFrom (FileSystem.lookup_root _)).mpr (chain_lookup 16).1
  rcases searched : trackedDirectories (chain 16) r.base with failure | found
  · have refused : listArtifacts (chain 16) r = .error failure := by
      rw [listArtifacts, searched]
      rfl
    have listed : listArtifacts (chain 16) r = .ok rows := listed
    rw [refused] at listed
    cases listed
  · obtain ⟨answer, told⟩ := answered_of_trackedDirectories asked searched member
    let deep : Path := ⟨.slash, .replicate 16 longName ++ [trackingName]⟩
    have refuses : (chain 16).Refuses deep := by
      obtain ⟨noNull, size⟩ := chain_text 16
      have text : deep.text = "/" ++ Text.ofFields '/' (.replicate 16 longName ++ [trackingName]) :=
        rfl
      have long : FileSystem.maxPath < deep.text.utf8ByteSize := by
        have one : "/".utf8ByteSize = 1 := by decide
        rw [text, String.utf8ByteSize_append, size, one]
        decide
      have clean : '\x00' ∉ deep.text.toList := by
        rw [text, String.toList_append]
        simpa using noNull
      exact ⟨clean, .inl long⟩
    have failed : (chain 16).isDirectory { r.base with
        parts := r.base.parts ++ (.replicate 16 longName ++ [trackingName]) } =
        .error (.refused .nameTooLong deep) :=
      FileSystem.isDirectory_eq_error_iff.mpr ⟨rfl, refuses⟩
    rw [failed] at told
    cases told

end Provenance
