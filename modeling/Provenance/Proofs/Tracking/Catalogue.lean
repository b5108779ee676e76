import Provenance.Proofs.Artifact.Coordinates
import Provenance.Proofs.Tracking.Search
import Provenance.Proofs.Tracking.Store

/-!
What the search for tracking directories finds after a run of events. `Catalogued` adds to
`Faithful` that the tracking directories below the base directory are those of the recorded
artifacts and no others, so the search finds one for each of them
(`Catalogued.trackedDirectories_cases`).
-/
namespace Provenance

/-! ## Runs in which nothing fails -/

/-- An event that was passed over or recorded. -/
def Handled.WentWell (handled : Handled) : Prop :=
  ∃ outcome, handled.answer = .ok outcome ∧ ∀ path lines e, outcome ≠ .failed path lines e

/-- An event that goes well changes no file or leaves a record. -/
theorem opened?_of_wentWell {r : Repository} {event : Event} (of : event.IsOf r) {disk : Disk}
    {files : FileSystem}
    (well : Handled.WentWell ⟨event, (record .standard disk files event).answer⟩) :
    (record .standard disk files event).files = files ∧
        Handled.opened? ⟨event, (record .standard disk files event).answer⟩ = none ∨
      ∃ o, Handled.opened? ⟨event, (record .standard disk files event).answer⟩ = some o ∧
        o.whole = true := by
  unfold record at well ⊢
  dsimp only at well ⊢
  split
  · exact .inl ⟨rfl, opened?_skip ..⟩
  · rename_i accepted
    rw [if_neg accepted] at well
    split
    · exact .inl ⟨rfl, opened?_skip ..⟩
    · rename_i step found
      simp only [found] at well
      split
      · exact .inl ⟨rfl, opened?_skip ..⟩
      · rename_i same
        rw [if_neg same] at well
        right
        simp only [of.file] at well ⊢
        rw [opened?_ofPersisted found]
        generalize persist disk files (r.pathOf event.artifact) (.dependency step.root)
          step.lines = effect at well
        obtain ⟨outcome, answer, notFailed⟩ := well
        unfold Outcome.ofPersisted at answer
        split at answer
        · cases answer
        · rename_i path done
          rw [done]
          exact ⟨_, rfl, rfl⟩
        · cases answer
          exact absurd rfl (notFailed _ _ _)

theorem history_foldl (occasions : List Occasion) (run : Run) :
    run.history <+: (occasions.foldl Run.handle run).history := by
  induction occasions generalizing run with
  | nil => exact List.prefix_refl _
  | cons occasion rest ih => exact (List.prefix_append _ _).trans (ih (run.handle occasion))

/-! ## The invariant -/

/-- An artifact as a listing shows it. -/
structure Artifact.IsListed (a : Artifact) : Prop where
  laidOut : a.IsLaidOut
  readable : a.IsReadable
  bare : a.bare = a

/-- The tracking directories of a tree are those of the artifacts that were recorded. -/
structure Catalogued (r : Repository) (opened : List Opened) (fs : FileSystem) : Prop where
  faithful : Faithful r True opened fs
  tree : fs.IsTree
  base : fs.isDirectory r.base = .ok true
  tracked : ∀ names entry, fs.lookup (r.place ++ (names ++ [trackingName])) = some entry →
    ∃ a : Artifact, a.IsListed ∧ names = a.directories ∧ ∃ o ∈ opened, o.identity = a.identity
  named : ∀ o ∈ opened, ∃ a : Artifact, a.IsListed ∧ a.identity = o.identity
  whole : ∀ o ∈ opened, o.whole = true

namespace Catalogued

variable {r : Repository} {opened : List Opened} {fs : FileSystem} {a : Artifact}

theorem init (linkFree : fs.NoLinks) (tree : fs.IsTree) (untracked : fs.Untracked r.place)
    (base : fs.isDirectory r.base = .ok true) : Catalogued r [] fs := by
  refine ⟨.init linkFree tree.unique untracked fun _ => .inr base, tree, base, ?_, by simp, by simp⟩
  intro names entry held
  rw [lookup_eq_none_of_untracked untracked (by simp)] at held
  cases held

/-- A record that is written keeps the invariant. -/
theorem opens (catalogued : Catalogued r opened fs) (absolute : r.base.isAbsolute = true)
    (laidOut : a.IsLaidOut) (readable : a.IsReadable) {after : FileSystem} {o : Opened}
    (acted : Acts r a fs after (some o)) (whole : o.whole = true) (tree : after.IsTree) :
    Catalogued r (opened ++ [o]) after := by
  have settled : r.Settled fs := .inr catalogued.base
  have linkFree := catalogued.faithful.linkFree
  have listed : a.bare.IsListed :=
    ⟨⟨laidOut.segments, laidOut.name, laidOut.version, laidOut.plain⟩,
      ⟨readable.colons, readable.trimmed⟩, rfl⟩
  have faithful : Faithful r True (opened ++ [o]) after :=
    catalogued.faithful.acts absolute laidOut acted
  refine ⟨faithful, tree,
    FileSystem.isDirectory_extends acted.extends catalogued.base, ?_, ?_, ?_⟩
  · intro names entry held
    have old : ∀ entry, fs.lookup (r.place ++ (names ++ [trackingName])) = some entry →
        ∃ a : Artifact, a.IsListed ∧ names = a.directories ∧
          ∃ v ∈ opened ++ [o], v.identity = a.identity := by
      intro entry before
      obtain ⟨b, other, same, v, member, identity⟩ := catalogued.tracked names entry before
      exact ⟨b, other, same, v, List.mem_append_left _ member, identity⟩
    cases acted with
    | opens _ _ notTracking grows =>
      rename_i grown name lines _ _ _ _ _ _ _ _
      have apart : r.place ++ (names ++ [trackingName]) ≠ r.recordsAt a ++ [name] := by
        intro same
        rw [← List.append_assoc] at same
        obtain ⟨-, last⟩ := List.append_inj' same rfl
        simp only [List.cons.injEq, and_true] at last
        exact notTracking last.symm
      rw [FileSystem.lookup_set_of_ne _ apart] at held
      rcases grows.lookup (r.place ++ (names ++ [trackingName])) with same | ⟨free, _, spelled, _⟩
      · rw [same] at held
        exact old entry held
      · rcases settled.spelled linkFree absolute laidOut spelled free with
          ⟨rest, above⟩ | ⟨more, within, same⟩
        · have longer := congrArg List.length above
          simp at longer
        · rw [← List.append_cancel_left same] at within
          rcases List.prefix_concat_iff.mp within with whole | inside
          · obtain ⟨directories, -⟩ := List.append_inj' whole rfl
            exact ⟨a.bare, listed, directories, _,
              List.mem_append_right _ (List.mem_singleton_self _), rfl⟩
          · have tracking : trackingName ∈ a.directories := inside.subset (by simp)
            exact absurd rfl (laidOut.directory tracking).2.2
  · intro v member
    rcases List.mem_append.mp member with before | new
    · exact catalogued.named v before
    · rw [List.mem_singleton.mp new]
      cases acted
      exact ⟨a.bare, listed, rfl⟩
  · intro v member
    rcases List.mem_append.mp member with before | new
    · exact catalogued.whole v before
    · rw [List.mem_singleton.mp new]
      exact whole

end Catalogued

/-- Every run that goes well keeps the invariant. -/
theorem catalogued_over {r : Repository} (absolute : r.base.isAbsolute = true)
    {occasions : List Occasion} (of : ∀ occasion ∈ occasions, occasion.2.IsOf r)
    (readable : ∀ occasion ∈ occasions, occasion.2.artifact.IsReadable) {run : Run}
    (well : ∀ handled ∈ (occasions.foldl Run.handle run).history, handled.WentWell)
    (catalogued : Catalogued r run.opened run.files) :
    Catalogued r (occasions.foldl Run.handle run).opened
      (occasions.foldl Run.handle run).files := by
  induction occasions generalizing run with
  | nil => exact catalogued
  | cons occasion rest ih =>
    obtain ⟨disk, event⟩ := occasion
    have first : event.IsOf r := of (disk, event) (by simp)
    refine ih (fun other member => of other (List.mem_cons_of_mem _ member))
      (fun other member => readable other (List.mem_cons_of_mem _ member)) well ?_
    have kept : Handled.WentWell ⟨event, (record .standard disk run.files event).answer⟩ := by
      refine well _ ((history_foldl rest (run.handle (disk, event))).subset ?_)
      simp [Run.handle]
    rw [Run.opened_handle]
    have acted := record_acts first absolute disk catalogued.faithful.linkFree
    rcases opened?_of_wentWell first kept with ⟨same, nothing⟩ | ⟨o, something, whole⟩
    · rw [nothing, Option.toList_none, List.append_nil]
      have unchanged : (run.handle (disk, event)).files = run.files := same
      rw [unchanged]
      exact catalogued
    · rw [something] at acted ⊢
      exact catalogued.opens absolute first.laidOut (readable (disk, event) (by simp)) acted whole
        (isTree_record catalogued.tree event)

/-- Where every file that was opened took its lines as a whole, what was written is what was
opened. -/
theorem Catalogued.written_eq {r : Repository} {run : Run}
    (catalogued : Catalogued r run.opened run.files) : run.written = run.opened :=
  List.filter_eq_self.mpr catalogued.whole

/-! ## The directories that are found -/

/-- A list all elements of which are images is the image of a list. -/
theorem exists_map_eq {α β : Type} {f : β → α} {P : β → Prop} {l : List α}
    (images : ∀ x ∈ l, ∃ y, f y = x ∧ P y) : ∃ ys : List β, ys.map f = l ∧ ∀ y ∈ ys, P y := by
  induction l with
  | nil => exact ⟨[], rfl, by simp⟩
  | cons x rest ih =>
    obtain ⟨y, image, holds⟩ := images x (by simp)
    obtain ⟨ys, whole, all⟩ := ih fun z member => images z (List.mem_cons_of_mem _ member)
    exact ⟨y :: ys, by simp [image, whole], by simpa using ⟨holds, all⟩⟩

namespace Catalogued

variable {r : Repository} {opened : List Opened} {fs : FileSystem} {a : Artifact}

/-- The tracking directory of an artifact that was recorded is there. -/
theorem located (catalogued : Catalogued r opened fs) (absolute : r.base.isAbsolute = true)
    (laidOut : a.IsLaidOut) {o : Opened} (member : o ∈ opened)
    (identity : o.identity = a.identity) :
    fs.locate true (r.trackingOf a) = .ok (.found (r.recordsAt a) .directory) := by
  obtain ⟨last, found⟩ := exists_lastOpened?_iff.mpr ⟨o, member, identity, rfl⟩
  obtain ⟨_, _, located⟩ := catalogued.faithful.held a laidOut o.name last found
  exact Repository.located_tracking catalogued.faithful.linkFree absolute laidOut located

/-- The base directory is at the place that its path spells. -/
theorem base_located (catalogued : Catalogued r opened fs) (absolute : r.base.isAbsolute = true) :
    fs.locate true r.base = .ok (.found r.place .directory) := by
  obtain ⟨place, located⟩ := FileSystem.isDirectory_eq_true_iff.mp catalogued.base
  obtain ⟨_, _, leads⟩ := FileSystem.locate_eq_ok_iff.mp located
  have spelled := leads.place_eq catalogued.faithful.linkFree
  rw [FileSystem.start, if_pos absolute] at spelled
  have same : place = r.place := spelled
  rw [← same]
  exact located

/-- There is a tracking directory where an artifact was recorded, and nowhere else. -/
theorem tracking_iff (catalogued : Catalogued r opened fs) (absolute : r.base.isAbsolute = true)
    {parts : List String} :
    (∃ names ∈ fs.directoriesFrom r.place, parts = names ++ [trackingName] ∧
        fs.isDirectory { r.base with parts := r.base.parts ++ (names ++ [trackingName]) } =
          .ok true) ↔
      ∃ a : Artifact, a.IsListed ∧ a.directories ++ [trackingName] = parts ∧
        ∃ o ∈ opened, o.identity = a.identity := by
  have linkFree := catalogued.faithful.linkFree
  obtain ⟨_, _, base⟩ := FileSystem.locate_eq_ok_iff.mp (catalogued.base_located absolute)
  have listing : ∀ key, key ∈ fs.directoriesFrom r.place ↔
      fs.lookup (r.place ++ key) = some .directory := fun key =>
    catalogued.tree.mem_directoriesFrom base.lookup_found
  constructor
  · rintro ⟨names, member, rfl, there⟩
    obtain ⟨place, located⟩ := FileSystem.isDirectory_eq_true_iff.mp there
    obtain ⟨_, _, leads⟩ := FileSystem.locate_eq_ok_iff.mp located
    have plain : ∀ name ∈ names ++ [trackingName], Path.isIdle name = false ∧ name ≠ ".." := by
      intro name inside
      rcases List.mem_append.mp inside with below | tracking
      · have proper := catalogued.tree.isName ((listing names).mp member)
          (List.mem_append_right _ below)
        exact ⟨proper.notIdle, proper.notUp⟩
      · rw [List.mem_singleton.mp tracking]
        decide
    have spelled := leads.place_eq linkFree
    rw [FileSystem.start, if_pos (by exact absolute), FileSystem.spell_append,
      FileSystem.spell_names plain] at spelled
    have held := leads.lookup_found
    rw [show place = _ from spelled] at held
    obtain ⟨a, listed, rfl, opened⟩ := catalogued.tracked names _ held
    exact ⟨a, listed, rfl, opened⟩
  · rintro ⟨a, listed, rfl, o, member, identity⟩
    have located := catalogued.located absolute listed.laidOut member identity
    obtain ⟨_, _, leads⟩ := FileSystem.locate_eq_ok_iff.mp located
    refine ⟨a.directories, (listing _).mpr ?_, rfl, ?_⟩
    · exact catalogued.tree.parents _ _ _ leads.lookup_found
    · rw [Repository.trackingOf_eq listed.laidOut, List.append_assoc] at located
      exact FileSystem.isDirectory_eq_true_iff.mpr ⟨_, located⟩

/-- The sorted parts of the tracking directories come from artifacts, one for each that was
recorded. -/
theorem exists_found (catalogued : Catalogued r opened fs) {sorted : List (List String)}
    (increasing : sorted.Pairwise (· < ·))
    (members : ∀ parts, parts ∈ sorted ↔ ∃ a : Artifact, a.IsListed ∧
      a.directories ++ [trackingName] = parts ∧ ∃ o ∈ opened, o.identity = a.identity) :
    ∃ found : List Artifact,
      (sorted.map fun parts => { r.base with parts := r.base.parts ++ parts }) =
        found.map r.trackingOf ∧
      (∀ a ∈ found, a.IsListed) ∧
      found.Pairwise (fun a b => (r.trackingOf a).parts < (r.trackingOf b).parts) ∧
      ∀ identity, (∃ a ∈ found, a.identity = identity) ↔ ∃ o ∈ opened, o.identity = identity := by
  have images : ∀ parts ∈ sorted,
      ∃ a : Artifact, a.directories ++ [trackingName] = parts ∧ a.IsListed := by
    intro parts member
    obtain ⟨a, listed, same, _⟩ := (members parts).mp member
    exact ⟨a, same, listed⟩
  obtain ⟨found, rfl, listed⟩ := exists_map_eq images
  have tracking : ∀ a ∈ found, r.trackingOf a =
      { r.base with parts := r.base.parts ++ (a.directories ++ [trackingName]) } := by
    intro a member
    rw [Repository.trackingOf_eq (listed a member).laidOut, List.append_assoc]
  refine ⟨found, ?_, listed, ?_, fun identity => ⟨?_, ?_⟩⟩
  · rw [List.map_map]
    exact List.map_congr_left fun a member => (tracking a member).symm
  · rw [List.pairwise_map] at increasing
    refine increasing.imp_of_mem fun first second below => ?_
    rw [tracking _ first, tracking _ second]
    exact List.append_left_lt below
  · rintro ⟨a, member, rfl⟩
    obtain ⟨b, _, same, o, opened, identity⟩ :=
      (members _).mp (List.mem_map.mpr ⟨a, member, rfl⟩)
    refine ⟨o, opened, identity.trans ?_⟩
    exact Artifact.directories_injective (List.append_cancel_right same)
  · rintro ⟨o, member, rfl⟩
    obtain ⟨a, listed, identity⟩ := catalogued.named o member
    have inside := (members _).mpr ⟨a, listed, rfl, o, member, identity.symm⟩
    obtain ⟨b, held, same⟩ := List.mem_map.mp inside
    refine ⟨b, held, ?_⟩
    rw [← identity]
    exact Artifact.directories_injective (List.append_cancel_right same)

/-- What the search for tracking directories answers: one directory for each artifact that was
recorded, in increasing order, unless some directory lies too deep to be asked about. -/
theorem trackedDirectories_cases (catalogued : Catalogued r opened fs)
    (absolute : r.base.isAbsolute = true) :
    (∃ names path, fs.lookup (r.place ++ names) = some .directory ∧
        path = { r.base with parts := r.base.parts ++ (names ++ [trackingName]) } ∧
        trackedDirectories fs r.base = .error (.file (.refused .nameTooLong path)) ∧
        ¬path.Fits) ∨
      ∃ found : List Artifact,
        trackedDirectories fs r.base = .ok (found.map r.trackingOf) ∧
        (∀ a ∈ found, a.IsListed) ∧
        found.Pairwise (fun a b => (r.trackingOf a).parts < (r.trackingOf b).parts) ∧
        ∀ identity, (∃ a ∈ found, a.identity = identity) ↔
          ∃ o ∈ opened, o.identity = identity := by
  have located := catalogued.base_located absolute
  obtain ⟨_, _, base⟩ := FileSystem.locate_eq_ok_iff.mp located
  rcases Provenance.trackedDirectories_cases (FileSystem.directory?_eq_some_iff.mpr located) with
    ⟨names, member, e, refused, searched⟩ | ⟨sorted, searched, -, members, increasing⟩
  · obtain ⟨rfl, refuses⟩ := FileSystem.isDirectory_eq_error_iff.mp refused
    exact .inl ⟨names, _, (catalogued.tree.mem_directoriesFrom base.lookup_found).mp member, rfl,
      searched, refuses.not_fits catalogued.faithful.linkFree⟩
  · obtain ⟨found, same, listed, ordered, recorded⟩ :=
      catalogued.exists_found (increasing catalogued.tree.unique) fun parts =>
        (members parts).trans (catalogued.tracking_iff absolute)
    exact .inr ⟨found, searched.trans (congrArg Except.ok same), listed, ordered, recorded⟩

end Catalogued

end Provenance
