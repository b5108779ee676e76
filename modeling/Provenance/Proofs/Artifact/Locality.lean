import Provenance.Proofs.Path
import Provenance.Tracking.Listener

/-!
Which files count as lying in a repository. The listener compares the texts of normalized paths;
what is meant are their components. The two differ for exactly three kinds of pairs
(`Path.Strays`), of which a sibling whose name continues that of the base directory is the one that
matters (`accepts_iff_within`).
-/
namespace Provenance

namespace Path

/-- The components of a path: its root, if it has one, and its parts. -/
def components (p : Path) : List String :=
  (if p.root = .relative then [] else [p.root.text]) ++ p.parts

/-- After normalization, the components of `base` come first among those of `p`. -/
def Within (p base : Path) : Prop := base.normalize.components <+: p.normalize.components

instance (p base : Path) : Decidable (p.Within base) :=
  inferInstanceAs (Decidable (_ <+: _))

/-- The pairs of paths whose texts do not tell what their components say: a path that does not
begin with a dot, with `.` as the base, a path below two slashes, with one slash as the base, and a
sibling of the base, or what lies in it, whose name continues the last name of the base. -/
def Strays (p base : Path) : Prop :=
  (base.normalize = ⟨.relative, []⟩ ∧ p.normalize.text.toList.head? ≠ some '.') ∨
    (base.normalize = ⟨.slash, []⟩ ∧ p.root = .doubleSlash) ∨
    (p.root = base.root ∧ ∃ above last name rest, base.normalize.parts = above ++ [last] ∧
      p.normalize.parts = above ++ name :: rest ∧ last ≠ name ∧ last.toList <+: name.toList)

theorem pushPart_subset {rooted : Bool} {resolved : List String} {part other : String}
    (member : other ∈ pushPart rooted resolved part) : other ∈ resolved ∨ other = part := by
  unfold pushPart at member
  split at member
  · rename_i up
    split at member
    · split at member
      · cases member
      · exact .inr (by rw [List.mem_singleton.mp member, up])
    · split at member
      · rcases List.mem_cons.mp member with rfl | old
        · exact .inr up.symm
        · exact .inl old
      · exact .inl (List.mem_cons_of_mem _ member)
  · exact (List.mem_cons.mp member).symm

/-- Normalization only keeps parts. -/
theorem normalize_subset (p : Path) : p.normalize.parts ⊆ p.parts := by
  have folded : ∀ (parts resolved : List String) (part : String),
      part ∈ parts.foldl (pushPart p.isAbsolute) resolved → part ∈ resolved ∨ part ∈ parts := by
    intro parts
    induction parts with
    | nil => exact fun resolved part member => .inl member
    | cons first rest ih =>
      intro resolved part member
      rcases ih _ part member with pushed | later
      · rcases pushPart_subset pushed with old | rfl
        · exact .inl old
        · exact .inr (by simp)
      · exact .inr (List.mem_cons_of_mem _ later)
  intro part member
  rcases folded p.parts [] part (List.mem_reverse.mp member) with none | held
  · cases none
  · exact held

theorem Proper.normalize {p : Path} (proper : p.Proper) : p.normalize.Proper :=
  fun part member => proper part (normalize_subset p member)

theorem IsPart.toList_ne_nil {s : String} (part : IsPart s) : s.toList ≠ [] := by
  intro empty
  have idle := part.notIdle
  simp [isIdle, String.toList_eq_nil_iff.mp empty] at idle

/-- The text of the parts is empty or begins with another character than a slash. -/
theorem joined_cases {p : Path} (proper : p.Proper) :
    (p.parts = [] ∧ Text.joinWith '/' (p.parts.map String.toList) = []) ∨
      (p.parts ≠ [] ∧ ∃ c rest, c ≠ '/' ∧
        Text.joinWith '/' (p.parts.map String.toList) = c :: rest) := by
  cases parts : p.parts with
  | nil => exact .inl ⟨rfl, rfl⟩
  | cons first rest =>
    have part : IsPart first := proper first (by simp [parts])
    refine .inr ⟨by simp, ?_⟩
    cases chars : first.toList with
    | nil => exact absurd chars part.toList_ne_nil
    | cons c more =>
      have other : c ≠ '/' := by
        rintro rfl
        exact part.noSlash (by simp [chars])
      have continued : first.toList <+: Text.joinWith '/' ((first :: rest).map String.toList) :=
        Text.joinWith_begins [first.toList] (rest.map String.toList)
      obtain ⟨tail, whole⟩ := continued
      exact ⟨c, more ++ tail, other, by rw [← whole, chars]; rfl⟩

theorem joined_start {p : Path} (proper : p.Proper) :
    (Text.joinWith '/' (p.parts.map String.toList)).head? ≠ some '/' := by
  rcases joined_cases proper with ⟨_, empty⟩ | ⟨_, c, rest, other, joined⟩
  · simp [empty]
  · simp [joined, other]

theorem empty_or_written (p : Path) :
    p = ⟨.relative, []⟩ ∨ p.root ≠ .relative ∨ p.parts ≠ [] := by
  rcases p with ⟨root, parts⟩
  cases root <;> cases parts <;> simp

/-- Only the empty path is not written as its root and its parts. -/
theorem text_toList {p : Path} (written : p.root ≠ .relative ∨ p.parts ≠ []) :
    p.text.toList = p.root.text.toList ++ Text.joinWith '/' (p.parts.map String.toList) := by
  have other : ¬(p.root = .relative ∧ p.parts = []) := by
    rintro ⟨relative, empty⟩
    exact written.elim (· relative) (· empty)
  simp [text, other, Text.ofFields]

/-- A text that goes on after a root begins another one if and only if both have that root. -/
theorem rooted_begins_iff {root root' : Root} {c : Char} {s t : List Char} (other : c ≠ '/')
    (start : t.head? ≠ some '/') :
    root.text.toList ++ c :: s <+: root'.text.toList ++ t ↔ root' = root ∧ c :: s <+: t := by
  cases t with
  | nil => cases root <;> cases root' <;> simp [Root.text, List.cons_prefix_cons, other]
  | cons d t =>
    have other' : d ≠ '/' := by simpa using start
    cases root <;> cases root' <;> simp [Root.text, List.cons_prefix_cons, other, other'.symm]

theorem joined_begins_iff {p base : Path} (proper : p.Proper) (proper' : base.Proper)
    (below : base.parts ≠ []) :
    Text.joinWith '/' (base.parts.map String.toList) <+:
        Text.joinWith '/' (p.parts.map String.toList) ↔
      ∃ above last name rest, base.parts = above ++ [last] ∧ p.parts = above ++ name :: rest ∧
        last.toList <+: name.toList := by
  have filled : ∀ field ∈ base.parts.map String.toList, field ≠ [] := by
    intro field member
    obtain ⟨part, held, rfl⟩ := List.mem_map.mp member
    exact (proper' part held).toList_ne_nil
  have absent : ∀ {q : Path}, q.Proper → ∀ field ∈ q.parts.map String.toList, '/' ∉ field := by
    intro q clean field member
    obtain ⟨part, held, rfl⟩ := List.mem_map.mp member
    exact (clean part held).noSlash
  rw [Text.joinWith_begins_iff (by simpa using below) filled (absent proper') (absent proper)]
  constructor
  · rintro ⟨above, last, name, rest, whole, split, begins⟩
    obtain ⟨parts, ends, inside, rfl, single⟩ := List.map_eq_append_iff.mp whole
    obtain ⟨part, rfl, rfl⟩ := List.map_eq_singleton_iff.mp single
    obtain ⟨parts', tail, inside', same, later⟩ := List.map_eq_append_iff.mp split
    obtain ⟨part', rest', rfl, rfl, -⟩ := List.map_eq_cons_iff.mp later
    have equal : parts' = parts := (List.map_inj_right fun s t => String.toList_inj.mp).mp same
    exact ⟨parts, part, part', rest', inside, by rw [inside', equal], begins⟩
  · rintro ⟨above, last, name, rest, whole, split, begins⟩
    exact ⟨above.map String.toList, last.toList, name.toList, rest.map String.toList,
      by simp [whole], by simp [split], begins⟩

/-- No parts are written as one dot. -/
theorem joined_ne_dot {p : Path} (proper : p.Proper) (below : p.parts ≠ []) :
    Text.joinWith '/' (p.parts.map String.toList) ≠ ['.'] := by
  intro dot
  have read : Text.fieldsOf '/' (Text.ofFields '/' p.parts) = p.parts :=
    Text.fieldsOf_ofFields below fun part member => (proper part member).noSlash
  rw [Text.ofFields, dot] at read
  have idle := (proper "." (by rw [← read]; decide)).notIdle
  exact absurd idle (by decide)

/-- When the text of a path that names something begins another text. -/
theorem text_begins_iff {p base : Path} (proper : p.Proper) (proper' : base.Proper)
    (below : base.parts ≠ []) :
    base.text.toList <+: p.text.toList ↔ p.root = base.root ∧
      ∃ above last name rest, base.parts = above ++ [last] ∧ p.parts = above ++ name :: rest ∧
        last.toList <+: name.toList := by
  rw [← joined_begins_iff proper proper' below, text_toList (.inr below)]
  rcases joined_cases proper' with ⟨empty, _⟩ | ⟨_, c, rest, other, joined⟩
  · exact absurd empty below
  rcases p.empty_or_written with rfl | written
  · have alone := joined ▸ joined_ne_dot proper' below
    have short : ¬base.root.text.toList ++ c :: rest <+: ['.'] := by
      cases base.root <;> simp_all [Root.text, List.cons_prefix_cons]
    simpa [text, Text.joinWith, joined] using short
  · rw [text_toList written, joined, rooted_begins_iff other (joined_start proper)]

/-- When the text of a path that is only a root begins another text. -/
theorem root_begins_iff {p : Path} (proper : p.Proper) {root : Root} (rooted : root ≠ .relative) :
    (⟨root, []⟩ : Path).text.toList <+: p.text.toList ↔
      p.root = root ∨ root = .slash ∧ p.root = .doubleSlash := by
  rw [text_toList (.inl rooted)]
  rcases p.empty_or_written with rfl | written
  · cases root <;> simp_all [text, Root.text, Text.joinWith, List.cons_prefix_cons]
  · rw [text_toList written]
    have start := joined_start proper
    cases joined : Text.joinWith '/' (p.parts.map String.toList) with
    | nil =>
      cases root <;> cases p.root <;> simp_all [Root.text, Text.joinWith, List.cons_prefix_cons]
    | cons c rest =>
      have other : c ≠ '/' := by simpa [joined] using start
      cases root <;> cases p.root <;>
        simp_all [Root.text, Text.joinWith, List.cons_prefix_cons, other.symm]

/-- No root is a part. -/
theorem Proper.root_notMem {p : Path} (proper : p.Proper) {root : Root}
    (rooted : root ≠ .relative) : root.text ∉ p.parts := by
  intro member
  have noSlash := (proper root.text member).noSlash
  cases root with
  | relative => exact rooted rfl
  | slash => exact noSlash (by decide)
  | doubleSlash => exact noSlash (by decide)

/-- The components tell the root of a path and its parts apart. -/
theorem components_begins_iff {p base : Path} (proper : p.Proper) (proper' : base.Proper)
    (written : base.root ≠ .relative ∨ base.parts ≠ []) :
    base.components <+: p.components ↔ p.root = base.root ∧ base.parts <+: p.parts := by
  unfold components
  by_cases rooted : base.root = .relative
  · by_cases rooted' : p.root = .relative
    · simp [rooted, rooted']
    · cases parts : base.parts with
      | nil => simp [rooted, parts] at written
      | cons first rest =>
        have apart : first ≠ p.root.text := fun same =>
          proper'.root_notMem rooted' (by rw [parts, same]; exact List.mem_cons_self)
        simp [rooted, rooted', List.cons_prefix_cons, apart]
  · by_cases rooted' : p.root = .relative
    · have apart : ¬base.root.text :: base.parts <+: p.parts := fun begins =>
        proper.root_notMem rooted (begins.subset (by simp))
      simp [rooted, rooted', apart, Ne.symm rooted]
    · have told : base.root.text = p.root.text ↔ p.root = base.root := by
        cases base.root <;> cases p.root <;> decide
      simp [rooted, rooted', List.cons_prefix_cons, told]

/-- Parts that all agree do so up to the last one. -/
theorem begins_iff_last {parts more : List String} (below : parts ≠ []) :
    parts <+: more ↔
      ∃ above last rest, parts = above ++ [last] ∧ more = above ++ last :: rest := by
  constructor
  · rintro ⟨rest, rfl⟩
    have whole := List.dropLast_concat_getLast below
    refine ⟨parts.dropLast, parts.getLast below, rest, whole.symm, ?_⟩
    rw [← List.singleton_append, ← List.append_assoc, whole]
  · rintro ⟨above, last, rest, rfl, rfl⟩
    exact ⟨rest, by simp⟩

/-- A path that is only a root, or empty, is told from its text but in two cases. -/
theorem root_tells_iff {p : Path} (proper : p.Proper) (root : Root) :
    ((⟨root, []⟩ : Path).text.toList <+: p.text.toList ↔
        (⟨root, []⟩ : Path).components <+: p.components) ↔
      ¬(root = .relative ∧ p.text.toList.head? ≠ some '.' ∨
        root = .slash ∧ p.root = .doubleSlash) := by
  by_cases rooted : root = .relative
  · subst rooted
    have dot : (⟨.relative, []⟩ : Path).text.toList <+: p.text.toList ↔
        p.text.toList.head? = some '.' := by
      have single : (⟨.relative, []⟩ : Path).text.toList = ['.'] := rfl
      rw [single]
      cases p.text.toList with
      | nil => simp
      | cons c rest => simp [List.cons_prefix_cons, eq_comm]
    simp [dot, components]
  · have empty : (⟨root, []⟩ : Path).Proper := fun part member => nomatch member
    rw [root_begins_iff proper rooted, components_begins_iff proper empty (.inl rooted)]
    cases root <;> cases p.root <;> simp_all

/-- A path that names something is told from its text but for names that continue its last one. -/
theorem below_tells_iff {p base : Path} (proper : p.Proper) (proper' : base.Proper)
    (below : base.parts ≠ []) :
    (base.text.toList <+: p.text.toList ↔ base.components <+: p.components) ↔
      ¬(p.root = base.root ∧ ∃ above last name rest, base.parts = above ++ [last] ∧
        p.parts = above ++ name :: rest ∧ last ≠ name ∧ last.toList <+: name.toList) := by
  rw [text_begins_iff proper proper' below, components_begins_iff proper proper' (.inr below),
    begins_iff_last below]
  constructor
  · rintro same ⟨equal, above, last, name, rest, whole, split, other, begins⟩
    obtain ⟨-, above', last', rest', whole', split'⟩ :=
      same.mp ⟨equal, above, last, name, rest, whole, split, begins⟩
    obtain ⟨rfl, ends⟩ := List.append_inj' (whole.symm.trans whole') rfl
    rw [split, List.append_cancel_left_eq] at split'
    exact other ((List.cons.inj ends).1.trans (List.cons.inj split').1.symm)
  · intro calm
    constructor
    · rintro ⟨equal, above, last, name, rest, whole, split, begins⟩
      by_cases same : last = name
      · exact ⟨equal, above, last, rest, whole, by rw [split, same]⟩
      · exact absurd ⟨equal, above, last, name, rest, whole, split, same, begins⟩ calm
    · rintro ⟨equal, above, last, rest, whole, split⟩
      exact ⟨equal, above, last, last, rest, whole, split, List.prefix_refl _⟩

/-- The texts of two paths tell whether the one lies within the other, but for pairs that stray. -/
theorem startsAt_iff_within {p base : Path} (proper : p.Proper) (proper' : base.Proper) :
    (p.startsAt base = true ↔ p.Within base) ↔ ¬p.Strays base := by
  have root : p.normalize.root = p.root := rfl
  have root' : base.normalize.root = base.root := rfl
  unfold startsAt Within Strays
  rw [List.isPrefixOf_iff_prefix]
  by_cases below : base.normalize.parts = []
  · have bare : base.normalize = ⟨base.root, []⟩ := by rw [← below, ← root']
    rw [bare, root_tells_iff proper.normalize, root]
    simp
  · have named : ∀ root, base.normalize ≠ ⟨root, []⟩ := fun root bare => below (by rw [bare])
    rw [below_tells_iff proper.normalize proper'.normalize below, root, root']
    simp [named]

end Path

theorem ofPersisted_ne_skipped (artifact : Artifact) (lines : List Wording)
    (effect : Effect (Except Failure Persisted)) (reason : SkipReason) :
    (Outcome.ofPersisted artifact lines effect).answer ≠ .ok (.skipped reason) := by
  unfold Outcome.ofPersisted
  split <;> simp

/-- An event about a file is passed over, and leaves the files alone, if and only if one of the
questions of the filter is answered no. -/
theorem record_skips_iff {filter : Filter} {disk : Disk} {files : FileSystem} {event : Event}
    {file : Path} (held : event.artifact.file = some file) :
    (∃ reason, (record filter disk files event).answer = .ok (.skipped reason)) ∧
        (record filter disk files event).files = files ↔
      filter.accepts event = false ∨ ∀ step, event.trace.nearestStep? = some step →
        filter.acceptsStep event step = false := by
  unfold record
  cases accepted : filter.accepts event with
  | false => simp [Outcome.skip]
  | true =>
    cases found : event.trace.nearestStep? with
    | none => simp [Outcome.skip]
    | some step =>
      cases same : filter.acceptsStep event step with
      | false => simp [same, Outcome.skip]
      | true => simp [held, same, ofPersisted_ne_skipped]

/-- The files that the listener acts on are those within the base directory of the repository,
unless a pair of paths strays; and it acts on a file outside if and only if they do and the event is
about the node of its step. -/
theorem accepts_iff_within {event : Event} {file : Path} (held : event.artifact.file = some file)
    (proper : file.Proper) (proper' : event.repository.base.Proper) :
    ((Filter.standard.accepts event = true ↔ file.Within event.repository.base) ↔
        ¬file.Strays event.repository.base) ∧
      (¬file.Within event.repository.base → ∀ disk files,
        ((∃ reason, (record .standard disk files event).answer = .ok (.skipped reason)) ∧
            (record .standard disk files event).files = files ↔
          ¬file.Strays event.repository.base ∨ ∀ step, event.trace.nearestStep? = some step →
            event.artifact.identity ≠ step.node.artifact.identity)) := by
  have accepted : Filter.standard.accepts event = file.startsAt event.repository.base := by
    simp [Filter.standard, Repository.holds, held]
  have told := Path.startsAt_iff_within proper proper'
  rw [accepted]
  refine ⟨told, fun outside disk files => ?_⟩
  rw [record_skips_iff held, accepted]
  have strays : file.startsAt event.repository.base = false ↔
      ¬file.Strays event.repository.base := by
    rw [← told]
    simp [outside]
  simp [strays, Filter.standard]

/-- A library that lies anywhere, resolved in a session on `/repo`. -/
def eventAt (file : Path) : Event :=
  let app : Artifact := { group := "com.x", name := "app", version := "1.0" }
  let lib : Artifact := { group := "com.x", name := "lib", version := "2.0", file := some file }
  { kind := .artifactResolved
    repository := ⟨.ofText "/repo"⟩
    artifact := lib
    trace := [some (.collect ⟨"project", [⟨app, "compile"⟩], ⟨lib, "compile"⟩⟩)] }

theorem project_skipped :
    (∃ reason, (record .standard .ample ⟨[], []⟩ (eventAt (.ofText "/project/lib.jar"))).answer =
        .ok (.skipped reason)) ∧
      (record .standard .ample ⟨[], []⟩ (eventAt (.ofText "/project/lib.jar"))).files =
        ⟨[], []⟩ := by
  have held : (eventAt (.ofText "/project/lib.jar")).artifact.file =
      some (.ofText "/project/lib.jar") := rfl
  have told := accepts_iff_within held (Path.ofText_proper _) (Path.ofText_proper _)
  have calm := told.1.mp (by decide)
  exact (told.2 (by decide) .ample ⟨[], []⟩).mpr (.inl calm)

/-- A directory beside the base whose name continues that of the base counts as the repository. -/
theorem neighbour_accepted :
    let event := eventAt (.ofText "/repo2/lib.jar")
    ¬(Filter.standard.accepts event = true ↔
      (Path.ofText "/repo2/lib.jar").Within event.repository.base) := by
  decide

end Provenance
