import Mathlib.Data.List.Forall2
import Provenance.Proofs.Artifact.Layout
import Provenance.Proofs.Tracking.Writing

/-!
When the records of two request roots get into each other's way. The name of a record does not tell
colons from underscores (`fileName_eq_iff`), and the later of two writes beside one artifact
replaces the earlier one if and only if both paths lead to one place (`read_after_writes`).
-/
namespace Provenance

/-- Characters that the name of a record does not tell apart. -/
def Text.Alike (c d : Char) : Prop := c = d ∨ (c = ':' ∧ d = '_') ∨ (c = '_' ∧ d = ':')

instance (c d : Char) : Decidable (Text.Alike c d) :=
  inferInstanceAs (Decidable (_ ∨ _))

theorem Text.exchange_eq_iff (c d : Char) :
    (if c = ':' then '_' else c) = (if d = ':' then '_' else d) ↔ Text.Alike c d := by
  unfold Text.Alike
  by_cases first : c = ':'
  · by_cases second : d = ':'
    · simp [first, second]
    · simp [first, second, eq_comm]
  · by_cases second : d = ':'
    · simp [first, second]
    · simp [first, second]

/-- Two roots have one name if and only if their texts agree but for colons and underscores. -/
theorem fileName_eq_iff {a b : RequestRoot} :
    a.fileName = b.fileName ↔ List.Forall₂ Text.Alike a.text.toList b.text.toList := by
  unfold RequestRoot.fileName Text.exchange
  rw [← String.toList_inj, String.toList_ofList, String.toList_ofList, ← List.forall₂_eq_eq_eq,
    List.forall₂_map_left_iff, List.forall₂_map_right_iff]
  simp only [Text.exchange_eq_iff]

namespace FileSystem

/-- The working directory is no symbolic link. -/
def StartsAtNoLink (fs : FileSystem) : Prop :=
  ∀ target, fs.lookup fs.working ≠ some (.link target)

theorem StartsAtNoLink.grows {allowed : Location → Prop} {before after : FileSystem}
    (begins : before.StartsAtNoLink) (grown : Grows allowed before after) :
    after.StartsAtNoLink := by
  intro target link
  rw [grown.extends.working] at link
  rcases grown.lookup before.working with same | ⟨_, there, _⟩
  · rw [same] at link
    exact begins target link
  · rw [there] at link
    cases link

theorem StartsAtNoLink.set {fs : FileSystem} (begins : fs.StartsAtNoLink) {place : Location}
    (below : place ≠ []) (bytes : List UInt8) : (fs.set place (.file bytes)).StartsAtNoLink := by
  intro target link
  have working : (fs.set place (.file bytes)).working = fs.working := rfl
  rw [working] at link
  by_cases same : fs.working = place
  · rw [same, lookup_set_self fs _ below] at link
    cases link
  · rw [lookup_set_of_ne _ same] at link
    exact begins target link

end FileSystem

open FileSystem

/-- A write that goes well puts the bytes where the path of the record leads. -/
theorem persist_eq_set {disk : Disk} {files : FileSystem} (tree : files.IsTree)
    (begins : files.StartsAtNoLink)
    {file path : Path} {root : RequestRoot} {lines : List Wording}
    (well : (persist disk files file root lines).answer = .ok ⟨path, none⟩) :
    ∃ grown place, Grows (fun _ => True) files grown ∧ place ≠ [] ∧
      (persist disk files file root lines).files = grown.set place (.file (Record.bytes lines)) ∧
      grown.Extends (grown.set place (.file (Record.bytes lines))) ∧
      (grown.set place (.file (Record.bytes lines))).locate true (recordPath file root) =
        .ok (.found place (.file (Record.bytes lines))) := by
  have grows : Grows (fun _ => True) files
      (files.makeDirectories disk (recordPath file root).parent).2 :=
    files.makeDirectories_grows _ fun _ _ _ _ _ _ _ => trivial
  have follows := (grows.isTree tree).followsLinks (begins.grows grows)
  obtain ⟨grown, place, made, left, -, room, kept, located⟩ := persist_steps follows well
  rw [made] at grows
  refine ⟨grown, place, grows, ?_, left, kept, located⟩
  rintro rfl
  exact room (lookup_root grown)

/-- After two writes that go well, the record of the first root holds what the second write left if
both paths lead to one place, and what the first one left if not. -/
theorem read_after_writes {disk : Disk} {files : FileSystem} (tree : files.IsTree)
    (begins : files.StartsAtNoLink) {file pathA pathB : Path} {a b : RequestRoot}
    {linesA linesB : List Wording}
    (first : (persist disk files file a linesA).answer = .ok ⟨pathA, none⟩)
    (second : (persist disk (persist disk files file a linesA).files file b linesB).answer =
      .ok ⟨pathB, none⟩) :
    ∃ placeA placeB bytesA bytesB,
      (persist disk (persist disk files file a linesA).files file b linesB).files.locate true
          (recordPath file a) = .ok (.found placeA (.file bytesA)) ∧
      (persist disk (persist disk files file a linesA).files file b linesB).files.locate true
          (recordPath file b) = .ok (.found placeB (.file bytesB)) ∧
      bytesB = Record.bytes linesB ∧
      bytesA = if placeA = placeB then Record.bytes linesB else Record.bytes linesA := by
  obtain ⟨grown, placeA, grows, below, left, _, located⟩ := persist_eq_set tree begins first
  have middle := isTree_persist tree disk file a linesA
  have starts : (persist disk files file a linesA).files.StartsAtNoLink := by
    rw [left]
    exact (begins.grows grows).set below _
  obtain ⟨later, placeB, more, other, done, kept, found⟩ := persist_eq_set middle starts second
  rw [← left] at located
  obtain ⟨entry, held, there⟩ := locate_extends kept (more.locate located)
  rw [done]
  by_cases same : placeA = placeB
  · subst same
    rw [lookup_set_self _ _ other] at held
    cases held
    exact ⟨placeA, placeA, _, _, there, found, rfl, by rw [if_pos rfl]⟩
  · obtain ⟨_, _, leads⟩ := locate_eq_ok_iff.mp (more.locate located)
    rw [lookup_set_of_ne _ same, leads.lookup_found] at held
    cases held
    exact ⟨placeA, placeB, _, _, there, found, rfl, by rw [if_neg same]⟩

/-- Where there are no symbolic links, the records of two artifacts lie in one place if and only if
they have one name. -/
theorem places_eq_iff {fs : FileSystem} (linkFree : fs.NoLinks) {file : Path} {a b : Artifact}
    (noSlashA : '/' ∉ a.text.toList) (noSlashB : '/' ∉ b.text.toList)
    {placeA placeB : Location} {entryA entryB : Entry}
    (locatedA : fs.locate true (recordPath file (.artifact a)) = .ok (.found placeA entryA))
    (locatedB : fs.locate true (recordPath file (.artifact b)) = .ok (.found placeB entryB)) :
    placeA = placeB ↔ List.Forall₂ Text.Alike a.text.toList b.text.toList := by
  have spelled : ∀ {c : Artifact} {place : Location} {entry : Entry}, '/' ∉ c.text.toList →
      fs.locate true (recordPath file (.artifact c)) = .ok (.found place entry) →
      place = spell (fs.start (trackingBeside file)) (trackingBeside file).parts ++
        [(RequestRoot.artifact c).fileName] := by
    intro c place entry noSlash located
    obtain ⟨part, notUp, _⟩ := fileName_part (rfl : (RequestRoot.artifact c).text = c.text) noSlash
    rw [recordPath, Path.child_part _ part] at located
    obtain ⟨_, _, leads⟩ := locate_eq_ok_iff.mp located
    have same := leads.place_eq linkFree
    rw [spell_append, spell_names (by simpa using ⟨part.notIdle, notUp⟩)] at same
    exact same
  rw [spelled noSlashA locatedA, spelled noSlashB locatedB, List.append_cancel_left_eq]
  have names := fileName_eq_iff (a := .artifact a) (b := .artifact b)
  simp only [List.cons.injEq, and_true]
  exact names

theorem noLinks_persist {disk : Disk} {files : FileSystem} (linkFree : files.NoLinks)
    (tree : files.IsTree)
    (begins : files.StartsAtNoLink) {file path : Path} {root : RequestRoot} {lines : List Wording}
    (well : (persist disk files file root lines).answer = .ok ⟨path, none⟩) :
    (persist disk files file root lines).files.NoLinks := by
  obtain ⟨grown, place, grows, _, left, _⟩ := persist_eq_set tree begins well
  rw [left]
  exact (grows.noLinks linkFree).set place rfl

/-- The records of two artifacts get into each other's way exactly if their coordinates agree but
for colons and underscores: then they have one name, and the later write replaces the record of the
earlier one. Otherwise the names differ, and the earlier record stays, unless a slash in the
coordinates or a symbolic link leads both writes to one place. -/
theorem records_apart_iff (a b : Artifact) :
    ((RequestRoot.artifact a).fileName = (RequestRoot.artifact b).fileName ↔
        List.Forall₂ Text.Alike a.text.toList b.text.toList) ∧
      ∀ (disk : Disk) (files : FileSystem), files.IsTree → files.StartsAtNoLink →
        ∀ (file pathA pathB : Path) (linesA linesB : List Wording) (middle after : FileSystem),
          (persist disk files file (.artifact a) linesA).files = middle →
          (persist disk files file (.artifact a) linesA).answer = .ok ⟨pathA, none⟩ →
          (persist disk middle file (.artifact b) linesB).files = after →
          (persist disk middle file (.artifact b) linesB).answer = .ok ⟨pathB, none⟩ →
          ∃ placeA placeB entryA entryB,
            after.locate true (recordPath file (.artifact a)) = .ok (.found placeA entryA) ∧
            after.locate true (recordPath file (.artifact b)) = .ok (.found placeB entryB) ∧
            after.read (recordPath file (.artifact a)) =
              .ok (if placeA = placeB then Record.bytes linesB else Record.bytes linesA) ∧
            (files.NoLinks → '/' ∉ a.text.toList → '/' ∉ b.text.toList →
              (placeA = placeB ↔ List.Forall₂ Text.Alike a.text.toList b.text.toList)) := by
  refine ⟨fileName_eq_iff, ?_⟩
  rintro disk files tree begins file pathA pathB linesA linesB _ _ rfl first rfl second
  obtain ⟨placeA, placeB, bytesA, bytesB, locatedA, locatedB, -, bytes⟩ :=
    read_after_writes tree begins first second
  refine ⟨placeA, placeB, _, _, locatedA, locatedB, ?_, fun linkFree noSlashA noSlashB => ?_⟩
  · rw [← bytes]
    exact read_eq_ok_iff.mpr ⟨placeA, locatedA⟩
  · obtain ⟨_, _, grows, below, left, _⟩ := persist_eq_set tree begins first
    have starts : (persist disk files file (.artifact a) linesA).files.StartsAtNoLink := by
      rw [left]
      exact (begins.grows grows).set below _
    have once := noLinks_persist linkFree tree begins first
    have twice := noLinks_persist once (isTree_persist tree disk _ _ _) starts second
    exact places_eq_iff twice noSlashA noSlashB locatedA locatedB

/-- Different coordinates, as they are read from their texts, with one name. -/
theorem fileName_shared :
    ∃ a b, Artifact.parse "g:a:1_x" = some a ∧ Artifact.parse "g:a:1:x" = some b ∧
      a.text ≠ b.text ∧
      (RequestRoot.artifact a).fileName = (RequestRoot.artifact b).fileName :=
  ⟨{ group := "g", name := "a", version := "1_x" },
    { group := "g", name := "a", version := "1", extension := "x" }, by decide⟩

/-- The second of two writes beside `/lib.jar` replaces the record of the first one. -/
theorem record_replaced :
    let a : Artifact := { group := "g", name := "a", version := "1_x" }
    let b : Artifact := { group := "g", name := "a", version := "1", extension := "x" }
    let file : Path := ⟨.slash, ["lib.jar"]⟩
    let middle := (persist .ample ⟨[], []⟩ file (.artifact a) ["one"]).files
    let after := (persist .ample middle file (.artifact b) ["two"]).files
    after.read (recordPath file (.artifact a)) = .ok (Record.bytes ["two"]) := by
  intro a b file middle after
  have left : (persist .ample ⟨[], []⟩ file (.artifact a) ["one"]).files = middle := rfl
  have done : (persist .ample middle file (.artifact b) ["two"]).files = after := rfl
  clear_value middle after
  have tree := isTree_empty []
  have linkFree : (⟨[], []⟩ : FileSystem).NoLinks := by decide
  have begins : (⟨[], []⟩ : FileSystem).StartsAtNoLink := by
    intro target link
    cases link
  have targetA : recordPath file (.artifact a) = ⟨.slash, [".tracking", "g_a_1_x"]⟩ := by decide
  have targetB : recordPath file (.artifact b) = ⟨.slash, [".tracking", "g_a_1_x"]⟩ := by decide
  have name : IsName "g_a_1_x" := by decide
  have first : (persist .ample ⟨[], []⟩ file (.artifact a) ["one"]).answer =
      .ok ⟨recordPath file (.artifact a), none⟩ := by
    refine persist_succeeds tree linkFree (by decide) ?_ ?_ name ?_ ?_ ?_ <;>
      rw [targetA] <;> decide
  have grown := isTree_persist tree .ample file (.artifact a) ["one"]
  have still := noLinks_persist linkFree tree begins first
  rw [left] at grown still
  have taken : ∃ bytes, middle.lookup [".tracking", "g_a_1_x"] = some (.file bytes) := by
    obtain ⟨_, place, _, _, written, _, located⟩ := persist_eq_set tree begins first
    rw [← written, left, targetA] at located
    obtain ⟨_, _, leads⟩ := locate_eq_ok_iff.mp located
    have same : place = [".tracking", "g_a_1_x"] := leads.place_eq still
    exact ⟨_, by rw [← same]; exact leads.lookup_found⟩
  obtain ⟨bytes, taken⟩ := taken
  have second : (persist .ample middle file (.artifact b) ["two"]).answer =
      .ok ⟨recordPath file (.artifact b), none⟩ := by
    have tracking : middle.lookup [".tracking"] = some .directory :=
      grown.parents [".tracking"] "g_a_1_x" _ taken
    refine persist_succeeds grown still (by decide) ?_ ?_ name ?_ ?_ ?_ <;> rw [targetB]
    · refine ⟨by decide, by decide, by decide, by decide, fun above prior => ?_⟩
      have short : above <+: [".tracking"] := prior
      rcases List.prefix_cons_iff.mp short with rfl | ⟨rest, rfl, nothing⟩
      · exact .inr (lookup_root middle)
      · rw [List.prefix_nil.mp nothing]
        exact .inr tracking
    · decide
    · decide
    · decide
    · rw [taken]
      simp
  have shared : List.Forall₂ Text.Alike a.text.toList b.text.toList := by decide
  obtain ⟨placeA, placeB, _, _, _, _, read, places⟩ :=
    (records_apart_iff a b).2 .ample _ tree begins _ _ _ _ _ _ _ left first done second
  rw [read, if_pos ((places linkFree (by decide) (by decide)).mpr shared)]

end Provenance
