import Mathlib.Data.List.TakeWhile
import Provenance.Proofs.Artifact.Coordinates

/-!
The grammar of coordinates. A text is read if and only if, the blanks around it apart, it is made of
three to five fields of which the first three are filled (`parse_eq_some_iff`). The coordinates that
an artifact shows are read back as its normal form if and only if no field holds a colon and no
blank stands at an end (`parse_text_iff`).
-/
namespace Provenance

namespace Text

theorem head?_dropWhile {α : Type} (p : α → Bool) (xs : List α) :
    ∀ x ∈ (xs.dropWhile p).head?, p x = false := by
  intro x first
  have kept := List.head?_dropWhile_not p xs
  rw [first] at kept
  simpa using kept

/-- What is stripped from a text are blanks at its ends, and none is left there. -/
theorem exists_padding (s : String) :
    ∃ front back, (∀ c ∈ front ++ back, isBlank c = true) ∧
      s.toList = front ++ ((strip s).toList ++ back) ∧ IsTrimmed (strip s) := by
  have core : (strip s).toList =
      ((s.toList.dropWhile isBlank).reverse.dropWhile isBlank).reverse := by
    rw [strip, trimWhile, String.toList_ofList]
  generalize opened : s.toList.dropWhile isBlank = rest at core
  have split : rest = (strip s).toList ++ (rest.reverse.takeWhile isBlank).reverse := by
    rw [core, ← List.reverse_append, List.takeWhile_append_dropWhile, List.reverse_reverse]
  refine ⟨s.toList.takeWhile isBlank, (rest.reverse.takeWhile isBlank).reverse, ?_, ?_, ?_, ?_⟩
  · intro c member
    rcases List.mem_append.mp member with front | back
    · exact List.mem_takeWhile_imp front
    · exact List.mem_takeWhile_imp (List.mem_reverse.mp back)
  · rw [← split, ← opened, List.takeWhile_append_dropWhile]
  · intro c first
    apply head?_dropWhile isBlank s.toList
    rw [opened, split, List.head?_append, first]
    rfl
  · rw [core, List.getLast?_reverse]
    exact head?_dropWhile _ _

theorem strip_eq_self_iff {s : String} : strip s = s ↔ IsTrimmed s := by
  refine ⟨fun same => ?_, strip_eq_self⟩
  obtain ⟨_, _, _, _, trimmed⟩ := exists_padding s
  rwa [same] at trimmed

/-- Stripping takes away nothing but blanks. -/
theorem count_strip {c : Char} (visible : isBlank c = false) (s : String) :
    (strip s).toList.count c = s.toList.count c := by
  obtain ⟨front, back, blank, whole, _⟩ := exists_padding s
  have absent : ∀ d ∈ front ++ back, d ≠ c := by
    rintro d member rfl
    simp [blank d member] at visible
  have before : front.count c = 0 := List.count_eq_zero.mpr fun member =>
    absent c (List.mem_append_left _ member) rfl
  have behind : back.count c = 0 := List.count_eq_zero.mpr fun member =>
    absent c (List.mem_append_right _ member) rfl
  rw [whole, List.count_append, List.count_append, before, behind]
  omega

end Text

namespace Artifact

/-! ## What is read -/

/-- Fields are an artifact if there are three to five of them and the first three are filled. -/
theorem ofFields?_eq_some_iff {fields : List String} {a : Artifact} :
    ofFields? fields = some a ↔
      (3 ≤ fields.length ∧ fields.length ≤ 5) ∧ "" ∉ fields.take 3 ∧
        a.coordinates = fields ++ List.replicate (5 - fields.length) "" ∧ a.file = none := by
  rcases fields with _ | ⟨g, _ | ⟨n, _ | ⟨v, rest⟩⟩⟩
  · simp [ofFields?]
  · simp [ofFields?]
  · simp [ofFields?]
  · by_cases empty : g = "" ∨ n = "" ∨ v = ""
    · simp [ofFields?, empty]
    · obtain ⟨group, name, version, extension, classifier, file⟩ := a
      rcases rest with _ | ⟨e, _ | ⟨c, _ | ⟨more, rest⟩⟩⟩
      · simp [ofFields?, empty, coordinates]
        grind
      · simp [ofFields?, empty, coordinates]
        grind
      · simp [ofFields?, empty, coordinates]
        grind
      · simp [ofFields?]

/-- A text is read if, without the blanks around it, it is made of three to five fields of which the
first three are filled. They are the coordinates of the artifact, and those missing are empty. -/
theorem parse_eq_some_iff {s : String} {a : Artifact} :
    Artifact.parse s = some a ↔ ∃ fields,
      (Text.ofFields ':' fields = Text.strip s ∧ ∀ field ∈ fields, ':' ∉ field.toList) ∧
        (3 ≤ fields.length ∧ fields.length ≤ 5) ∧ "" ∉ fields.take 3 ∧
        a.coordinates = fields ++ List.replicate (5 - fields.length) "" ∧ a.file = none := by
  rw [parse, ofFields?_eq_some_iff]
  constructor
  · intro read
    exact ⟨_, (Text.ofFields_eq_iff (Text.fieldsOf_ne_nil _)).mpr rfl, read⟩
  · intro grammatical
    obtain ⟨fields, made, read⟩ := grammatical
    have nonempty : fields ≠ [] := by
      intro empty
      simp [empty] at read
    rwa [← (Text.ofFields_eq_iff nonempty).mp made]

theorem exists_coordinates {fields : List String} (five : fields.length = 5) :
    ∃ a : Artifact, a.coordinates = fields ∧ a.file = none :=
  match fields, five with
  | [g, n, v, e, c], _ => ⟨⟨g, n, v, e, c, none⟩, rfl, rfl⟩

/-- A text is read if there are two to four colons in it, blanks around it apart, and its first
three fields are filled. -/
theorem exists_parse_iff (s : String) :
    (∃ a, Artifact.parse s = some a) ↔
      (2 ≤ (Text.strip s).toList.count ':' ∧ (Text.strip s).toList.count ':' ≤ 4) ∧
        "" ∉ (Text.fieldsOf ':' (Text.strip s)).take 3 := by
  have number := Text.length_fieldsOf ':' (Text.strip s)
  simp only [parse, ofFields?_eq_some_iff]
  generalize Text.fieldsOf ':' (Text.strip s) = fields at number ⊢
  constructor
  · intro read
    obtain ⟨a, long, filled, _⟩ := read
    exact ⟨by omega, filled⟩
  · intro grammatical
    obtain ⟨long, filled⟩ := grammatical
    have whole : (fields ++ List.replicate (5 - fields.length) "").length = 5 := by
      rw [List.length_append, List.length_replicate]
      omega
    obtain ⟨a, padded, fileless⟩ := exists_coordinates whole
    exact ⟨a, by omega, filled, padded, fileless⟩

/-! ## Reading back what is shown -/

/-- What the coordinates of an artifact tell of it: no file, and the default extension if there is
none but a classifier. -/
def normal (a : Artifact) : Artifact :=
  { a with
    extension := if a.extension = "" ∧ a.classifier ≠ "" then defaultExtension else a.extension
    file := none }

/-- The fields that are shown are the coordinates of the normal form up to the last filled one. -/
theorem normal_coordinates (a : Artifact) :
    a.normal.coordinates = a.fields ++ List.replicate (5 - a.fields.length) "" := by
  by_cases extension : a.extension = "" <;> by_cases classifier : a.classifier = "" <;>
    simp [coordinates, normal, fields, extensionOr, extension, classifier]

theorem fields_length (a : Artifact) : 3 ≤ a.fields.length ∧ a.fields.length ≤ 5 := by
  by_cases extension : a.extension = "" <;> by_cases classifier : a.classifier = "" <;>
    simp [fields, extension, classifier]

/-- The coordinates that an artifact shows are read back as its normal form if and only if its
identity is filled, no coordinate holds a colon, and no blank stands at an end. -/
theorem parse_text_iff (a : Artifact) :
    Artifact.parse a.text = some a.normal ↔
      (a.group ≠ "" ∧ a.name ≠ "" ∧ a.version ≠ "") ∧
        (∀ field ∈ a.coordinates, ':' ∉ field.toList) ∧ Text.IsTrimmed a.text := by
  have nonempty : a.fields ≠ [] := by simp [fields]
  have filled : "" ∉ a.fields.take 3 ↔ a.group ≠ "" ∧ a.name ≠ "" ∧ a.version ≠ "" := by
    simp [fields, @eq_comm _ ""]
  rw [parse_eq_some_iff, ← filled, forall_fields_iff (by decide) (by decide)]
  constructor
  · intro grammatical
    obtain ⟨fields, ⟨made, free⟩, long, first, same, _⟩ := grammatical
    rw [normal_coordinates] at same
    have apart : ∀ field ∈ a.fields, ':' ∉ field.toList := by
      intro field member
      rcases List.mem_append.mp (same ▸ List.mem_append_left _ member) with read | missing
      · exact free field read
      · rw [List.eq_of_mem_replicate missing]
        simp
    -- Blanks hold no colon, so as many fields are read as are shown, and they are the same ones.
    have number : a.fields.length = fields.length := by
      have shown : a.fields = Text.fieldsOf ':' a.text :=
        (Text.ofFields_eq_iff nonempty).mp ⟨rfl, apart⟩
      have read : fields = Text.fieldsOf ':' (Text.strip a.text) := by
        apply (Text.ofFields_eq_iff ?_).mp ⟨made, free⟩
        intro empty
        simp [empty] at long
      rw [shown, read, Text.length_fieldsOf, Text.length_fieldsOf, Text.count_strip (by decide)]
    obtain rfl : a.fields = fields := List.append_inj_left same number
    exact ⟨first, apart, Text.strip_eq_self_iff.mp made.symm⟩
  · intro shown
    obtain ⟨first, apart, trimmed⟩ := shown
    exact ⟨a.fields, ⟨(Text.strip_eq_self trimmed).symm, apart⟩, a.fields_length, first,
      a.normal_coordinates, rfl⟩

/-- The normal form of an artifact lies where the artifact lies. -/
theorem normal_layout (r : Repository) (a : Artifact) :
    r.pathOf a.normal = r.pathOf a ∧ r.trackingOf a.normal = r.trackingOf a := by
  have extension : extensionOr a.normal.extension = extensionOr a.extension := by
    by_cases bare : a.extension = "" ∧ a.classifier ≠ ""
    · simp [normal, extensionOr, bare, defaultExtension]
    · simp [normal, bare]
  have name : Repository.fileNameOf a.normal = Repository.fileNameOf a := by
    unfold Repository.fileNameOf
    rw [extension]
    rfl
  exact ⟨by rw [Repository.pathOf, name]; rfl, rfl⟩

/-- The texts that are read are those of three to five fields with colons between them, blanks
around them apart, of which the first three are filled; the fields are the coordinates of the
artifact, and those missing are empty. The coordinates that an artifact shows are read back as its
normal form, which lies where the artifact lies, if and only if its identity is filled, no
coordinate holds a colon, and no blank stands at an end of the text. -/
theorem parse_exactly :
    (∀ s, ((∃ a, Artifact.parse s = some a) ↔
        (2 ≤ (Text.strip s).toList.count ':' ∧ (Text.strip s).toList.count ':' ≤ 4) ∧
          "" ∉ (Text.fieldsOf ':' (Text.strip s)).take 3) ∧
      ∀ a, Artifact.parse s = some a ↔ ∃ fields,
        (Text.ofFields ':' fields = Text.strip s ∧ ∀ field ∈ fields, ':' ∉ field.toList) ∧
          (3 ≤ fields.length ∧ fields.length ≤ 5) ∧ "" ∉ fields.take 3 ∧
          a.coordinates = fields ++ List.replicate (5 - fields.length) "" ∧ a.file = none) ∧
    ∀ a : Artifact,
      (Artifact.parse a.text = some a.normal ↔
        (a.group ≠ "" ∧ a.name ≠ "" ∧ a.version ≠ "") ∧
          (∀ field ∈ a.coordinates, ':' ∉ field.toList) ∧ Text.IsTrimmed a.text) ∧
      ∀ r : Repository, r.pathOf a.normal = r.pathOf a ∧ r.trackingOf a.normal = r.trackingOf a :=
  ⟨fun s => ⟨exists_parse_iff s, fun _ => parse_eq_some_iff⟩,
    fun a => ⟨parse_text_iff a, fun r => normal_layout r a⟩⟩

/-- A classifier without an extension comes back with the default extension before it. -/
example :
    let sources : Artifact :=
      { group := "com.x", name := "lib", version := "2.0", classifier := "sources" }
    sources.text = "com.x:lib:2.0:jar:sources" ∧
      Artifact.parse sources.text = some { sources with extension := "jar" } := by
  decide

end Artifact

end Provenance
