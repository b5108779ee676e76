import Provenance.Text.Fields
import Mathlib.Logic.Basic

/-!
Splitting and joining as inverses of each other, in both directions, and how the joined text grows
with the fields.
-/
namespace Provenance.Text

variable {sep : Char}

/-- No field holds the separator. -/
theorem notMem_of_mem_splitAt {s field : List Char} (member : field ∈ splitAt sep s) :
    sep ∉ field := by
  induction s generalizing field with
  | nil => simp_all [splitAt]
  | cons c rest ih =>
    unfold splitAt at member
    split at member
    · rcases List.mem_cons.mp member with rfl | later
      · simp
      · exact ih later
    · rename_i other
      split at member
      · rw [List.mem_singleton.mp member, List.mem_singleton]
        exact fun same => other same.symm
      · rename_i first fields whole
        rcases List.mem_cons.mp member with rfl | later
        · rintro inside
          rcases List.mem_cons.mp inside with same | inside
          · exact other same.symm
          · exact ih (by simp [whole]) inside
        · exact ih (by simp [whole, later])

theorem mem_of_mem_splitAt {c : Char} {s field : List Char} (member : field ∈ splitAt sep s)
    (inside : c ∈ field) : c ∈ s := by
  induction s generalizing field with
  | nil => simp_all [splitAt]
  | cons d rest ih =>
    unfold splitAt at member
    split at member
    · rcases List.mem_cons.mp member with rfl | later
      · cases inside
      · exact List.mem_cons_of_mem _ (ih later inside)
    · split at member
      · rw [List.mem_singleton.mp member, List.mem_singleton] at inside
        simp [inside]
      · rename_i first fields whole
        rcases List.mem_cons.mp member with rfl | later
        · rcases List.mem_cons.mp inside with rfl | inside
          · simp
          · exact List.mem_cons_of_mem _ (ih (by simp [whole]) inside)
        · exact List.mem_cons_of_mem _ (ih (by simp [whole, later]) inside)

/-- A text without the separator is one field. -/
theorem splitAt_eq_singleton {s : List Char} (absent : sep ∉ s) : splitAt sep s = [s] := by
  induction s with
  | nil => rfl
  | cons c rest ih =>
    have other : c ≠ sep := fun same => absent (by simp [same])
    simp [splitAt, other, ih fun later => absent (List.mem_cons_of_mem _ later)]

/-- The first field ends at the first separator. -/
theorem splitAt_append_cons {field : List Char} (absent : sep ∉ field) (rest : List Char) :
    splitAt sep (field ++ sep :: rest) = field :: splitAt sep rest := by
  induction field with
  | nil => simp [splitAt]
  | cons c field ih =>
    have other : c ≠ sep := fun same => absent (by simp [same])
    simp [splitAt, other, ih fun later => absent (List.mem_cons_of_mem _ later)]

theorem joinWith_cons_cons (first second : List Char) (fields : List (List Char)) :
    joinWith sep (first :: second :: fields) = first ++ sep :: joinWith sep (second :: fields) :=
  rfl

/-- Splitting a joined text gives its fields back. -/
theorem splitAt_joinWith {fields : List (List Char)} (nonempty : fields ≠ [])
    (absent : ∀ field ∈ fields, sep ∉ field) : splitAt sep (joinWith sep fields) = fields := by
  induction fields with
  | nil => exact absurd rfl nonempty
  | cons first rest ih =>
    cases rest with
    | nil => exact splitAt_eq_singleton (absent first (by simp))
    | cons second rest =>
      rw [joinWith_cons_cons, splitAt_append_cons (absent first (by simp)),
        ih (by simp) fun field member => absent field (List.mem_cons_of_mem _ member)]

/-- The text of fields begins the text of more fields. -/
theorem joinWith_begins (fields more : List (List Char)) :
    joinWith sep fields <+: joinWith sep (fields ++ more) := by
  induction fields with
  | nil => exact List.nil_prefix
  | cons first rest ih =>
    cases rest with
    | nil =>
      cases more with
      | nil => exact List.prefix_refl _
      | cons second more => exact List.prefix_append _ _
    | cons second rest =>
      rw [List.cons_append, List.cons_append, joinWith_cons_cons, joinWith_cons_cons,
        List.prefix_append_right_inj, List.cons_prefix_cons]
      exact ⟨rfl, ih⟩

/-- A text without the separator that begins a field and more, begins the field. -/
theorem begins_of_begins_append_cons {s field rest : List Char} (absent : sep ∉ s)
    (begins : s <+: field ++ sep :: rest) : s <+: field := by
  rcases List.prefix_or_prefix_of_prefix begins (List.prefix_append field (sep :: rest)) with
    shorter | ⟨more, longer⟩
  · exact shorter
  · subst longer
    rw [List.prefix_append_right_inj] at begins
    cases more with
    | nil => simp
    | cons c more =>
      obtain ⟨rfl, _⟩ := List.cons_prefix_cons.mp begins
      exact absurd (by simp) absent

/-- Texts that begin one another have the same first field. -/
theorem append_cons_begins_iff {first name s t : List Char} (absent : sep ∉ first)
    (absent' : sep ∉ name) :
    first ++ sep :: s <+: name ++ sep :: t ↔ first = name ∧ s <+: t := by
  induction first generalizing name with
  | nil =>
    cases name with
    | nil => simp [List.cons_prefix_cons]
    | cons d name =>
      have other : sep ≠ d := fun same => absent' (by simp [same])
      simp [List.cons_prefix_cons, other]
  | cons c first ih =>
    cases name with
    | nil =>
      have other : c ≠ sep := fun same => absent (by simp [same])
      simp [List.cons_prefix_cons, other]
    | cons d name =>
      have inner := @ih name (fun later => absent (List.mem_cons_of_mem _ later))
        (fun later => absent' (List.mem_cons_of_mem _ later))
      simp [List.cons_prefix_cons, inner, and_assoc]

/-- A text without the separator begins a joined text if it begins the first field. -/
theorem begins_joinWith_cons_iff {first : List Char} (absent : sep ∉ first) (name : List Char)
    (rest : List (List Char)) : first <+: joinWith sep (name :: rest) ↔ first <+: name := by
  refine ⟨fun begins => ?_, fun begins => begins.trans (joinWith_begins [name] rest)⟩
  cases rest with
  | nil => exact begins
  | cons next rest => exact begins_of_begins_append_cons absent begins

/-- The text of fields begins the text of others if and only if the fields do so one by one, but
for the last one, which may be continued. -/
theorem joinWith_begins_iff {fields more : List (List Char)} (nonempty : fields ≠ [])
    (filled : ∀ field ∈ fields, field ≠ []) (absent : ∀ field ∈ fields, sep ∉ field)
    (absent' : ∀ field ∈ more, sep ∉ field) :
    joinWith sep fields <+: joinWith sep more ↔
      ∃ above last name rest, fields = above ++ [last] ∧ more = above ++ name :: rest ∧
        last <+: name := by
  induction fields generalizing more with
  | nil => exact absurd rfl nonempty
  | cons first fields ih =>
    cases fields with
    | nil =>
      have single := begins_joinWith_cons_iff (absent first (by simp))
      constructor
      · intro begins
        cases more with
        | nil => exact absurd (List.prefix_nil.mp begins) (filled first (by simp))
        | cons name rest => exact ⟨[], first, name, rest, rfl, rfl, (single name rest).mp begins⟩
      · rintro ⟨above, last, name, rest, whole, rfl, begins⟩
        cases above with
        | nil =>
          cases whole
          exact (single name rest).mpr begins
        | cons other above => simp at whole
    | cons second fields =>
      have later := fun other free => @ih other (by simp)
        (fun field member => filled field (List.mem_cons_of_mem _ member))
        (fun field member => absent field (List.mem_cons_of_mem _ member)) free
      have free : sep ∉ first := absent first (by simp)
      constructor
      · intro begins
        rw [joinWith_cons_cons] at begins
        rcases more with _ | ⟨name, _ | ⟨next, rest⟩⟩
        · simp [joinWith] at begins
        · exact absurd (begins.subset (by simp)) (absent' name (by simp))
        · rw [joinWith_cons_cons, append_cons_begins_iff free (absent' name (by simp))] at begins
          obtain ⟨rfl, inner⟩ := begins
          obtain ⟨above, last, name, tail, whole, split, continued⟩ :=
            (later _ fun field member => absent' field (List.mem_cons_of_mem _ member)).mp inner
          exact ⟨first :: above, last, name, tail, by rw [whole]; rfl, by rw [split]; rfl,
            continued⟩
      · rintro ⟨above, last, name, rest, whole, rfl, begins⟩
        rcases above with _ | ⟨head, above⟩
        · simp at whole
        · obtain ⟨rfl, inside⟩ := List.cons.inj whole
          have inner : joinWith sep (second :: fields) <+: joinWith sep (above ++ name :: rest) :=
            (later _ fun field member => absent' field (List.mem_cons_of_mem _ member)).mpr
              ⟨above, last, name, rest, inside, rfl, begins⟩
          cases form : above ++ name :: rest with
          | nil => simp at form
          | cons next tail =>
            rw [form] at inner
            rw [List.cons_append, form, joinWith_cons_cons, joinWith_cons_cons]
            exact (append_cons_begins_iff free free).mpr ⟨rfl, inner⟩

theorem fieldsOf_ne_nil (s : String) : fieldsOf sep s ≠ [] := by
  simpa [fieldsOf] using splitAt_ne_nil sep s.toList

theorem notMem_of_mem_fieldsOf {s field : String} (member : field ∈ fieldsOf sep s) :
    sep ∉ field.toList := by
  obtain ⟨chars, split, rfl⟩ := List.mem_map.mp member
  rw [String.toList_ofList]
  exact notMem_of_mem_splitAt split

theorem mem_of_mem_fieldsOf {c : Char} {s field : String} (member : field ∈ fieldsOf sep s)
    (inside : c ∈ field.toList) : c ∈ s.toList := by
  obtain ⟨chars, split, rfl⟩ := List.mem_map.mp member
  rw [String.toList_ofList] at inside
  exact mem_of_mem_splitAt split inside

theorem ofFields_fieldsOf (s : String) : ofFields sep (fieldsOf sep s) = s := by
  have fields : (fieldsOf sep s).map String.toList = splitAt sep s.toList := by
    simp [fieldsOf, Function.comp_def]
  rw [ofFields, fields, joinWith_splitAt, String.ofList_toList]

theorem fieldsOf_ofFields {fields : List String} (nonempty : fields ≠ [])
    (absent : ∀ field ∈ fields, sep ∉ field.toList) :
    fieldsOf sep (ofFields sep fields) = fields := by
  have split : splitAt sep (joinWith sep (fields.map String.toList)) =
      fields.map String.toList := by
    refine splitAt_joinWith (by simpa using nonempty) fun field member => ?_
    obtain ⟨s, held, rfl⟩ := List.mem_map.mp member
    exact absent s held
  rw [fieldsOf, ofFields, String.toList_ofList, split]
  simp [Function.comp_def]

theorem ofFields_cons_cons (first second : String) (rest : List String) :
    ofFields sep (first :: second :: rest) =
      first ++ (String.singleton sep ++ ofFields sep (second :: rest)) := by
  simp [ofFields, joinWith_cons_cons]

/-- Fields without the separator that make up a text are the fields of that text. -/
theorem ofFields_eq_iff {s : String} {fields : List String} (nonempty : fields ≠ []) :
    (ofFields sep fields = s ∧ ∀ field ∈ fields, sep ∉ field.toList) ↔ fields = fieldsOf sep s := by
  constructor
  · rintro ⟨rfl, absent⟩
    exact (fieldsOf_ofFields nonempty absent).symm
  · rintro rfl
    exact ⟨ofFields_fieldsOf s, fun field member => notMem_of_mem_fieldsOf member⟩

/-- A character other than the separator stands in a joined text if it stands in a field. -/
theorem mem_ofFields_iff {c : Char} (other : c ≠ sep) {fields : List String} :
    c ∈ (ofFields sep fields).toList ↔ ∃ field ∈ fields, c ∈ field.toList := by
  rw [ofFields, String.toList_ofList]
  induction fields with
  | nil => simp [joinWith]
  | cons first rest ih =>
    cases rest with
    | nil => simp [joinWith]
    | cons second rest =>
      rw [List.map_cons] at ih
      rw [List.map_cons, List.map_cons, joinWith_cons_cons, List.mem_append, List.mem_cons, ih]
      simp [other]

/-- There is one field more than there are separators. -/
theorem length_fieldsOf (sep : Char) (s : String) :
    (fieldsOf sep s).length = s.toList.count sep + 1 := by
  rw [fieldsOf, List.length_map]
  induction s.toList with
  | nil => rfl
  | cons c rest ih =>
    rw [splitAt]
    split
    · rename_i same
      simp [same, ih]
    · rename_i other
      rw [List.count_cons_of_ne other, ← ih]
      split
      · rename_i none
        exact absurd none (splitAt_ne_nil sep rest)
      · rename_i field fields some
        rw [some]
        rfl

/-- A text without the separator is its only field. -/
theorem fieldsOf_eq_singleton {s : String} (absent : sep ∉ s.toList) : fieldsOf sep s = [s] := by
  simp [fieldsOf, splitAt_eq_singleton absent]

/-- Different texts have different fields. -/
theorem fieldsOf_injective {s t : String} (same : fieldsOf sep s = fieldsOf sep t) : s = t := by
  have whole : ofFields sep (fieldsOf sep s) = s := ofFields_fieldsOf s
  rw [← whole, same, ofFields_fieldsOf]

end Provenance.Text
