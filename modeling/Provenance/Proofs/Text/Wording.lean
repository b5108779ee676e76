import Mathlib.Data.List.Basic
import Provenance.Proofs.Text.Encoding
import Provenance.Text.Wording

/-!
Wordings and their bytes. A wording has bytes exactly if it is one of characters, and then those of
its characters (`encode_eq_ok_iff`); lines that are ended one by one are, if each of them is
(`isText_terminated_iff`).
-/
namespace Provenance.Wording

@[simp] theorem ofChars_nil : ofChars [] = [] := rfl

@[simp] theorem ofChars_cons (c : Char) (s : List Char) : ofChars (c :: s) = .char c :: ofChars s :=
  rfl

@[simp] theorem ofChars_append (s rest : List Char) :
    ofChars (s ++ rest) = ofChars s ++ ofChars rest := by
  simp [ofChars]

@[simp] theorem char_mem_ofChars {c : Char} {s : List Char} : Mark.char c ∈ ofChars s ↔ c ∈ s := by
  simp [ofChars]

theorem forall_char_iff {w : Wording} {P : Char → Prop} :
    (∀ c ∈ w.filterMap Mark.char?, P c) ↔ ∀ c, .char c ∈ w → P c := by
  constructor
  · intro each c member
    exact each c (List.mem_filterMap.mpr ⟨_, member, rfl⟩)
  · intro each c member
    obtain ⟨mark, inside, same⟩ := List.mem_filterMap.mp member
    cases mark with
    | lone half => cases same
    | char d =>
      cases same
      exact each c inside

instance (w : Wording) (P : Char → Prop) [DecidablePred P] :
    Decidable (∀ c, Mark.char c ∈ w → P c) :=
  @decidable_of_iff _ _ forall_char_iff (List.decidableBAll _ _)

theorem ofChars_injective : Function.Injective ofChars :=
  List.map_injective_iff.mpr fun _ _ => Mark.char.inj

theorem ofString_injective : Function.Injective fun s : String => ofChars s.toList :=
  ofChars_injective.comp fun _ _ => String.toList_inj.mp

@[simp] theorem chars?_char (c : Char) (rest : Wording) :
    chars? (.char c :: rest) = rest.chars?.map (c :: ·) := by
  simp only [chars?, List.mapM_cons, Mark.char?, Option.bind_eq_bind, Option.bind_some]
  cases rest.mapM Mark.char? <;> rfl

@[simp] theorem chars?_lone (half : Fin 2048) (rest : Wording) :
    chars? (.lone half :: rest) = none := by
  simp [chars?, Mark.char?]

@[simp] theorem chars?_ofChars (s : List Char) : (ofChars s).chars? = some s := by
  induction s with
  | nil => rfl
  | cons c rest ih => simp [ih]

/-- The characters of a wording are those that it was made of. -/
theorem chars?_eq_some_iff {w : Wording} {s : List Char} : w.chars? = some s ↔ w = ofChars s := by
  constructor
  · intro read
    induction w generalizing s with
    | nil =>
      cases read
      rfl
    | cons mark rest ih =>
      cases mark with
      | lone half => simp at read
      | char c =>
        rw [chars?_char, Option.map_eq_some_iff] at read
        obtain ⟨tail, inner, rfl⟩ := read
        rw [ofChars_cons, ih inner]
  · rintro rfl
    exact chars?_ofChars s

/-- A wording is not one of characters if some surrogate stands alone in it. -/
theorem chars?_eq_none_iff {w : Wording} : w.chars? = none ↔ ∃ half, Mark.lone half ∈ w := by
  induction w with
  | nil => simp [chars?]
  | cons mark rest ih =>
    cases mark with
    | lone half => simp
    | char c => simp [ih]

/-- A wording of characters: no surrogate stands alone in it. -/
def IsText (w : Wording) : Prop := ∀ mark ∈ w, mark.char?.isSome

instance (w : Wording) : Decidable w.IsText :=
  List.decidableBAll _ _

theorem isText_ofChars (s : List Char) : (ofChars s).IsText := by
  simp [IsText, ofChars, Mark.char?]

/-- A wording has bytes exactly if it is one of characters. -/
theorem encode_eq_ok_iff {w : Wording} {bytes : List UInt8} :
    w.encode = .ok bytes ↔ ∃ s, w = ofChars s ∧ bytes = Text.Utf8.encode s := by
  unfold encode
  cases read : w.chars? with
  | some s =>
    rw [chars?_eq_some_iff] at read
    subst read
    constructor
    · intro same
      cases same
      exact ⟨s, rfl, rfl⟩
    · rintro ⟨other, same, rfl⟩
      rw [ofChars_injective same]
  | none =>
    constructor
    · intro same
      cases same
    · rintro ⟨s, rfl, -⟩
      simp at read

theorem isText_iff_exists {w : Wording} : w.IsText ↔ ∃ s, w = ofChars s := by
  constructor
  · intro text
    cases read : w.chars? with
    | some s => exact ⟨s, chars?_eq_some_iff.mp read⟩
    | none =>
      obtain ⟨half, inside⟩ := chars?_eq_none_iff.mp read
      cases text _ inside
  · rintro ⟨s, rfl⟩
    exact isText_ofChars s

theorem terminated_ofChars (texts : List (List Char)) :
    Text.terminated (.char '\n') (texts.map ofChars) = ofChars (Text.terminated '\n' texts) := by
  induction texts with
  | nil => rfl
  | cons text rest ih =>
    simp only [Text.terminated, List.map_cons, List.flatMap_cons] at ih ⊢
    rw [ih, ofChars_append, ofChars_append]
    rfl

/-- Lines are of characters if and only if all of them together are. -/
theorem isText_terminated_iff {lines : List Wording} :
    IsText (Text.terminated (.char '\n') lines) ↔ ∀ line ∈ lines, line.IsText := by
  constructor
  · intro whole line member mark inside
    exact whole mark (List.mem_flatMap.mpr ⟨line, member, List.mem_append_left _ inside⟩)
  · intro each mark member
    obtain ⟨line, among, inside⟩ := List.mem_flatMap.mp member
    rcases List.mem_append.mp inside with inner | ending
    · exact each line among mark inner
    · rw [List.mem_singleton.mp ending]
      rfl

end Provenance.Wording
