import Mathlib.Data.List.ReduceOption

/-!
Steps that may fail: what is known if steps in a row have succeeded or failed, and what is known if
a question was asked of each element of a list.
-/
namespace Provenance

/-! ## Steps in a row -/

/-- Steps in a row succeed if each of them does. -/
theorem bind_eq_ok_iff {α β ε : Type} {first : Except ε α} {next : α → Except ε β} {y : β} :
    first >>= next = .ok y ↔ ∃ x, first = .ok x ∧ next x = .ok y := by
  cases first <;> simp [bind, Except.bind]

theorem mapError_eq_ok_iff {α δ ε : Type} {answer : Except ε α} {change : ε → δ} {x : α} :
    answer.mapError change = .ok x ↔ answer = .ok x := by
  cases answer <;> simp [Except.mapError]

theorem bind_eq_error_iff {α β ε : Type} {first : Except ε α} {next : α → Except ε β} {e : ε} :
    first >>= next = .error e ↔ first = .error e ∨ ∃ x, first = .ok x ∧ next x = .error e := by
  cases first <;> simp [bind, Except.bind]

theorem mapError_eq_error_iff {α δ ε : Type} {answer : Except ε α} {change : ε → δ} {e : δ} :
    answer.mapError change = .error e ↔ ∃ fault, answer = .error fault ∧ change fault = e := by
  cases answer <;> simp [Except.mapError]

/-! ## One step for each element -/

theorem toOption_join_eq_some_iff {α ε : Type} {answer : Except ε (Option α)} {x : α} :
    answer.toOption.join = some x ↔ answer = .ok (some x) := by
  rcases answer with e | (_ | y) <;> simp [Except.toOption]

/-- Asking a question of each element fails with the first failure, or it answers each question. -/
theorem mapM_reduceOption_cases {α β ε : Type} (ask : α → Except ε (Option β)) (l : List α) :
    (∃ x ∈ l, ∃ e, ask x = .error e ∧ l.mapM ask = .error e) ∨
      (∀ x ∈ l, ∃ answer, ask x = .ok answer) ∧
        ∃ answers, l.mapM ask = .ok answers ∧
          answers.reduceOption = l.filterMap fun x => (ask x).toOption.join := by
  induction l with
  | nil => exact .inr ⟨by simp, [], rfl, rfl⟩
  | cons first rest ih =>
    cases asked : ask first with
    | error e =>
      refine .inl ⟨first, by simp, e, asked, ?_⟩
      rw [List.mapM_cons, asked]
      rfl
    | ok answer =>
      rcases ih with ⟨x, member, e, failed, whole⟩ | ⟨answered, answers, whole, reduced⟩
      · refine .inl ⟨x, List.mem_cons_of_mem _ member, e, failed, ?_⟩
        rw [List.mapM_cons, asked, whole]
        rfl
      · refine .inr ⟨?_, answer :: answers, ?_, ?_⟩
        · intro x member
          rcases List.mem_cons.mp member with rfl | later
          · exact ⟨answer, asked⟩
          · exact answered x later
        · rw [List.mapM_cons, asked, whole]
          rfl
        · cases answer with
          | none => simp [List.reduceOption_cons_of_none, reduced, asked, Except.toOption]
          | some y => simp [List.reduceOption_cons_of_some, reduced, asked, Except.toOption]

/-- Asking a question of each element answers only if each question is answered. -/
theorem answered_of_mapM {α β ε : Type} {ask : α → Except ε β} {l : List α} {answers : List β}
    (asked : l.mapM ask = .ok answers) {x : α} (member : x ∈ l) : ∃ y, ask x = .ok y := by
  induction l generalizing answers with
  | nil => cases member
  | cons first rest ih =>
    rw [List.mapM_cons] at asked
    obtain ⟨y, answer, asked⟩ := bind_eq_ok_iff.mp asked
    obtain ⟨ys, whole, -⟩ := bind_eq_ok_iff.mp asked
    rcases List.mem_cons.mp member with rfl | later
    · exact ⟨y, answer⟩
    · exact ih whole later

/-- What comes first in a list behind elements that are passed over is its head, or it comes first
behind the head in the same way. -/
theorem exists_first_cons_iff {α : Type} {passed : α → Prop} {stops : Prop} {head x : α}
    {rest : List α} :
    (∃ before after, head :: rest = before ++ x :: after ∧ (∀ y ∈ before, passed y) ∧ stops) ↔
      head = x ∧ stops ∨ passed head ∧
        ∃ before after, rest = before ++ x :: after ∧ (∀ y ∈ before, passed y) ∧ stops := by
  constructor
  · rintro ⟨before, after, whole, skipped, stopped⟩
    cases before with
    | nil => exact .inl ⟨(List.cons.inj whole).1, stopped⟩
    | cons first before =>
      obtain ⟨rfl, later⟩ := List.cons.inj whole
      obtain ⟨skips, skipped⟩ := List.forall_mem_cons.mp skipped
      exact .inr ⟨skips, before, after, later, skipped, stopped⟩
  · rintro (⟨rfl, stopped⟩ | ⟨skips, before, after, rfl, skipped, stopped⟩)
    · exact ⟨[], rest, rfl, by simp, stopped⟩
    · exact ⟨head :: before, after, rfl, List.forall_mem_cons.mpr ⟨skips, skipped⟩, stopped⟩

/-- Asking a question of each element fails with the first failure. -/
theorem mapM_eq_error_iff {α β ε : Type} {ask : α → Except ε β} {l : List α} {e : ε} :
    l.mapM ask = .error e ↔ ∃ x before after, l = before ++ x :: after ∧
      (∀ y ∈ before, ∃ answer, ask y = .ok answer) ∧ ask x = .error e := by
  induction l with
  | nil => simp [pure, Except.pure]
  | cons first rest ih =>
    rw [List.mapM_cons, bind_eq_error_iff]
    constructor
    · rintro (failed | ⟨answer, asked, later⟩)
      · exact ⟨first, exists_first_cons_iff.mpr (.inl ⟨rfl, failed⟩)⟩
      · rcases bind_eq_error_iff.mp later with later | ⟨answers, _, nothing⟩
        · obtain ⟨x, begins⟩ := ih.mp later
          exact ⟨x, exists_first_cons_iff.mpr (.inr ⟨⟨answer, asked⟩, begins⟩)⟩
        · cases nothing
    · rintro ⟨x, begins⟩
      rcases exists_first_cons_iff.mp begins with ⟨rfl, failed⟩ | ⟨⟨answer, asked⟩, begins⟩
      · exact .inl failed
      · exact .inr ⟨answer, asked, bind_eq_error_iff.mpr (.inl (ih.mpr ⟨x, begins⟩))⟩

/-- Asking a question that each element answers gives the answers in order. -/
theorem mapM_eq_ok_of_forall {α β ε : Type} {ask : α → Except ε β} {told : β → α → Prop}
    {l : List α} (answers : ∀ x ∈ l, ∃ y, ask x = .ok y ∧ told y x) :
    ∃ ys, l.mapM ask = .ok ys ∧ List.Forall₂ told ys l := by
  induction l with
  | nil => exact ⟨[], rfl, .nil⟩
  | cons x rest ih =>
    obtain ⟨y, asked, holds⟩ := answers x (by simp)
    obtain ⟨ys, whole, all⟩ := ih fun z member => answers z (List.mem_cons_of_mem _ member)
    refine ⟨y :: ys, ?_, .cons holds all⟩
    rw [List.mapM_cons, asked, whole]
    rfl

end Provenance
