import Provenance.Text.Digits
import Mathlib.Tactic.Basic

/-!
Which whole numbers can be written in decimal (`decimal_eq_ok_iff`). A number that was read can be
written again (`isShort_of_readNumber`).
-/
namespace Provenance.Text

/-- A number has few enough digits to be written. -/
def IsShort (n : Int) : Prop := n.natAbs < numberBound

theorem decimal_eq_ok_iff {n : Int} {s : String} :
    decimal n = .ok s ↔ IsShort n ∧ toString n = s := by
  unfold decimal IsShort
  split
  · next long => simp [Nat.not_lt.mpr long]
  · next short => simp [Nat.not_le.mp short]

theorem decimal_of_not_isShort {n : Int} (long : ¬IsShort n) :
    decimal n = .error tooManyDigits := by
  rw [decimal, if_pos (Nat.not_lt.mp long)]

theorem pow_le_numberBound {k : Nat} (few : k ≤ maxDigits) : Nat.pow 10 k ≤ numberBound := by
  unfold numberBound
  -- The power itself is too large to be worked out.
  generalize maxDigits = digits at few ⊢
  exact Nat.pow_le_pow_right (by decide) few

theorem isShort_of_natAbs_lt {n : Int} (small : n.natAbs < 100) : IsShort n :=
  Nat.lt_of_lt_of_le small (pow_le_numberBound (by decide : 2 ≤ maxDigits))

theorem digitValue?_lt {c : Char} {d : Nat} (digit : digitValue? c = some d) : d < 10 := by
  unfold digitValue? at digit
  dsimp only at digit
  split at digit
  · split at digit
    · cases digit
      omega
    · cases digit
  · obtain ⟨first, found, rfl⟩ := Option.map_eq_some_iff.mp digit
    have within := Array.find?_some found
    simp only [Bool.and_eq_true, decide_eq_true_eq] at within
    omega

theorem digitGroups_lt {s : List Char} {ds : List Nat} (groups : digitGroups s = some ds) :
    ∀ d ∈ ds, d < 10 := by
  fun_induction digitGroups s generalizing ds with
  | case1 => cases groups
  | case2 => cases groups
  | case3 c d digit =>
    cases groups
    simpa using digitValue?_lt digit
  | case4 c d rest digit ih =>
    obtain ⟨others, later, rfl⟩ := Option.map_eq_some_iff.mp groups
    exact List.forall_mem_cons.mpr ⟨digitValue?_lt digit, ih later⟩
  | case5 c rest d _ _ digit ih =>
    obtain ⟨others, later, rfl⟩ := Option.map_eq_some_iff.mp groups
    exact List.forall_mem_cons.mpr ⟨digitValue?_lt digit, ih later⟩

/-- Digits behind a number of `k` digits make one of as many digits more, at most. -/
theorem foldl_digits_lt {ds : List Nat} (digits : ∀ d ∈ ds, d < 10) {n k : Nat}
    (bound : n < Nat.pow 10 k) :
    ds.foldl (fun n d => n * 10 + d) n < Nat.pow 10 (k + ds.length) := by
  induction ds generalizing n k with
  | nil => exact bound
  | cons d ds ih =>
    obtain ⟨first, rest⟩ := List.forall_mem_cons.mp digits
    have step : n * 10 + d < Nat.pow 10 (k + 1) :=
      calc n * 10 + d
        _ < (n + 1) * 10 := by omega
        _ ≤ Nat.pow 10 k * 10 := Nat.mul_le_mul_right 10 bound
    have whole := ih rest step
    rwa [Nat.add_right_comm, Nat.add_assoc] at whole

/-- A number that was read can be written. -/
theorem isShort_of_readNumber {s : List Char} {n : Int} (read : readNumber s = .value n) :
    IsShort n := by
  unfold readNumber at read
  dsimp only at read
  split at read
  · cases read
  · next ds groups =>
    split at read
    · cases read
    · next few =>
      have bound : ofDigits 10 ds < numberBound :=
        Nat.lt_of_lt_of_le (foldl_digits_lt (digitGroups_lt groups) (k := 0) Nat.one_pos)
          (pow_le_numberBound (by omega))
      have size (negative : Bool) (n : Nat) :
          (if negative = true then -(n : Int) else n).natAbs = n := by
        cases negative <;> simp
      cases read
      rwa [IsShort, size]

end Provenance.Text
