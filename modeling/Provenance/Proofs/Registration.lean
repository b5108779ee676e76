import Mathlib.Data.List.Induction
import Mathlib.Data.List.TakeWhile
import Mathlib.Logic.Function.Basic
import Provenance.Dispatcher
import Provenance.Proofs.FileSystem.Directory

/-!
Which registrations a dispatcher keeps. A withdrawal takes the oldest registration of its listener
that is left, whichever handle it was made under, so what is registered are the newest registrations
of each listener (`Book.Tells.perform`). They are the ones whose own handle was not withdrawn, at
every moment, if and only if no withdrawal takes another registration than its own
(`registered_after`).
-/
namespace Provenance.Dispatcher

/-- A call of a dispatcher: a listener, new or known, is registered under a handle of the
registration, or the registration of a handle is withdrawn. -/
inductive Call where
  | attach (handle : String) (listener : Listener)
  | withdraw (handle : String)
  deriving Repr

def perform (d : Dispatcher) : Call → Dispatcher
  | .attach handle listener => d.attach handle listener
  | .withdraw handle => d.withdraw handle

/-- The dispatcher of a new session after some calls. -/
def after (calls : List Call) : Dispatcher := calls.foldl perform {}

/-- What calls have come to: the registrations that were made, those whose own handle was not
withdrawn since, and for each listener the number of withdrawals that took a registration. -/
structure Book where
  made : List (String × Listener) := []
  live : List (String × Listener) := []
  gone : Nat → Nat := fun _ => 0

namespace Book

/-- The listeners in the order of their registrations. -/
def history (b : Book) : List Listener := b.made.map Prod.snd

/-- The numbers of registrations taken, with one more withdrawal. It takes none if there is none
left of its listener. -/
def goneWith (b : Book) (handle : String) : Nat → Nat :=
  match b.made.reverse.lookup handle with
  | none => b.gone
  | some listener =>
    if b.gone listener.serial < b.history.countP (·.serial = listener.serial) then
      Function.update b.gone listener.serial (b.gone listener.serial + 1)
    else b.gone

def enter (b : Book) : Call → Book
  | .attach handle listener =>
    { b with made := b.made ++ [(handle, listener)], live := b.live ++ [(handle, listener)] }
  | .withdraw handle =>
    { b with live := b.live.filter (·.1 ≠ handle), gone := b.goneWith handle }

end Book

/-- The book of some calls. -/
def book (calls : List Call) : Book := calls.foldl Book.enter {}

/-- The registrations without the oldest ones of each listener, as many as are gone. -/
def spare (gone : Nat → Nat) : List Listener → List Listener
  | [] => []
  | listener :: rest =>
    match gone listener.serial with
    | 0 => listener :: spare gone rest
    | more + 1 => spare (Function.update gone listener.serial more) rest

/-- The serial numbers of listeners. Listeners with one number are the same. -/
def serials (listeners : List Listener) : List Nat := listeners.map (·.serial)

/-- A withdrawal takes its own registration, as far as can be seen: from the oldest registration of
its listener to its own there are no others. If its own is withdrawn already, none of its listener
is there to be taken. -/
def TakesOwn (live : List (String × Listener)) (handle : String) (listener : Listener) : Prop :=
  let older := serials ((live.takeWhile (·.1 ≠ handle)).map Prod.snd)
  if handle ∈ live.map Prod.fst then
    ∀ serial ∈ older.dropWhile (· ≠ listener.serial), serial = listener.serial
  else listener.serial ∉ older

instance (live : List (String × Listener)) (handle : String) (listener : Listener) :
    Decidable (TakesOwn live handle listener) := by
  unfold TakesOwn
  infer_instance

/-! ## The oldest registrations go first -/

/-- A new registration comes last. -/
theorem spare_append {gone : Nat → Nat} {history : List Listener}
    (enough : ∀ serial, gone serial ≤ history.countP (·.serial = serial)) (listener : Listener) :
    spare gone (history ++ [listener]) = spare gone history ++ [listener] := by
  induction history generalizing gone with
  | nil =>
    have none : gone listener.serial = 0 := Nat.le_zero.mp (enough listener.serial)
    simp [spare, none]
  | cons first rest ih =>
    rw [List.cons_append, spare, spare]
    cases left : gone first.serial with
    | zero =>
      refine congrArg (first :: ·) (ih fun serial => ?_)
      by_cases same : first.serial = serial
      · simp [← same, left]
      · simpa [same] using enough serial
    | succ more =>
      refine ih fun serial => ?_
      have bound := enough serial
      by_cases same : first.serial = serial
      · subst same
        rw [List.countP_cons_of_pos (by simp), left] at bound
        rw [Function.update_self]
        omega
      · rw [Function.update_of_ne (Ne.symm same)]
        simpa [same] using bound

/-- One more gone of a listener is the first one that was left. -/
theorem spare_update (gone : Nat → Nat) (history : List Listener) (serial : Nat) :
    spare (Function.update gone serial (gone serial + 1)) history =
      (spare gone history).eraseP (·.serial = serial) := by
  induction history generalizing gone with
  | nil => rfl
  | cons first rest ih =>
    rw [spare, spare]
    by_cases same : first.serial = serial
    · subst same
      rw [Function.update_self]
      dsimp only
      rw [Function.update_idem]
      cases left : gone first.serial with
      | zero =>
        dsimp only
        rw [List.eraseP_cons_of_pos (by simp), ← left, Function.update_eq_self]
      | succ more =>
        have step := ih (Function.update gone first.serial more)
        rwa [Function.update_self, Function.update_idem] at step
    · rw [Function.update_of_ne same]
      cases left : gone first.serial with
      | zero => rw [List.eraseP_cons_of_neg (by simpa using same), ih]
      | succ more =>
        have step := ih (Function.update gone first.serial more)
        rwa [Function.update_of_ne (Ne.symm same), Function.update_comm same] at step

/-- None is left of a listener that all registrations are gone of. -/
theorem serial_ne_of_mem_spare {gone : Nat → Nat} {history : List Listener} {serial : Nat}
    (all : history.countP (·.serial = serial) ≤ gone serial) {listener : Listener}
    (left : listener ∈ spare gone history) : listener.serial ≠ serial := by
  induction history generalizing gone with
  | nil => cases left
  | cons first rest ih =>
    rw [spare] at left
    by_cases same : first.serial = serial
    · subst same
      rw [List.countP_cons_of_pos (by simp)] at all
      cases number : gone first.serial with
      | zero => omega
      | succ more =>
        rw [number] at left
        refine ih ?_ left
        rw [Function.update_self]
        omega
    · rw [List.countP_cons_of_neg (by simpa using same)] at all
      cases number : gone first.serial with
      | zero =>
        rw [number] at left
        rcases List.mem_cons.mp left with rfl | later
        · exact same
        · exact ih all later
      | succ more =>
        rw [number] at left
        refine ih ?_ left
        rwa [Function.update_of_ne (Ne.symm same)]

/-! ## The book tells what is registered -/

/-- The book tells which listeners are registered, and by which handles they are withdrawn. -/
structure Book.Tells (b : Book) (d : Dispatcher) : Prop where
  handles : d.handles = b.made.reverse
  registered : d.registered = spare b.gone b.history
  enough : ∀ serial, b.gone serial ≤ b.history.countP (·.serial = serial)
  live : b.live.Sublist b.made

/-- Every call keeps the book. -/
theorem Book.Tells.perform {b : Book} {d : Dispatcher} (tells : b.Tells d) (call : Call) :
    (b.enter call).Tells (d.perform call) := by
  cases call with
  | attach handle listener =>
    refine ⟨?_, ?_, fun serial => ?_, ?_⟩
    · simp [Dispatcher.perform, attach, enter, tells.handles]
    · have last := spare_append tells.enough listener
      simp only [history] at last
      simp [Dispatcher.perform, attach, enter, history, tells.registered, last]
    · refine Nat.le_trans (tells.enough serial) ?_
      simp [enter, history]
    · exact tells.live.append (.refl _)
  | withdraw handle =>
    have kept : (b.live.filter (·.1 ≠ handle)).Sublist b.made :=
      List.filter_sublist.trans tells.live
    cases found : b.made.reverse.lookup handle with
    | none =>
      have unknown : d.handles.lookup handle = none := by rw [tells.handles, found]
      simp only [Dispatcher.perform, withdraw, unknown, enter, goneWith, found]
      exact ⟨tells.handles, tells.registered, tells.enough, kept⟩
    | some listener =>
      have known : d.handles.lookup handle = some listener := by rw [tells.handles, found]
      simp only [Dispatcher.perform, withdraw, known, enter, goneWith, found]
      split
      · rename_i more
        refine ⟨tells.handles, ?_, fun serial => ?_, kept⟩
        · rw [tells.registered]
          exact (spare_update b.gone b.history listener.serial).symm
        · dsimp only
          by_cases same : serial = listener.serial
          · subst same
            rw [Function.update_self]
            exact more
          · rw [Function.update_of_ne same]
            exact tells.enough serial
      · rename_i all
        refine ⟨tells.handles, ?_, tells.enough, kept⟩
        dsimp only
        rw [tells.registered, List.eraseP_of_forall_not]
        · rfl
        · intro other left
          simpa using serial_ne_of_mem_spare (Nat.not_lt.mp all) left

/-- The book of any calls tells what is registered after them. -/
theorem book_tells (calls : List Call) : (book calls).Tells (after calls) := by
  have start : Book.Tells {} {} := ⟨rfl, rfl, fun _ => Nat.zero_le _, .slnil⟩
  unfold book after
  generalize ({} : Book) = b at *
  generalize ({} : Dispatcher) = d at *
  induction calls generalizing b d with
  | nil => exact start
  | cons call rest ih => exact ih _ _ (start.perform call)

/-! ## Withdrawals of other registrations -/

theorem cons_commutes_iff {α : Type} {before rest : List α} {x : α} :
    before ++ x :: rest = x :: (before ++ rest) ↔ ∀ y ∈ before, y = x := by
  induction before with
  | nil => simp
  | cons first before ih =>
    rw [List.forall_mem_cons, ← ih]
    constructor
    · intro same
      obtain ⟨rfl, tails⟩ := List.cons_eq_cons.mp same
      exact ⟨rfl, tails⟩
    · rintro ⟨rfl, tails⟩
      exact congrArg (first :: ·) tails

/-- Erasing the first of equal elements erases a given one of them, as far as can be seen, if
nothing else stands between the two. -/
theorem erase_append_cons_iff {before rest : List Nat} {x : Nat} :
    (before ++ x :: rest).erase x = before ++ rest ↔
      ∀ y ∈ before.dropWhile (· ≠ x), y = x := by
  induction before with
  | nil => simp
  | cons first before ih =>
    by_cases same : first = x
    · subst same
      rw [List.cons_append, List.erase_cons_head, List.cons_append, cons_commutes_iff]
      simp
    · rw [List.cons_append, List.erase_cons_tail (by simpa using same), List.cons_append,
        List.cons_eq_cons, List.dropWhile_cons_of_pos (by simpa using same), ← ih]
      simp

/-- The registrations before and after the one of a handle. -/
theorem exists_split {live : List (String × Listener)} (fresh : (live.map Prod.fst).Nodup)
    {handle : String} {listener : Listener} (member : (handle, listener) ∈ live) :
    ∃ before rest, live = before ++ (handle, listener) :: rest ∧
      live.takeWhile (·.1 ≠ handle) = before ∧ live.filter (·.1 ≠ handle) = before ++ rest := by
  obtain ⟨before, rest, rfl⟩ := List.append_of_mem member
  rw [List.map_append, List.map_cons, List.nodup_append, List.nodup_cons] at fresh
  obtain ⟨_, ⟨later, _⟩, apart⟩ := fresh
  have first : ∀ item ∈ before, decide (item.1 ≠ handle) = true := fun item inside =>
    decide_eq_true (apart _ (List.mem_map.mpr ⟨item, inside, rfl⟩) _ (by simp))
  have second : ∀ item ∈ rest, decide (item.1 ≠ handle) = true := fun item inside =>
    decide_eq_true fun same => later (List.mem_map.mpr ⟨item, inside, same⟩)
  refine ⟨before, rest, rfl, ?_, ?_⟩
  · rw [List.takeWhile_append_of_pos first, List.takeWhile_cons_of_neg (by simp), List.append_nil]
  · rw [List.filter_append, List.filter_cons_of_neg (by simp), List.filter_eq_self.mpr first,
      List.filter_eq_self.mpr second]

/-- A withdrawal keeps the registered listeners in step with the live registrations if and only if
it takes its own registration. -/
theorem withdraw_iff {b : Book} {d : Dispatcher} (tells : b.Tells d)
    (fresh : (b.made.map Prod.fst).Nodup)
    (same : serials d.registered = serials (b.live.map Prod.snd)) (handle : String) :
    serials (d.withdraw handle).registered =
        serials ((b.enter (.withdraw handle)).live.map Prod.snd) ↔
      ∀ listener, (handle, listener) ∈ b.made → TakesOwn b.live handle listener := by
  have backwards : (b.made.reverse.map Prod.fst).Nodup := by
    rw [List.map_reverse]
    exact List.nodup_reverse.mpr fresh
  have owner : ∀ listener, d.handles.lookup handle = some listener ↔
      (handle, listener) ∈ b.made := by
    intro listener
    rw [tells.handles, lookup_eq_some_iff_mem backwards, List.mem_reverse]
  have distinct : (b.live.map Prod.fst).Nodup := fresh.sublist (tells.live.map _)
  rw [Book.enter, withdraw]
  dsimp only
  cases found : d.handles.lookup handle with
  | none =>
    have absent : ∀ listener, (handle, listener) ∉ b.made := fun listener member => by
      rw [(owner listener).mpr member] at found
      cases found
    have kept : b.live.filter (·.1 ≠ handle) = b.live := by
      refine List.filter_eq_self.mpr fun item member => decide_eq_true ?_
      rintro rfl
      exact absent _ (tells.live.subset member)
    rw [kept]
    simp [same, absent]
  | some listener =>
    have own := (owner listener).mp found
    have only : ∀ other, (handle, other) ∈ b.made ↔ other = listener := by
      intro other
      rw [← owner, found, Option.some.injEq, eq_comm]
    have erased : serials (d.registered.eraseP fun other => other.serial = listener.serial) =
        (serials (b.live.map Prod.snd)).erase listener.serial := by
      rw [← same, serials, serials, List.erase_eq_eraseP', List.eraseP_map]
      congr
    simp only [only, forall_eq]
    rw [erased]
    by_cases there : handle ∈ b.live.map Prod.fst
    · obtain ⟨⟨key, other⟩, member, rfl⟩ := List.mem_map.mp there
      obtain rfl := (only other).mp (tells.live.subset member)
      obtain ⟨before, rest, split, older, left⟩ := exists_split distinct member
      rw [TakesOwn, if_pos there, older, left, split]
      simpa [serials] using erase_append_cons_iff
    · have all : ∀ item ∈ b.live, decide (item.1 ≠ handle) = true := fun item member =>
        decide_eq_true fun same => there (List.mem_map.mpr ⟨item, member, same⟩)
      rw [TakesOwn, if_neg there, List.takeWhile_eq_self_iff.mpr all, List.filter_eq_self.mpr all]
      exact List.erase_eq_self_iff

theorem after_concat (calls : List Call) (call : Call) :
    after (calls ++ [call]) = (after calls).perform call := by
  simp [after]

theorem book_concat (calls : List Call) (call : Call) :
    book (calls ++ [call]) = (book calls).enter call := by
  simp [book]

/-- The registrations of the past stay in the book. -/
theorem made_prefix {past calls : List Call} (begins : past <+: calls) :
    (book past).made <+: (book calls).made := by
  obtain ⟨rest, rfl⟩ := begins
  induction rest using List.reverseRecOn with
  | nil => simp
  | append_singleton rest call ih =>
    rw [← List.append_assoc, book_concat]
    refine ih.trans ?_
    cases call with
    | attach handle listener => exact List.prefix_append _ _
    | withdraw handle => exact List.prefix_refl _

/-- What is registered after calls, whatever they are, are the registrations without the oldest ones
of each listener, as many as withdrawals took. It is at every moment the list of the registrations
whose own handle was not withdrawn if and only if every withdrawal takes its own registration. -/
theorem registered_after (calls : List Call) (fresh : ((book calls).made.map Prod.fst).Nodup) :
    (after calls).registered = spare (book calls).gone (book calls).history ∧
      ((∀ past, past <+: calls →
          serials (after past).registered = serials ((book past).live.map Prod.snd)) ↔
        ∀ past handle, past ++ [.withdraw handle] <+: calls → ∀ listener,
          (handle, listener) ∈ (book past).made → TakesOwn (book past).live handle listener) := by
  refine ⟨(book_tells calls).registered, ?_⟩
  have step : ∀ past handle, past ++ [.withdraw handle] <+: calls →
      serials (after past).registered = serials ((book past).live.map Prod.snd) →
      (serials (after (past ++ [.withdraw handle])).registered =
          serials ((book (past ++ [.withdraw handle])).live.map Prod.snd) ↔
        ∀ listener, (handle, listener) ∈ (book past).made →
          TakesOwn (book past).live handle listener) := by
    intro past handle begins same
    have earlier := made_prefix ((List.prefix_append past _).trans begins)
    rw [after_concat, book_concat]
    exact withdraw_iff (book_tells past) (fresh.sublist (earlier.sublist.map _)) same handle
  constructor
  · intro same past handle begins
    have earlier := same past ((List.prefix_append past _).trans begins)
    exact (step past handle begins earlier).mp (same _ begins)
  · intro own past begins
    induction past using List.reverseRecOn with
    | nil => rfl
    | append_singleton past call ih =>
      have same := ih ((List.prefix_append past _).trans begins)
      cases call with
      | attach handle listener =>
        rw [after_concat, book_concat]
        simpa [perform, attach, Book.enter, serials] using same
      | withdraw handle => exact (step past handle begins same).mpr (own past handle begins)

/-- The listener `l` is registered as `a`, `m` as `b` and `l` again as `c`; withdrawing `c` takes
the registration of `a`. -/
theorem registered_after_again :
    let l : Listener := ⟨0, "l", []⟩
    let m : Listener := ⟨1, "m", []⟩
    let calls : List Call := [.attach "a" l, .attach "b" m, .attach "c" l, .withdraw "c"]
    (after calls).registered.map (·.name) = ["m", "l"] ∧
      ¬∀ past, past <+: calls →
        serials (after past).registered = serials ((book past).live.map Prod.snd) := by
  intro l m calls
  obtain ⟨left, same_iff⟩ := registered_after calls (by decide)
  refine ⟨by rw [left]; decide, fun same => ?_⟩
  have taken := same_iff.mp same [.attach "a" l, .attach "b" m, .attach "c" l] "c" ⟨[], rfl⟩ l
  exact absurd (taken (by simp [book, Book.enter])) (by decide)

/-- A listener that is registered twice changes places when the later registration is withdrawn, and
withdrawing it again takes the other registration. -/
theorem withdraw_takes_other :
    let l : Listener := ⟨0, "l", []⟩
    let m : Listener := ⟨1, "m", []⟩
    let calls : List Call := [.attach "a" l, .attach "b" m, .attach "c" l, .withdraw "c"]
    ((book calls).made.map Prod.fst).Nodup ∧
      serials (after calls).registered = [1, 0] ∧
      serials ((book calls).live.map Prod.snd) = [0, 1] ∧
      serials (after (calls ++ [.withdraw "c"])).registered = [1] ∧
      serials ((book (calls ++ [.withdraw "c"])).live.map Prod.snd) = [0, 1] := by
  decide

end Provenance.Dispatcher
