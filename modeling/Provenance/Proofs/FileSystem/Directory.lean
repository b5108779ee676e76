import Mathlib.Data.List.Nodup
import Provenance.Proofs.FileSystem.Growth
import Provenance.Proofs.Path
import Provenance.Proofs.Steps
import Provenance.Tracking.Archive

/-!
What a directory holds, as its listing tells it: each name once and in order (`names_increasing`),
and the directories below it (`mem_directoriesFrom`). A question about a path is refused for the
length of a name or of the path and for nothing else (`inspect_eq_error_iff`), and where there are
no symbolic links, it is a length that can be seen from the path (`Refuses.not_fits`).
-/
namespace Provenance

/-! ## Lists -/

/-- Sorting what holds no element twice makes it strictly increasing. -/
theorem mergeSort_increasing {α : Type} [LT α] [LE α] [Std.IsLinearOrder α]
    [Std.LawfulOrderLT α] {le : α → α → Bool} (tells : ∀ a b, le a b = true ↔ a ≤ b) {l : List α}
    (unique : l.Nodup) : (l.mergeSort le).Pairwise (· < ·) := by
  have sorted : (l.mergeSort le).Pairwise fun a b => le a b := by
    refine List.pairwise_mergeSort (fun a b c first second => ?_) (fun a b => ?_) l
    · exact (tells a c).mpr (Std.le_trans ((tells a b).mp first) ((tells b c).mp second))
    · rw [Bool.or_eq_true, tells, tells]
      exact Std.le_total
  have distinct := (List.mergeSort_perm l le).nodup_iff.mpr unique
  refine sorted.imp₂ (fun a b below other => ?_) distinct
  rw [Std.lt_iff_le_and_not_ge]
  refine ⟨(tells a b).mp below, fun above => other ?_⟩
  exact Std.le_antisymm ((tells a b).mp below) above

/-- Under keys that are there once, a key looks up the value that it stands with. -/
theorem lookup_eq_some_iff_mem {κ α : Type} [BEq κ] [LawfulBEq κ] {items : List (κ × α)}
    (unique : (items.map Prod.fst).Nodup) {key : κ} {x : α} :
    items.lookup key = some x ↔ (key, x) ∈ items := by
  induction items with
  | nil => simp
  | cons item rest ih =>
    obtain ⟨first, old⟩ := item
    rw [List.map_cons, List.nodup_cons] at unique
    by_cases same : key = first
    · subst same
      have absent : (key, x) ∉ rest := fun member =>
        unique.1 (List.mem_map.mpr ⟨_, member, rfl⟩)
      simp [absent, eq_comm]
    · have other : (key == first) = false := beq_false_of_ne same
      rw [List.lookup_cons, other]
      simpa [same] using ih unique.2

/-- What comes from items with different keys is different, if it tells the key. -/
theorem nodup_filterMap_of_keys {κ α β : Type} {items : List (κ × α)}
    (unique : (items.map Prod.fst).Nodup) {f : κ × α → Option β}
    (keyed : ∀ item other b, f item = some b → f other = some b → item.1 = other.1) :
    (items.filterMap f).Nodup := by
  have distinct : items.Pairwise fun item other => item.1 ≠ other.1 := List.pairwise_map.mp unique
  refine distinct.filterMap f fun item other differ b held c again same => ?_
  subst same
  exact differ (keyed item other b held again)

namespace FileSystem

/-! ## Listings -/

theorem mem_below {fs : FileSystem} {place : Location} {key : List String} {entry : Entry} :
    (key, entry) ∈ fs.below place ↔ key ≠ [] ∧ (place ++ key, entry) ∈ fs.entries := by
  unfold below
  rw [List.mem_filterMap]
  constructor
  · rintro ⟨⟨whole, held⟩, member, kept⟩
    dsimp only at kept
    split at kept
    · rename_i inside
      simp only [Bool.and_eq_true, List.isPrefixOf_iff_prefix, bne_iff_ne] at inside
      obtain ⟨⟨rest, rfl⟩, other⟩ := inside
      cases kept
      rw [List.drop_left]
      exact ⟨by rintro rfl; simp at other, member⟩
    · cases kept
  · rintro ⟨nonempty, member⟩
    exact ⟨(place ++ key, entry), member, by simp [nonempty]⟩

theorem Unique.lookup {fs : FileSystem} (unique : fs.Unique) {place : Location} (below : place ≠ [])
    {entry : Entry} : fs.lookup place = some entry ↔ (place, entry) ∈ fs.entries := by
  rw [FileSystem.lookup, if_neg below]
  exact lookup_eq_some_iff_mem unique

/-- A listing below a place mentions nothing twice. -/
theorem Unique.below_nodup {fs : FileSystem} (unique : fs.Unique) (place : Location) :
    ((fs.below place).map Prod.fst).Nodup := by
  unfold below
  rw [List.map_filterMap]
  refine nodup_filterMap_of_keys unique fun item other key held again => ?_
  obtain ⟨whole, entry⟩ := item
  obtain ⟨alike, old⟩ := other
  dsimp only at held again ⊢
  split at held
  · split at again
    · rename_i inside within
      simp only [Bool.and_eq_true, List.isPrefixOf_iff_prefix] at inside within
      obtain ⟨⟨more, rfl⟩, -⟩ := inside
      obtain ⟨⟨less, rfl⟩, -⟩ := within
      simp only [List.drop_left, Option.map_some, Option.some.injEq] at held again
      rw [held, again]
    · cases again
  · cases held

/-- A directory lists the names of the entries in it. -/
theorem mem_names {fs : FileSystem} {place : Location} {name : String} :
    name ∈ fs.names place ↔ ∃ entry, fs.lookup (place ++ [name]) = some entry := by
  rw [← mem_keys_iff fs (by simp), names, List.mem_mergeSort, List.mem_filterMap, List.mem_map]
  constructor
  · rintro ⟨⟨key, entry⟩, member, single⟩
    dsimp only at single
    split at single
    · cases single
      exact ⟨_, (mem_below.mp member).2, rfl⟩
    · cases single
  · rintro ⟨⟨key, entry⟩, member, rfl⟩
    exact ⟨([name], entry), mem_below.mpr ⟨by simp, member⟩, rfl⟩

/-- A directory lists each name once, in increasing order. -/
theorem Unique.names_increasing {fs : FileSystem} (unique : fs.Unique) (place : Location) :
    (fs.names place).Pairwise (· < ·) := by
  refine mergeSort_increasing (fun a b => decide_eq_true_iff) ?_
  refine nodup_filterMap_of_keys (unique.below_nodup place) fun item other name held again => ?_
  obtain ⟨key, entry⟩ := item
  obtain ⟨alike, old⟩ := other
  dsimp only at held again ⊢
  split at held
  · split at again
    · cases held
      cases again
      rfl
    · cases again
  · cases held

/-! ## The directories below a place -/

/-- The search goes one name down if the name is that of a directory, and goes on from there. -/
theorem cons_mem_directoriesFrom {fs : FileSystem} {place : Location} {name : String}
    {rest : List String} :
    name :: rest ∈ fs.directoriesFrom place ↔
      fs.lookup (place ++ [name]) = some .directory ∧
        rest ∈ fs.directoriesFrom (place ++ [name]) := by
  rw [directoriesFrom, List.mem_cons, List.mem_flatMap]
  constructor
  · rintro (empty | ⟨first, _, found⟩)
    · cases empty
    · split at found
      · rename_i directory
        obtain ⟨tail, inside, same⟩ := List.mem_map.mp found
        cases same
        exact ⟨directory, inside⟩
      · cases found
  · rintro ⟨directory, inside⟩
    refine .inr ⟨name, mem_names.mpr ⟨_, directory⟩, ?_⟩
    rw [dif_pos directory]
    exact List.mem_map.mpr ⟨rest, inside, rfl⟩

/-- The search comes to all names that lead from directory to directory, and to no others. -/
theorem mem_directoriesFrom {fs : FileSystem} {place : Location} {key : List String} :
    key ∈ fs.directoriesFrom place ↔
      ∀ above, above <+: key → above ≠ [] → fs.lookup (place ++ above) = some .directory := by
  induction key generalizing place with
  | nil =>
    rw [directoriesFrom]
    simp
  | cons name rest ih =>
    rw [cons_mem_directoriesFrom, ih]
    constructor
    · rintro ⟨directory, inside⟩ above begins nonempty
      obtain ⟨tail, rfl, within⟩ := (List.prefix_cons_iff.mp begins).resolve_left nonempty
      by_cases last : tail = []
      · rw [last]
        exact directory
      · rw [List.append_cons]
        exact inside tail within last
    · intro inside
      refine ⟨inside [name] ⟨rest, rfl⟩ (by simp), fun above begins _ => ?_⟩
      rw [← List.append_cons]
      exact inside (name :: above) ((List.prefix_append_right_inj [name]).mpr begins) (by simp)

/-- In a tree, all directories below a directory are come to. -/
theorem IsTree.mem_directoriesFrom {fs : FileSystem} (tree : fs.IsTree) {place : Location}
    (there : fs.lookup place = some .directory) {key : List String} :
    key ∈ fs.directoriesFrom place ↔ fs.lookup (place ++ key) = some .directory := by
  rw [FileSystem.mem_directoriesFrom]
  constructor
  · intro inside
    by_cases empty : key = []
    · rw [empty, List.append_nil]
      exact there
    · exact inside key (List.prefix_refl _) empty
  · rintro held above ⟨rest, rfl⟩ -
    by_cases last : rest = []
    · rwa [last, List.append_nil] at held
    · rw [← List.append_assoc] at held
      exact tree.above last held

/-- The search comes to no directory twice. -/
theorem Unique.directoriesFrom_nodup {fs : FileSystem} (unique : fs.Unique) (place : Location) :
    (fs.directoriesFrom place).Nodup := by
  fun_induction directoriesFrom fs place with
  | case1 place ih =>
    have begins : ∀ name key, (key ∈ if _h : fs.lookup (place ++ [name]) = some .directory then
        (fs.directoriesFrom (place ++ [name])).map (name :: ·) else []) →
        ∃ rest, name :: rest = key := by
      intro name key member
      split at member
      · obtain ⟨rest, _, same⟩ := List.mem_map.mp member
        exact ⟨rest, same⟩
      · cases member
    refine List.nodup_cons.mpr ⟨fun member => ?_, List.nodup_flatMap.mpr ⟨fun name _ => ?_, ?_⟩⟩
    · obtain ⟨name, _, empty⟩ := List.mem_flatMap.mp member
      obtain ⟨rest, same⟩ := begins name [] empty
      cases same
    · split
      · rename_i directory
        exact (ih name directory).map List.cons_injective
      · exact List.nodup_nil
    · refine (unique.names_increasing place).imp fun {first second} below key one other => ?_
      obtain ⟨_, rfl⟩ := begins first key one
      obtain ⟨_, same⟩ := begins second _ other
      cases same
      exact absurd below (String.lt_irrefl _)

/-! ## Paths that continue one another -/

/-- If a path leads anywhere, what stands before its end leads to a directory. -/
theorem locate_above {fs : FileSystem} {follow : Bool} {p : Path} {more : List String}
    {d : Destination} (written : p.isAbsolute = true ∨ p.parts ≠ []) (nonempty : more ≠ [])
    (located : fs.locate follow { p with parts := p.parts ++ more } = .ok d) :
    ∃ place, fs.locate true p = .ok (.found place .directory) := by
  obtain ⟨noNull, short, leads⟩ := locate_eq_ok_iff.mp located
  have continued := Path.text_begins written more
  obtain ⟨middle, before⟩ := leads.above nonempty
  refine ⟨middle, locate_eq_ok_iff.mpr ⟨fun null => noNull (continued.subset null), ?_, before⟩⟩
  exact Nat.le_trans (utf8ByteSize_le_of_begins continued) short

/-! ## Questions that are refused -/

/-- There is no asking about the path: it is too long, or following it comes upon a name that is. -/
def Refuses (fs : FileSystem) (p : Path) : Prop :=
  '\x00' ∉ p.text.toList ∧
    (maxPath < p.text.utf8ByteSize ∨
      fs.walk true maxLinks (fs.start p) p.parts = .error .nameTooLong)

/-- A question about a path is refused for a length and for nothing else. -/
theorem inspect_eq_error_iff {fs : FileSystem} {p : Path} {e : FileError} :
    fs.inspect p = .error e ↔ e = .refused .nameTooLong p ∧ fs.Refuses p := by
  unfold inspect locate Refuses start
  by_cases null : '\x00' ∈ p.text.toList
  · simp [null]
  · simp only [List.contains_eq_mem, null, decide_false, Bool.false_eq_true, if_false,
      not_false_eq_true, true_and]
    by_cases long : maxPath < p.text.utf8ByteSize
    · simp only [long, if_true, Fault.meansAbsent, Bool.false_eq_true, if_false, Except.error.injEq,
        true_or, and_true]
      exact eq_comm
    · simp only [long, if_false, false_or]
      rcases walked : fs.walk true maxLinks (if p.isAbsolute then [] else fs.working) p.parts with
        fault | (⟨place, entry⟩ | place)
      · rcases meansAbsent_of_walk walked with absent | rfl
        · have other : fault ≠ .nameTooLong := by
            rintro rfl
            cases absent
          simp [absent, other]
        · simp only [Fault.meansAbsent, Bool.false_eq_true, if_false, Except.error.injEq, and_true]
          exact eq_comm
      · simp
      · simp

theorem directory?_eq_error_iff {fs : FileSystem} {p : Path} {e : FileError} :
    fs.directory? p = .error e ↔ e = .refused .nameTooLong p ∧ fs.Refuses p := by
  rw [← inspect_eq_error_iff]
  unfold directory?
  rcases fs.inspect p with other | (_ | ⟨place, entry⟩)
  · simp [bind, Except.bind]
  · simp [bind, Except.bind, pure, Except.pure]
  · cases entry <;> simp [bind, Except.bind, pure, Except.pure]

theorem not_refuses_of_directory {fs : FileSystem} {p : Path} {found : Option Location}
    (answered : fs.directory? p = .ok found) : ¬fs.Refuses p := by
  intro refuses
  rw [directory?_eq_error_iff.mpr ⟨rfl, refuses⟩] at answered
  cases answered

theorem isDirectory_eq_error_iff {fs : FileSystem} {p : Path} {e : FileError} :
    fs.isDirectory p = .error e ↔ e = .refused .nameTooLong p ∧ fs.Refuses p := by
  rw [← directory?_eq_error_iff]
  unfold isDirectory
  cases fs.directory? p <;> simp [bind, Except.bind, pure, Except.pure]

theorem isDirectory_eq_false_iff {fs : FileSystem} {p : Path} :
    fs.isDirectory p = .ok false ↔ fs.directory? p = .ok none := by
  unfold isDirectory
  cases fs.directory? p <;> simp [bind, Except.bind, pure, Except.pure]

theorem not_refuses_of_isDirectory {fs : FileSystem} {p : Path} {there : Bool}
    (answered : fs.isDirectory p = .ok there) : ¬fs.Refuses p := by
  intro refuses
  rw [isDirectory_eq_error_iff.mpr ⟨rfl, refuses⟩] at answered
  cases answered

theorem isFile_eq_error_iff {fs : FileSystem} {p : Path} {e : FileError} :
    fs.isFile p = .error e ↔ e = .refused .nameTooLong p ∧ fs.Refuses p := by
  rw [← inspect_eq_error_iff]
  unfold isFile
  rcases fs.inspect p with other | (_ | ⟨place, entry⟩)
  · simp [bind, Except.bind]
  · simp [bind, Except.bind, pure, Except.pure]
  · cases entry <;> simp [bind, Except.bind, pure, Except.pure]

theorem isPresent_eq_error_iff {fs : FileSystem} {p : Path} {e : FileError} :
    fs.isPresent p = .error e ↔ e = .refused .nameTooLong p ∧ fs.Refuses p := by
  rw [← inspect_eq_error_iff]
  unfold isPresent
  cases fs.inspect p <;> simp [bind, Except.bind, pure, Except.pure]

theorem not_refuses_of_isPresent {fs : FileSystem} {p : Path} {present : Bool}
    (answered : fs.isPresent p = .ok present) : ¬fs.Refuses p := by
  intro refuses
  rw [isPresent_eq_error_iff.mpr ⟨rfl, refuses⟩] at answered
  cases answered

/-- Without symbolic links, the length is that of the path or of a name in it. -/
theorem Refuses.not_fits {fs : FileSystem} {p : Path} (refuses : fs.Refuses p)
    (linkFree : fs.NoLinks) : ¬p.Fits := by
  intro fits
  obtain ⟨-, long | stopped⟩ := refuses
  · exact absurd fits.path (Nat.not_le.mpr long)
  · rcases stops_of_walk linkFree stopped with missing | notDirectory | ⟨-, part, member, long⟩
    · cases missing
    · cases notDirectory
    · exact absurd (fits.names part member) (Nat.not_le.mpr long)

/-- Nothing is present below a name that is not there. -/
theorem isPresent_of_absent {fs : FileSystem} {p : Path} {first : String} {rest : List String}
    (parts : p.parts = first :: rest) (short : p.text.utf8ByteSize ≤ maxPath)
    (there : fs.lookup (fs.start p) = some .directory) (name : IsName first)
    (absent : fs.lookup (fs.start p ++ [first]) = none) : fs.isPresent p = .ok false := by
  have walked := walk_cons_absent there name absent true maxLinks rest
  rw [← parts, start] at walked
  have nothing : fs.inspect p = .ok none := by
    unfold inspect locate
    rw [if_neg (Nat.not_lt.mpr short), walked]
    by_cases null : p.text.toList.contains '\x00'
    · rw [if_pos null]
    · rw [if_neg null]
      by_cases last : rest = []
      · rw [if_pos last]
      · rw [if_neg last]
        rfl
  simp [isPresent, nothing, bind, Except.bind, pure, Except.pure]

/-- Where nothing is present there is no directory. -/
theorem isDirectory_of_absent {fs : FileSystem} {p : Path} (absent : fs.isPresent p = .ok false) :
    fs.isDirectory p = .ok false := by
  unfold isPresent at absent
  rcases answer : fs.inspect p with e | (_ | found)
  · simp [answer, bind, Except.bind] at absent
  · simp [isDirectory, directory?, answer, bind, Except.bind, pure, Except.pure]
  · simp [answer, bind, Except.bind, pure, Except.pure] at absent

end FileSystem

end Provenance
