import Provenance.Proofs.FileSystem.Walk

/-!
What the operations on files do to the map. `Grows` says that directories were made one by one at
free places; making directories does nothing else, whatever it ends in (`makeDirectories_grows`),
and where it succeeds the path leads to a directory (`locate_of_makeDirectories`). A file is opened
for writing at a free place or over a file (`openPlace_eq`).
-/
namespace Provenance.FileSystem

/-! ## Questions about a path -/

/-- The directory that following a path begins in. -/
def start (fs : FileSystem) (p : Path) : Location :=
  if p.isAbsolute then [] else fs.working

theorem locate_eq_ok_iff {fs : FileSystem} {follow : Bool} {p : Path} {d : Destination} :
    fs.locate follow p = .ok d ↔
      '\x00' ∉ p.text.toList ∧ p.text.utf8ByteSize ≤ maxPath ∧
        fs.Leads follow maxLinks (fs.start p) p.parts d := by
  unfold locate start
  by_cases null : '\x00' ∈ p.text.toList
  · simp [null]
  · by_cases long : maxPath < p.text.utf8ByteSize
    · simp [null, long, Nat.not_le.mpr long]
    · rw [← walk_eq_ok_iff]
      simp only [List.contains_eq_mem, null, decide_false, Bool.false_eq_true, if_false, long,
        Nat.not_lt.mp long, not_false_eq_true, true_and]
      split
      · rename_i walked
        rw [walked]
        simp
      · rename_i walked
        rw [walked]
        simp

theorem locate_extends {before after : FileSystem} (grown : before.Extends after) {follow : Bool}
    {p : Path} {place : Location} {entry : Entry}
    (found : before.locate follow p = .ok (.found place entry)) :
    ∃ later, after.lookup place = some later ∧
      after.locate follow p = .ok (.found place later) := by
  obtain ⟨noNull, short, leads⟩ := locate_eq_ok_iff.mp found
  obtain ⟨later, kept, leads⟩ := leads.extends grown
  refine ⟨later, kept, locate_eq_ok_iff.mpr ⟨noNull, short, ?_⟩⟩
  simpa only [start, grown.working] using leads

theorem inspect_eq_some_iff {fs : FileSystem} {p : Path} {place : Location} {entry : Entry} :
    fs.inspect p = .ok (some (place, entry)) ↔ fs.locate true p = .ok (.found place entry) := by
  unfold inspect
  split
  · simp_all
  · simp_all
  · simp_all
  · split <;> simp_all

theorem directory?_eq_some_iff {fs : FileSystem} {p : Path} {place : Location} :
    fs.directory? p = .ok (some place) ↔ fs.locate true p = .ok (.found place .directory) := by
  rw [← inspect_eq_some_iff]
  unfold directory?
  cases fs.inspect p with
  | error e => simp [bind, Except.bind]
  | ok answer =>
    rcases answer with _ | ⟨q, entry⟩
    · simp [bind, Except.bind, pure, Except.pure]
    · cases entry <;> simp [bind, Except.bind, pure, Except.pure]

theorem isDirectory_eq_true_iff {fs : FileSystem} {p : Path} :
    fs.isDirectory p = .ok true ↔ ∃ place, fs.locate true p = .ok (.found place .directory) := by
  simp only [← directory?_eq_some_iff]
  unfold isDirectory
  cases fs.directory? p with
  | error e => simp [bind, Except.bind]
  | ok answer => cases answer <;> simp [bind, Except.bind, pure, Except.pure]

/-- A directory stays one while entries are added. -/
theorem isDirectory_extends {before after : FileSystem} (grown : before.Extends after) {p : Path}
    (there : before.isDirectory p = .ok true) : after.isDirectory p = .ok true := by
  obtain ⟨place, located⟩ := isDirectory_eq_true_iff.mp there
  obtain ⟨later, kept, found⟩ := locate_extends grown located
  obtain ⟨_, _, leads⟩ := locate_eq_ok_iff.mp located
  rw [grown.directory leads.lookup_found] at kept
  cases kept
  exact isDirectory_eq_true_iff.mpr ⟨place, found⟩

theorem isPresent_eq_true_iff {fs : FileSystem} {p : Path} :
    fs.isPresent p = .ok true ↔ ∃ place entry, fs.locate true p = .ok (.found place entry) := by
  simp only [← inspect_eq_some_iff]
  unfold isPresent
  cases fs.inspect p with
  | error e => simp [bind, Except.bind]
  | ok answer => rcases answer with _ | ⟨q, entry⟩ <;> simp [bind, Except.bind, pure, Except.pure]

theorem isFile_eq_true_iff {fs : FileSystem} {p : Path} :
    fs.isFile p = .ok true ↔
      ∃ place bytes, fs.locate true p = .ok (.found place (.file bytes)) := by
  simp only [← inspect_eq_some_iff]
  unfold isFile
  cases fs.inspect p with
  | error e => simp [bind, Except.bind]
  | ok answer =>
    rcases answer with _ | ⟨q, entry⟩
    · simp [bind, Except.bind, pure, Except.pure]
    · cases entry <;> simp [bind, Except.bind, pure, Except.pure]

theorem read_eq_ok_iff {fs : FileSystem} {p : Path} {bytes : List UInt8} :
    fs.read p = .ok bytes ↔ ∃ place, fs.locate true p = .ok (.found place (.file bytes)) := by
  unfold read
  cases fs.locate true p with
  | error e => simp [bind, Except.bind]
  | ok d =>
    rcases d with ⟨q, entry⟩ | q
    · cases entry <;>
        simp [bind, Except.bind, pure, Except.pure, throw, throwThe, MonadExceptOf.throw]
    · simp [bind, Except.bind, throw, throwThe, MonadExceptOf.throw]

/-! ## Making directories -/

variable {disk : Disk}

/-- `after` is `before` with directories made one by one, each in a directory that was there by
then and at a free place that is `allowed`. -/
inductive Grows (allowed : Location → Prop) (before : FileSystem) : FileSystem → Prop
  | nothing : Grows allowed before before
  | more {after : FileSystem} {place : Location} {name : String} :
      Grows allowed before after → after.lookup place = some .directory → IsName name →
      after.lookup (place ++ [name]) = none → allowed (place ++ [name]) →
      Grows allowed before (after.set (place ++ [name]) .directory)

theorem Grows.trans {allowed : Location → Prop} {before middle after : FileSystem}
    (first : Grows allowed before middle) (second : Grows allowed middle after) :
    Grows allowed before after := by
  induction second with
  | nothing => exact first
  | more _ there name free permitted ih => exact .more ih there name free permitted

theorem Grows.extends {allowed : Location → Prop} {before after : FileSystem}
    (grown : Grows allowed before after) : before.Extends after := by
  induction grown with
  | nothing => exact .refl before
  | more _ _ _ free _ ih => exact ih.trans (extends_set_free _ free)

/-- Growth only adds directories, and only at allowed places. -/
theorem Grows.lookup {allowed : Location → Prop} {before after : FileSystem}
    (grown : Grows allowed before after) (place : Location) :
    after.lookup place = before.lookup place ∨
      (before.lookup place = none ∧ after.lookup place = some .directory ∧ allowed place ∧
        ∃ above name, place = above ++ [name] ∧ IsName name) := by
  induction grown with
  | nothing => exact .inl rfl
  | @more after above name _ _ proper free permitted ih =>
    by_cases same : place = above ++ [name]
    · subst same
      have below : above ++ [name] ≠ [] := by simp
      rcases ih with old | ⟨_, there, _⟩
      · exact .inr ⟨old.symm.trans free, lookup_set_self _ _ below, permitted, above, name, rfl,
          proper⟩
      · rw [free] at there
        cases there
    · rw [lookup_set_of_ne _ same]
      exact ih

/-- Growth leaves where a path leads, and what it leads to. -/
theorem Grows.locate {allowed : Location → Prop} {before after : FileSystem}
    (grown : Grows allowed before after) {follow : Bool} {p : Path} {place : Location}
    {entry : Entry} (found : before.locate follow p = .ok (.found place entry)) :
    after.locate follow p = .ok (.found place entry) := by
  obtain ⟨later, kept, located⟩ := locate_extends grown.extends found
  obtain ⟨_, _, leads⟩ := locate_eq_ok_iff.mp found
  have there := leads.lookup_found
  rcases grown.lookup place with same | ⟨absent, _⟩
  · rw [same, there] at kept
    cases kept
    exact located
  · rw [absent] at there
    cases there

theorem Grows.noLinks {allowed : Location → Prop} {before after : FileSystem}
    (grown : Grows allowed before after) (linkFree : before.NoLinks) : after.NoLinks := by
  induction grown with
  | nothing => exact linkFree
  | more _ _ _ _ _ ih => exact ih.set _ rfl

theorem makeDirectory_cases (disk : Disk) (fs : FileSystem) (p : Path) :
    (∃ e, fs.makeDirectory disk p = (some e, fs)) ∨
      ∃ place, fs.locate false p = .ok (.free place) ∧ disk.bars place = none ∧
        fs.makeDirectory disk p = (none, fs.set place .directory) := by
  unfold makeDirectory
  split
  · exact .inl ⟨_, rfl⟩
  · exact .inl ⟨_, rfl⟩
  · rename_i place located
    cases barred : disk.bars place with
    | some shortage => exact .inl ⟨_, rfl⟩
    | none => exact .inr ⟨place, located, barred, rfl⟩

theorem makeDirectory_refused {fs after : FileSystem} {p : Path} {e : FileError}
    (refused : fs.makeDirectory disk p = (some e, after)) : fs = after := by
  rcases fs.makeDirectory_cases disk p with ⟨_, same⟩ | ⟨_, _, _, made⟩
  · rw [same] at refused
    cases refused
    rfl
  · rw [made] at refused
    cases refused

theorem makeDirectory_grows {allowed : Location → Prop} (fs : FileSystem) (p : Path)
    (permitted : ∀ place, fs.locate false p = .ok (.free place) → allowed place) :
    Grows allowed fs (fs.makeDirectory disk p).2 := by
  rcases fs.makeDirectory_cases disk p with ⟨e, refused⟩ | ⟨place, located, -, made⟩
  · rw [refused]
    exact .nothing
  · rw [made]
    have allowed := permitted place located
    obtain ⟨_, _, leads⟩ := locate_eq_ok_iff.mp located
    obtain ⟨above, name, rfl, there, proper, free⟩ := leads.free_place
    exact .more .nothing there proper free allowed

@[simp] theorem excuse_files (p : Path) (done : Option FileError × FileSystem) :
    (excuse p done).2 = done.2 := by
  unfold excuse
  split
  · split
    · rfl
    · split <;> rfl
  · rfl

/-- What is excused or went well leaves a directory, if what went well does. -/
theorem locate_of_excuse {p : Path} {done : Option FileError × FileSystem}
    (well : done.1 = none → ∃ place, done.2.locate true p = .ok (.found place .directory))
    (excused : (excuse p done).1 = none) :
    ∃ place, done.2.locate true p = .ok (.found place .directory) := by
  unfold excuse at excused
  split at excused
  · split at excused
    · cases excused
    · split at excused
      · rename_i isDirectory
        exact isDirectory_eq_true_iff.mp isDirectory
      · cases excused
      · cases excused
  · exact well excused

theorem locate_of_makeDirectory {fs : FileSystem} {p : Path}
    (made : (fs.makeDirectory disk p).1 = none) :
    ∃ place, (fs.makeDirectory disk p).2.locate true p = .ok (.found place .directory) := by
  rcases fs.makeDirectory_cases disk p with ⟨e, refused⟩ | ⟨place, located, -, made⟩
  · simp [refused] at made
  · obtain ⟨noNull, short, leads⟩ := locate_eq_ok_iff.mp located
    rw [made]
    exact ⟨place, locate_eq_ok_iff.mpr ⟨noNull, short, leads.taken (by simp)⟩⟩

/-- Making directories makes directories at free places and nothing else, whatever it ends in. The
places are the ones that the path and those above it lead to. -/
theorem makeDirectories_grows {allowed : Location → Prop} (fs : FileSystem) (p : Path)
    (permitted : ∀ (stage : FileSystem) (ancestor : Path) (place : Location),
      Grows allowed fs stage → ancestor.root = p.root → ancestor.parts <+: p.parts →
      stage.locate false ancestor = .ok (.free place) → allowed place) :
    Grows allowed fs (fs.makeDirectories disk p).2 := by
  fun_induction makeDirectories disk fs p with
  | case1 fs p path after refused =>
    cases makeDirectory_refused refused
    exact .nothing
  | case2 fs p path after refused nonempty parents made ih =>
    cases makeDirectory_refused refused
    have grown : Grows allowed fs parents := by
      rw [made] at ih
      refine ih fun stage ancestor place grown root above => ?_
      exact permitted stage ancestor place grown root (above.trans (List.dropLast_prefix _))
    rw [excuse_files]
    refine grown.trans (parents.makeDirectory_grows p fun place located => ?_)
    exact permitted parents p place grown rfl (List.prefix_refl _) located
  | case3 fs p path after refused nonempty failed ih =>
    cases makeDirectory_refused refused
    refine ih fun stage ancestor place grown root above => ?_
    exact permitted stage ancestor place grown root (above.trans (List.dropLast_prefix _))
  | case4 fs p =>
    rw [excuse_files]
    exact fs.makeDirectory_grows p fun place =>
      permitted fs p place .nothing rfl (List.prefix_refl _)

/-- Where making directories succeeds, the path leads to a directory. -/
theorem locate_of_makeDirectories {fs : FileSystem} {p : Path}
    (made : (fs.makeDirectories disk p).1 = none) :
    ∃ place, (fs.makeDirectories disk p).2.locate true p = .ok (.found place .directory) := by
  fun_induction makeDirectories disk fs p with
  | case1 => cases made
  | case2 fs p path after refused nonempty parents above ih =>
    rw [excuse_files]
    exact locate_of_excuse locate_of_makeDirectory made
  | case3 fs p path after refused nonempty failed ih =>
    cases whole : after.makeDirectories disk p.parent with
    | mk error parents =>
      rw [whole] at made
      cases made
      exact absurd whole (failed parents)
  | case4 fs p =>
    rw [excuse_files]
    exact locate_of_excuse locate_of_makeDirectory made

/-- What comes of making directories is up to the room that the disk has for entries. -/
theorem makeDirectories_congr {disk other : Disk} (same : disk.bars = other.bars)
    (fs : FileSystem) (p : Path) : fs.makeDirectories disk p = fs.makeDirectories other p := by
  have single : makeDirectory disk = makeDirectory other := by
    funext fs p
    simp only [makeDirectory, same]
  fun_induction makeDirectories disk fs p with
  | case1 fs p path after refused bare =>
    rw [single] at refused
    rw [makeDirectories, refused]
    simp only [bare, dite_true]
  | case2 fs p path after refused nonempty parents above ih =>
    rw [single] at refused ⊢
    rw [makeDirectories, refused]
    simp only [nonempty, dite_false, ← ih, above]
  | case3 fs p path after refused nonempty failed ih =>
    rw [single] at refused
    conv_rhs => rw [makeDirectories, refused]
    simp only [nonempty, dite_false, ← ih]
  | case4 fs p tried =>
    rw [single] at tried ⊢
    conv_rhs => rw [makeDirectories]
    split
    · rename_i refused
      exact absurd refused (tried _ _)
    · rfl

/-- A place that the beginning of a path spells. -/
def Spelled (fs : FileSystem) (p : Path) (place : Location) : Prop :=
  ∃ parts, parts <+: p.parts ∧ place = spell (fs.start p) parts

/-- Without symbolic links, the directories made are the ones that the path spells. -/
theorem makeDirectories_grows_spelled (disk : Disk) {fs : FileSystem} (linkFree : fs.NoLinks)
    (p : Path) : Grows (fs.Spelled p) fs (fs.makeDirectories disk p).2 := by
  refine fs.makeDirectories_grows p fun stage ancestor place grown root above located => ?_
  obtain ⟨_, _, leads⟩ := locate_eq_ok_iff.mp located
  have spelled := leads.place_eq (grown.noLinks linkFree)
  have begins : stage.start ancestor = fs.start p := by
    simp [start, Path.isAbsolute, root, grown.extends.working]
  exact ⟨ancestor.parts, above, by simpa only [Destination.place, begins] using spelled⟩

/-! ## Trees -/

/-- No location holds two entries. -/
def Unique (fs : FileSystem) : Prop := (fs.entries.map Prod.fst).Nodup

instance (fs : FileSystem) : Decidable fs.Unique :=
  inferInstanceAs (Decidable (List.Nodup _))

theorem Unique.set {fs : FileSystem} (unique : fs.Unique) (place : Location) (entry : Entry) :
    (fs.set place entry).Unique := by
  unfold Unique FileSystem.set
  rw [keys_setEntry]
  split
  · exact unique
  · rename_i absent
    refine List.nodup_append.mpr ⟨unique, by simp, ?_⟩
    rintro q member _ new rfl
    exact absent (by simpa [List.mem_singleton.mp new] using member)

theorem Grows.unique {allowed : Location → Prop} {before after : FileSystem}
    (grown : Grows allowed before after) (unique : before.Unique) : after.Unique := by
  induction grown with
  | nothing => exact unique
  | more _ _ _ _ _ ih => exact ih.set _ _

/-- Every entry lies in a directory under a name that a path can use, and no location holds two
entries. -/
structure IsTree (fs : FileSystem) : Prop where
  unique : fs.Unique
  parents : ∀ place name entry, fs.lookup (place ++ [name]) = some entry →
    fs.lookup place = some .directory
  named : ∀ place name entry, fs.lookup (place ++ [name]) = some entry → IsName name

/-- Whether a file system is a tree can be seen from its entries. -/
theorem isTree_iff {fs : FileSystem} :
    fs.IsTree ↔ fs.Unique ∧ ∀ key ∈ fs.entries.map Prod.fst,
      key = [] ∨ fs.lookup key.dropLast = some .directory ∧ IsName (key.getLastD "") := by
  constructor
  · intro tree
    refine ⟨tree.unique, fun key member => ?_⟩
    rcases List.eq_nil_or_concat key with rfl | ⟨place, name, rfl⟩
    · exact .inl rfl
    · right
      rw [List.concat_eq_append] at member ⊢
      obtain ⟨entry, held⟩ := (mem_keys_iff fs (by simp)).mp member
      rw [List.dropLast_concat, List.getLastD_concat]
      exact ⟨tree.parents place name entry held, tree.named place name entry held⟩
  · rintro ⟨unique, entries⟩
    have each : ∀ place name entry, fs.lookup (place ++ [name]) = some entry →
        fs.lookup place = some .directory ∧ IsName name := by
      intro place name entry held
      have member := (mem_keys_iff fs (by simp)).mpr ⟨entry, held⟩
      have inside := (entries _ member).resolve_left (by simp)
      rwa [List.dropLast_concat, List.getLastD_concat] at inside
    exact ⟨unique, fun place name entry held => (each place name entry held).1,
      fun place name entry held => (each place name entry held).2⟩

instance (fs : FileSystem) : Decidable fs.IsTree :=
  decidable_of_iff _ isTree_iff.symm

/-- A machine without files is a tree. -/
theorem isTree_empty (working : Location) : IsTree ⟨[], working⟩ :=
  isTree_iff.mpr ⟨List.nodup_nil, by simp⟩

/-- Setting a new entry in a directory, or an entry over a file, keeps the tree. -/
theorem IsTree.set {fs : FileSystem} (tree : fs.IsTree) {above : Location} {name : String}
    (entry : Entry) (there : fs.lookup above = some .directory) (proper : IsName name)
    (noDirectory : fs.lookup (above ++ [name]) ≠ some .directory) :
    (fs.set (above ++ [name]) entry).IsTree := by
  have kept : ∀ q, fs.lookup q = some .directory →
      (fs.set (above ++ [name]) entry).lookup q = some .directory := by
    intro q held
    rw [lookup_set_of_ne entry (by rintro rfl; exact noDirectory held), held]
  refine ⟨tree.unique.set _ _, ?_, ?_⟩
  · intro place last old held
    by_cases same : place ++ [last] = above ++ [name]
    · obtain ⟨rfl, -⟩ := List.append_inj' same rfl
      exact kept _ there
    · rw [lookup_set_of_ne entry same] at held
      exact kept _ (tree.parents place last old held)
  · intro place last old held
    by_cases same : place ++ [last] = above ++ [name]
    · obtain ⟨-, last⟩ := List.append_inj' same rfl
      cases last
      exact proper
    · rw [lookup_set_of_ne entry same] at held
      exact tree.named place last old held

/-- The names that lead to an entry of a tree are names that a path can use. -/
theorem IsTree.isName {fs : FileSystem} (tree : fs.IsTree) {place : Location} {entry : Entry}
    (held : fs.lookup place = some entry) {name : String} (member : name ∈ place) :
    IsName name := by
  induction place using List.reverseRecOn generalizing entry with
  | nil => cases member
  | append_singleton above last ih =>
    rcases List.mem_append.mp member with inside | final
    · exact ih (tree.parents above last entry held) inside
    · rw [List.mem_singleton.mp final]
      exact tree.named above last entry held

/-- What lies below an entry of a tree makes it a directory. -/
theorem IsTree.above {fs : FileSystem} (tree : fs.IsTree) {place rest : Location} {entry : Entry}
    (nonempty : rest ≠ []) (held : fs.lookup (place ++ rest) = some entry) :
    fs.lookup place = some .directory := by
  induction rest using List.reverseRecOn generalizing entry with
  | nil => exact absurd rfl nonempty
  | append_singleton rest last ih =>
    rw [← List.append_assoc] at held
    have there := tree.parents _ _ _ held
    by_cases single : rest = []
    · rwa [single, List.append_nil] at there
    · exact ih single there

theorem Grows.isTree {allowed : Location → Prop} {before after : FileSystem}
    (grown : Grows allowed before after) (tree : before.IsTree) : after.IsTree := by
  induction grown with
  | nothing => exact tree
  | more _ there proper free _ ih => exact ih.set _ there proper (by simp [free])

/-- A path that is followed to its end does not end at a symbolic link. -/
def FollowsLinks (fs : FileSystem) : Prop :=
  ∀ p place target, fs.locate true p ≠ .ok (.found place (.link target))

theorem NoLinks.followsLinks {fs : FileSystem} (linkFree : fs.NoLinks) : fs.FollowsLinks := by
  intro p place target located
  obtain ⟨_, _, leads⟩ := locate_eq_ok_iff.mp located
  exact linkFree.lookup_ne _ _ leads.lookup_found

/-- In a tree, a walk that begins at no link and follows the last one ends at no link. -/
theorem IsTree.leads_ne_link {fs : FileSystem} (tree : fs.IsTree) {links : Nat}
    {here place : Location} {parts : List String} {target : String}
    (leads : fs.Leads true links here parts (.found place (.link target)))
    (begins : ∀ target, fs.lookup here ≠ some (.link target)) : False := by
  generalize destination : Destination.found place (.link target) = d at leads
  induction leads with
  | stay there => cases destination; exact begins _ there
  | idle _ _ _ ih => exact ih begins destination
  | @up links here rest d there _ ih =>
    refine ih (fun target => ?_) destination
    rcases List.eq_nil_or_concat here with rfl | ⟨above, name, rfl⟩
    · simp
    · rw [List.concat_eq_append] at there ⊢
      rw [List.dropLast_concat, tree.parents above name _ there]
      simp
  | free => cases destination
  | atLink _ _ _ stop => cases stop
  | @through links here part target rest d there _ _ _ _ ih =>
    refine ih (fun other => ?_) destination
    unfold linkBase
    split
    · simp [there]
    · simp
  | down _ _ found noLink _ ih =>
    refine ih (fun target held => ?_) destination
    rw [found] at held
    exact noLink target (Option.some.inj held)

theorem IsTree.followsLinks {fs : FileSystem} (tree : fs.IsTree)
    (begins : ∀ target, fs.lookup fs.working ≠ some (.link target)) : fs.FollowsLinks := by
  intro p place target located
  obtain ⟨_, _, leads⟩ := locate_eq_ok_iff.mp located
  refine tree.leads_ne_link leads fun target => ?_
  unfold start
  split
  · simp
  · exact begins target

/-! ## Writing -/

/-- A file is opened where there is one, or at a free place that the disk has room at. -/
theorem openPlace_eq_ok_iff {fs : FileSystem} {p : Path} {place : Location} :
    fs.openPlace disk p = .ok place ↔
      (∃ entry, fs.locate true p = .ok (.found place entry) ∧ entry ≠ .directory) ∨
        fs.locate true p = .ok (.free place) ∧ disk.bars place = none := by
  unfold openPlace
  split
  · rename_i refused
    simp [refused]
  · rename_i located
    simp +contextual [located]
  · rename_i there entry other located
    simp only [located, Except.ok.injEq, Destination.found.injEq, reduceCtorEq, false_and, or_false]
    constructor
    · rintro rfl
      exact ⟨entry, ⟨rfl, rfl⟩, other⟩
    · rintro ⟨_, ⟨same, _⟩, _⟩
      exact same
  · rename_i there located
    simp only [located, Except.ok.injEq, Destination.free.injEq, reduceCtorEq, false_and,
      exists_false, false_or]
    cases barred : disk.bars there with
    | some shortage =>
      refine iff_of_false (by simp) ?_
      rintro ⟨rfl, free⟩
      cases barred.symm.trans free
    | none =>
      constructor
      · rintro ⟨⟩
        exact ⟨rfl, barred⟩
      · rintro ⟨rfl, -⟩
        rfl

/-- No file is opened in place of the root directory. -/
theorem openPlace_ne_root {fs : FileSystem} {p : Path} {place : Location}
    (opened : fs.openPlace disk p = .ok place) : place ≠ [] := by
  rintro rfl
  rcases openPlace_eq_ok_iff.mp opened with ⟨entry, located, notDirectory⟩ | ⟨located, -⟩
  · obtain ⟨_, _, leads⟩ := locate_eq_ok_iff.mp located
    have there := leads.lookup_found
    rw [lookup_root] at there
    exact notDirectory (Option.some.inj there).symm
  · obtain ⟨_, _, leads⟩ := locate_eq_ok_iff.mp located
    obtain ⟨above, name, same, _⟩ := leads.free_place
    simp at same

theorem openPlace_congr {disk other : Disk} (same : disk.bars = other.bars) (fs : FileSystem)
    (p : Path) : fs.openPlace disk p = fs.openPlace other p := by
  simp only [openPlace, same]

/-- What a path is opened at for writing: a place that holds no directory. Whatever becomes its
content, the other entries outlast it, and the path leads there. -/
theorem openPlace_eq {fs : FileSystem} (follows : fs.FollowsLinks) {p : Path} {place : Location}
    (opened : fs.openPlace disk p = .ok place) (bytes : List UInt8) :
    fs.lookup place ≠ some .directory ∧ fs.Extends (fs.set place (.file bytes)) ∧
      (fs.set place (.file bytes)).locate true p = .ok (.found place (.file bytes)) := by
  rcases openPlace_eq_ok_iff.mp opened with ⟨entry, located, notDirectory⟩ | ⟨located, -⟩
  · obtain ⟨noNull, short, leads⟩ := locate_eq_ok_iff.mp located
    have there := leads.lookup_found
    cases entry with
    | directory => exact absurd rfl notDirectory
    | link target => exact absurd located (follows p place target)
    | file old =>
      have grown := extends_set_file bytes there
      obtain ⟨later, held, found⟩ := locate_extends grown located
      rw [lookup_set_self fs _ (openPlace_ne_root opened)] at held
      cases held
      exact ⟨by simp [there], grown, found⟩
  · obtain ⟨noNull, short, leads⟩ := locate_eq_ok_iff.mp located
    obtain ⟨_, _, _, _, _, free⟩ := leads.free_place
    refine ⟨by simp [free], extends_set_free _ free, ?_⟩
    exact locate_eq_ok_iff.mpr ⟨noNull, short, leads.taken (by simp)⟩

/-- A write keeps a tree. -/
theorem IsTree.write {fs : FileSystem} (tree : fs.IsTree) (disk : Disk) (p : Path)
    (bytes : List UInt8) : (fs.write disk p bytes).2.IsTree := by
  unfold FileSystem.write
  split
  · exact tree
  · rename_i place opened
    rcases openPlace_eq_ok_iff.mp opened with ⟨entry, located, notDirectory⟩ | ⟨located, -⟩
    · obtain ⟨_, _, leads⟩ := locate_eq_ok_iff.mp located
      have there := leads.lookup_found
      obtain ⟨above, name, rfl⟩ :=
        (List.eq_nil_or_concat place).resolve_left (openPlace_ne_root opened)
      rw [List.concat_eq_append] at there ⊢
      refine tree.set _ (tree.parents _ _ _ there) (tree.named _ _ _ there) ?_
      rw [there]
      exact fun same => notDirectory (Option.some.inj same)
    · obtain ⟨_, _, leads⟩ := locate_eq_ok_iff.mp located
      obtain ⟨above, name, rfl, there, proper, free⟩ := leads.free_place
      exact tree.set _ there proper (by simp [free])

/-- Making directories keeps a tree. -/
theorem IsTree.makeDirectories {fs : FileSystem} (tree : fs.IsTree) (disk : Disk) (p : Path) :
    (fs.makeDirectories disk p).2.IsTree := by
  have grown : Grows (fun _ => True) fs (fs.makeDirectories disk p).2 :=
    fs.makeDirectories_grows p fun _ _ _ _ _ _ _ => trivial
  exact grown.isTree tree

end Provenance.FileSystem
