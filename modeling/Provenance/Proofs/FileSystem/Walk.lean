import Mathlib.Data.List.Induction
import Provenance.FileSystem.Operations

/-!
Where paths lead. `Leads` says it as a relation, one rule for each way to take a part, and `walk`
decides it (`walk_eq_ok_iff`). What a path leads to stays where it is while entries are added
(`Leads.extends`), and without symbolic links a path leads to the place that its text spells
(`Leads.place_eq`).
-/
namespace Provenance

/-- An entry without the content of a file. -/
def Entry.shape : Entry → Entry
  | .file _ => .file []
  | entry => entry

/-- Whether an entry is a symbolic link. -/
def Entry.isLink : Entry → Bool
  | .link _ => true
  | _ => false

theorem Entry.shape_eq_directory {entry : Entry} (same : entry.shape = Entry.directory.shape) :
    entry = .directory := by
  cases entry <;> simp_all [shape]

theorem Entry.shape_eq_link {entry : Entry} {target : String}
    (same : entry.shape = (Entry.link target).shape) : entry = .link target := by
  cases entry <;> simp_all [shape]

theorem Entry.ne_link_of_shape {entry old : Entry} (same : entry.shape = old.shape)
    (noLink : ∀ target, old ≠ .link target) (target : String) : entry ≠ .link target := by
  rintro rfl
  exact noLink target (shape_eq_link same.symm)

namespace FileSystem

/-! ## Entries -/

@[simp] theorem lookup_root (fs : FileSystem) : fs.lookup [] = some .directory := by
  simp [lookup]

theorem lookup_setEntry (place q : Location) (entry : Entry) (entries : List (Location × Entry)) :
    (setEntry place entry entries).lookup q =
      if q = place then some entry else entries.lookup q := by
  induction entries with
  | nil =>
    by_cases same : q = place
    · simp [setEntry, same]
    · have other : (q == place) = false := beq_false_of_ne same
      simp [setEntry, List.lookup_cons, other, same]
  | cons item rest ih =>
    obtain ⟨key, old⟩ := item
    unfold setEntry
    by_cases same : q = key
    · subst same
      by_cases taken : q = place <;> simp [taken]
    · have other : (q == key) = false := beq_false_of_ne same
      by_cases taken : key = place
      · subst taken
        simp [List.lookup_cons, other, same]
      · simp [List.lookup_cons, other, taken, ih]

theorem lookup_set_of_ne {fs : FileSystem} {place q : Location} (entry : Entry)
    (other : q ≠ place) : (fs.set place entry).lookup q = fs.lookup q := by
  simp [lookup, set, lookup_setEntry, other]

theorem lookup_set_self (fs : FileSystem) {place : Location} (entry : Entry) (below : place ≠ []) :
    (fs.set place entry).lookup place = some entry := by
  simp [lookup, set, lookup_setEntry, below]

theorem setEntry_setEntry (place : Location) (first second : Entry)
    (entries : List (Location × Entry)) :
    setEntry place second (setEntry place first entries) = setEntry place second entries := by
  induction entries with
  | nil => simp [setEntry]
  | cons item rest ih =>
    obtain ⟨key, old⟩ := item
    by_cases taken : key = place
    · simp [setEntry, taken]
    · simp [setEntry, taken, ih]

/-- An entry set over another one leaves no trace of it. -/
theorem set_set (fs : FileSystem) (place : Location) (first second : Entry) :
    (fs.set place first).set place second = fs.set place second := by
  simp only [set, setEntry_setEntry]

/-- A new entry comes last; an entry that was there keeps its place. -/
theorem keys_setEntry (place : Location) (entry : Entry) (entries : List (Location × Entry)) :
    (setEntry place entry entries).map Prod.fst =
      if place ∈ entries.map Prod.fst then entries.map Prod.fst
      else entries.map Prod.fst ++ [place] := by
  induction entries with
  | nil => simp [setEntry]
  | cons item rest ih =>
    obtain ⟨key, old⟩ := item
    unfold setEntry
    split
    · rename_i taken
      simp [taken]
    · rename_i other
      rw [List.map_cons, ih]
      by_cases member : place ∈ rest.map Prod.fst
      · simp [member]
      · have absent : place ≠ key := fun same => other same.symm
        simp [member, absent]

/-- The locations below the root that hold an entry are the keys of the map. -/
theorem mem_keys_iff (fs : FileSystem) {q : Location} (below : q ≠ []) :
    q ∈ fs.entries.map Prod.fst ↔ ∃ entry, fs.lookup q = some entry := by
  simp only [lookup, if_neg below]
  induction fs.entries with
  | nil => simp
  | cons item rest ih =>
    obtain ⟨key, old⟩ := item
    by_cases same : q = key
    · simp [same]
    · have other : (q == key) = false := beq_false_of_ne same
      rw [List.map_cons, List.mem_cons, List.lookup_cons, other]
      simpa [same] using ih

/-! ## Following a path -/

/-- A part that names an entry of the directory at hand. -/
structure IsName (part : String) : Prop where
  notIdle : Path.isIdle part = false
  notUp : part ≠ ".."
  short : part.utf8ByteSize ≤ maxName

instance (part : String) : Decidable (IsName part) :=
  decidable_of_iff (Path.isIdle part = false ∧ part ≠ ".." ∧ part.utf8ByteSize ≤ maxName)
    ⟨fun ⟨notIdle, notUp, short⟩ => ⟨notIdle, notUp, short⟩,
      fun name => ⟨name.notIdle, name.notUp, name.short⟩⟩

/-- Following parts from the directory `here` on leads to a destination. `links` is how many more
symbolic links may be passed. -/
inductive Leads (fs : FileSystem) (follow : Bool) :
    Nat → Location → List String → Destination → Prop
  | stay {links : Nat} {here : Location} {entry : Entry} :
      fs.lookup here = some entry → Leads fs follow links here [] (.found here entry)
  | idle {links : Nat} {here : Location} {part : String} {rest : List String} {d : Destination} :
      fs.lookup here = some .directory → Path.isIdle part = true →
      Leads fs follow links here rest d → Leads fs follow links here (part :: rest) d
  | up {links : Nat} {here : Location} {rest : List String} {d : Destination} :
      fs.lookup here = some .directory → Leads fs follow links here.dropLast rest d →
      Leads fs follow links here (".." :: rest) d
  | free {links : Nat} {here : Location} {part : String} :
      fs.lookup here = some .directory → IsName part → fs.lookup (here ++ [part]) = none →
      Leads fs follow links here [part] (.free (here ++ [part]))
  | atLink {links : Nat} {here : Location} {part target : String} :
      fs.lookup here = some .directory → IsName part →
      fs.lookup (here ++ [part]) = some (.link target) → follow = false →
      Leads fs follow links here [part] (.found (here ++ [part]) (.link target))
  | through {links : Nat} {here : Location} {part target : String} {rest : List String}
      {d : Destination} :
      fs.lookup here = some .directory → IsName part →
      fs.lookup (here ++ [part]) = some (.link target) → ¬(rest = [] ∧ follow = false) →
      Leads fs follow links (linkBase here target) (Text.fieldsOf '/' target ++ rest) d →
      Leads fs follow (links + 1) here (part :: rest) d
  | down {links : Nat} {here : Location} {part : String} {rest : List String} {entry : Entry}
      {d : Destination} :
      fs.lookup here = some .directory → IsName part → fs.lookup (here ++ [part]) = some entry →
      (∀ target, entry ≠ .link target) → Leads fs follow links (here ++ [part]) rest d →
      Leads fs follow links here (part :: rest) d

theorem isIdle_up : Path.isIdle ".." = false := by decide

/-! One part of a walk, by what the part is. -/

theorem walk_cons_idle {fs : FileSystem} {here : Location} {part : String}
    (there : fs.lookup here = some .directory) (idle : Path.isIdle part = true) (follow : Bool)
    (links : Nat) (rest : List String) :
    fs.walk follow links here (part :: rest) = fs.walk follow links here rest := by
  rw [walk, there]
  simp [idle]

theorem walk_cons_up {fs : FileSystem} {here : Location} (there : fs.lookup here = some .directory)
    (follow : Bool) (links : Nat) (rest : List String) :
    fs.walk follow links here (".." :: rest) = fs.walk follow links here.dropLast rest := by
  rw [walk, there]
  simp [isIdle_up]

theorem walk_cons_link {fs : FileSystem} {here : Location} {part target : String}
    (there : fs.lookup here = some .directory) (name : IsName part)
    (link : fs.lookup (here ++ [part]) = some (.link target)) {follow : Bool} (links : Nat)
    {rest : List String} (onward : ¬(rest = [] ∧ follow = false)) :
    fs.walk follow (links + 1) here (part :: rest) =
      fs.walk follow links (linkBase here target) (Text.fieldsOf '/' target ++ rest) := by
  rw [walk, there]
  simp [name.notIdle, name.notUp, Nat.not_lt.mpr name.short, link, onward]

/-- A walk enters what is no symbolic link by its name. -/
theorem walk_cons_entry {fs : FileSystem} {here : Location} {part : String} {entry : Entry}
    (there : fs.lookup here = some .directory) (name : IsName part)
    (next : fs.lookup (here ++ [part]) = some entry) (noLink : ∀ target, entry ≠ .link target)
    (follow : Bool) (links : Nat) (rest : List String) :
    fs.walk follow links here (part :: rest) = fs.walk follow links (here ++ [part]) rest := by
  rw [walk, there]
  cases entry with
  | link target => exact absurd rfl (noLink target)
  | directory => simp [name.notIdle, name.notUp, Nat.not_lt.mpr name.short, next]
  | file bytes => simp [name.notIdle, name.notUp, Nat.not_lt.mpr name.short, next]

theorem walk_cons_directory {fs : FileSystem} {here : Location} {part : String}
    (there : fs.lookup here = some .directory) (name : IsName part)
    (next : fs.lookup (here ++ [part]) = some .directory) (follow : Bool) (links : Nat)
    (rest : List String) :
    fs.walk follow links here (part :: rest) = fs.walk follow links (here ++ [part]) rest :=
  walk_cons_entry there name next (by simp) follow links rest

/-- A walk stops at a name that is too long. -/
theorem walk_cons_long {fs : FileSystem} {here : Location} {part : String}
    (there : fs.lookup here = some .directory) (notIdle : Path.isIdle part = false)
    (notUp : part ≠ "..") (long : maxName < part.utf8ByteSize) (follow : Bool) (links : Nat)
    (rest : List String) : fs.walk follow links here (part :: rest) = .error .nameTooLong := by
  rw [walk, there]
  simp [notIdle, notUp, long]

/-- A name that is not there is a free place at the end of a walk, and missing before. -/
theorem walk_cons_absent {fs : FileSystem} {here : Location} {part : String}
    (there : fs.lookup here = some .directory) (name : IsName part)
    (absent : fs.lookup (here ++ [part]) = none) (follow : Bool) (links : Nat)
    (rest : List String) :
    fs.walk follow links here (part :: rest) =
      if rest = [] then .ok (.free (here ++ [part])) else .error .missing := by
  rw [walk, there]
  simp [name.notIdle, name.notUp, Nat.not_lt.mpr name.short, absent]

theorem Leads.walk_eq {fs : FileSystem} {follow : Bool} {links : Nat} {here : Location}
    {parts : List String} {d : Destination} (leads : fs.Leads follow links here parts d) :
    fs.walk follow links here parts = .ok d := by
  induction leads with
  | stay there => rw [walk, there]
  | idle there idle _ ih => rw [walk_cons_idle there idle, ih]
  | up there _ ih => rw [walk_cons_up there, ih]
  | free there name absent => rw [walk_cons_absent there name absent, if_pos rfl]
  | atLink there name link stop =>
    rw [walk, there]
    simp [name.notIdle, name.notUp, Nat.not_lt.mpr name.short, link, stop]
  | through there name link onward _ ih => rw [walk_cons_link there name link _ onward, ih]
  | down there name found noLink _ ih => rw [walk_cons_entry there name found noLink, ih]

theorem leads_of_walk {fs : FileSystem} {follow : Bool} {links : Nat} {here : Location}
    {parts : List String} {d : Destination} (walked : fs.walk follow links here parts = .ok d) :
    fs.Leads follow links here parts d := by
  fun_induction walk fs follow links here parts with
  | case1 => cases walked
  | case2 links here entry there =>
    cases walked
    exact .stay there
  | case3 => cases walked
  | case4 links here entry there part rest isDirectory idle ih =>
    rw [not_ne_iff.mp isDirectory] at there
    exact .idle there idle (ih walked)
  | case5 links here entry there rest isDirectory _ ih =>
    rw [not_ne_iff.mp isDirectory] at there
    exact .up there (ih walked)
  | case6 => cases walked
  | case7 links here entry there part isDirectory notIdle notUp short absent =>
    rw [not_ne_iff.mp isDirectory] at there
    cases walked
    exact .free there ⟨by simpa using notIdle, notUp, Nat.not_lt.mp short⟩ absent
  | case8 => cases walked
  | case9 links here entry there part rest isDirectory notIdle notUp short target link stop =>
    rw [not_ne_iff.mp isDirectory] at there
    cases walked
    obtain ⟨rfl, stop⟩ := stop
    exact .atLink there ⟨by simpa using notIdle, notUp, Nat.not_lt.mp short⟩ link stop
  | case10 => cases walked
  | case11 here entry there part rest isDirectory notIdle notUp short target link onward links ih =>
    rw [not_ne_iff.mp isDirectory] at there
    exact .through there ⟨by simpa using notIdle, notUp, Nat.not_lt.mp short⟩ link onward
      (ih walked)
  | case12 links here entry there part rest isDirectory notIdle notUp short old noLink found ih =>
    rw [not_ne_iff.mp isDirectory] at there
    exact .down there ⟨by simpa using notIdle, notUp, Nat.not_lt.mp short⟩ found noLink (ih walked)

/-- `walk` decides where a path leads. -/
theorem walk_eq_ok_iff {fs : FileSystem} {follow : Bool} {links : Nat} {here : Location}
    {parts : List String} {d : Destination} :
    fs.walk follow links here parts = .ok d ↔ fs.Leads follow links here parts d :=
  ⟨leads_of_walk, Leads.walk_eq⟩

/-- The entry of a destination is the one that the map holds. -/
theorem Leads.lookup_found {fs : FileSystem} {follow : Bool} {links : Nat} {here place : Location}
    {parts : List String} {entry : Entry}
    (leads : fs.Leads follow links here parts (.found place entry)) :
    fs.lookup place = some entry := by
  generalize destination : Destination.found place entry = d at leads
  induction leads with
  | stay there => cases destination; exact there
  | idle _ _ _ ih => exact ih destination
  | up _ _ ih => exact ih destination
  | free => cases destination
  | atLink _ _ link => cases destination; exact link
  | through _ _ _ _ _ ih => exact ih destination
  | down _ _ _ _ _ ih => exact ih destination

/-- A free place lies in a directory, and its last name is one that an entry can have. -/
theorem Leads.free_place {fs : FileSystem} {follow : Bool} {links : Nat} {here place : Location}
    {parts : List String} (leads : fs.Leads follow links here parts (.free place)) :
    ∃ directory name, place = directory ++ [name] ∧ fs.lookup directory = some .directory ∧
      IsName name ∧ fs.lookup place = none := by
  generalize destination : Destination.free place = d at leads
  induction leads with
  | stay => cases destination
  | idle _ _ _ ih => exact ih destination
  | up _ _ ih => exact ih destination
  | free there name absent => cases destination; exact ⟨_, _, rfl, there, name, absent⟩
  | atLink => cases destination
  | through _ _ _ _ _ ih => exact ih destination
  | down _ _ _ _ _ ih => exact ih destination

/-- The parts of a path that leads anywhere are names, apart from `..` and those that stand for
nothing. -/
theorem Leads.isName {fs : FileSystem} {follow : Bool} {links : Nat} {here : Location}
    {parts : List String} {d : Destination} (leads : fs.Leads follow links here parts d)
    {part : String} (member : part ∈ parts) (notIdle : Path.isIdle part = false)
    (notUp : part ≠ "..") : IsName part := by
  induction leads with
  | stay => cases member
  | idle _ idle _ ih =>
    rcases List.mem_cons.mp member with rfl | later
    · rw [idle] at notIdle
      cases notIdle
    · exact ih later
  | up _ _ ih =>
    rcases List.mem_cons.mp member with rfl | later
    · exact absurd rfl notUp
    · exact ih later
  | free _ name =>
    rw [List.mem_singleton.mp member]
    exact name
  | atLink _ name =>
    rw [List.mem_singleton.mp member]
    exact name
  | through _ name _ _ _ ih =>
    rcases List.mem_cons.mp member with rfl | later
    · exact name
    · exact ih (List.mem_append_right _ later)
  | down _ name _ _ _ ih =>
    rcases List.mem_cons.mp member with rfl | later
    · exact name
    · exact ih later

/-- A path with one more part leads through the directory that the path without it leads to. -/
theorem Leads.init {fs : FileSystem} {follow : Bool} {links : Nat} {here : Location}
    {parts : List String} {last : String} {d : Destination}
    (leads : fs.Leads follow links here (parts ++ [last]) d) :
    ∃ middle, fs.Leads true links here parts (.found middle .directory) := by
  generalize whole : parts ++ [last] = all at leads
  induction leads generalizing parts with
  | stay => simp at whole
  | idle there idle _ ih =>
    cases parts with
    | nil => exact ⟨_, .stay there⟩
    | cons first parts =>
      obtain ⟨rfl, rfl⟩ := List.cons.inj whole
      obtain ⟨middle, leads⟩ := ih rfl
      exact ⟨middle, .idle there idle leads⟩
  | up there _ ih =>
    cases parts with
    | nil => exact ⟨_, .stay there⟩
    | cons first parts =>
      obtain ⟨rfl, rfl⟩ := List.cons.inj whole
      obtain ⟨middle, leads⟩ := ih rfl
      exact ⟨middle, .up there leads⟩
  | free there =>
    cases parts with
    | nil => exact ⟨_, .stay there⟩
    | cons first parts => simp at whole
  | atLink there =>
    cases parts with
    | nil => exact ⟨_, .stay there⟩
    | cons first parts => simp at whole
  | @through links here part target rest d there name link _ _ ih =>
    cases parts with
    | nil => exact ⟨_, .stay there⟩
    | cons first parts =>
      obtain ⟨rfl, rfl⟩ := List.cons.inj whole
      obtain ⟨middle, leads⟩ := ih (List.append_assoc (Text.fieldsOf '/' target) parts [last])
      exact ⟨middle, .through there name link (by simp) leads⟩
  | down there name found noLink _ ih =>
    cases parts with
    | nil => exact ⟨_, .stay there⟩
    | cons first parts =>
      obtain ⟨rfl, rfl⟩ := List.cons.inj whole
      obtain ⟨middle, leads⟩ := ih rfl
      exact ⟨middle, .down there name found noLink leads⟩

/-- Whatever a path leads to, what stands before its end leads to a directory. -/
theorem Leads.above {fs : FileSystem} {follow : Bool} {links : Nat} {here : Location}
    {parts more : List String} {d : Destination} (nonempty : more ≠ [])
    (leads : fs.Leads follow links here (parts ++ more) d) :
    ∃ middle, fs.Leads true links here parts (.found middle .directory) := by
  induction more using List.reverseRecOn generalizing follow d with
  | nil => exact absurd rfl nonempty
  | append_singleton more last ih =>
    rw [← List.append_assoc] at leads
    obtain ⟨middle, before⟩ := leads.init
    by_cases single : more = []
    · subst single
      rw [List.append_nil] at before
      exact ⟨middle, before⟩
    · exact ih single before

/-! ## More entries -/

/-- Every entry of `before` is still there, with its target if it is a link; the content of files
may differ, and there may be more entries. -/
structure Extends (before after : FileSystem) : Prop where
  working : after.working = before.working
  retains : ∀ place entry, before.lookup place = some entry →
    ∃ later, after.lookup place = some later ∧ later.shape = entry.shape

theorem Extends.refl (fs : FileSystem) : fs.Extends fs :=
  ⟨rfl, fun _ entry there => ⟨entry, there, rfl⟩⟩

theorem Extends.trans {before middle after : FileSystem} (first : before.Extends middle)
    (second : middle.Extends after) : before.Extends after := by
  refine ⟨second.working.trans first.working, fun place entry there => ?_⟩
  obtain ⟨_, held, same⟩ := first.retains place entry there
  obtain ⟨later, kept, alike⟩ := second.retains place _ held
  exact ⟨later, kept, alike.trans same⟩

theorem Extends.directory {before after : FileSystem} (grown : before.Extends after)
    {place : Location} (there : before.lookup place = some .directory) :
    after.lookup place = some .directory := by
  obtain ⟨later, kept, same⟩ := grown.retains place _ there
  rw [kept, Entry.shape_eq_directory same]

theorem Extends.link {before after : FileSystem} (grown : before.Extends after)
    {place : Location} {target : String} (there : before.lookup place = some (.link target)) :
    after.lookup place = some (.link target) := by
  obtain ⟨later, kept, same⟩ := grown.retains place _ there
  rw [kept, Entry.shape_eq_link same]

/-- Setting an entry at a free place keeps all others. -/
theorem extends_set_free {fs : FileSystem} {place : Location} (entry : Entry)
    (free : fs.lookup place = none) : fs.Extends (fs.set place entry) := by
  refine ⟨rfl, fun q old there => ?_⟩
  have other : q ≠ place := by
    rintro rfl
    simp [free] at there
  exact ⟨old, by rw [lookup_set_of_ne entry other, there], rfl⟩

/-- Writing over a file keeps all entries. -/
theorem extends_set_file {fs : FileSystem} {place : Location} {old : List UInt8}
    (bytes : List UInt8) (there : fs.lookup place = some (.file old)) :
    fs.Extends (fs.set place (.file bytes)) := by
  have below : place ≠ [] := by
    rintro rfl
    simp at there
  refine ⟨rfl, fun q entry held => ?_⟩
  by_cases same : q = place
  · subst same
    rw [there] at held
    cases held
    exact ⟨_, lookup_set_self fs _ below, rfl⟩
  · exact ⟨entry, by rw [lookup_set_of_ne _ same, held], rfl⟩

/-- What a path leads to stays where it is while entries are added. -/
theorem Leads.extends {before after : FileSystem} (grown : before.Extends after) {follow : Bool}
    {links : Nat} {here place : Location} {parts : List String} {entry : Entry}
    (leads : before.Leads follow links here parts (.found place entry)) :
    ∃ later, after.lookup place = some later ∧
      after.Leads follow links here parts (.found place later) := by
  generalize destination : Destination.found place entry = d at leads
  induction leads with
  | stay there =>
    cases destination
    obtain ⟨later, kept, -⟩ := grown.retains _ _ there
    exact ⟨later, kept, .stay kept⟩
  | idle there idle _ ih =>
    obtain ⟨later, kept, leads⟩ := ih destination
    exact ⟨later, kept, .idle (grown.directory there) idle leads⟩
  | up there _ ih =>
    obtain ⟨later, kept, leads⟩ := ih destination
    exact ⟨later, kept, .up (grown.directory there) leads⟩
  | free => cases destination
  | atLink there name link stop =>
    cases destination
    exact ⟨_, grown.link link, .atLink (grown.directory there) name (grown.link link) stop⟩
  | through there name link onward _ ih =>
    obtain ⟨later, kept, leads⟩ := ih destination
    exact ⟨later, kept, .through (grown.directory there) name (grown.link link) onward leads⟩
  | down there name found noLink _ ih =>
    obtain ⟨later, kept, leads⟩ := ih destination
    obtain ⟨next, held, same⟩ := grown.retains _ _ found
    exact ⟨later, kept,
      .down (grown.directory there) name held (Entry.ne_link_of_shape same noLink) leads⟩

/-- A free place that is taken is where the path leads from then on, links at its end included. -/
theorem Leads.taken {fs : FileSystem} {follow : Bool} {links : Nat} {here place : Location}
    {parts : List String} (leads : fs.Leads follow links here parts (.free place)) {entry : Entry}
    (noLink : ∀ target, entry ≠ .link target) :
    (fs.set place entry).Leads true links here parts (.found place entry) := by
  have grown : fs.Extends (fs.set place entry) := by
    obtain ⟨_, _, _, _, _, free⟩ := leads.free_place
    exact extends_set_free entry free
  generalize destination : Destination.free place = d at leads
  induction leads with
  | stay => cases destination
  | idle there idle _ ih => exact .idle (grown.directory there) idle (ih destination)
  | up there _ ih => exact .up (grown.directory there) (ih destination)
  | @free links here part there name absent =>
    cases destination
    have below : here ++ [part] ≠ [] := by simp
    have taken := lookup_set_self fs entry below
    exact .down (grown.directory there) name taken noLink (.stay taken)
  | atLink => cases destination
  | through there name link onward _ ih =>
    exact .through (grown.directory there) name (grown.link link) (by simp) (ih destination)
  | down there name found old _ ih =>
    obtain ⟨next, held, same⟩ := grown.retains _ _ found
    exact .down (grown.directory there) name held (Entry.ne_link_of_shape same old)
      (ih destination)

/-! ## Without symbolic links -/

/-- There is no symbolic link anywhere. -/
def NoLinks (fs : FileSystem) : Prop :=
  ∀ item ∈ fs.entries, item.2.isLink = false

instance (fs : FileSystem) : Decidable fs.NoLinks :=
  List.decidableBAll _ _

theorem NoLinks.lookup_ne {fs : FileSystem} (linkFree : fs.NoLinks) (place : Location)
    (target : String) : fs.lookup place ≠ some (.link target) := by
  unfold lookup
  split
  · simp
  · intro found
    have member := List.lookup_eq_some_iff.mp found
    obtain ⟨before, after, split, _⟩ := member
    have held := linkFree (place, .link target) (by simp [split])
    simp [Entry.isLink] at held

theorem mem_setEntry {place : Location} {entry : Entry} {entries : List (Location × Entry)}
    {item : Location × Entry} (member : item ∈ setEntry place entry entries) :
    item = (place, entry) ∨ item ∈ entries := by
  induction entries with
  | nil => exact .inl (by simpa [setEntry] using member)
  | cons old rest ih =>
    unfold setEntry at member
    split at member
    · rename_i taken
      rcases List.mem_cons.mp member with same | later
      · exact .inl (by rw [same, taken])
      · exact .inr (List.mem_cons_of_mem _ later)
    · rcases List.mem_cons.mp member with same | later
      · exact .inr (by simp [same])
      · exact (ih later).imp_right (List.mem_cons_of_mem _)

theorem NoLinks.set {fs : FileSystem} (linkFree : fs.NoLinks) (place : Location) {entry : Entry}
    (noLink : entry.isLink = false) : (fs.set place entry).NoLinks := by
  intro item member
  rcases mem_setEntry member with rfl | old
  · exact noLink
  · exact linkFree item old

/-- One part from a place on, by its text alone. -/
def enter (here : Location) (part : String) : Location :=
  if Path.isIdle part then here else if part = ".." then here.dropLast else here ++ [part]

/-- The place that parts spell from a place on, by their text alone. -/
def spell (here : Location) (parts : List String) : Location :=
  parts.foldl enter here

theorem spell_append (here : Location) (parts more : List String) :
    spell here (parts ++ more) = spell (spell here parts) more :=
  List.foldl_append

/-- Names that stand for themselves spell a place below. -/
theorem spell_names {names : List String}
    (plain : ∀ name ∈ names, Path.isIdle name = false ∧ name ≠ "..") (here : Location) :
    spell here names = here ++ names := by
  induction names generalizing here with
  | nil => simp [spell]
  | cons first rest ih =>
    obtain ⟨notIdle, notUp⟩ := plain first (by simp)
    have later := ih (fun name member => plain name (List.mem_cons_of_mem _ member))
      (here ++ [first])
    simpa [spell, enter, notIdle, notUp] using later

/-- Without `..` every part stays or leads down. -/
theorem prefix_spell {parts : List String} (down : ".." ∉ parts) (here : Location) :
    here <+: spell here parts := by
  induction parts generalizing here with
  | nil => exact List.prefix_refl here
  | cons first rest ih =>
    have later := ih (fun member => down (List.mem_cons_of_mem _ member)) (enter here first)
    refine List.IsPrefix.trans ?_ later
    unfold enter
    split
    · exact List.prefix_refl here
    · split
      · rename_i up
        exact absurd (up ▸ List.mem_cons_self) down
      · exact List.prefix_append here [first]

/-- The place that a destination is about. -/
def Destination.place : Destination → Location
  | .found place _ => place
  | .free place => place

/-- Without symbolic links a path leads to the place that it spells. -/
theorem Leads.place_eq {fs : FileSystem} (linkFree : fs.NoLinks) {follow : Bool} {links : Nat}
    {here : Location} {parts : List String} {d : Destination}
    (leads : fs.Leads follow links here parts d) : d.place = spell here parts := by
  induction leads with
  | stay => rfl
  | idle _ idle _ ih => simpa [spell, enter, idle] using ih
  | up _ _ ih => simpa [spell, enter, isIdle_up] using ih
  | free _ name => simp [spell, enter, name.notIdle, name.notUp, Destination.place]
  | atLink _ _ link => exact absurd link (linkFree.lookup_ne _ _)
  | through _ _ link => exact absurd link (linkFree.lookup_ne _ _)
  | down _ name _ _ _ ih => simpa [spell, enter, name.notIdle, name.notUp] using ih

/-- The faults that stop a walk along parts where there are no symbolic links. A name is only too
long if it stands among the parts. -/
def Stops (fault : Fault) (parts : List String) : Prop :=
  fault = .missing ∨ fault = .notDirectory ∨
    (fault = .nameTooLong ∧ ∃ part ∈ parts, maxName < part.utf8ByteSize)

theorem Stops.cons {fault : Fault} {rest : List String} (part : String) (stops : Stops fault rest) :
    Stops fault (part :: rest) := by
  rcases stops with missing | notDirectory | ⟨tooLong, long, member, size⟩
  · exact .inl missing
  · exact .inr (.inl notDirectory)
  · exact .inr (.inr ⟨tooLong, long, List.mem_cons_of_mem _ member, size⟩)

theorem stops_of_walk {fs : FileSystem} (linkFree : fs.NoLinks) {follow : Bool} {links : Nat}
    {here : Location} {parts : List String} {fault : Fault}
    (stopped : fs.walk follow links here parts = .error fault) : Stops fault parts := by
  fun_induction walk fs follow links here parts with
  | case1 => cases stopped; exact .inl rfl
  | case2 => cases stopped
  | case3 => cases stopped; exact .inr (.inl rfl)
  | case4 _ _ _ _ part _ _ _ ih => exact (ih stopped).cons part
  | case5 _ _ _ _ _ _ _ ih => exact (ih stopped).cons ".."
  | case6 _ _ _ _ part _ _ _ _ long => cases stopped; exact .inr (.inr ⟨rfl, part, by simp, long⟩)
  | case7 => cases stopped
  | case8 => cases stopped; exact .inl rfl
  | case9 => cases stopped
  | case10 _ _ _ _ _ _ _ _ _ _ link => exact absurd link (linkFree.lookup_ne _ _)
  | case11 _ _ _ _ _ _ _ _ _ _ link => exact absurd link (linkFree.lookup_ne _ _)
  | case12 _ _ _ _ part _ _ _ _ _ _ _ _ ih => exact (ih stopped).cons part

/-- The faults that stop a walk: what a question about the path takes for absence, or a length. -/
theorem meansAbsent_of_walk {fs : FileSystem} {follow : Bool} {links : Nat} {here : Location}
    {parts : List String} {fault : Fault}
    (stopped : fs.walk follow links here parts = .error fault) :
    fault.meansAbsent = true ∨ fault = .nameTooLong := by
  fun_induction walk fs follow links here parts with
  | case1 => cases stopped; exact .inl rfl
  | case2 => cases stopped
  | case3 => cases stopped; exact .inl rfl
  | case4 _ _ _ _ _ _ _ _ ih => exact ih stopped
  | case5 _ _ _ _ _ _ _ ih => exact ih stopped
  | case6 => cases stopped; exact .inr rfl
  | case7 => cases stopped
  | case8 => cases stopped; exact .inl rfl
  | case9 => cases stopped
  | case10 => cases stopped; exact .inl rfl
  | case11 _ _ _ _ _ _ _ _ _ _ _ _ _ ih => exact ih stopped
  | case12 _ _ _ _ _ _ _ _ _ _ _ _ _ ih => exact ih stopped

end FileSystem

end Provenance
