import Provenance.Proofs.FileSystem.Growth

/-!
What a path leads to before and after the steps of a write, symbolic links included. A walk goes on
from where its first parts lead (`Leads.onward`). What a path leads to after a file is written, it
led to before, unless it is that file (`Leads.of_set`). Making directories changes nothing where
the path leads to a directory already, and a path without `..` that did not lead to one leads to a
new one (`makeDirectories_cases`).
-/
namespace Provenance.FileSystem

/-! ## Walks in two parts -/

/-- A walk goes on from the directory that its first parts lead to, with the links that are left. -/
theorem Leads.onward {fs : FileSystem} {links : Nat} {here middle : Location} {parts : List String}
    (leads : fs.Leads true links here parts (.found middle .directory)) :
    ∃ left, ∀ more, more ≠ [] → ∀ follow,
      fs.walk follow links here (parts ++ more) = fs.walk follow left middle more := by
  generalize destination : Destination.found middle .directory = d at leads
  induction leads with
  | @stay links here entry there =>
    cases destination
    exact ⟨links, fun more _ follow => rfl⟩
  | idle there idle _ ih =>
    obtain ⟨left, goes⟩ := ih destination
    refine ⟨left, fun more nonempty follow => ?_⟩
    rw [List.cons_append, walk_cons_idle there idle, goes more nonempty]
  | up there _ ih =>
    obtain ⟨left, goes⟩ := ih destination
    refine ⟨left, fun more nonempty follow => ?_⟩
    rw [List.cons_append, walk_cons_up there, goes more nonempty]
  | free => cases destination
  | atLink => cases destination
  | through there name link _ _ ih =>
    obtain ⟨left, goes⟩ := ih destination
    refine ⟨left, fun more nonempty follow => ?_⟩
    rw [List.cons_append, walk_cons_link there name link _ (by simp [nonempty]),
      ← List.append_assoc, goes more nonempty]
  | down there name found noLink _ ih =>
    obtain ⟨left, goes⟩ := ih destination
    refine ⟨left, fun more nonempty follow => ?_⟩
    rw [List.cons_append, walk_cons_entry there name found noLink, goes more nonempty]

/-- Whatever a path leads to with its last link followed, it leads to something without. -/
theorem Leads.unfollowed {fs : FileSystem} {links : Nat} {here place : Location}
    {parts : List String} {entry : Entry}
    (leads : fs.Leads true links here parts (.found place entry)) :
    ∃ other old, fs.Leads false links here parts (.found other old) := by
  generalize destination : Destination.found place entry = d at leads
  induction leads with
  | stay there => exact ⟨_, _, .stay there⟩
  | idle there idle _ ih =>
    obtain ⟨other, old, leads⟩ := ih destination
    exact ⟨other, old, .idle there idle leads⟩
  | up there _ ih =>
    obtain ⟨other, old, leads⟩ := ih destination
    exact ⟨other, old, .up there leads⟩
  | free => cases destination
  | atLink there name link => exact ⟨_, _, .atLink there name link rfl⟩
  | @through links here part target rest d there name link _ _ ih =>
    by_cases last : rest = []
    · subst last
      exact ⟨_, _, .atLink there name link rfl⟩
    · obtain ⟨other, old, leads⟩ := ih destination
      exact ⟨other, old, .through there name link (by simp [last]) leads⟩
  | down there name found noLink _ ih =>
    obtain ⟨other, old, leads⟩ := ih destination
    exact ⟨other, old, .down there name found noLink leads⟩

/-! ## A file written -/

/-- From a file on, a path leads nowhere but to the file. -/
theorem Leads.at_file {fs : FileSystem} {follow : Bool} {links : Nat} {here : Location}
    {parts : List String} {d : Destination} {bytes : List UInt8}
    (leads : fs.Leads follow links here parts d) (held : fs.lookup here = some (.file bytes)) :
    d = .found here (.file bytes) := by
  cases leads with
  | stay there =>
    rw [held] at there
    cases there
    rfl
  | _ there => simp [held] at there

/-- What a path leads to after a file is written, it led to before, unless it is that file. -/
theorem Leads.of_set {fs : FileSystem} {place q : Location} {bytes : List UInt8} {follow : Bool}
    {links : Nat} {here : Location} {parts : List String} {entry : Entry} (below : place ≠ [])
    (leads : (fs.set place (.file bytes)).Leads follow links here parts (.found q entry))
    (other : q ≠ place) : fs.Leads follow links here parts (.found q entry) := by
  have written := lookup_set_self fs (.file bytes) below
  -- The place of the file is neither a directory nor a link on the way.
  have same : ∀ {p : Location} {old : Entry}, (fs.set place (.file bytes)).lookup p = some old →
      old ≠ .file bytes → fs.lookup p = some old := by
    intro p old held differs
    have elsewhere : p ≠ place := by
      rintro rfl
      rw [written] at held
      exact differs (Option.some.inj held).symm
    rwa [lookup_set_of_ne _ elsewhere] at held
  generalize destination : Destination.found q entry = d at leads
  induction leads with
  | stay there =>
    cases destination
    rw [lookup_set_of_ne _ other] at there
    exact .stay there
  | idle there idle _ ih => exact .idle (same there (by simp)) idle (ih destination)
  | up there _ ih => exact .up (same there (by simp)) (ih destination)
  | free => cases destination
  | atLink there name link stop =>
    cases destination
    exact .atLink (same there (by simp)) name (same link (by simp)) stop
  | through there name link onward _ ih =>
    exact .through (same there (by simp)) name (same link (by simp)) onward (ih destination)
  | @down links here part rest old d there name found noLink onward ih =>
    by_cases reached : here ++ [part] = place
    · subst reached
      rw [onward.at_file written] at destination
      cases destination
      exact absurd rfl other
    · rw [lookup_set_of_ne _ reached] at found
      exact .down (same there (by simp)) name found noLink (ih destination)

/-! ## Directories on the way -/

variable {disk : Disk}

/-- A directory that is there already cannot be made. -/
theorem makeDirectory_of_directory {fs : FileSystem} {p : Path}
    (there : fs.isDirectory p = .ok true) :
    fs.makeDirectory disk p = (some (.refused .alreadyExists p), fs) := by
  obtain ⟨place, located⟩ := isDirectory_eq_true_iff.mp there
  obtain ⟨noNull, short, leads⟩ := locate_eq_ok_iff.mp located
  obtain ⟨other, old, leads⟩ := leads.unfollowed
  have found := locate_eq_ok_iff.mpr ⟨noNull, short, leads⟩
  rw [makeDirectory, found]

/-- Where a path leads to a directory, there is nothing to make. -/
theorem makeDirectories_of_directory {fs : FileSystem} {p : Path}
    (there : fs.isDirectory p = .ok true) : fs.makeDirectories disk p = (none, fs) := by
  unfold makeDirectories
  rw [makeDirectory_of_directory there]
  simp [excuse, there]

/-- A part, other than `..`, after a directory that was not there before leads to what was made. -/
theorem Leads.in_new {before after : FileSystem} {allowed : Location → Prop} (tree : before.IsTree)
    (grown : Grows allowed before after) {follow : Bool} {links : Nat} {here place : Location}
    {name : String} {entry : Entry} (notUp : name ≠ "..") (new : before.lookup here = none)
    (leads : after.Leads follow links here [name] (.found place entry)) :
    before.lookup place = none := by
  have absent : before.lookup (here ++ [name]) = none := by
    cases held : before.lookup (here ++ [name]) with
    | none => rfl
    | some old =>
      rw [tree.parents here name old held] at new
      cases new
  have made : ∀ old, after.lookup (here ++ [name]) = some old → old = .directory := by
    intro old held
    rcases grown.lookup (here ++ [name]) with same | ⟨_, there, _⟩
    · rw [same, absent] at held
      cases held
    · rw [there] at held
      exact (Option.some.inj held).symm
  cases leads with
  | idle _ _ onward =>
    cases onward with
    | stay => exact new
  | up => exact absurd rfl notUp
  | atLink _ _ link => cases made _ link
  | through _ _ link => cases made _ link
  | down _ _ _ _ onward =>
    cases onward with
    | stay => exact absent

/-- A path without `..` whose directories were made either led to a directory already, and nothing
was made, or it leads to a directory that was not there. -/
theorem makeDirectories_cases {fs : FileSystem} (tree : fs.IsTree) {p : Path}
    (down : ".." ∉ p.parts) (made : (fs.makeDirectories disk p).1 = none) :
    (fs.makeDirectories disk p).2 = fs ∨
      ∃ place, (fs.makeDirectories disk p).2.locate true p = .ok (.found place .directory) ∧
        fs.lookup place = none := by
  fun_induction makeDirectories disk fs p with
  | case1 => cases made
  | case2 fs p path after refused nonempty parents above ih =>
    cases makeDirectory_refused refused
    rw [above] at ih
    rw [excuse_files]
    rcases ih tree (fun up => down ((List.dropLast_prefix _).subset up)) rfl with
      same | ⟨outer, entered, new⟩
    · -- Nothing was made above, so the directory is missing still.
      dsimp only at same
      subst same
      rw [refused] at made
      cases made
    · right
      obtain ⟨place, located⟩ := locate_of_excuse locate_of_makeDirectory made
      refine ⟨place, located, ?_⟩
      have first : Grows (fun _ => True) fs parents := by
        have grown : Grows (fun _ => True) fs (fs.makeDirectories disk p.parent).2 :=
          fs.makeDirectories_grows p.parent fun _ _ _ _ _ _ _ => trivial
        rwa [above] at grown
      have second : Grows (fun _ => True) parents (parents.makeDirectory disk p).2 :=
        parents.makeDirectory_grows p fun _ _ => trivial
      obtain ⟨_, _, leads⟩ := locate_eq_ok_iff.mp (second.locate entered)
      obtain ⟨left, goes⟩ := leads.onward
      obtain ⟨_, _, further⟩ := locate_eq_ok_iff.mp located
      obtain ⟨names, last, split⟩ := (List.eq_nil_or_concat p.parts).resolve_left nonempty
      rw [List.concat_eq_append] at split
      have prior : p.parent.parts = names := by simp [Path.parent, split]
      have onward := further.walk_eq
      rw [split, ← prior] at onward
      have begins : (parents.makeDirectory disk p).2.start p =
          (parents.makeDirectory disk p).2.start p.parent := rfl
      rw [begins, goes [last] (by simp)] at onward
      have notUp : last ≠ ".." := by
        rintro rfl
        exact down (by simp [split])
      exact Leads.in_new tree (first.trans second) notUp new (leads_of_walk onward)
  | case3 fs p path after refused nonempty failed ih =>
    cases whole : after.makeDirectories disk p.parent with
    | mk error parents =>
      rw [whole] at made
      cases made
      exact absurd whole (failed parents)
  | case4 fs p =>
    rw [excuse_files]
    rcases fs.makeDirectory_cases disk p with ⟨e, refused⟩ | ⟨place, located, -, done⟩
    · exact .inl (by rw [refused])
    · obtain ⟨noNull, short, leads⟩ := locate_eq_ok_iff.mp located
      obtain ⟨_, _, _, _, _, free⟩ := leads.free_place
      rw [done]
      exact .inr ⟨place, locate_eq_ok_iff.mpr ⟨noNull, short, leads.taken (by simp)⟩, free⟩

end Provenance.FileSystem
