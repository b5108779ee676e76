import Mathlib.Data.List.Infix
import Provenance.Proofs.FileSystem.Growth
import Provenance.Proofs.Path

/-!
Operations that succeed. A path is `Clear` if its names can be used and nothing but directories
stands on it; it then leads to a directory, to a free place or over missing directories
(`Clear.locate_cases`), and its directories can be made if the disk has room for them
(`Clear.makeDirectories`).
-/
namespace Provenance.FileSystem

variable {fs : FileSystem}

/-- Names lead to the entry below that they name. -/
theorem IsTree.leads (tree : fs.IsTree) (linkFree : fs.NoLinks) (follow : Bool) (links : Nat)
    {here names : List String} {entry : Entry} (held : fs.lookup (here ++ names) = some entry) :
    fs.Leads follow links here names (.found (here ++ names) entry) := by
  induction names generalizing here with
  | nil =>
    rw [List.append_nil] at held ⊢
    exact .stay held
  | cons first rest ih =>
    have there := tree.above (List.cons_ne_nil first rest) held
    have proper := tree.isName held (List.mem_append_right _ List.mem_cons_self)
    have split : here ++ first :: rest = here ++ [first] ++ rest := by simp
    rw [split] at held ⊢
    have next : ∃ old, fs.lookup (here ++ [first]) = some old := by
      by_cases last : rest = []
      · exact ⟨entry, by simpa [last] using held⟩
      · exact ⟨.directory, tree.above last held⟩
    obtain ⟨old, found⟩ := next
    exact .down there proper found (fun target link => linkFree.lookup_ne _ target (link ▸ found))
      (ih held)

/-- The entry that the parts of a path name is the one that the path leads to. -/
theorem IsTree.locate_of_lookup (tree : fs.IsTree) (linkFree : fs.NoLinks) {p : Path}
    {entry : Entry} (noNull : '\x00' ∉ p.text.toList) (short : p.text.utf8ByteSize ≤ maxPath)
    (held : fs.lookup (fs.start p ++ p.parts) = some entry) (follow : Bool) :
    fs.locate follow p = .ok (.found (fs.start p ++ p.parts) entry) :=
  locate_eq_ok_iff.mpr ⟨noNull, short, tree.leads linkFree follow maxLinks held⟩

/-- A name that is not there leads to a free place. -/
theorem IsTree.leads_free (tree : fs.IsTree) (follow : Bool) (links : Nat)
    {here names : List String} {last : String}
    (there : fs.lookup (here ++ names) = some .directory) (proper : IsName last)
    (free : fs.lookup (here ++ names ++ [last]) = none) :
    fs.Leads follow links here (names ++ [last]) (.free (here ++ names ++ [last])) := by
  induction names generalizing here with
  | nil =>
    rw [List.append_nil] at there free ⊢
    exact .free there proper free
  | cons first rest ih =>
    have here' := tree.above (List.cons_ne_nil first rest) there
    have name := tree.isName there (List.mem_append_right _ List.mem_cons_self)
    have split : here ++ first :: rest = here ++ [first] ++ rest := by simp
    rw [split] at there free ⊢
    have next : fs.lookup (here ++ [first]) = some .directory := by
      by_cases single : rest = []
      · simpa [single] using there
      · exact tree.above single there
    exact .down here' name next (by simp) (ih there free)

/-- A walk stops where a directory on its way is missing. -/
theorem walk_missing {follow : Bool} {links : Nat} {here names rest : List String}
    (more : rest ≠ []) (there : fs.lookup here = some .directory)
    (proper : ∀ name ∈ names, IsName name)
    (clear : ∀ above, above <+: names → fs.lookup (here ++ above) = none ∨
      fs.lookup (here ++ above) = some .directory)
    (gone : fs.lookup (here ++ names) = none) :
    fs.walk follow links here (names ++ rest) = .error .missing := by
  induction names generalizing here with
  | nil =>
    rw [List.append_nil, there] at gone
    cases gone
  | cons first names ih =>
    have name := proper first List.mem_cons_self
    rcases clear [first] ⟨names, rfl⟩ with absent | next
    · rw [List.cons_append, walk, there]
      simp [name.notIdle, name.notUp, Nat.not_lt.mpr name.short, absent, more]
    · rw [List.cons_append, walk_cons_directory there name next]
      refine ih next (fun other member => proper other (List.mem_cons_of_mem _ member))
        (fun above begins => ?_) (by simpa using gone)
      simpa using clear (first :: above) (List.cons_prefix_cons.mpr ⟨rfl, begins⟩)

/-- A path that starts from a root, with names that can be used, on which nothing but directories
stands. -/
structure Clear (fs : FileSystem) (p : Path) : Prop where
  absolute : p.isAbsolute = true
  noNull : '\x00' ∉ p.text.toList
  short : p.text.utf8ByteSize ≤ maxPath
  proper : ∀ name ∈ p.parts, IsName name
  clear : ∀ above, above <+: p.parts →
    fs.lookup above = none ∨ fs.lookup above = some .directory

instance (fs : FileSystem) (p : Path) : Decidable (fs.Clear p) :=
  decidable_of_iff (p.isAbsolute = true ∧ '\x00' ∉ p.text.toList ∧
      p.text.utf8ByteSize ≤ maxPath ∧ (∀ name ∈ p.parts, IsName name) ∧
      ∀ above ∈ p.parts.inits, fs.lookup above = none ∨ fs.lookup above = some .directory)
    ⟨fun ⟨absolute, noNull, short, proper, clear⟩ =>
        ⟨absolute, noNull, short, proper, fun above prior =>
          clear above ((List.mem_inits above _).mpr prior)⟩,
      fun clear => ⟨clear.absolute, clear.noNull, clear.short, clear.proper, fun above prior =>
        clear.clear above ((List.mem_inits above _).mp prior)⟩⟩

namespace Clear

variable {p : Path}

theorem parent (clear : fs.Clear p) : fs.Clear p.parent := by
  have begins := Path.parent_begins clear.absolute
  have above : p.parent.parts <+: p.parts := List.dropLast_prefix _
  refine ⟨clear.absolute, fun null => clear.noNull (begins.subset null), ?_, ?_, ?_⟩
  · exact Nat.le_trans (utf8ByteSize_le_of_begins begins) clear.short
  · exact fun name member => clear.proper name (above.subset member)
  · exact fun place prior => clear.clear place (prior.trans above)

/-- Where a clear path leads. -/
theorem locate_cases (clear : fs.Clear p) (tree : fs.IsTree) (linkFree : fs.NoLinks) :
    (∀ follow, fs.locate follow p = .ok (.found p.parts .directory)) ∨
      (∀ follow, fs.locate follow p = .ok (.free p.parts)) ∨
      (p.parts ≠ [] ∧ fs.lookup p.parent.parts = none ∧
        ∀ follow, fs.locate follow p = .error (.refused .missing p)) := by
  have begins : fs.start p = [] := if_pos clear.absolute
  have leads : ∀ follow d, fs.Leads follow maxLinks [] p.parts d → fs.locate follow p = .ok d := by
    intro follow d leads
    exact locate_eq_ok_iff.mpr ⟨clear.noNull, clear.short, by rw [begins]; exact leads⟩
  rcases clear.clear p.parts (List.prefix_refl _) with absent | there
  · rcases List.eq_nil_or_concat p.parts with empty | ⟨above, last, whole⟩
    · rw [empty, lookup_root] at absent
      cases absent
    · rw [List.concat_eq_append] at whole
      have prior : above <+: p.parts := whole ▸ List.prefix_append _ _
      have member : last ∈ p.parts := whole ▸ by simp
      rcases clear.clear above prior with gone | held
      · have parent : p.parent.parts = above := by simp [Path.parent, whole]
        refine .inr (.inr ⟨by simp [whole], by rw [parent, gone], fun follow => ?_⟩)
        have stopped : fs.walk follow maxLinks [] p.parts = .error .missing := by
          rw [whole]
          exact walk_missing (by simp) (lookup_root fs)
            (fun name inside => clear.proper name (prior.subset inside))
            (fun other inside => clear.clear other (inside.trans prior)) gone
        have noNull : p.text.toList.contains '\x00' = false := by
          simpa using clear.noNull
        rw [locate, noNull, if_neg (by simp), if_neg (Nat.not_lt.mpr clear.short),
          if_pos clear.absolute, stopped]
      · refine .inr (.inl fun follow => leads follow _ ?_)
        rw [whole] at absent ⊢
        exact tree.leads_free follow maxLinks held (clear.proper last member) absent
  · exact .inl fun follow => leads follow _ (tree.leads linkFree follow maxLinks there)

/-- One directory can be made at the end of a clear path, unless one above it is missing. -/
theorem makeDirectory_cases (clear : fs.Clear p) (tree : fs.IsTree) (linkFree : fs.NoLinks)
    (unbarred : ∀ place, disk.bars place = none) :
    (excuse p (fs.makeDirectory disk p)).1 = none ∨
      (p.parts ≠ [] ∧ fs.lookup p.parent.parts = none ∧
        fs.makeDirectory disk p = (some (.refused .missing p), fs)) := by
  unfold makeDirectory
  rcases clear.locate_cases tree linkFree with found | free | ⟨nonempty, gone, missing⟩
  · left
    have isDirectory := isDirectory_eq_true_iff.mpr ⟨_, found true⟩
    simp [found, excuse, isDirectory]
  · left
    simp [free, excuse, unbarred]
  · right
    simp [missing, nonempty, gone]

/-- Growth keeps a path clear. -/
theorem grows {allowed : Location → Prop} {after : FileSystem} (clear : fs.Clear p)
    (grown : Grows allowed fs after) : after.Clear p := by
  refine ⟨clear.absolute, clear.noNull, clear.short, clear.proper, fun above prior => ?_⟩
  rcases grown.lookup above with same | ⟨_, there, _⟩
  · rw [same]
    exact clear.clear above prior
  · exact .inr there

/-- A clear path spells its own beginnings. -/
theorem spelled (clear : fs.Clear p) {place : Location} (spelled : fs.Spelled p place) :
    place <+: p.parts := by
  obtain ⟨parts, begins, same⟩ := spelled
  have names : ∀ name ∈ parts, Path.isIdle name = false ∧ name ≠ ".." := fun name member =>
    ⟨(clear.proper name (begins.subset member)).notIdle,
      (clear.proper name (begins.subset member)).notUp⟩
  rw [same, start, if_pos clear.absolute, spell_names names, List.nil_append]
  exact begins

/-- A clear path leads to the place that its names spell. -/
theorem place_eq (clear : fs.Clear p) (linkFree : fs.NoLinks) {follow : Bool} {d : Destination}
    (located : fs.locate follow p = .ok d) : d.place = p.parts := by
  obtain ⟨_, _, leads⟩ := locate_eq_ok_iff.mp located
  have names : ∀ name ∈ p.parts, Path.isIdle name = false ∧ name ≠ ".." := fun name member =>
    ⟨(clear.proper name member).notIdle, (clear.proper name member).notUp⟩
  rw [leads.place_eq linkFree, start, if_pos clear.absolute, spell_names names, List.nil_append]

/-- The directories of a clear path can be made. -/
theorem makeDirectories (clear : fs.Clear p) (tree : fs.IsTree) (linkFree : fs.NoLinks)
    (unbarred : ∀ place, disk.bars place = none) :
    (fs.makeDirectories disk p).1 = none := by
  fun_induction FileSystem.makeDirectories disk fs p with
  | case1 fs p path after refused empty =>
    rcases clear.makeDirectory_cases tree linkFree unbarred with well | ⟨nonempty, _, _⟩
    · rw [refused] at well
      cases well
    · exact absurd empty nonempty
  | case2 fs p path after refused nonempty parents made ih =>
    cases makeDirectory_refused refused
    have well : (fs.makeDirectories disk p.parent).1 = none := by rw [made]
    have grown := makeDirectories_grows_spelled disk linkFree p.parent
    obtain ⟨place, there⟩ := locate_of_makeDirectories well
    rw [made] at grown there
    have noLinks := grown.noLinks linkFree
    rcases (clear.grows grown).makeDirectory_cases (grown.isTree tree) noLinks unbarred with
      done | ⟨_, gone, _⟩
    · exact done
    · have same : place = p.parent.parts := (clear.grows grown).parent.place_eq noLinks there
      obtain ⟨_, _, leads⟩ := locate_eq_ok_iff.mp there
      have held := leads.lookup_found
      rw [same, gone] at held
      cases held
  | case3 fs p path after refused nonempty failed ih =>
    cases makeDirectory_refused refused
    exact ih clear.parent tree linkFree
  | case4 fs p other =>
    rcases clear.makeDirectory_cases tree linkFree unbarred with well | ⟨_, _, missing⟩
    · exact well
    · exact absurd missing (other p fs)

/-- A path whose last part is in a directory at the end of a clear path can be opened at the place
that it names. -/
theorem openPlace (clear : fs.Clear p.parent) (tree : fs.IsTree) (linkFree : fs.NoLinks)
    {last : String} (whole : p.parts = p.parent.parts ++ [last]) (proper : IsName last)
    (noNull : '\x00' ∉ p.text.toList) (short : p.text.utf8ByteSize ≤ maxPath)
    (there : fs.lookup p.parent.parts = some .directory)
    (room : fs.lookup p.parts ≠ some .directory)
    (unbarred : fs.lookup p.parts = none → disk.bars p.parts = none) :
    fs.openPlace disk p = .ok p.parts := by
  have begins : fs.start p = [] := if_pos clear.absolute
  have located : ∀ d, fs.Leads true maxLinks [] p.parts d → fs.locate true p = .ok d := by
    intro d leads
    exact locate_eq_ok_iff.mpr ⟨noNull, short, by rw [begins]; exact leads⟩
  refine openPlace_eq_ok_iff.mpr ?_
  cases held : fs.lookup p.parts with
  | none =>
    refine .inr ⟨located _ ?_, unbarred held⟩
    rw [whole] at held ⊢
    exact tree.leads_free true maxLinks there proper held
  | some entry =>
    have found := located _ (tree.leads linkFree true maxLinks held)
    exact .inl ⟨entry, found, fun same => room (same ▸ held)⟩

end Clear

end Provenance.FileSystem
