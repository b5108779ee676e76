import Provenance.Proofs.FileSystem.Directory
import Provenance.Proofs.FileSystem.Progress
import Provenance.Proofs.Settings.Sources
import Provenance.Proofs.Text.Encoding

/-!
Which source decides about a setting. The last variable that overrides it comes first, then its item
in the first settings file that exists, then its built-in value (`load_by_precedence`). Which file
that is, and what its items are, is said here without the loading (`Chosen`), so loading succeeds
exactly where there is such a file or none at all, and nothing else than the deciding sources
counts: no other variable, no other key, and no file behind the first one.
-/
namespace Provenance.Settings

/-! ## The deciding source -/

/-- A variable overrides a setting if its name is the common beginning and then the name of the
setting, in any letter case. -/
def Field.IsOverriddenBy (field : Field) (name : String) : Prop :=
  ∃ rest, name = overrideStart ++ rest ∧ Text.lower rest = field.name

/-- What the last of some pairs says whose key is about something. -/
def LastSays {α β : Type} (about : α → Prop) (pairs : List (α × β)) (said : β) : Prop :=
  ∃ before key after, pairs = before ++ (key, said) :: after ∧ about key ∧
    ∀ pair ∈ after, ¬about pair.1

/-- The source that decides about a setting. -/
inductive Field.DecidedBy (field : Field) (env : Environment) (items : List (Value × Value)) :
    Source → Prop
  | override {text : String} (said : LastSays field.IsOverriddenBy env.assigned text) :
      field.DecidedBy env items (.override text)
  | item {value : Value} (free : ∀ pair ∈ env.assigned, ¬field.IsOverriddenBy pair.1)
      (said : LastSays (· = .text field.name) items value) : field.DecidedBy env items (.item value)
  | builtIn (free : ∀ pair ∈ env.assigned, ¬field.IsOverriddenBy pair.1)
      (silent : ∀ item ∈ items, item.1 ≠ .text field.name) : field.DecidedBy env items .builtIn

theorem Field.ofName?_eq_some_iff {name : String} {field : Field} :
    Field.ofName? name = some field ↔ name = field.name := by
  constructor
  · intro found
    have named := List.find?_some found
    exact (of_decide_eq_true named).symm
  · rintro rfl
    cases field <;> decide

theorem Field.ofKey?_eq_some_iff {key : Value} {field : Field} :
    Field.ofKey? key = some field ↔ key = .text field.name := by
  cases key with
  | text name => rw [Field.ofKey?, Field.ofName?_eq_some_iff, Value.text.injEq]
  | _ => simp [Field.ofKey?]

theorem Field.ofVariable?_eq_some_iff {name : String} {field : Field} :
    Field.ofVariable? name = some field ↔ field.IsOverriddenBy name := by
  unfold Field.ofVariable? Field.IsOverriddenBy
  constructor
  · intro found
    split at found
    · rename_i begins
      obtain ⟨rest, whole⟩ := List.isPrefixOf_iff_prefix.mp begins
      have same : name = overrideStart ++ String.ofList rest := by
        rw [← String.toList_inj, String.toList_append, String.toList_ofList, whole]
      refine ⟨String.ofList rest, same, ?_⟩
      rw [← whole, ← String.length_toList, List.drop_left, Field.ofName?_eq_some_iff] at found
      exact found
    · cases found
  · rintro ⟨rest, rfl, named⟩
    have begins : overrideStart.toList.isPrefixOf (overrideStart ++ rest).toList = true := by
      rw [String.toList_append, List.isPrefixOf_iff_prefix]
      exact List.prefix_append _ _
    rw [if_pos begins, String.toList_append, ← String.length_toList, List.drop_left,
      String.ofList_toList, Field.ofName?_eq_some_iff]
    exact named

theorem lastAbout_eq_some_iff {α β : Type} {named : α → Option Field} {field : Field}
    {pairs : List (α × β)} {said : β} :
    lastAbout named field pairs = some said ↔
      LastSays (fun key => named key = some field) pairs said := by
  unfold lastAbout LastSays
  rw [Option.map_eq_some_iff]
  constructor
  · rintro ⟨⟨key, said⟩, found, rfl⟩
    obtain ⟨about, after, before, whole, later⟩ := List.find?_eq_some_iff_append.mp found
    refine ⟨before.reverse, key, after.reverse, ?_, of_decide_eq_true about, ?_⟩
    · rw [← List.reverse_reverse pairs, whole]
      simp
    · intro pair member
      simpa using later pair (List.mem_reverse.mp member)
  · rintro ⟨before, key, after, rfl, about, later⟩
    refine ⟨(key, said), List.find?_eq_some_iff_append.mpr
      ⟨decide_eq_true about, after.reverse, before.reverse, by simp, ?_⟩, rfl⟩
    intro pair member
    simpa using later pair (List.mem_reverse.mp member)

theorem lastAbout_eq_none_iff {α β : Type} {named : α → Option Field} {field : Field}
    {pairs : List (α × β)} :
    lastAbout named field pairs = none ↔ ∀ pair ∈ pairs, named pair.1 ≠ some field := by
  simp [lastAbout]

/-- Every setting is decided by one source. -/
theorem Field.decidedBy_iff {field : Field} {env : Environment} {items : List (Value × Value)}
    {source : Source} : field.DecidedBy env items source ↔ field.source env items = source := by
  have override : lastAbout Field.ofVariable? field env.assigned = none ↔
      ∀ pair ∈ env.assigned, ¬field.IsOverriddenBy pair.1 := by
    simp only [lastAbout_eq_none_iff, ne_eq, Field.ofVariable?_eq_some_iff]
  have overridden : ∀ text, lastAbout Field.ofVariable? field env.assigned = some text ↔
      LastSays field.IsOverriddenBy env.assigned text := by
    intro text
    simp only [lastAbout_eq_some_iff, Field.ofVariable?_eq_some_iff]
  have silent : lastAbout Field.ofKey? field items = none ↔
      ∀ item ∈ items, item.1 ≠ .text field.name := by
    simp only [lastAbout_eq_none_iff, ne_eq, Field.ofKey?_eq_some_iff]
  have said : ∀ value, lastAbout Field.ofKey? field items = some value ↔
      LastSays (· = .text field.name) items value := by
    intro value
    simp only [lastAbout_eq_some_iff, Field.ofKey?_eq_some_iff]
  unfold Field.source
  constructor
  · intro decided
    cases decided with
    | override last => rw [(overridden _).mpr last]
    | item free last => rw [override.mpr free, (said _).mpr last]
    | builtIn free none => rw [override.mpr free, silent.mpr none]
  · rintro rfl
    cases overriding : lastAbout Field.ofVariable? field env.assigned with
    | some text => exact .override ((overridden text).mp overriding)
    | none =>
      cases key : lastAbout Field.ofKey? field items with
      | some value => exact .item (override.mp overriding) ((said value).mp key)
      | none => exact .builtIn (override.mp overriding) (silent.mp key)

/-! ## The settings file that counts -/

/-- The places where a settings file may be, given the home directory. -/
def places (explicit : Option String) (home : Path) : List Path :=
  match explicit with
  | none | some "" => [fileIn (Path.ofText ""), fileIn home]
  | some place => [Path.ofText place, fileIn (Path.ofText ""), fileIn home]

/-- The items of a document: those of a mapping, and none if the document counts as a no. -/
def itemsOf? : Value → Option (List (Value × Value))
  | .map items => some items
  | value => if value.isTruthy then none else some []

/-- The loader gives a value for the bytes of a settings file, and these are its items. -/
def Holds (loader : Loader) (bytes : List UInt8) (items : List (Value × Value)) : Prop :=
  ∃ value, loader bytes = .ok value ∧ itemsOf? value = some items

/-- Among some places, `p` is the first where there is anything. -/
def IsFirst (files : FileSystem) (places : List Path) (p : Path) : Prop :=
  ∃ before after, places = before ++ p :: after ∧ (∀ q ∈ before, files.isPresent q = .ok false) ∧
    files.isPresent p = .ok true

/-- The items that count are those of the first settings file, and none if there is no such file. -/
inductive Chosen (loader : Loader) (files : FileSystem) (places : List Path) :
    List (Value × Value) → Prop
  | nowhere (absent : ∀ p ∈ places, files.isPresent p = .ok false) : Chosen loader files places []
  | first {p : Path} {bytes : List UInt8} {items : List (Value × Value)}
      (first : IsFirst files places p) (read : files.read p = .ok bytes)
      (holds : Holds loader bytes items) : Chosen loader files places items

variable {loader : Loader}

theorem candidates_eq (env : Environment) (explicit : Option String) :
    candidates env explicit = env.home.map (places explicit) := by
  unfold candidates
  cases env.home with
  | error failure => rfl
  | ok home =>
    match explicit with
    | none | some "" => rfl
    | some place =>
      by_cases empty : place = ""
      · subst empty
        rfl
      · simp [places, empty, bind, Except.bind, pure, Except.pure, Except.map]

theorem firstPresent_eq_none_iff {files : FileSystem} {places : List Path} :
    firstPresent files places = .ok none ↔ ∀ p ∈ places, files.isPresent p = .ok false := by
  induction places with
  | nil => simp [firstPresent]
  | cons p rest ih =>
    rw [firstPresent, List.forall_mem_cons, ← ih]
    split <;> simp_all

theorem isFirst_cons_iff {files : FileSystem} {q p : Path} {rest : List Path} :
    IsFirst files (q :: rest) p ↔ q = p ∧ files.isPresent p = .ok true ∨
      files.isPresent q = .ok false ∧ IsFirst files rest p :=
  exists_first_cons_iff

theorem firstPresent_eq_some_iff {files : FileSystem} {places : List Path} {p : Path} :
    firstPresent files places = .ok (some p) ↔ IsFirst files places p := by
  induction places with
  | nil => simp [firstPresent, IsFirst]
  | cons q rest ih =>
    rw [firstPresent, isFirst_cons_iff, ← ih]
    cases asked : files.isPresent q with
    | error e =>
      have other : ¬(q = p ∧ files.isPresent p = .ok true) := by
        rintro ⟨rfl, present⟩
        cases asked.symm.trans present
      simp [other]
    | ok present =>
      cases present with
      | true =>
        constructor
        · intro found
          cases found
          exact .inl ⟨rfl, asked⟩
        · rintro (⟨rfl, _⟩ | ⟨missing, _⟩)
          · rfl
          · cases missing
      | false =>
        constructor
        · exact fun found => .inr ⟨rfl, found⟩
        · rintro (⟨rfl, present⟩ | ⟨_, found⟩)
          · cases asked.symm.trans present
          · exact found

/-- What is read from a settings file is made of its bytes. -/
theorem readDocument_eq_ok_iff {files : FileSystem} {p : Path} {items : List (Value × Value)} :
    readDocument loader files p = .ok items ↔
      ∃ bytes, files.read p = .ok bytes ∧ Holds loader bytes items := by
  unfold readDocument Holds
  simp only [bind_eq_ok_iff, mapError_eq_ok_iff]
  refine exists_congr fun bytes => and_congr_right fun _ =>
    exists_congr fun value => and_congr_right fun _ => ?_
  cases value with
  | map held => simp [itemsOf?, pure, Except.pure]
  | _ => simp only [itemsOf?]; split <;> simp [pure, Except.pure, throw]

theorem chosenItems_of_home {env : Environment} {home : Path} (known : env.home = .ok home)
    (files : FileSystem) (explicit : Option String) :
    chosenItems loader env files explicit = (do
      match ← firstPresent files (places explicit home) with
      | none => return []
      | some p => readDocument loader files p) := by
  rw [chosenItems, candidates_eq, known]
  rfl

/-- The items that loading goes by are those of the first settings file. -/
theorem chosenItems_eq_ok_iff {env : Environment} {files : FileSystem} {explicit : Option String}
    {items : List (Value × Value)} :
    chosenItems loader env files explicit = .ok items ↔
      ∃ home, env.home = .ok home ∧ Chosen loader files (places explicit home) items := by
  constructor
  · intro loaded
    cases known : env.home with
    | error failure =>
      rw [chosenItems, candidates_eq, known] at loaded
      cases loaded
    | ok home =>
      refine ⟨home, rfl, ?_⟩
      rw [chosenItems_of_home known] at loaded
      cases found : firstPresent files (places explicit home) with
      | error failure =>
        rw [found] at loaded
        cases loaded
      | ok place =>
        rw [found] at loaded
        cases place with
        | none =>
          cases loaded
          exact .nowhere (firstPresent_eq_none_iff.mp found)
        | some p =>
          obtain ⟨bytes, read, holds⟩ := readDocument_eq_ok_iff.mp loaded
          exact .first (firstPresent_eq_some_iff.mp found) read holds
  · rintro ⟨home, known, chosen⟩
    rw [chosenItems_of_home known]
    cases chosen with
    | nowhere absent =>
      rw [firstPresent_eq_none_iff.mpr absent]
      rfl
    | first first read holds =>
      rw [firstPresent_eq_some_iff.mpr first]
      exact readDocument_eq_ok_iff.mpr ⟨_, read, holds⟩

/-! ## Loading by precedence -/

theorem ext_get {s t : Settings} (same : ∀ field, s.get field = t.get field) : s = t := by
  have repository := same .localRepository
  have record := same .recordReverseTree
  have debug := same .debug
  cases s
  cases t
  simp_all [get]

/-- Loading succeeds exactly if the home directory is known and the items of the first settings file
can be read; every setting then has the value that its source gives to it. -/
theorem load_eq_ok_iff {env : Environment} {files : FileSystem} {explicit : Option String}
    {settings : Settings} :
    load loader env files explicit = .ok settings ↔
      ∃ home items, env.home = .ok home ∧ Chosen loader files (places explicit home) items ∧
        ∀ field : Field, ∃ source, field.DecidedBy env items source ∧
          settings.get field = source.value field := by
  constructor
  · intro loaded
    obtain ⟨items, chosen, values⟩ := get_of_load loaded
    obtain ⟨home, known, chosen⟩ := chosenItems_eq_ok_iff.mp chosen
    exact ⟨home, items, known, chosen, fun field => ⟨_, Field.decidedBy_iff.mpr rfl, values field⟩⟩
  · rintro ⟨home, items, known, chosen, values⟩
    have items_eq := chosenItems_eq_ok_iff.mpr ⟨home, known, chosen⟩
    have loaded : load loader env files explicit =
        .ok ((items.foldl applyItem {}).applyVariables env) := by
      rw [load_eq, items_eq]
      rfl
    obtain ⟨items', same, values'⟩ := get_of_load loaded
    cases items_eq.symm.trans same
    rw [loaded]
    congr 1
    apply ext_get
    intro field
    obtain ⟨source, decided, value⟩ := values field
    rw [values' field, value, Field.decidedBy_iff.mp decided]

/-- Behind the first settings file, nothing is looked at. -/
theorem load_congr_of_isFirst {env : Environment} {files files' : FileSystem}
    {explicit : Option String} {home p : Path} (known : env.home = .ok home)
    (first : IsFirst files (places explicit home) p)
    (first' : IsFirst files' (places explicit home) p)
    (read : files.read p = files'.read p) :
    load loader env files explicit = load loader env files' explicit := by
  have document : readDocument loader files p = readDocument loader files' p := by
    rw [readDocument, readDocument, read]
  have chosen : chosenItems loader env files explicit = chosenItems loader env files' explicit := by
    rw [chosenItems_of_home known, chosenItems_of_home known, firstPresent_eq_some_iff.mpr first,
      firstPresent_eq_some_iff.mpr first']
    exact document
  rw [load_eq, load_eq, chosen]

/-- Loading succeeds only if the first settings file can be read and holds items. -/
theorem holds_of_load {env : Environment} {files : FileSystem} {explicit : Option String}
    {home p : Path} (known : env.home = .ok home) (first : IsFirst files (places explicit home) p)
    {settings : Settings} (loaded : load loader env files explicit = .ok settings) :
    ∃ bytes items, files.read p = .ok bytes ∧ Holds loader bytes items := by
  obtain ⟨items, chosen, -⟩ := get_of_load loaded
  rw [chosenItems_of_home known, firstPresent_eq_some_iff.mpr first] at chosen
  obtain ⟨bytes, read, holds⟩ := readDocument_eq_ok_iff.mp chosen
  exact ⟨bytes, items, read, holds⟩

/-- Loading succeeds exactly if the home directory is known and the items of the first settings file
can be read, or there is no such file. Each setting then has the value of the last variable that
overrides it, else that of its item in the file, else its built-in value. Where the same sources
decide, the same settings are loaded, whatever else the variables and files say. What lies behind
the first settings file has no influence at all, not even on whether loading fails. -/
theorem load_by_precedence (loader : Loader) :
    (∀ env files explicit settings, load loader env files explicit = .ok settings ↔
      ∃ home items, env.home = .ok home ∧ Chosen loader files (places explicit home) items ∧
        ∀ field : Field, ∃ source, field.DecidedBy env items source ∧
          settings.get field = source.value field) ∧
    (∀ env env' files files' explicit explicit' home home' items items',
      env.home = .ok home → env'.home = .ok home' →
      Chosen loader files (places explicit home) items →
      Chosen loader files' (places explicit' home') items' →
      (∀ (field : Field) source,
        field.DecidedBy env items source ↔ field.DecidedBy env' items' source) →
      ∃ settings, load loader env files explicit = .ok settings ∧
        load loader env' files' explicit' = .ok settings) ∧
    ∀ (env : Environment) (files files' : FileSystem) explicit home p, env.home = .ok home →
      IsFirst files (places explicit home) p → IsFirst files' (places explicit home) p →
      files.read p = files'.read p →
      load loader env files explicit = load loader env files' explicit := by
  refine ⟨fun env files explicit settings => load_eq_ok_iff, ?_, ?_⟩
  · intro env env' files files' explicit explicit' home home' items items' known known' chosen
      chosen' agree
    have loaded : load loader env files explicit =
        .ok ((items.foldl applyItem {}).applyVariables env) := by
      rw [load_eq, chosenItems_eq_ok_iff.mpr ⟨home, known, chosen⟩]
      rfl
    refine ⟨_, loaded, load_eq_ok_iff.mpr ⟨home', items', known', chosen', fun field => ?_⟩⟩
    obtain ⟨items₀, same, values⟩ := get_of_load loaded
    cases (chosenItems_eq_ok_iff.mpr ⟨home, known, chosen⟩).symm.trans same
    exact ⟨_, (agree field _).mp (Field.decidedBy_iff.mpr rfl), values field⟩
  · intro env files files' explicit home p known first first' read
    exact load_congr_of_isFirst known first first' read

/-- The bytes of a settings file that switches the records on. -/
def switchedOnFile : List UInt8 := Text.Utf8.encode "record_reverse_tree: true\n".toList

/-- Files with a settings file in the working directory, and another one in a home directory. -/
def projectFiles (user : List UInt8) : FileSystem :=
  ⟨[(["work"], .directory), (["work", ".reversetree"], .directory),
      (["work", ".reversetree", "config.yaml"], .file switchedOnFile), (["home"], .directory),
      (["home", ".reversetree"], .directory),
      (["home", ".reversetree", "config.yaml"], .file user)],
    ["work"]⟩

/-- The key and the switch of a document that is a mapping of one key to a switch. -/
def switchOf? : Except LoadFault Value → Option (String × Bool)
  | .ok (.map [(.text key, .bool switch)]) => some (key, switch)
  | _ => none

theorem eq_of_switchOf? {document : Except LoadFault Value} {key : String} {switch : Bool}
    (only : switchOf? document = some (key, switch)) :
    document = .ok (.map [(.text key, .bool switch)]) := by
  unfold switchOf? at only
  split at only
  · cases only
    rfl
  · cases only

theorem switchedOnFile_holds :
    Holds .yaml switchedOnFile [(.text "record_reverse_tree", .bool true)] := by
  have only : switchOf? (Loader.yaml switchedOnFile) = some ("record_reverse_tree", true) := by
    decide +kernel
  exact ⟨_, eq_of_switchOf? only, rfl⟩

theorem projectFiles_isFirst {user : List UInt8} (tree : (projectFiles user).IsTree)
    (linkFree : (projectFiles user).NoLinks) (home : Path) {explicit : Option String}
    (absent : explicit = none ∨ explicit = some "settings.yaml") :
    IsFirst (projectFiles user) (places explicit home) (fileIn (.ofText "")) ∧
      (projectFiles user).read (fileIn (.ofText "")) = .ok switchedOnFile := by
  have found : (projectFiles user).locate true (fileIn (.ofText "")) =
      .ok (.found ["work", ".reversetree", "config.yaml"] (.file switchedOnFile)) :=
    tree.locate_of_lookup linkFree (by decide) (by decide) rfl true
  have present := FileSystem.isPresent_eq_true_iff.mpr ⟨_, _, found⟩
  refine ⟨?_, FileSystem.read_eq_ok_iff.mpr ⟨_, found⟩⟩
  rcases absent with rfl | rfl
  · exact ⟨[], [fileIn home], rfl, by simp, present⟩
  · have alone : (Path.ofText "settings.yaml").parts = ["settings.yaml"] := rfl
    have missing : (projectFiles user).isPresent (.ofText "settings.yaml") = .ok false :=
      FileSystem.isPresent_of_absent alone (by decide) rfl (by decide) rfl
    exact ⟨[.ofText "settings.yaml"], [fileIn home], rfl, by simpa using missing, present⟩

/-- Of two variables for one switch the later one counts, and the file of the project gives the
other switch. The file in the home directory is no settings file; this does not matter, nor do other
variables and another home. -/
theorem load_by_precedence_project :
    let env : Environment :=
      ⟨[("HOME", "/home"), ("REVERSETREE_DEBUG", "yes"), ("REVERSETREE_Debug", "0")], "root", []⟩
    let other : Environment :=
      ⟨[("REVERSETREE_DEBUG", "0"), ("REVERSETREE_FAST", "yes"), ("HOME", "/user")], "root", []⟩
    let settings : Settings := { recordReverseTree := .bool true, debug := .bool false }
    let broken := projectFiles (Text.Utf8.encode "[".toList)
    load .yaml env broken (some "settings.yaml") = .ok settings ∧
      (∃ same, load .yaml env broken (some "settings.yaml") = .ok same ∧
        load .yaml other (projectFiles []) none = .ok same) ∧
      load .yaml env broken (some "settings.yaml") =
        load .yaml env (projectFiles []) (some "settings.yaml") := by
  intro env other settings broken
  obtain ⟨exactly, agreeing, onward⟩ := load_by_precedence .yaml
  have brokenTree : broken.IsTree := FileSystem.isTree_iff.mpr (by decide)
  have emptyTree : (projectFiles []).IsTree := FileSystem.isTree_iff.mpr (by decide)
  have known : env.home = .ok ⟨.slash, ["home"]⟩ := rfl
  obtain ⟨first, read⟩ := projectFiles_isFirst brokenTree (by decide) ⟨.slash, ["home"]⟩ (.inr rfl)
  obtain ⟨first', read'⟩ := projectFiles_isFirst emptyTree (by decide) ⟨.slash, ["user"]⟩ (.inl rfl)
  obtain ⟨again, read''⟩ := projectFiles_isFirst emptyTree (by decide) ⟨.slash, ["home"]⟩ (.inr rfl)
  have chosen := Chosen.first first read switchedOnFile_holds
  have chosen' := Chosen.first first' read' switchedOnFile_holds
  refine ⟨?_, ?_, onward env broken _ _ _ _ known first again (read.trans read''.symm)⟩
  · refine (exactly _ _ _ _).mpr ⟨_, _, known, chosen, fun field => ?_⟩
    refine ⟨_, Field.decidedBy_iff.mpr rfl, ?_⟩
    cases field <;> rfl
  · refine agreeing env other _ _ _ _ _ _ _ _ known rfl chosen chosen' fun field source => ?_
    rw [Field.decidedBy_iff, Field.decidedBy_iff]
    cases field <;> rfl

end Provenance.Settings
