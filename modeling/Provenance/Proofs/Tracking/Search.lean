import Provenance.Proofs.FileSystem.Directory

/-!
The search for tracking directories. It asks one question for every directory at or below a base
directory, and the first question that is refused ends it (`trackedDirectories_cases`). If none is
refused, it finds all tracking directories, each once and in order (`trackedDirectories_complete`).
-/
namespace Provenance

/-! ## One directory -/

theorem trackingIn_eq_ok_iff {fs : FileSystem} {base : Path} {names : List String}
    {answer : Option (List String)} :
    trackingIn fs base names = .ok answer ↔
      ∃ there, fs.isDirectory { base with parts := base.parts ++ (names ++ [trackingName]) } =
        .ok there ∧ answer = if there then some (names ++ [trackingName]) else none := by
  unfold trackingIn
  dsimp only
  rcases fs.isDirectory { base with parts := base.parts ++ (names ++ [trackingName]) } with
    e | (_ | _) <;>
    simp [Except.mapError, bind, Except.bind, pure, Except.pure, eq_comm]

theorem trackingIn_eq_some_iff {fs : FileSystem} {base : Path} {names parts : List String} :
    trackingIn fs base names = .ok (some parts) ↔
      parts = names ++ [trackingName] ∧
        fs.isDirectory { base with parts := base.parts ++ (names ++ [trackingName]) } =
          .ok true := by
  rw [trackingIn_eq_ok_iff]
  constructor
  · rintro ⟨_ | _, there, answer⟩
    · cases answer
    · exact ⟨Option.some.inj answer, there⟩
  · rintro ⟨rfl, there⟩
    exact ⟨true, there, rfl⟩

theorem isDirectory_of_trackingIn_error {fs : FileSystem} {base : Path} {names : List String}
    {failure : Failure} (failed : trackingIn fs base names = .error failure) :
    ∃ e, failure = .file e ∧
      fs.isDirectory { base with parts := base.parts ++ (names ++ [trackingName]) } = .error e := by
  rcases bind_eq_error_iff.mp failed with unasked | ⟨there, _, answered⟩
  · obtain ⟨e, refused, rfl⟩ := mapError_eq_error_iff.mp unasked
    exact ⟨e, rfl, refused⟩
  · cases there <;> cases answered

/-! ## All directories -/

section

variable {fs : FileSystem} {base : Path} {place : Location}

/-- The search ends in the first question that is refused. If none is, it answers the sorted parts
of the tracking directories, each of which it has come to once. -/
theorem trackedDirectories_cases (asked : fs.directory? base = .ok (some place)) :
    (∃ names ∈ fs.directoriesFrom place, ∃ e,
        fs.isDirectory { base with parts := base.parts ++ (names ++ [trackingName]) } = .error e ∧
          trackedDirectories fs base = .error (.file e)) ∨
      ∃ sorted : List (List String),
        trackedDirectories fs base =
          .ok (sorted.map fun parts => { base with parts := base.parts ++ parts }) ∧
        (∀ names ∈ fs.directoriesFrom place, ∃ there,
          fs.isDirectory { base with parts := base.parts ++ (names ++ [trackingName]) } =
            .ok there) ∧
        (∀ parts, parts ∈ sorted ↔ ∃ names ∈ fs.directoriesFrom place,
          parts = names ++ [trackingName] ∧
            fs.isDirectory { base with parts := base.parts ++ (names ++ [trackingName]) } =
              .ok true) ∧
        (fs.Unique → sorted.Pairwise (· < ·)) := by
  rcases mapM_reduceOption_cases (trackingIn fs base) (fs.directoriesFrom place) with
    ⟨names, member, failure, failed, first⟩ | ⟨answered, answers, all, kept⟩
  · left
    obtain ⟨e, rfl, refused⟩ := isDirectory_of_trackingIn_error failed
    refine ⟨names, member, e, refused, ?_⟩
    simp [trackedDirectories, asked, first, Except.mapError, bind, Except.bind]
  · right
    refine ⟨answers.reduceOption.mergeSort fun a b => decide (¬b < a), ?_, ?_, ?_, ?_⟩
    · simp [trackedDirectories, asked, all, Except.mapError, bind, Except.bind, pure, Except.pure]
    · intro names member
      obtain ⟨answer, told⟩ := answered names member
      obtain ⟨there, told, _⟩ := trackingIn_eq_ok_iff.mp told
      exact ⟨there, told⟩
    · intro parts
      simp only [List.mem_mergeSort, kept, List.mem_filterMap, toOption_join_eq_some_iff,
        trackingIn_eq_some_iff]
    · intro unique
      refine mergeSort_increasing
        (fun a b : List String => decide_eq_true_iff.trans Std.not_lt) ?_
      rw [kept]
      -- A tracking directory tells the directory that it was found in.
      refine (unique.directoriesFrom_nodup place).filterMap fun names others parts one other => ?_
      obtain ⟨same, _⟩ := trackingIn_eq_some_iff.mp (toOption_join_eq_some_iff.mp one)
      obtain ⟨alike, _⟩ := trackingIn_eq_some_iff.mp (toOption_join_eq_some_iff.mp other)
      exact List.append_cancel_right (same.symm.trans alike)

/-- A search that succeeds has asked about every directory. -/
theorem answered_of_trackedDirectories (asked : fs.directory? base = .ok (some place))
    {found : List Path} (searched : trackedDirectories fs base = .ok found) {names : List String}
    (member : names ∈ fs.directoriesFrom place) :
    ∃ there, fs.isDirectory { base with parts := base.parts ++ (names ++ [trackingName]) } =
      .ok there := by
  rcases trackedDirectories_cases asked with ⟨_, _, e, _, failed⟩ | ⟨_, _, answered, _⟩
  · rw [failed] at searched
    cases searched
  · exact answered names member

/-- A search that succeeds finds every tracking directory below the base directory. -/
theorem mem_trackedDirectories (asked : fs.directory? base = .ok (some place))
    {found : List Path} (searched : trackedDirectories fs base = .ok found) {names : List String}
    (member : names ∈ fs.directoriesFrom place)
    (tracking : fs.isDirectory { base with parts := base.parts ++ (names ++ [trackingName]) } =
      .ok true) :
    { base with parts := base.parts ++ (names ++ [trackingName]) } ∈ found := by
  rcases trackedDirectories_cases asked with
    ⟨_, _, e, _, failed⟩ | ⟨sorted, whole, _, members, _⟩
  · rw [failed] at searched
    cases searched
  · rw [whole] at searched
    cases searched
    exact List.mem_map.mpr ⟨_, (members _).mpr ⟨names, member, rfl, tracking⟩, rfl⟩

end

/-! ## What is found -/

namespace FileSystem

/-- The base directory is at the place, and the names lead on from there through directories, none
of them a link. -/
structure DescendsBy (fs : FileSystem) (base : Path) (place : Location) (names : List String) :
    Prop where
  base : fs.directory? base = .ok (some place)
  directories : ∀ above, above <+: names → fs.lookup (place ++ above) = some .directory

/-- The paths that a search asks about: the base directory, and the tracking entry of each directory
at or below it. -/
inductive Asks (fs : FileSystem) (base : Path) : Path → Prop
  | base : Asks fs base base
  | entry {place : Location} {names : List String} : fs.DescendsBy base place names →
      Asks fs base { base with parts := base.parts ++ (names ++ [trackingName]) }

/-- The path leads down from a base directory through directories, none of them a link, and then to
a tracking directory, which may be a link to a directory. -/
def TracksAt (fs : FileSystem) (base path : Path) : Prop :=
  ∃ place names, fs.DescendsBy base place names ∧
    path = { base with parts := base.parts ++ (names ++ [trackingName]) } ∧
    fs.isDirectory path = .ok true

variable {fs : FileSystem} {base : Path} {place : Location}

/-- The search comes to the directories below the base directory. -/
theorem descendsBy_iff (asked : fs.directory? base = .ok (some place)) {names : List String} :
    fs.DescendsBy base place names ↔ names ∈ fs.directoriesFrom place := by
  obtain ⟨_, _, leads⟩ := locate_eq_ok_iff.mp (directory?_eq_some_iff.mp asked)
  rw [mem_directoriesFrom]
  constructor
  · intro descends above begins _
    exact descends.directories above begins
  · intro inside
    refine ⟨asked, fun above begins => ?_⟩
    by_cases empty : above = []
    · rw [empty, List.append_nil]
      exact leads.lookup_found
    · exact inside above begins empty

/-- The base directory is at one place only. -/
theorem DescendsBy.place_eq {there : Location} {names : List String}
    (descends : fs.DescendsBy base there names) (asked : fs.directory? base = .ok (some place)) :
    there = place := by
  have same := descends.base.symm.trans asked
  cases same
  rfl

/-- If every tracking entry can be asked about, then every path can that the search asks about. -/
theorem not_refuses_of_entries (asked : fs.directory? base = .ok (some place))
    (answered : ∀ names ∈ fs.directoriesFrom place, ∃ there,
      fs.isDirectory { base with parts := base.parts ++ (names ++ [trackingName]) } = .ok there)
    {path : Path} (asks : fs.Asks base path) : ¬fs.Refuses path := by
  cases asks with
  | base =>
    have there := isDirectory_eq_true_iff.mpr ⟨place, directory?_eq_some_iff.mp asked⟩
    exact not_refuses_of_isDirectory there
  | entry descends =>
    cases descends.place_eq asked
    obtain ⟨_, told⟩ := answered _ ((descendsBy_iff asked).mp descends)
    exact not_refuses_of_isDirectory told

/-- The tracking directories are those that the search comes to. -/
theorem tracksAt_iff (asked : fs.directory? base = .ok (some place)) {path : Path} :
    fs.TracksAt base path ↔ ∃ names ∈ fs.directoriesFrom place,
      path = { base with parts := base.parts ++ (names ++ [trackingName]) } ∧
        fs.isDirectory path = .ok true := by
  constructor
  · rintro ⟨there, names, descends, spelled, tracking⟩
    cases descends.place_eq asked
    exact ⟨names, (descendsBy_iff asked).mp descends, spelled, tracking⟩
  · rintro ⟨names, member, spelled, tracking⟩
    exact ⟨place, names, (descendsBy_iff asked).mpr member, spelled, tracking⟩

end FileSystem

/-- There is nothing to search where there is no directory. -/
theorem trackedDirectories_of_none {fs : FileSystem} {base : Path}
    (missing : fs.directory? base = .ok none) : trackedDirectories fs base = .ok [] := by
  simp [trackedDirectories, missing, Except.mapError, bind, Except.bind, pure, Except.pure]

theorem trackedDirectories_of_refused {fs : FileSystem} {base : Path} {e : FileError}
    (refused : fs.directory? base = .error e) : trackedDirectories fs base = .error (.file e) := by
  simp [trackedDirectories, refused, Except.mapError, bind, Except.bind]

/-- How a search ends: at a path that there is no asking about, or with the tracking directories. -/
theorem trackedDirectories_ended {fs : FileSystem} (unique : fs.Unique) (base : Path) :
    (∃ path, fs.Asks base path ∧ fs.Refuses path ∧
        trackedDirectories fs base = .error (.file (.refused .nameTooLong path))) ∨
      (∀ path, fs.Asks base path → ¬fs.Refuses path) ∧
        ∃ found, trackedDirectories fs base = .ok found ∧
          found.Pairwise (fun path later => path.parts < later.parts) ∧
          ∀ path, path ∈ found ↔ fs.TracksAt base path := by
  rcases asked : fs.directory? base with e | (_ | place)
  · obtain ⟨rfl, refuses⟩ := FileSystem.directory?_eq_error_iff.mp asked
    exact .inl ⟨base, .base, refuses, trackedDirectories_of_refused asked⟩
  · have nowhere : ∀ place names, ¬fs.DescendsBy base place names := by
      intro place names descends
      have same := asked.symm.trans descends.base
      cases same
    refine .inr ⟨fun path asks => ?_, [], trackedDirectories_of_none asked, .nil, fun path => ?_⟩
    · cases asks with
      | base =>
        have missing := FileSystem.isDirectory_eq_false_iff.mpr asked
        exact FileSystem.not_refuses_of_isDirectory missing
      | entry descends => exact absurd descends (nowhere _ _)
    · constructor
      · intro member
        cases member
      · rintro ⟨place, names, descends, _⟩
        exact absurd descends (nowhere place names)
  · rcases trackedDirectories_cases asked with
      ⟨names, member, e, refused, searched⟩ | ⟨sorted, searched, answered, members, increasing⟩
    · obtain ⟨rfl, refuses⟩ := FileSystem.isDirectory_eq_error_iff.mp refused
      have descends := (FileSystem.descendsBy_iff asked).mpr member
      exact .inl ⟨_, .entry descends, refuses, searched⟩
    · refine .inr ⟨fun path => FileSystem.not_refuses_of_entries asked answered, _, searched, ?_,
        fun path => ?_⟩
      · exact List.pairwise_map.mpr ((increasing unique).imp fun below =>
          List.append_left_lt below)
      · rw [FileSystem.tracksAt_iff asked, List.mem_map]
        constructor
        · rintro ⟨parts, member, rfl⟩
          obtain ⟨names, inside, rfl, tracking⟩ := (members parts).mp member
          exact ⟨names, inside, rfl, tracking⟩
        · rintro ⟨names, inside, rfl, tracking⟩
          exact ⟨_, (members _).mpr ⟨names, inside, rfl, tracking⟩, rfl⟩

/-- If there is an answer to every question of a search, it finds the tracking directories below the
base directory and nothing else, in strictly increasing order of the parts of their paths, so each
of them once. Otherwise it fails, with one of the paths that there is no asking about. It finds
nothing if there is no base directory. -/
theorem trackedDirectories_complete {fs : FileSystem} (unique : fs.Unique) (base : Path) :
    ((∀ path, fs.Asks base path → ¬fs.Refuses path) →
        ∃ found, trackedDirectories fs base = .ok found ∧
          found.Pairwise (fun path later => path.parts < later.parts) ∧
          ∀ path, path ∈ found ↔ fs.TracksAt base path) ∧
      ((∃ path, fs.Asks base path ∧ fs.Refuses path) →
        ∃ path, fs.Asks base path ∧ fs.Refuses path ∧
          trackedDirectories fs base = .error (.file (.refused .nameTooLong path))) ∧
      (fs.isDirectory base = .ok false → trackedDirectories fs base = .ok []) := by
  refine ⟨fun answered => ?_, fun ⟨path, asks, refuses⟩ => ?_, fun missing =>
    trackedDirectories_of_none (FileSystem.isDirectory_eq_false_iff.mp missing)⟩
  · rcases trackedDirectories_ended unique base with ⟨path, asks, refuses, _⟩ | ⟨_, found⟩
    · exact absurd refuses (answered path asks)
    · exact found
  · rcases trackedDirectories_ended unique base with failed | ⟨answered, _⟩
    · exact failed
    · exact absurd refuses (answered path asks)

/-- Files with a tracking directory inside another one: the inner one is a link to the base
directory. -/
def nestedFiles : FileSystem :=
  ⟨[(["r"], .directory), (["r", ".tracking"], .directory),
      (["r", ".tracking", ".tracking"], .link "..")], []⟩

/-- Both tracking directories are found, although the inner one is a link. -/
theorem trackedDirectories_complete_nested :
    let base : Path := ⟨.slash, ["r"]⟩
    ∃ found, trackedDirectories nestedFiles base = .ok found ∧
      found.Pairwise (fun path later => path.parts < later.parts) ∧
      (∀ path, path ∈ found ↔ nestedFiles.TracksAt base path) ∧
      ⟨.slash, ["r", ".tracking"]⟩ ∈ found ∧ ⟨.slash, ["r", ".tracking", ".tracking"]⟩ ∈ found := by
  intro base
  have tree : nestedFiles.IsTree := by decide
  have there : nestedFiles.locate true base = .ok (.found ["r"] .directory) :=
    FileSystem.locate_eq_ok_iff.mpr ⟨by decide, by decide,
      .down rfl (by decide) rfl (by simp) (.stay rfl)⟩
  have outer : nestedFiles.locate true ⟨.slash, ["r", ".tracking"]⟩ =
      .ok (.found ["r", ".tracking"] .directory) :=
    FileSystem.locate_eq_ok_iff.mpr ⟨by decide, by decide,
      .down rfl (by decide) rfl (by simp) (.down rfl (by decide) rfl (by simp) (.stay rfl))⟩
  have onward : nestedFiles.Leads true 39 (FileSystem.linkBase ["r", ".tracking"] "..")
      (Text.fieldsOf '/' ".." ++ []) (.found ["r"] .directory) := by
    have fields : Text.fieldsOf '/' ".." = [".."] := by decide
    rw [fields]
    exact .up rfl (.stay rfl)
  have inner : nestedFiles.locate true ⟨.slash, ["r", ".tracking", ".tracking"]⟩ =
      .ok (.found ["r"] .directory) :=
    FileSystem.locate_eq_ok_iff.mpr ⟨by decide, by decide,
      .down rfl (by decide) rfl (by simp) (.down rfl (by decide) rfl (by simp)
        (.through rfl (by decide) rfl (by simp) onward))⟩
  have asked := FileSystem.directory?_eq_some_iff.mpr there
  have first := FileSystem.isDirectory_eq_true_iff.mpr ⟨_, outer⟩
  have second := FileSystem.isDirectory_eq_true_iff.mpr ⟨_, inner⟩
  have listed : ∀ names, names ∈ nestedFiles.directoriesFrom ["r"] ↔
      nestedFiles.lookup (["r"] ++ names) = some .directory :=
    fun names => tree.mem_directoriesFrom rfl
  have answered : ∀ path, nestedFiles.Asks base path → ¬nestedFiles.Refuses path := by
    intro path
    refine FileSystem.not_refuses_of_entries asked fun names member => ⟨true, ?_⟩
    have held := (listed names).mp member
    have known := (FileSystem.mem_keys_iff nestedFiles (by simp)).mpr ⟨_, held⟩
    simp only [nestedFiles, List.map_cons, List.map_nil, List.cons_append, List.nil_append,
      List.mem_cons, List.cons.injEq, true_and, List.not_mem_nil, or_false] at known
    rcases known with rfl | rfl | rfl
    · exact first
    · exact second
    · cases held
  obtain ⟨found, searched, increasing, members⟩ :=
    (trackedDirectories_complete tree.unique base).1 answered
  refine ⟨found, searched, increasing, members, ?_, ?_⟩
  · exact (members _).mpr ((FileSystem.tracksAt_iff asked).mpr
      ⟨[], (listed _).mpr rfl, rfl, first⟩)
  · exact (members _).mpr ((FileSystem.tracksAt_iff asked).mpr
      ⟨[".tracking"], (listed _).mpr rfl, rfl, second⟩)

/-- Files with a tracking directory, and with a link in the place of another one. -/
def strayFiles (target : String) : FileSystem :=
  ⟨[(["repo"], .directory), (["repo", "a"], .directory), (["repo", "a", ".tracking"], .directory),
      (["repo", "b"], .directory), (["repo", "b", ".tracking"], .link target)], []⟩

/-- A walk does not pass a link to a name that is too long. -/
theorem strayFiles_walk {target : String} (long : FileSystem.maxName < target.utf8ByteSize)
    (noSlash : '/' ∉ target.toList) (links : Nat) :
    (strayFiles target).walk true (links + 1) [] ["repo", "b", ".tracking"] =
      .error .nameTooLong := by
  have notIdle : Path.isIdle target = false := by
    have notEmpty : target ≠ "" := by
      rintro rfl
      exact absurd long (by decide)
    have notDot : target ≠ "." := by
      rintro rfl
      exact absurd long (by decide)
    simp [Path.isIdle, notEmpty, notDot]
  have notUp : target ≠ ".." := by
    rintro rfl
    exact absurd long (by decide)
  rw [FileSystem.walk_cons_directory rfl (by decide) rfl,
    FileSystem.walk_cons_directory rfl (by decide) rfl,
    FileSystem.walk_cons_link rfl (by decide) rfl links (by simp),
    Text.fieldsOf_eq_singleton noSlash]
  refine FileSystem.walk_cons_long ?_ notIdle notUp long true links []
  unfold FileSystem.linkBase
  split <;> rfl

/-- There is no asking about a link to a name that is too long. -/
theorem strayFiles_refuses : (strayFiles (String.ofList (.replicate 256 'n'))).Refuses
    ⟨.slash, ["repo", "b", ".tracking"]⟩ := by
  have long : FileSystem.maxName < (String.ofList (.replicate 256 'n')).utf8ByteSize := by
    rw [utf8ByteSize_replicate]
    decide
  have noSlash : '/' ∉ (String.ofList (.replicate 256 'n')).toList := by
    rw [String.toList_ofList]
    intro member
    cases List.eq_of_mem_replicate member
  exact ⟨by decide, .inr (strayFiles_walk long noSlash 39)⟩

/-- A link that leads nowhere makes the whole search fail if its target is too long a name, although
there is a tracking directory elsewhere. -/
theorem trackedDirectories_refused :
    let base : Path := ⟨.slash, ["repo"]⟩
    let files := strayFiles (String.ofList (.replicate 256 'n'))
    files.IsTree ∧ files.TracksAt base ⟨.slash, ["repo", "a", ".tracking"]⟩ ∧
      ¬∃ found, trackedDirectories files base = .ok found := by
  intro base files
  have tree : files.IsTree := by decide
  have there : files.locate true base = .ok (.found ["repo"] .directory) :=
    FileSystem.locate_eq_ok_iff.mpr ⟨by decide, by decide,
      .down rfl (by decide) rfl (by simp) (.stay rfl)⟩
  have tracking : files.locate true ⟨.slash, ["repo", "a", ".tracking"]⟩ =
      .ok (.found ["repo", "a", ".tracking"] .directory) :=
    FileSystem.locate_eq_ok_iff.mpr ⟨by decide, by decide,
      .down rfl (by decide) rfl (by simp) (.down rfl (by decide) rfl (by simp)
        (.down rfl (by decide) rfl (by simp) (.stay rfl)))⟩
  have asked := FileSystem.directory?_eq_some_iff.mpr there
  have listed : ∀ names, names ∈ files.directoriesFrom ["repo"] ↔
      files.lookup (["repo"] ++ names) = some .directory :=
    fun names => tree.mem_directoriesFrom rfl
  refine ⟨tree, (FileSystem.tracksAt_iff asked).mpr
    ⟨["a"], (listed _).mpr rfl, rfl, FileSystem.isDirectory_eq_true_iff.mpr ⟨_, tracking⟩⟩, ?_⟩
  rintro ⟨found, searched⟩
  obtain ⟨_, answered⟩ := answered_of_trackedDirectories asked searched ((listed ["b"]).mpr rfl)
  exact FileSystem.not_refuses_of_isDirectory answered strayFiles_refuses

end Provenance
