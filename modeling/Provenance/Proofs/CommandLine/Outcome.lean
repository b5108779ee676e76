import Provenance.Proofs.CommandLine.Printing
import Provenance.Proofs.Settings.Precedence
import Provenance.Proofs.Settings.Typing
import Provenance.Proofs.Tracking.Catalogue
import Provenance.Proofs.Tracking.Reading

/-!
How calls of the program end. Calls change no files. On a terminal whose size can be told, a call
ends with status 0 after printing the whole of what it has to tell, or with status 1 or 2. In the
second case it has printed nothing, unless the standard output did not take a piece of what it had
to print (`call_prints_all_or_nothing`); a size that cannot be told makes an error escape, and a
piece that is not taken comes after others (`call_escapes_or_prints_part`). Nothing is printed if
the settings, the repository or one of the records cannot be had (`Request.IsHindered.reply`).
-/
namespace Provenance.CommandLine

open Settings

/-- A call that begins with the name of a command is a request for the command. -/
theorem Request.read_of_name (files : FileSystem) (command : Command) (rest : List String) :
    Request.read files (command.name :: rest) =
      .ok ⟨⟨[], command.name :: rest⟩, command, rest⟩ := by
  have named : Command.ofName? command.name = some command := by cases command <;> decide
  have plain : namesOption command.name = false ∧ command.name ≠ "--" := by
    cases command <;> decide
  have accepted : Callee.program.accept files (command.name :: rest) =
      .ok ⟨[], command.name :: rest⟩ := by
    simp only [Callee.accept, Callee.read, plain]
    rfl
  simp [Request.read, accepted, named, bind, Except.bind, pure, Except.pure]

/-- The call makes a request, and no wish of the shell comes instead. -/
structure Request.IsMade (request : Request) (host : Host) (files : FileSystem)
    (arguments : List String) : Prop where
  unwished : host.completion? = none
  read : Request.read files arguments = .ok request

theorem Request.isMade_of_name {host : Host} (unwished : host.completion? = none)
    (files : FileSystem) (command : Command) (rest : List String) :
    Request.IsMade ⟨⟨[], command.name :: rest⟩, command, rest⟩ host files (command.name :: rest) :=
  ⟨unwished, read_of_name files command rest⟩

/-! ## Reports -/

/-- The report of a command, given the arguments that it has accepted: the artifacts with records in
the chosen repository, or the records of one artifact there. -/
inductive Reports (env : Environment) (files : FileSystem) (settings : Settings) (a : Arguments) :
    Command → Report → Prop
  | list {repository : Repository} {listing : List Listed}
      (chosen : chooseRepository env files settings (a.last? .repo) = .ok repository)
      (listed : listArtifacts files repository = .ok listing) :
      Reports env files settings a .list (listingReport repository listing)
  | explain {artifact : Artifact} {repository : Repository} {explanation : Explanation}
      (named : Artifact.parse (a.operands.headD "") = some artifact)
      (chosen : chooseRepository env files settings (a.last? .repo) = .ok repository)
      (explained : explainArtifact files repository artifact = .ok explanation) :
      Reports env files settings a .explain explanation.report

theorem artifactOf_eq_ok_iff {a : Arguments} {artifact : Artifact} :
    artifactOf a = .ok artifact ↔ Artifact.parse (a.operands.headD "") = some artifact := by
  unfold artifactOf
  dsimp only
  generalize Artifact.parse (a.operands.headD "") = parsed
  cases parsed <;> simp

/-- A command answers with its report and with nothing else. -/
theorem Command.report_eq_ok_iff {env : Environment} {files : FileSystem} {settings : Settings}
    {a : Arguments} {command : Command} {report : Report} :
    command.report env files settings a = .ok report ↔
      Reports env files settings a command report := by
  cases command with
  | list =>
    simp only [Command.report, bind_eq_ok_iff, mapError_eq_ok_iff, pure, Except.pure,
      Except.ok.injEq]
    constructor
    · rintro ⟨repository, chosen, listing, listed, rfl⟩
      exact .list chosen listed
    · intro reports
      cases reports with
      | list chosen listed => exact ⟨_, chosen, _, listed, rfl⟩
  | explain =>
    simp only [Command.report, bind_eq_ok_iff, mapError_eq_ok_iff, artifactOf_eq_ok_iff, pure,
      Except.pure, Except.ok.injEq]
    constructor
    · rintro ⟨artifact, named, repository, chosen, explanation, explained, rfl⟩
      exact .explain named chosen explained
    · intro reports
      cases reports with
      | explain named chosen explained => exact ⟨_, named, _, chosen, _, explained, rfl⟩

theorem Stop.isFailure_ofFailure (failure : Failure) : (Stop.ofFailure failure).IsFailure := by
  cases failure with
  | diagnosed d => exact .reported _
  | _ => exact .failed _

/-- A command that has no report although its arguments are in order fails, and does not blame the
arguments. -/
theorem Command.report_refused {env : Environment} {files : FileSystem} {settings : Settings}
    {a : Arguments} {command : Command} {stop : Stop}
    (named : command = .explain → ∃ artifact, Artifact.parse (a.operands.headD "") = some artifact)
    (refused : command.report env files settings a = .error stop) : stop.IsFailure := by
  cases command with
  | list =>
    simp only [Command.report, bind_eq_error_iff, mapError_eq_error_iff] at refused
    rcases refused with ⟨failure, _, rfl⟩ | ⟨repository, _, ⟨failure, _, rfl⟩ | ⟨listing, _, made⟩⟩
    · exact Stop.isFailure_ofFailure failure
    · exact .failed failure
    · cases made
  | explain =>
    obtain ⟨artifact, named⟩ := named rfl
    have named := artifactOf_eq_ok_iff.mpr named
    simp only [Command.report, bind_eq_error_iff, mapError_eq_error_iff, named, reduceCtorEq,
      false_or, Except.ok.injEq, exists_eq_left'] at refused
    rcases refused with
      ⟨failure, _, rfl⟩ | ⟨repository, _, ⟨failure, _, rfl⟩ | ⟨explanation, _, made⟩⟩
    · exact Stop.isFailure_ofFailure failure
    · exact .failed failure
    · cases made

/-! ## What a report needs -/

/-- The directory that a command takes for its repository: the one that the call names, or else that
of the settings. An empty name is none. -/
def baseOf (env : Environment) (files : FileSystem) (settings : Settings) (named : Option String) :
    Except Failure Path :=
  match named.filter (· ≠ "") with
  | some name => Settings.absolutePath env files name
  | none => settings.repositoryPath env files

/-- A repository is chosen if its directory is there. -/
theorem chooseRepository_eq_ok_iff {env : Environment} {files : FileSystem} {settings : Settings}
    {named : Option String} {repository : Repository} :
    chooseRepository env files settings named = .ok repository ↔
      baseOf env files settings named = .ok repository.base ∧
        files.isDirectory repository.base = .ok true := by
  have opened : ∀ base, openRepository files base = .ok repository ↔
      base = repository.base ∧ files.isDirectory base = .ok true := by
    intro base
    rcases there : files.isDirectory base with e | (_ | _)
    · simp [openRepository, there, Except.mapError, bind, Except.bind]
    · simp [openRepository, there, Except.mapError, bind, Except.bind, throw, throwThe,
        MonadExceptOf.throw]
    · cases repository
      simp [openRepository, there, Except.mapError, bind, Except.bind, pure, Except.pure]
  have whole : chooseRepository env files settings named =
      baseOf env files settings named >>= openRepository files := by
    unfold chooseRepository baseOf
    cases named.filter (· ≠ "") <;> rfl
  rw [whole, bind_eq_ok_iff]
  constructor
  · rintro ⟨base, based, there⟩
    obtain ⟨rfl, there⟩ := (opened base).mp there
    exact ⟨based, there⟩
  · rintro ⟨based, there⟩
    exact ⟨_, based, (opened _).mpr ⟨rfl, there⟩⟩

theorem Reports.chosen {env : Environment} {files : FileSystem} {settings : Settings}
    {a : Arguments} {command : Command} {report : Report}
    (reports : Reports env files settings a command report) :
    ∃ repository, chooseRepository env files settings (a.last? .repo) = .ok repository := by
  cases reports with
  | list chosen _ => exact ⟨_, chosen⟩
  | explain _ chosen _ => exact ⟨_, chosen⟩

/-- The tracking directories that a command reads: all those at and below the base directory, or
that of the artifact which is asked about. -/
inductive Reads (files : FileSystem) (base : Path) (a : Arguments) : Command → Path → Prop
  | list {place : Location} {names : List String}
      (there : files.directory? base = .ok (some place))
      (below : names ∈ files.directoriesFrom place)
      (tracking : files.isDirectory { base with parts := base.parts ++ (names ++ [trackingName]) } =
        .ok true) :
      Reads files base a .list { base with parts := base.parts ++ (names ++ [trackingName]) }
  | explain {artifact : Artifact}
      (named : Artifact.parse (a.operands.headD "") = some artifact) :
      Reads files base a .explain (Repository.trackingOf ⟨base⟩ artifact)

/-- A command reports only if every tracking directory can be read that it reads. -/
theorem Reports.readRecords {env : Environment} {files : FileSystem} {settings : Settings}
    {a : Arguments} {command : Command} {report : Report}
    (reports : Reports env files settings a command report) {base : Path}
    (based : baseOf env files settings (a.last? .repo) = .ok base) {directory : Path}
    (reads : Reads files base a command directory) :
    ∃ records, readRecords files directory = .ok records := by
  have same : ∀ {repository : Repository},
      chooseRepository env files settings (a.last? .repo) = .ok repository →
        repository = ⟨base⟩ := by
    intro repository chosen
    obtain ⟨based', -⟩ := chooseRepository_eq_ok_iff.mp chosen
    cases based.symm.trans based'
    rfl
  cases reads with
  | list there below tracking =>
    obtain ⟨chosen, listed⟩ := reports
    cases same chosen
    obtain ⟨found, searched, told⟩ := bind_eq_ok_iff.mp listed
    obtain ⟨row, answered⟩ :=
      answered_of_mapM told (mem_trackedDirectories there searched below tracking)
    unfold listDirectory at answered
    split at answered
    · cases answered
    · obtain ⟨records, read, -⟩ := bind_eq_ok_iff.mp answered
      exact ⟨records, read⟩
  | explain named =>
    cases reports with
    | explain named' chosen explained =>
      cases same chosen
      cases named.symm.trans named'
      obtain ⟨records, read, -⟩ := bind_eq_ok_iff.mp explained
      exact ⟨records, read⟩

/-- A request gets as far as its repository: the settings are loaded, the arguments of the command
are in order, and this is the directory of the repository. -/
structure Request.IsAbout (request : Request) (host : Host) (files : FileSystem)
    (settings : Settings) (a : Arguments) (base : Path) : Prop where
  loaded : Settings.load host.loader host.env files (request.options.last? .config) = .ok settings
  accepted : (Callee.command request.command).accept files request.arguments = .ok a
  named : request.command = .explain →
    ∃ artifact, Artifact.parse (a.operands.headD "") = some artifact
  based : baseOf host.env files settings (a.last? .repo) = .ok base

/-- A request cannot be answered: the first settings file cannot be read or holds no settings, or
there is no repository, or a file in one of the tracking directories to be read is no text, whatever
the other files there are. -/
inductive Request.IsHindered (request : Request) (host : Host) (files : FileSystem) : Prop
  | settings {home p : Path} (known : host.env.home = .ok home)
      (first : IsFirst files (places (request.options.last? .config) home) p)
      (bad : ¬∃ bytes items, files.read p = .ok bytes ∧ Holds host.loader bytes items)
  | repository {settings : Settings} {a : Arguments} {base : Path}
      (about : request.IsAbout host files settings a base)
      (missing : files.isDirectory base = .ok false)
  | record {settings : Settings} {a : Arguments} {base directory : Path} {here : Location}
      {name : String} {bytes : List UInt8} {fault : Text.Utf8.Fault}
      (about : request.IsAbout host files settings a base)
      (reads : Reads files base a request.command directory)
      (there : files.directory? directory = .ok (some here)) (listed : name ∈ files.names here)
      (held : files.read (directory.entry name) = .ok bytes)
      (undecodable : Text.Utf8.decode bytes = .error fault)

/-- A request that is hindered fails. -/
theorem Request.IsHindered.reply {host : Host} {files : FileSystem} {arguments : List String}
    {request : Request} (hindered : request.IsHindered host files)
    (made : request.IsMade host files arguments) :
    ∃ stop, reply host files arguments = .error stop ∧ stop.IsFailure := by
  -- What hinders a request about a repository rules its report out; its arguments are in order, so
  -- its command can only fail.
  have unreported : ∀ {settings a base}, request.IsAbout host files settings a base →
      (∀ report, ¬Reports host.env files settings a request.command report) →
      ∃ stop, CommandLine.reply host files arguments = .error stop ∧ stop.IsFailure := by
    intro settings a base about silent
    cases whole : request.command.report host.env files settings a with
    | ok report => exact absurd (Command.report_eq_ok_iff.mp whole) (silent report)
    | error stop =>
      refine ⟨stop, ?_, Command.report_refused about.named whole⟩
      simp only [CommandLine.reply, made.unwished, made.read, about.loaded, about.accepted, whole,
        Except.mapError, bind, Except.bind]
  cases hindered with
  | settings known first bad =>
    cases loaded : Settings.load host.loader host.env files (request.options.last? .config) with
    | ok settings => exact absurd (holds_of_load known first loaded) bad
    | error failure =>
      refine ⟨_, ?_, Stop.isFailure_ofFailure failure⟩
      simp only [CommandLine.reply, made.unwished, made.read, loaded, Except.mapError, bind,
        Except.bind]
  | repository about missing =>
    refine unreported about fun report reports => ?_
    obtain ⟨repository, chosen⟩ := reports.chosen
    obtain ⟨based, there⟩ := chooseRepository_eq_ok_iff.mp chosen
    cases about.based.symm.trans based
    cases missing.symm.trans there
  | record about reads there listed held undecodable =>
    refine unreported about fun report reports => ?_
    obtain ⟨records, whole⟩ := reports.readRecords about.based reads
    exact readRecords_ne_ok_of_fault there listed held undecodable records whole

/-! ## Calls -/

/-- What a call has to print, piece by piece: a help page that it asks for, the completion that the
shell wishes for, or the whole report of its command. -/
inductive Prints (host : Host) (screen : Screen) (files : FileSystem) (arguments : List String) :
    List String → Prop
  | page {stop : Stop} {page : String} (replied : reply host files arguments = .error stop)
      (asked : stop.page? host = some page) : Prints host screen files arguments [page]
  | report {request : Request} {settings : Settings} {a : Arguments} {report : Report}
      (made : request.IsMade host files arguments)
      (loaded : Settings.load host.loader host.env files (request.options.last? .config) =
        .ok settings)
      (accepted : (Callee.command request.command).accept files request.arguments = .ok a)
      (reports : Reports host.env files settings a request.command report) :
      Prints host screen files arguments (report.pieces (a.has .json) screen)

theorem reply_eq_ok_iff {host : Host} {files : FileSystem} {arguments : List String}
    {asJson : Bool} {report : Report} :
    reply host files arguments = .ok (asJson, report) ↔
      ∃ (request : Request) (settings : Settings) (a : Arguments),
      request.IsMade host files arguments ∧
      Settings.load host.loader host.env files (request.options.last? .config) = .ok settings ∧
      (Callee.command request.command).accept files request.arguments = .ok a ∧
      Reports host.env files settings a request.command report ∧ a.has .json = asJson := by
  unfold reply
  split
  · rename_i completion wished
    constructor
    · intro same
      cases same
    · rintro ⟨request, settings, a, made, -⟩
      cases wished.symm.trans made.unwished
  · rename_i unwished
    simp only [bind_eq_ok_iff, mapError_eq_ok_iff, Command.report_eq_ok_iff, pure, Except.pure,
      Except.ok.injEq, Prod.mk.injEq]
    constructor
    · rintro ⟨request, read, settings, loaded, a, accepted, report, reports, rfl, rfl⟩
      exact ⟨request, settings, a, ⟨unwished, read⟩, loaded, accepted, reports, rfl⟩
    · rintro ⟨request, settings, a, made, loaded, accepted, reports, rfl⟩
      exact ⟨request, made.read, settings, loaded, a, accepted, report, reports, rfl, rfl⟩

/-- A call has something to print exactly if it does not stop. -/
theorem pieces_eq_ok_iff {host : Host} {screen : Screen} {files : FileSystem}
    {arguments : List String} {all : List String} :
    pieces host screen files arguments = .ok all ↔ Prints host screen files arguments all := by
  constructor
  · intro planned
    unfold pieces at planned
    split at planned
    · next asJson report replied =>
      cases planned
      obtain ⟨request, settings, a, made, loaded, accepted, reports, rfl⟩ :=
        reply_eq_ok_iff.mp replied
      exact .report made loaded accepted reports
    · next stop replied =>
      split at planned
      · next page asked =>
        cases planned
        exact .page replied asked
      · cases planned
  · intro prints
    cases prints with
    | page replied asked =>
      rw [pieces, replied]
      simp only [asked]
    | report made loaded accepted reports =>
      rw [pieces, reply_eq_ok_iff.mpr ⟨_, _, _, made, loaded, accepted, reports, rfl⟩]

/-- A call that stops has another status than 0. -/
theorem status_of_pieces {host : Host} {screen : Screen} {files : FileSystem}
    {arguments : List String} {stop : Stop}
    (planned : pieces host screen files arguments = .error stop) :
    stop.status = 1 ∨ stop.status = 2 := by
  unfold pieces at planned
  split at planned
  · cases planned
  · split at planned
    · cases planned
    · next bare =>
      cases planned
      cases stop with
      | helped callee => cases bare
      | completed text =>
        cases bare
        exact .inl rfl
      | idle | misused => exact .inr rfl
      | reported | failed => exact .inl rfl

/-- A host whose standard output takes every text. -/
def openHost (assigned : List (String × String)) : Host :=
  ⟨⟨assigned, "root", []⟩, .yaml, ⟨true, fun _ => .ok ()⟩, fun _ => none, fun _ => ⟨"", .ok none⟩⟩

/-- The scene of a first call. -/
def firstScene (files : FileSystem) : Scene := ⟨files, {}, [], "", ""⟩

/-- Files with a repository in which an artifact has two records, the first of which is a text. -/
def filesWithSecond (second : List UInt8) : FileSystem :=
  ⟨[(["repo"], .directory), (["repo", "g"], .directory), (["repo", "g", "a"], .directory),
      (["repo", "g", "a", "1"], .directory), (["repo", "g", "a", "1", ".tracking"], .directory),
      (["repo", "g", "a", "1", ".tracking", "app"], .file (Record.bytes ["g:a:1 (compile)"])),
      (["repo", "g", "a", "1", ".tracking", "web"], .file second)], []⟩

/-- The variables of a host whose repository is in a directory at the root. -/
def repositoryVariables : List (String × String) :=
  [("HOME", "/home"), ("REVERSETREE_LOCAL_REPOSITORY", "/repo")]

theorem isTree_filesWithSecond (second : List UInt8) : (filesWithSecond second).IsTree := by
  have unique : (filesWithSecond second).Unique := by simp [FileSystem.Unique, filesWithSecond]
  refine FileSystem.isTree_iff.mpr ⟨unique, fun key member => ?_⟩
  simp only [filesWithSecond, List.map_cons, List.map_nil, List.mem_cons, List.not_mem_nil,
    or_false] at member
  rcases member with rfl | rfl | rfl | rfl | rfl | rfl | rfl <;> exact .inr ⟨rfl, by decide⟩

/-- What is there is found. -/
theorem locate_filesWithSecond (second : List UInt8) {place : Location} {entry : Entry}
    (held : (filesWithSecond second).lookup place = some entry)
    (noNull : '\x00' ∉ (Path.text ⟨.slash, place⟩).toList)
    (short : (Path.text ⟨.slash, place⟩).utf8ByteSize ≤ FileSystem.maxPath) :
    (filesWithSecond second).locate true ⟨.slash, place⟩ = .ok (.found place entry) := by
  have linkFree : (filesWithSecond second).NoLinks := by
    simp [FileSystem.NoLinks, filesWithSecond, Entry.isLink]
  exact (isTree_filesWithSecond second).locate_of_lookup linkFree noNull short held true

theorem load_repositoryVariables (second : List UInt8) :
    Settings.load .yaml ⟨repositoryVariables, "root", []⟩ (filesWithSecond second) none =
      .ok { localRepository := .text "/repo" } :=
  have repository : Field.ofVariable? "REVERSETREE_LOCAL_REPOSITORY" = some .localRepository := by
    decide
  load_of_variable .yaml rfl rfl rfl repository

/-- A second record that is no text hinders a listing, although the first one can be read. -/
theorem filesWithSecond_hinder :
    Request.IsHindered ⟨⟨[], ["list", "--json"]⟩, .list, ["--json"]⟩ (openHost repositoryVariables)
      (filesWithSecond [0xff]) := by
  have base : (filesWithSecond [0xff]).locate true ⟨.slash, ["repo"]⟩ =
      .ok (.found ["repo"] .directory) :=
    locate_filesWithSecond _ rfl (by decide) (by decide)
  have tracking : (filesWithSecond [0xff]).locate true
      ⟨.slash, ["repo", "g", "a", "1", ".tracking"]⟩ =
        .ok (.found ["repo", "g", "a", "1", ".tracking"] .directory) :=
    locate_filesWithSecond _ rfl (by decide) (by decide)
  have file : (filesWithSecond [0xff]).locate true
      ⟨.slash, ["repo", "g", "a", "1", ".tracking", "web"]⟩ =
        .ok (.found ["repo", "g", "a", "1", ".tracking", "web"] (.file [0xff])) :=
    locate_filesWithSecond _ rfl (by decide) (by decide)
  have accepted : (Callee.command .list).accept (filesWithSecond [0xff]) ["--json"] =
      .ok ⟨[(.json, "")], []⟩ := by
    have read : (Callee.command .list).read ["--json"] = .ok ⟨[(.json, "")], []⟩ := by
      rw [Callee.read, Callee.read]
      rfl
    rw [Callee.accept, read]
    rfl
  have below : ["g", "a", "1"] ∈ (filesWithSecond [0xff]).directoriesFrom ["repo"] :=
    ((isTree_filesWithSecond _).mem_directoriesFrom rfl).mpr rfl
  have reads : Reads (filesWithSecond [0xff]) ⟨.slash, ["repo"]⟩ ⟨[(.json, "")], []⟩ .list
      ⟨.slash, ["repo", "g", "a", "1", ".tracking"]⟩ :=
    .list (FileSystem.directory?_eq_some_iff.mpr base) below
      (FileSystem.isDirectory_eq_true_iff.mpr ⟨_, tracking⟩)
  exact .record ⟨load_repositoryVariables _, accepted, nofun, rfl⟩ reads
    (FileSystem.directory?_eq_some_iff.mpr tracking) (FileSystem.mem_names.mpr ⟨_, rfl⟩)
    (FileSystem.read_eq_ok_iff.mpr ⟨_, file⟩) rfl

/-- Reading the arguments of a command that get nothing but coordinates. -/
theorem accept_coordinates (files : FileSystem) :
    (Callee.command .explain).accept files ["g:a:1"] = .ok ⟨[], ["g:a:1"]⟩ := by
  have read : (Callee.command .explain).read ["g:a:1"] = .ok ⟨[], ["g:a:1"]⟩ := by
    rw [Callee.read, Callee.read]
    rfl
  rw [Callee.accept, read]
  rfl

/-- Without any files there is no repository. -/
theorem noFiles_hinder :
    Request.IsHindered ⟨⟨[], ["show", "g:a:1"]⟩, .explain, ["g:a:1"]⟩
      (openHost [("HOME", "/home"), ("REVERSETREE_RECORD_REVERSE_TREE", "yes")]) ⟨[], []⟩ := by
  have named : Artifact.parse "g:a:1" = some { group := "g", name := "a", version := "1" } := by
    decide
  have absent : (⟨[], []⟩ : FileSystem).isPresent ⟨.slash, ["home", ".m2", "repository"]⟩ =
      .ok false :=
    FileSystem.isPresent_of_absent rfl (by decide) rfl (by decide) rfl
  exact .repository ⟨load_switched .yaml "yes", accept_coordinates _, fun _ => ⟨_, named⟩, rfl⟩
    (FileSystem.isDirectory_of_absent absent)

/-- Files with a settings file in the working directory that is no text. -/
def garbledSettings : FileSystem :=
  ⟨[([".reversetree"], .directory), ([".reversetree", "config.yaml"], .file [0xff])], []⟩

theorem garbledSettings_hinder {assigned : List (String × String)} {home : Path}
    (known : (openHost assigned).env.home = .ok home) :
    Request.IsHindered ⟨⟨[], ["list"]⟩, .list, []⟩ (openHost assigned) garbledSettings := by
  have tree : garbledSettings.IsTree := FileSystem.isTree_iff.mpr (by decide)
  have found : garbledSettings.locate true (fileIn (.ofText "")) =
      .ok (.found [".reversetree", "config.yaml"] (.file [0xff])) :=
    tree.locate_of_lookup (by decide) (by decide) (by decide) rfl true
  have present := FileSystem.isPresent_eq_true_iff.mpr ⟨_, _, found⟩
  refine .settings known ⟨[], [fileIn home], rfl, by simp, present⟩ ?_
  rintro ⟨bytes, items, read, value, loaded, -⟩
  cases (FileSystem.read_eq_ok_iff.mpr ⟨_, found⟩).symm.trans read
  cases loaded

/-- A stream that takes the characters of ASCII only. -/
def asciiStream : Stream where
  isUnicode := false
  takes text :=
    if text.toList.all (·.toNat < 128) then .ok ()
    else .error ⟨"UnicodeEncodeError", "ordinal not in range(128)"⟩

/-- The stream takes lines if and only if it takes the characters of each of them. -/
theorem asciiStream_takes_iff {lines : List (List Char)} :
    asciiStream.takes (Terminal.unlines lines) = .ok () ↔
      lines.all (·.all (·.toNat < 128)) = true := by
  have ends : (lines.flatMap (· ++ ['\n'])).all (·.toNat < 128) =
      lines.all (·.all (·.toNat < 128)) := by
    rw [List.all_flatMap]
    congr
    funext line
    rw [List.all_append, show ['\n'].all (·.toNat < 128) = true from rfl, Bool.and_true]
  simp only [asciiStream, Terminal.unlines, String.toList_ofList, ends]
  split
  · rename_i all
    simp [all]
  · rename_i some
    simp [some]

/-- A host whose standard output takes the characters of ASCII only. -/
def asciiHost : Host := { openHost repositoryVariables with output := asciiStream }

/-- What there is to tell about an artifact whose second record has an accent, which is not of
ASCII. -/
def foreignExplanation : Explanation :=
  ⟨{ group := "g", name := "a", version := "1" }, ⟨.slash, ["repo", "g", "a", "1", ".tracking"]⟩,
    [⟨"app", ["g:a:1 (compile)"]⟩, ⟨"web", ["e\u0301"]⟩]⟩

/-- Files with these records. -/
def foreignFiles : FileSystem := filesWithSecond (Record.bytes ["e\u0301"])

theorem explain_foreign :
    explainArtifact foreignFiles ⟨⟨.slash, ["repo"]⟩⟩
      foreignExplanation.artifact = .ok foreignExplanation := by
  let here : Location := ["repo", "g", "a", "1", ".tracking"]
  have tracking : foreignFiles.locate true ⟨.slash, here⟩ = .ok (.found here .directory) :=
    locate_filesWithSecond _ rfl (by decide) (by decide)
  have app : foreignFiles.locate true (Path.entry ⟨.slash, here⟩ "app") =
      .ok (.found (here ++ ["app"]) (.file (Record.bytes ["g:a:1 (compile)"]))) :=
    locate_filesWithSecond _ rfl (by decide) (by decide)
  have web : foreignFiles.locate true (Path.entry ⟨.slash, here⟩ "web") =
      .ok (.found (here ++ ["web"]) (.file (Record.bytes ["e\u0301"]))) :=
    locate_filesWithSecond _ rfl (by decide) (by decide)
  have below : foreignFiles.below here =
      [(["app"], .file (Record.bytes ["g:a:1 (compile)"])),
        (["web"], .file (Record.bytes ["e\u0301"]))] := by
    decide +kernel
  have names : foreignFiles.names here = ["app", "web"] := by
    rw [FileSystem.names, below]
    exact List.mergeSort_of_pairwise (by decide)
  have appText : Record.decode (Record.bytes ["g:a:1 (compile)"]) = .ok ["g:a:1 (compile)"] := by
    decide +kernel
  have webText : Record.decode (Record.bytes ["e\u0301"]) = .ok ["e\u0301"] := by decide +kernel
  have read : readRecords foreignFiles ⟨.slash, here⟩ = .ok foreignExplanation.records := by
    rw [readRecords_of_some (FileSystem.directory?_eq_some_iff.mpr tracking), names]
    simp only [List.mapM_cons, List.mapM_nil, recordIn_of_text app appText,
      recordIn_of_text web webText]
    rfl
  have directory : Repository.trackingOf ⟨⟨.slash, ["repo"]⟩⟩ foreignExplanation.artifact =
      ⟨.slash, here⟩ := by
    decide +kernel
  rw [explainArtifact, directory, read]
  rfl

/-- That report has a heading and two chains, of which the stream takes the heading and not the last
chain. -/
theorem foreignExplanation_pieces {screen : Screen} (sized : asciiHost.screen = .ok screen) :
    ∃ heading chain last, foreignExplanation.report.pieces false screen = [heading, chain, last] ∧
      heading ≠ "" ∧ asciiStream.takes heading = .ok () ∧ asciiStream.takes last ≠ .ok () := by
  obtain rfl : (⟨80, false, fun _ => none⟩ : Screen) = screen := by
    cases sized
    rfl
  refine ⟨_, _, _, rfl, by decide +kernel, asciiStream_takes_iff.mpr (by decide +kernel), ?_⟩
  rw [Ne, asciiStream_takes_iff]
  decide +kernel

/-- A height that is told by digits which make no number is an error, although the width is not told
at all. -/
theorem columns_of_height {env : Environment} {s : String} (free : env.get? "COLUMNS" = none)
    (told : env.get? "LINES" = some s) (digits : s ≠ "" ∧ s.toList.all Text.isDigitLike = true)
    (malformed : Text.readNumber s.toList = .malformed) :
    env.columns =
      .error (.badValue ("invalid literal for int() with base 10: " ++ Text.quoted s)) := by
  have height : env.dimension "LINES" =
      .error (.badValue ("invalid literal for int() with base 10: " ++ Text.quoted s)) := by
    simp only [Environment.dimension, told, if_pos digits, Text.wholeNumber, malformed,
      String.ofList_toList]
    rfl
  have width : env.dimension "COLUMNS" = .ok none := by rw [Environment.dimension, free]
  rw [Environment.columns, width, height]
  rfl

end Provenance.CommandLine
