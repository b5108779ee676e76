import Provenance.FileSystem.Basic

/-!
Operations on files: questions about a path, reading, writing, and making directories. An operation
that changes files answers with the error it ends in, if any, and the file system it leaves.
-/
namespace Provenance

/-- What a disk has room for at each location: why there is none for a new entry, if there is none,
and how many bytes the file there may have and why no more, if there is an end to them. -/
structure Disk where
  bars : Location → Option Shortage
  room : Location → Option (Nat × Shortage)

namespace Disk

/-- A disk with room for everything. -/
def ample : Disk := ⟨fun _ => none, fun _ => none⟩

/-- The part of the bytes that the disk takes for the file at a location. -/
def part (disk : Disk) (place : Location) (bytes : List UInt8) : List UInt8 :=
  match disk.room place with
  | none => bytes
  | some (room, _) => bytes.take room

/-- Why the disk does not take all of the bytes, if it does not. -/
def stops (disk : Disk) (place : Location) (bytes : List UInt8) : Option Shortage :=
  match disk.room place with
  | none => none
  | some (room, shortage) => if room < bytes.length then some shortage else none

end Disk

namespace FileSystem

/-- The entry that a path leads to, with its location. What is not there, by a fault that means
absence, is no error. -/
def inspect (fs : FileSystem) (p : Path) : Except FileError (Option (Location × Entry)) :=
  match fs.locate true p with
  | .ok (.found place entry) => .ok (some (place, entry))
  | .ok (.free _) => .ok none
  | .error .embeddedNull => .ok none
  | .error (.refused fault path) =>
    if fault.meansAbsent then .ok none else .error (.refused fault path)

/-- Whether a path leads to anything at all. -/
def isPresent (fs : FileSystem) (p : Path) : Except FileError Bool :=
  return (← fs.inspect p).isSome

/-- The location of the directory that a path leads to. -/
def directory? (fs : FileSystem) (p : Path) : Except FileError (Option Location) := do
  match ← fs.inspect p with
  | some (place, .directory) => return some place
  | _ => return none

/-- Whether a path leads to a directory. -/
def isDirectory (fs : FileSystem) (p : Path) : Except FileError Bool :=
  return (← fs.directory? p).isSome

/-- Whether a path leads to a regular file. -/
def isFile (fs : FileSystem) (p : Path) : Except FileError Bool := do
  match ← fs.inspect p with
  | some (_, .file _) => return true
  | _ => return false

/-- The entry that a path text leads to as it is written: a slash at its end asks for a directory.
Whatever is in the way, there is nothing then; only a NUL is refused. -/
def entryAsWritten (fs : FileSystem) (s : String) : Except FileError (Option Entry) :=
  if s.toList.contains '\x00' then .error .embeddedNull
  else if s = "" ∨ maxPath < s.utf8ByteSize then .ok none
  else
    match fs.walk true maxLinks (linkBase fs.working s) (Text.fieldsOf '/' s) with
    | .ok (.found _ entry) => .ok (some entry)
    | _ => .ok none

/-- The bytes of the file that a path leads to. -/
def read (fs : FileSystem) (p : Path) : Except FileError (List UInt8) := do
  match ← fs.locate true p with
  | .found _ (.file bytes) => return bytes
  | .found _ .directory => throw (.refused .isDirectory p)
  | .found _ (.link _) | .free _ => throw (.refused .missing p)

/-- Whether following parts from the directory `here` on comes to a name with nothing but slashes
behind it, as the target of a link may have. -/
def endsInSlash (fs : FileSystem) (links : Nat) (here : Location) (parts : List String) : Bool :=
  match parts with
  | [] => false
  | part :: rest =>
    if fs.lookup here ≠ some .directory then false
    else if Path.isIdle part then endsInSlash fs links here rest
    else if part = ".." then endsInSlash fs links here.dropLast rest
    else if rest ≠ [] ∧ ∀ later ∈ rest, later = "" then true
    else if maxName < part.utf8ByteSize then false
    else
      match fs.lookup (here ++ [part]) with
      | none => false
      | some (.link target) =>
        match links with
        | 0 => false
        | links + 1 =>
          endsInSlash fs links (linkBase here target) (Text.fieldsOf '/' target ++ rest)
      | some _ => endsInSlash fs links (here ++ [part]) rest
termination_by (links, parts.length)

/-- The refusal to open a file for writing, where its path was refused. A slash behind the last name
asks for a directory, and that comes before what else may be wrong with the name. -/
def openRefusal (fs : FileSystem) (p : Path) : FileError → FileError
  | .embeddedNull => .embeddedNull
  | .refused fault path =>
    if p.text.utf8ByteSize ≤ maxPath ∧
        fs.endsInSlash maxLinks (if p.isAbsolute then [] else fs.working) p.parts = true then
      .refused .isDirectory path
    else .refused fault path

/-- The place that a path is opened for writing at: that of the file which it leads to, or the free
place it leads to, if the disk has room for a file there. -/
def openPlace (disk : Disk) (fs : FileSystem) (p : Path) : Except FileError Location :=
  match fs.locate true p with
  | .error e => .error (fs.openRefusal p e)
  | .ok (.found _ .directory) => .error (.refused .isDirectory p)
  | .ok (.found place _) => .ok place
  | .ok (.free place) =>
    match disk.bars place with
    | some shortage => .error (.refused (.noRoom shortage) p)
    | none => .ok place

/-- Writes a file in full, over the one that the path leads to or at the free place it leads to.
What was there is given up when the file is opened, so the part that the disk takes is left if it
does not take all. -/
def write (disk : Disk) (fs : FileSystem) (p : Path) (bytes : List UInt8) :
    Option WriteFault × FileSystem :=
  match fs.openPlace disk p with
  | .error e => (some (.refused e), fs)
  | .ok place =>
    ((disk.stops place bytes).map .stopped, fs.set place (.file (disk.part place bytes)))

/-- Makes one directory. A link at the end of the path is not followed. -/
def makeDirectory (disk : Disk) (fs : FileSystem) (p : Path) : Option FileError × FileSystem :=
  match fs.locate false p with
  | .error e => (some e, fs)
  | .ok (.found _ _) => (some (.refused .alreadyExists p), fs)
  | .ok (.free place) =>
    match disk.bars place with
    | some shortage => (some (.refused (.noRoom shortage) p), fs)
    | none => (none, fs.set place .directory)

/-- The error of making a directory counts as none if the path leads to a directory nevertheless. If
there is no asking whether it does, that is the error. -/
def excuse (p : Path) : Option FileError × FileSystem → Option FileError × FileSystem
  | (some (.refused fault path), fs) =>
    match fault with
    | .missing => (some (.refused fault path), fs)
    | _ =>
      match fs.isDirectory p with
      | .ok true => (none, fs)
      | .ok false => (some (.refused fault path), fs)
      | .error e => (some e, fs)
  | done => done

/-- Makes a directory and those above it that are missing; a directory that is there already is
fine. -/
def makeDirectories (disk : Disk) (fs : FileSystem) (p : Path) : Option FileError × FileSystem :=
  match fs.makeDirectory disk p with
  | (some (.refused .missing path), fs) =>
    if _h : p.parts = [] then (some (.refused .missing path), fs)
    else
      match makeDirectories disk fs p.parent with
      | (none, fs) => excuse p (fs.makeDirectory disk p)
      | failed => failed
  | done => excuse p done
termination_by p.parts.length
decreasing_by
  have : 0 < p.parts.length := List.length_pos_iff.2 _h
  simp only [Path.parent, List.length_dropLast]
  omega

/-- Makes a symbolic link. -/
def makeLink (fs : FileSystem) (p : Path) (target : String) : Option FileError × FileSystem :=
  match fs.locate false p with
  | .error e => (some e, fs)
  | .ok (.found _ _) => (some (.refused .alreadyExists p), fs)
  | .ok (.free place) => (none, fs.set place (.link target))

/-- Takes an entry away, and all entries below it. -/
def remove (fs : FileSystem) (p : Path) : Option FileError × FileSystem :=
  match fs.locate false p with
  | .error e => (some e, fs)
  | .ok (.found place _) =>
    (none, { fs with entries := fs.entries.filter fun item => !place.isPrefixOf item.1 })
  | .ok (.free _) => (some (.refused .missing p), fs)

/-- Moves the working directory. -/
def changeDirectory (fs : FileSystem) (p : Path) : Option FileError × FileSystem :=
  match fs.locate true p with
  | .error e => (some e, fs)
  | .ok (.found place .directory) => (none, { fs with working := place })
  | .ok (.found _ _) => (some (.refused .notDirectory p), fs)
  | .ok (.free _) => (some (.refused .missing p), fs)

/-- The entries below a location, with the names that lead to them from there. -/
def below (fs : FileSystem) (place : Location) : List (List String × Entry) :=
  fs.entries.filterMap fun (key, entry) =>
    if place.isPrefixOf key && key != place then some (key.drop place.length, entry) else none

/-- The names in a directory, in increasing order. -/
def names (fs : FileSystem) (place : Location) : List String :=
  ((fs.below place).filterMap fun (key, _) =>
    match key with
    | [name] => some name
    | _ => none).mergeSort (fun a b => decide (a ≤ b))

/-- The number of names on the way to the entry that lies deepest. -/
def depth (fs : FileSystem) : Nat :=
  (fs.entries.map fun item => item.1.length).foldr max 0

theorem length_le_depth {fs : FileSystem} {place : Location} {entry : Entry}
    (held : fs.lookup place = some entry) : place.length ≤ fs.depth := by
  unfold lookup at held
  split at held
  · rename_i root
    simp [root]
  · unfold depth
    generalize fs.entries = entries at held
    induction entries with
    | nil => cases held
    | cons item rest ih =>
      rw [List.lookup_cons] at held
      rw [List.map_cons, List.foldr_cons]
      split at held
      · rename_i same
        rw [eq_of_beq same]
        exact Nat.le_max_left _ _
      · exact Nat.le_trans (ih held) (Nat.le_max_right _ _)

/-- The directories at and below a location, as the names that lead there: the location itself, and
then, for each directory in it, that one and those below it. Links are not followed. -/
def directoriesFrom (fs : FileSystem) (place : Location) : List (List String) :=
  [] :: (fs.names place).flatMap fun name =>
    if _h : fs.lookup (place ++ [name]) = some .directory then
      (directoriesFrom fs (place ++ [name])).map (name :: ·)
    else []
termination_by fs.depth - place.length
decreasing_by
  have within := fs.length_le_depth _h
  simp only [List.length_append, List.length_singleton] at within ⊢
  omega

end FileSystem

end Provenance
