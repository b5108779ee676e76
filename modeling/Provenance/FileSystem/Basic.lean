import Provenance.FileSystem.Fault

/-!
A file system as a value: a finite map from locations to entries, with a working directory.
`walk` follows a path through directories and symbolic links; every other operation asks it where a
path leads. The map keeps the order of its first writes, so writing over an entry absorbs an
earlier write of it.
-/
namespace Provenance

/-- What a location holds. -/
inductive Entry where
  | directory
  | file (bytes : List UInt8)
  | link (target : String)
  deriving DecidableEq, Repr

/-- The names that lead from the root directory to an entry, without `.`, `..` and links. -/
abbrev Location := List String

/-- The files of a machine, and the directory that relative paths start from. -/
structure FileSystem where
  entries : List (Location × Entry)
  working : Location
  deriving DecidableEq, Repr

namespace FileSystem

/-- The entry at a location. The root directory is always there. -/
def lookup (fs : FileSystem) (place : Location) : Option Entry :=
  if place = [] then some .directory else fs.entries.lookup place

/-- The association list with the entry of one location set. -/
def setEntry (place : Location) (entry : Entry) :
    List (Location × Entry) → List (Location × Entry)
  | [] => [(place, entry)]
  | (key, old) :: rest =>
    if key = place then (key, entry) :: rest else (key, old) :: setEntry place entry rest

/-- The file system with the entry of one location set. -/
def set (fs : FileSystem) (place : Location) (entry : Entry) : FileSystem :=
  { fs with entries := setEntry place entry fs.entries }

/-- Where a path leads: to an entry, or to a free place in an existing directory. -/
inductive Destination where
  | found (place : Location) (entry : Entry)
  | free (place : Location)
  deriving DecidableEq, Repr

/-- The most bytes that one name may have. -/
def maxName : Nat := 255

/-- The most bytes that a path may have. -/
def maxPath : Nat := 4095

/-- The most symbolic links that one path may pass through. -/
def maxLinks : Nat := 40

/-- The directory that the target of a link in `here` is read from. -/
def linkBase (here : Location) (target : String) : Location :=
  if Path.Root.ofText target.toList = .relative then here else []

/-- Follows parts from the directory `here` on. `links` more symbolic links may be passed; one at
the very end is passed only if `follow` says so. -/
def walk (fs : FileSystem) (follow : Bool) (links : Nat) (here : Location) (parts : List String) :
    Except Fault Destination :=
  match fs.lookup here with
  | none => .error .missing
  | some entry =>
    match parts with
    | [] => .ok (.found here entry)
    | part :: rest =>
      if entry ≠ .directory then .error .notDirectory
      else if Path.isIdle part then walk fs follow links here rest
      else if part = ".." then walk fs follow links here.dropLast rest
      else if maxName < part.utf8ByteSize then .error .nameTooLong
      else
        match fs.lookup (here ++ [part]) with
        | none => if rest = [] then .ok (.free (here ++ [part])) else .error .missing
        | some (.link target) =>
          if rest = [] ∧ follow = false then .ok (.found (here ++ [part]) (.link target))
          else
            match links with
            | 0 => .error .tooManyLinks
            | links + 1 =>
              walk fs follow links (linkBase here target) (Text.fieldsOf '/' target ++ rest)
        | some _ => walk fs follow links (here ++ [part]) rest
termination_by (links, parts.length)

/-- Where a path leads from the working directory, or from the root if it is absolute. -/
def locate (fs : FileSystem) (follow : Bool) (p : Path) : Except FileError Destination :=
  if p.text.toList.contains '\x00' then .error .embeddedNull
  else if maxPath < p.text.utf8ByteSize then .error (.refused .nameTooLong p)
  else
    match fs.walk follow maxLinks (if p.isAbsolute then [] else fs.working) p.parts with
    | .ok destination => .ok destination
    | .error fault => .error (.refused fault p)

/-- The path with the working directory put in front of it if it is relative. -/
def absolute (fs : FileSystem) (p : Path) : Path :=
  if p.isAbsolute then p else ⟨.slash, fs.working ++ p.parts⟩

end FileSystem

end Provenance
