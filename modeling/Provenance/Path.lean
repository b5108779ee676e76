import Provenance.Text.Fields

/-!
Paths as written: a root and a list of parts. Reading a path drops empty parts and `.` parts and
keeps `..`; nothing here looks at a file system. `normalize` resolves `..` by the text alone.
-/
namespace Provenance

/-- Where a path starts. Exactly two leading slashes are a root of their own. -/
inductive Path.Root where
  | relative | slash | doubleSlash
  deriving DecidableEq, Repr

/-- A path: its root and its parts, none of which is empty, `.` or has a slash in it when the path
was read from a text. -/
structure Path where
  root : Path.Root
  parts : List String
  deriving DecidableEq, Repr

namespace Path

/-- The number of slashes a root is written with. -/
def Root.text : Root → String
  | .relative => ""
  | .slash => "/"
  | .doubleSlash => "//"

/-- The root of a path text: three or more leading slashes count as one. -/
def Root.ofText (s : List Char) : Root :=
  match s with
  | '/' :: '/' :: '/' :: _ => .slash
  | '/' :: '/' :: _ => .doubleSlash
  | '/' :: _ => .slash
  | _ => .relative

/-- Whether a part of a path text stands for nothing. -/
def isIdle (part : String) : Bool :=
  part == "" || part == "."

/-- Reads a path. -/
def ofText (s : String) : Path where
  root := Root.ofText s.toList
  parts := (Text.fieldsOf '/' s).filter (!isIdle ·)

/-- The text of a path; the path without root and parts is `.`. -/
def text (p : Path) : String :=
  if p.root = .relative ∧ p.parts = [] then "."
  else p.root.text ++ Text.ofFields '/' p.parts

/-- A path below another one; one that has a root starts afresh from it. -/
def join (p q : Path) : Path :=
  if q.root = .relative then { p with parts := p.parts ++ q.parts } else q

/-- The path below `p` that a text names. -/
def child (p : Path) (s : String) : Path :=
  p.join (ofText s)

/-- The path without its last part; a root and the empty path are their own parents. -/
def parent (p : Path) : Path :=
  { p with parts := p.parts.dropLast }

/-- Whether the path starts from a root. -/
def isAbsolute (p : Path) : Bool :=
  p.root ≠ .relative

/-- The last part, empty if there is none. -/
def name (p : Path) : String :=
  p.parts.getLastD ""

/-- Appends one part to resolved parts, which are held last first: `..` takes the part before it
away unless that is `..` too, and vanishes at a root. -/
def pushPart (rooted : Bool) (resolved : List String) (part : String) : List String :=
  if part = ".." then
    match resolved with
    | [] => if rooted then [] else [".."]
    | last :: rest => if last = ".." then ".." :: last :: rest else rest
  else part :: resolved

/-- The path with every `..` resolved by the text alone, as far as that goes. -/
def normalize (p : Path) : Path :=
  { p with parts := (p.parts.foldl (pushPart p.isAbsolute) []).reverse }

/-- Whether the normalized text of `base` begins the normalized text of `p`. -/
def startsAt (p base : Path) : Bool :=
  base.normalize.text.toList.isPrefixOf p.normalize.text.toList

/-- The parts of `p` below `base`, if `p` lies there as written. -/
def below? (p base : Path) : Option (List String) :=
  if p.root = base.root ∧ base.parts.isPrefixOf p.parts then some (p.parts.drop base.parts.length)
  else none

end Path

end Provenance
