import Provenance.Yaml.Cursor

/-!
Tokens of a YAML text.
-/
namespace Provenance.Yaml

/-- What a directive says. -/
inductive Directive where
  | version (major : Nat)
  | tagHandle (handle stem : String)
  | unknown
  deriving DecidableEq, Repr

/-- A token. `fault` stands where the text can be read no further. -/
inductive Token where
  | directive (d : Directive)
  | documentStart | documentEnd
  | blockSequenceStart | blockMappingStart | blockEnd
  | flowSequenceStart | flowSequenceEnd | flowMappingStart | flowMappingEnd
  | blockEntry | flowEntry | key | value
  | alias (name : String)
  | anchor (name : String)
  | tag (handle : Option String) (suffix : String)
  | scalar (text : List Char) (plain : Bool)
  | streamEnd
  | fault (f : Fault)
  deriving DecidableEq, Repr

end Provenance.Yaml
