import Provenance.Yaml.Tag
import Provenance.Yaml.Token

/-!
Nodes: the tree that the tokens of a text describe. An alias stands for the node of its anchor; an
alias inside the very node it names stays as `enclosing`.
-/
namespace Provenance.Yaml

/-- A node. -/
inductive Node where
  | scalar (tag : Tag) (text : List Char)
  | sequence (tag : Tag) (items : List Node)
  | mapping (tag : Tag) (items : List (Node × Node))
  /-- A collection around the place where this stands. -/
  | enclosing (isMapping : Bool)
  deriving Repr, Inhabited

/-- A node without any text. -/
def Node.empty : Node := .scalar .null []

/-- What an anchor names: a finished node, or a collection that is still being read. -/
inductive Anchored where
  | finished (node : Node)
  | unfinished (isMapping : Bool)
  deriving Repr

/-- The reader of tokens: the tokens to come, the meanings of tag handles, and the anchors met. -/
structure Reader where
  tokens : List Token
  handles : List (String × String) := []
  anchors : List (String × Anchored) := []
  deriving Repr

namespace Reader

/-- The next token. -/
def peek (r : Reader) : Token := r.tokens.headD .streamEnd

/-- The reader after the next token. -/
def drop (r : Reader) : Reader := { r with tokens := r.tokens.drop 1 }

/-- The fault to report at the next token: its own if it is one. -/
def fault (r : Reader) : Fault :=
  match r.peek with
  | .fault f => f
  | _ => .malformed

/-- Names a node with an anchor, if there is one. -/
def name (r : Reader) (anchor : Option String) (what : Anchored) : Reader :=
  match anchor with
  | none => r
  | some anchor => { r with anchors := (anchor, what) :: r.anchors }

/-- The node of an alias. -/
def lookUp (r : Reader) (anchor : String) : Except Fault Node :=
  match r.anchors.lookup anchor with
  | none => .error .malformed
  | some (.finished node) => .ok node
  | some (.unfinished isMapping) => .ok (.enclosing isMapping)

/-- What stands before the content of a node. -/
structure Properties where
  anchor : Option String := none
  tag : Option (Option String × String) := none
  deriving Repr

/-- Reads an anchor and a tag, in either order. -/
def properties (r : Reader) : Properties × Reader :=
  match r.tokens with
  | .anchor a :: .tag handle suffix :: rest =>
    (⟨some a, some (handle, suffix)⟩, { r with tokens := rest })
  | .tag handle suffix :: .anchor a :: rest =>
    (⟨some a, some (handle, suffix)⟩, { r with tokens := rest })
  | .anchor a :: rest => (⟨some a, none⟩, { r with tokens := rest })
  | .tag handle suffix :: rest => (⟨none, some (handle, suffix)⟩, { r with tokens := rest })
  | _ => ({}, r)

/-- The full name of a tag. -/
def tagName (r : Reader) : Option (Option String × String) → Except Fault (Option String)
  | none => .ok none
  | some (none, suffix) => .ok (some suffix)
  | some (some handle, suffix) =>
    match r.handles.lookup handle with
    | none => .error .malformed
    | some stem => .ok (some (stem ++ suffix))

/-- The tag of a collection. -/
def collectionTag (usual : Tag) : Option String → Tag
  | none => usual
  | some name => if name = "!" then usual else .ofName name

/-- The tag of a scalar. Only a plain scalar without a tag, and any scalar with the tag `!`, is
told by its text. -/
def scalarTag (plain : Bool) (text : List Char) : Option String → Tag
  | none => if plain then plainTag text else .text
  | some name => if name = "!" then plainTag text else .ofName name

/-- Whether the next token ends a place where a node may be missing. -/
def isAt (r : Reader) (ends : List Token) : Bool := ends.contains r.peek

mutual

/-- Reads a node. `block` allows block collections, and `indentless` a sequence whose dashes are
indented no further than the key before it. Every call reads tokens on, which `fuel` counts. -/
def node (block indentless : Bool) (r : Reader) : Nat → Except Fault (Node × Reader)
  | 0 => .error .malformed
  | fuel + 1 =>
    match r.peek with
    | .alias name => (r.lookUp name).map (·, r.drop)
    | _ => do
      let (props, r) := r.properties
      let tag ← r.tagName props.tag
      if (props.anchor.bind (List.lookup · r.anchors)).isSome then throw .malformed
      let finish (result : Node × Reader) : Except Fault (Node × Reader) :=
        .ok (result.1, result.2.name props.anchor (.finished result.1))
      let sequenceTag := collectionTag .sequence tag
      let mappingTag := collectionTag .mapping tag
      let inSequence := r.name props.anchor (.unfinished false)
      let inMapping := r.name props.anchor (.unfinished true)
      match r.peek with
      | .blockEntry =>
        if indentless then
          let (items, r) ← indentlessItems inSequence fuel
          finish (.sequence sequenceTag items, r)
        else if props.anchor.isSome || tag.isSome then
          finish (.scalar (scalarTag true [] tag) [], r)
        else throw .malformed
      | .scalar text plain => finish (.scalar (scalarTag plain text tag) text, r.drop)
      | .flowSequenceStart =>
        let (items, r) ← flowItems true inSequence.drop fuel
        finish (.sequence sequenceTag items, r)
      | .flowMappingStart =>
        let (items, r) ← flowPairs true inMapping.drop fuel
        finish (.mapping mappingTag items, r)
      | other =>
        if block && other == .blockSequenceStart then
          let (items, r) ← blockItems inSequence.drop fuel
          finish (.sequence sequenceTag items, r)
        else if block && other == .blockMappingStart then
          let (items, r) ← blockPairs inMapping.drop fuel
          finish (.mapping mappingTag items, r)
        else if props.anchor.isSome || tag.isSome then
          finish (.scalar (scalarTag true [] tag) [], r)
        else throw r.fault

/-- Reads a node, or none if one of the given tokens is next. -/
def nodeUnless (ends : List Token) (block indentless : Bool) (r : Reader) :
    Nat → Except Fault (Node × Reader)
  | 0 => .error .malformed
  | fuel + 1 => if r.isAt ends then .ok (.empty, r) else node block indentless r fuel

/-- The items of a block sequence. -/
def blockItems (r : Reader) : Nat → Except Fault (List Node × Reader)
  | 0 => .error .malformed
  | fuel + 1 =>
    match r.peek with
    | .blockEntry => do
      let (item, r) ← nodeUnless [.blockEntry, .blockEnd] true false r.drop fuel
      let (items, r) ← blockItems r fuel
      return (item :: items, r)
    | .blockEnd => .ok ([], r.drop)
    | _ => .error r.fault

/-- The items of a sequence without indentation of its own. -/
def indentlessItems (r : Reader) : Nat → Except Fault (List Node × Reader)
  | 0 => .error .malformed
  | fuel + 1 =>
    match r.peek with
    | .blockEntry => do
      let (item, r) ← nodeUnless [.blockEntry, .key, .value, .blockEnd] true false r.drop fuel
      let (items, r) ← indentlessItems r fuel
      return (item :: items, r)
    | _ => .ok ([], r)

/-- A value after its colon, or none. -/
def valueUnless (ends : List Token) (block : Bool) (r : Reader) :
    Nat → Except Fault (Node × Reader)
  | 0 => .error .malformed
  | fuel + 1 =>
    if r.peek == .value then nodeUnless ends block block r.drop fuel else .ok (.empty, r)

/-- The items of a block mapping. -/
def blockPairs (r : Reader) : Nat → Except Fault (List (Node × Node) × Reader)
  | 0 => .error .malformed
  | fuel + 1 =>
    match r.peek with
    | .key => do
      let ends := [.key, .value, .blockEnd]
      let (key, r) ← nodeUnless ends true true r.drop fuel
      let (value, r) ← valueUnless ends true r fuel
      let (items, r) ← blockPairs r fuel
      return ((key, value) :: items, r)
    | .blockEnd => .ok ([], r.drop)
    | _ => .error r.fault

/-- The items of a flow sequence; a key without braces around it is a mapping of one item. -/
def flowItems (first : Bool) (r : Reader) : Nat → Except Fault (List Node × Reader)
  | 0 => .error .malformed
  | fuel + 1 =>
    if r.peek == .flowSequenceEnd then .ok ([], r.drop)
    else if !first && r.peek != .flowEntry then .error r.fault
    else
      let r := if first then r else r.drop
      match r.peek with
      | .flowSequenceEnd => .ok ([], r.drop)
      | .key => do
        let ends := [.flowEntry, .flowSequenceEnd]
        let (key, r) ← nodeUnless (.value :: ends) false false r.drop fuel
        let (value, r) ← valueUnless ends false r fuel
        let (items, r) ← flowItems false r fuel
        return (.mapping .mapping [(key, value)] :: items, r)
      | _ => do
        let (item, r) ← node false false r fuel
        let (items, r) ← flowItems false r fuel
        return (item :: items, r)

/-- The items of a flow mapping; a node without a colon after it is a key without a value. -/
def flowPairs (first : Bool) (r : Reader) : Nat → Except Fault (List (Node × Node) × Reader)
  | 0 => .error .malformed
  | fuel + 1 =>
    if r.peek == .flowMappingEnd then .ok ([], r.drop)
    else if !first && r.peek != .flowEntry then .error r.fault
    else
      let r := if first then r else r.drop
      match r.peek with
      | .flowMappingEnd => .ok ([], r.drop)
      | .key => do
        let ends := [.flowEntry, .flowMappingEnd]
        let (key, r) ← nodeUnless (.value :: ends) false false r.drop fuel
        let (value, r) ← valueUnless ends false r fuel
        let (items, r) ← flowPairs false r fuel
        return ((key, value) :: items, r)
      | _ => do
        let (key, r) ← node false false r fuel
        let (items, r) ← flowPairs false r fuel
        return ((key, .empty) :: items, r)

end

/-- The handles of tags that are always known. -/
def usualHandles : List (String × String) := [("!", "!"), ("!!", standardStem)]

/-- Reads the directives before a document. A version may be given once and has to be one of the
first edition; a handle may be given once. -/
def directives (versions : Nat) (given : List (String × String)) :
    List Token → Except Fault (List (String × String) × List Token)
  | .directive d :: rest =>
    match d with
    | .version major =>
      if versions ≠ 0 ∨ major ≠ 1 then .error .malformed
      else directives (versions + 1) given rest
    | .tagHandle handle stem =>
      if (given.lookup handle).isSome then .error .malformed
      else directives versions ((handle, stem) :: given) rest
    | .unknown => directives versions given rest
  | tokens => .ok (given ++ usualHandles, tokens)

/-- Whether a token ends a document that has begun. -/
def endsDocument : Token → Bool
  | .directive _ | .documentStart | .documentEnd | .streamEnd => true
  | _ => false

/-- After a document nothing may follow but its end marks. -/
def atEnd (r : Reader) : Except Fault Unit :=
  match (r.tokens.dropWhile (· == .documentEnd)).headD .streamEnd with
  | .streamEnd => .ok ()
  | .fault f => .error f
  | _ => .error .malformed

end Reader

/-- The node of the one document that the tokens describe, if there is a document at all. -/
def Node.ofTokens? (tokens : List Token) : Except Fault (Option Node) := do
  let fuel := 4 * tokens.length + 8
  match tokens.headD .streamEnd with
  | .streamEnd => return none
  | .directive _ | .documentStart =>
    let (handles, rest) ← Reader.directives 0 [] tokens
    let r : Reader := { tokens := rest, handles := handles }
    if r.peek ≠ .documentStart then throw r.fault
    let r := r.drop
    if Reader.endsDocument r.peek then
      r.atEnd
      return some .empty
    let (node, r) ← Reader.node true false r fuel
    r.atEnd
    return some node
  | _ =>
    let (node, r) ← Reader.node true false { tokens, handles := Reader.usualHandles } fuel
    r.atEnd
    return some node

end Provenance.Yaml
