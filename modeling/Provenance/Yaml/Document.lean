import Provenance.Yaml.Node
import Provenance.Yaml.Scalar
import Provenance.Yaml.Scanner

/-!
The value of a YAML document. Mappings take in what they merge, and then nodes become values level
by level, so of several faults the one nearest to the top of the document is told, and of those on
one level the first.
-/
namespace Provenance.Yaml

/-- A node that cannot be merged into a mapping. -/
def Node.unmergeable : Node := .scalar (.other "") []

/-- The items that a merge of one node adds, with its own merges done. -/
def mergeItems : Node → Option (List (Node × Node))
  | .mapping _ items => some items
  | .sequence _ nodes =>
    (nodes.reverse.mapM fun
      | Node.mapping _ items => some items
      | _ => none).map List.flatten
  | .enclosing true => some []
  | _ => none

/-- The tag of a key. -/
def keyTag : Node → Option Tag
  | .scalar tag _ => some tag
  | .sequence tag _ | .mapping tag _ => some tag
  | .enclosing _ => none

/-- Whether the key of an item asks for a merge. -/
def isMerge (item : Node × Node) : Bool := keyTag item.1 == some .merge

/-- The items of a mapping with its merges done: what is merged comes first, so that the items of
the mapping itself prevail. A merge that is impossible leaves a key that has no value. -/
def withMerges (items : List (Node × Node)) : List (Node × Node) :=
  match (items.filter isMerge).mapM fun item => mergeItems item.2 with
  | none => [(.unmergeable, .empty)]
  | some merged => merged.flatten ++ items.filter (!isMerge ·)

mutual

/-- The node with all merges done. -/
def merged : Node → Node
  | .scalar tag s => .scalar tag s
  | .sequence tag items => .sequence tag (mergedAll items)
  | .mapping tag items => .mapping tag (withMerges (mergedItems items))
  | .enclosing isMapping => .enclosing isMapping

/-- Nodes with all merges done. -/
def mergedAll : List Node → List Node
  | [] => []
  | item :: items => merged item :: mergedAll items

/-- Keys and values with all merges done. -/
def mergedItems : List (Node × Node) → List (Node × Node)
  | [] => []
  | (key, value) :: items => (merged key, merged value) :: mergedItems items

end

/-- A result, or a fault with the level it is found on. -/
abbrev Built (α : Type) := Except (Nat × Fault) α

/-- All results, or the fault on the least level, the first of them if there are several. -/
def allBuilt {α : Type} : List (Built α) → Built (List α)
  | [] => .ok []
  | result :: results =>
    match result, allBuilt results with
    | .ok a, .ok as => .ok (a :: as)
    | .ok _, .error e => .error e
    | .error e, .ok _ => .error e
    | .error e, .error f => .error (if f.1 < e.1 then f else e)

/-- Both results, or the fault that is found first. -/
def bothBuilt {α β : Type} (first : Built α) (second : Built β) : Built (α × β) :=
  match first, second with
  | .ok a, .ok b => .ok (a, b)
  | .ok _, .error e => .error e
  | .error e, .ok _ => .error e
  | .error e, .error f => .error (if f.1 < e.1 then f else e)

/-- Whether the value of a tag can be told apart from others as a key. -/
def isKeyTag : Tag → Bool
  | .sequence | .mapping | .orderedMap | .pairs | .set => false
  | _ => true

/-- Whether a node can be a key. -/
def canBeKey : Node → Bool
  | .scalar tag _ | .sequence tag _ | .mapping tag _ => isKeyTag tag
  | .enclosing _ => false

/-- The text that a node stands for where a scalar is wanted: its own, or that of the value that
stands in for a mapping. -/
def standInText : Node → Option (List Char)
  | .scalar _ s => some s
  | .mapping _ items => look items
  | _ => none
where
  /-- The text of the first value that stands in. -/
  look : List (Node × Node) → Option (List Char)
    | [] => none
    | (key, value) :: items => if keyTag key = some .standIn then standInText value else look items

/-- The value by which keys are compared: switches and whole numbers with a point count as whole
numbers. -/
def keyForm : Value → Value
  | .bool b => .int (if b then 1 else 0)
  | .float digits =>
    match Text.fieldsOf '.' digits with
    | [whole, "0"] =>
      match Text.readNumber whole.toList with
      | .value n => .int n
      | _ => .float digits
    | _ => .float digits
  | value => value

/-- The items with the value of one key set. A key that is there already keeps its place. -/
def setItem (items : List (Value × Value)) (item : Value × Value) : List (Value × Value) :=
  match items with
  | [] => [item]
  | (key, value) :: rest =>
    if keyForm key == keyForm item.1 then (key, item.2) :: rest
    else (key, value) :: setItem rest item

mutual

/-- The value of a node on a level. The parts of a collection are on the next level. -/
def build (level : Nat) : Node → Built Value
  | .enclosing isMapping => .ok (.enclosing isMapping)
  | .scalar tag s =>
    if isKeyTag tag then (scalarValue tag s).mapError (level, ·)
    else .error (level + 1, .malformed)
  | .sequence tag items =>
    match tag with
    | .sequence => (allBuilt (buildAll (level + 1) items)).map .list
    | .orderedMap | .pairs =>
      (allBuilt (buildSingles (level + 1) items)).map fun items =>
        .list (items.map fun (key, value) => .tuple [key, value])
    | .mapping | .set => .error (level + 1, .malformed)
    | _ => .error (level, .malformed)
  | .mapping tag items =>
    match tag with
    | .mapping =>
      (allBuilt (buildItems (level + 1) items)).map fun items => .map (items.foldl setItem [])
    | .set =>
      (allBuilt (buildItems (level + 1) items)).map fun items =>
        .set ((items.foldl setItem []).map (·.1))
    | .sequence | .orderedMap | .pairs => .error (level + 1, .malformed)
    | tag =>
      match standInText (.mapping tag items) with
      | some s => (scalarValue tag s).mapError (level, ·)
      | none => .error (level, .malformed)

/-- The values of nodes. -/
def buildAll (level : Nat) : List Node → List (Built Value)
  | [] => []
  | item :: items => build level item :: buildAll level items

/-- The values of keys and values. -/
def buildItems (level : Nat) : List (Node × Node) → List (Built (Value × Value))
  | [] => []
  | (key, value) :: items =>
    let builtKey :=
      if keyTag key == some .standIn then
        (match key with
        | .scalar _ s => .ok (.text (String.ofList s))
        | _ => .error (level, .malformed))
      else if canBeKey key then build level key
      else .error (level, .malformed)
    bothBuilt builtKey (build level value) :: buildItems level items

/-- The values of mappings of one item each. -/
def buildSingles (level : Nat) : List Node → List (Built (Value × Value))
  | [] => []
  | item :: items =>
    (match item with
    | .mapping _ [(key, value)] => bothBuilt (build level key) (build level value)
    | _ => .error (level, .malformed)) :: buildSingles level items

end

/-- The value of a text; a text without a document has none. -/
def load (s : List Char) : Except Fault Value := do
  match ← Node.ofTokens? (tokensOf s) with
  | none => return .null
  | some node => (build 0 (merged node)).mapError (·.2)

end Provenance.Yaml
