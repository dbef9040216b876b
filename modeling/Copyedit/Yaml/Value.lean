import Copyedit.Yaml.Node
import Copyedit.Yaml.ScalarValue

/-!
# Values of documents

Each node of a document becomes one value. A scalar is made when something needs it. A list or a mapping is
there, still empty, as soon as something needs it, and is filled when its turn comes: the first one that was
needed is filled first. So a node can be inside of itself, and of several things that are wrong in a document
the one that counts is the first one in this order. The value of a document is a tree, in which what is inside
of itself is unrolled as deep as anyone looks.

Before a mapping is filled, the mappings under its merge keys are taken in. Their entries come before its
own, so that its own win. A key that comes twice keeps its first place and takes its last value; lists and
mappings are no keys.
-/

namespace Copyedit.Yaml

/-- What a node has become. Parts that may be inside of themselves are given by their numbers. -/
inductive Made where
  /-- A scalar. -/
  | scalar (v : Value)
  /-- A list. -/
  | list (items : List Nat)
  /-- A list of pairs. -/
  | pairs (entries : List (Nat × Nat))
  /-- A mapping. -/
  | map (entries : List (Value × Nat))
  /-- A set. -/
  | set (items : List Value)

/-- The list or mapping without content that a node of a kind is at first. -/
def Made.empty? : Kind → Option Made
  | .list => some (.list [])
  | .omap | .pairs => some (.pairs [])
  | .map => some (.map [])
  | .set => some (.set [])
  | _ => none

/-- The state of making values. -/
structure Builder where
  /-- The nodes, in which merging is carried out. -/
  nodes : Array Node
  /-- What has been made, by the numbers of the nodes. -/
  made : List (Nat × Made) := []
  /-- What is to be filled, the next one first. -/
  waiting : List Nat := []

/-- Makes values. -/
abbrev Build := StateT Builder (Except Fault)

namespace Build

/-- Gives up. -/
def fail {α : Type} : Build α := throw .malformed

/-- The node with a number. -/
def nodeAt (id : Nat) : Build Node := do
  match (← get).nodes[id]? with
  | some n => return n
  | none => fail

/-- The kind of the node with a number. -/
def kindAt (id : Nat) : Build Kind := return (← nodeAt id).kind

/-- Changes the node with a number. -/
def setNode (id : Nat) (n : Node) : Build Unit :=
  modify fun s => { s with nodes := s.nodes.setIfInBounds id n }

/-- Remembers what a node has become. -/
def setMade (id : Nat) (m : Made) : Build Unit := modify fun s => { s with made := (id, m) :: s.made }

/-! ### Merging -/

/-- The entries of a mapping. -/
def entriesAt (id : Nat) : Build (List (Nat × Nat)) := do
  match ← nodeAt id with
  | .map _ entries => return entries
  | _ => fail

/-- Replaces the entries of a mapping. -/
def setEntries (id : Nat) (entries : List (Nat × Nat)) : Build Unit := do
  setNode id (.map (← kindAt id) entries)

/-- Takes the first merge key out of a mapping; gives what stands under it. -/
def takeMerge (id : Nat) : Build (Option Nat) := do
  let entries ← entriesAt id
  let kinds ← entries.mapM fun e => kindAt e.1
  match (entries.zip kinds).span (·.2 ≠ .merge) with
  | (before, (e, _) :: after) =>
    setEntries id ((before ++ after).map (·.1))
    return some e.2
  | _ => return none

/-- Makes the keys of a mapping that could tell its value plain texts. -/
def plainKeys (id : Nat) : Build Unit := do
  for (key, _) in ← entriesAt id do
    let n ← nodeAt key
    if n.kind = .default then setNode key (n.withKind .text)

mutual

/-- Carries out the merge keys of a mapping; gives the entries that it has then. -/
def merged : Nat → Nat → Build (List (Nat × Nat))
  | 0, _ => fail
  | left + 1, id => do
    let added ← takenIn left id
    plainKeys id
    let entries := added ++ (← entriesAt id)
    setEntries id entries
    return entries

/-- Takes the merge keys out of a mapping; gives the entries that come in for them. Of a list of mappings
the last one comes first. -/
def takenIn : Nat → Nat → Build (List (Nat × Nat))
  | 0, _ => fail
  | left + 1, id => do
    match ← takeMerge id with
    | none => return []
    | some source =>
      let entries ← match ← nodeAt source with
        | .list _ items => do
          let parts ← items.mapM fun item => merged left item
          pure parts.reverse.flatten
        | _ => merged left source
      return entries ++ (← takenIn left id)

end

/-! ### Scalars -/

/-- The text that a node stands for where a scalar is needed; a mapping may tell it under a key. -/
def textAt : Nat → Nat → Build Text
  | 0, _ => throw (.failed .tooDeep)
  | left + 1, id => do
    match ← nodeAt id with
    | .scalar _ t => return t
    | .list .. => fail
    | .map _ entries =>
      match ← entries.findM? fun e => return (← kindAt e.1) = .default with
      | some e => textAt left e.2
      | none => fail

/-- The value of a node of a kind of scalars. -/
def scalar (id : Nat) (k : Kind) : Build Value := do
  if [Kind.merge, .default, .unknown].contains k then fail
  let t ← textAt (← get).nodes.size id
  match k, ← nodeAt id with
  | .timestamp, .map .. => throw (.failed (.kind (.notText "list")))
  | _, _ => scalarValue k t

/-! ### Lists and mappings -/

/-- Makes a node unless it has been made; gives its value if it is a scalar. -/
def make (id : Nat) : Build (Option Value) := do
  match (← get).made.lookup id with
  | some (.scalar v) => return some v
  | some _ => return none
  | none =>
    let k ← kindAt id
    match Made.empty? k with
    | some m =>
      setMade id m
      modify fun s => { s with waiting := s.waiting ++ [id] }
      return none
    | none =>
      let v ← scalar id k
      setMade id (.scalar v)
      return some v

/-- The items of a list, made. -/
def items (n : Node) : Build (List Nat) := do
  match n with
  | .list _ items =>
    for item in items do
      let _ ← make item
    return items
  | _ => fail

/-- The entries of a list of mappings that have one entry each, made. -/
def pairs (n : Node) : Build (List (Nat × Nat)) := do
  match n with
  | .list _ items => items.mapM fun item => do
    match ← entriesAt item with
    | [(key, value)] =>
      let _ ← make key
      let _ ← make value
      return (key, value)
    | _ => fail
  | _ => fail

/-- Puts entries, made, one after another. -/
def putAll (entries : List (Value × Nat)) : List (Nat × Nat) → Build (List (Value × Nat))
  | [] => return entries
  | (key, value) :: rest => do
    match ← make key with
    | some k =>
      let _ ← make value
      putAll (Value.put entries k value) rest
    | none => fail

/-- The entries of a mapping, merged and made. -/
def entries (id : Nat) : Build (List (Value × Nat)) := do
  let size := ((← get).nodes.toList.map fun
    | .map _ entries => entries.length
    | _ => 0).foldr (· + ·) 0
  putAll [] (← merged (2 * size + 4) id)

/-- Fills the list or mapping that a node has become. -/
def fill (id : Nat) : Build Unit := do
  let n ← nodeAt id
  match n.kind with
  | .list => setMade id (.list (← items n))
  | .omap | .pairs => setMade id (.pairs (← pairs n))
  | .map => setMade id (.map (← entries id))
  | .set => setMade id (.set ((← entries id).map (·.1)))
  | _ => fail

/-- Fills all that waits, the first one first. -/
def fillAll : Nat → Build Unit
  | 0 => return
  | left + 1 => do
    match (← get).waiting with
    | [] => return
    | id :: rest =>
      modify fun s => { s with waiting := rest }
      fill id
      fillAll left

/-- Makes a node and all that is in it. -/
def makeAll (root : Nat) : Build Unit := do
  let _ ← make root
  fillAll (← get).nodes.size

end Build

/-! ### The value of a document -/

/-- The depth from which on nothing is unrolled: definitions are not nested as deep. -/
def unrollDepth : Nat := 8

/-- The value of a node, and which of the nodes that it is inside of, `path`, are inside of it. What stands in
several places is read off once if nothing in it is inside of itself. -/
def valueAt (made : List (Nat × Made)) :
    Nat → List Nat → Nat → StateM (List (Nat × Value)) (Value × List Nat)
  | 0, _, _ => return (.null, [])
  | left + 1, path, id => do
    if let some v := (← get).lookup id then return (v, [])
    let again := path.contains id
    let isCut := again && unrollDepth ≤ path.length
    let part := valueAt made left (id :: path)
    let (v, inside) ← match made.lookup id with
      | none => return (.null, [])
      | some (.scalar v) => return (v, [])
      | some (.set items) => return (.set items, [])
      | some (.list items) => do
        let parts ← (if isCut then [] else items).mapM part
        pure (.list (parts.map (·.1)), parts.flatMap (·.2))
      | some (.pairs entries) => do
        let parts ← (if isCut then [] else entries).mapM fun e => return (← part e.1, ← part e.2)
        pure (.list (parts.map fun (k, v) => .pair k.1 v.1), parts.flatMap fun (k, v) => k.2 ++ v.2)
      | some (.map entries) => do
        let parts ← (if isCut then [] else entries).mapM fun e => return (e.1, ← part e.2)
        pure (.map (parts.map fun (k, v) => (k, v.1)), parts.flatMap fun (_, v) => v.2)
    if again || !inside.isEmpty then
      return (.loop id v, if again then id :: inside else inside.filter (· ≠ id))
    else
      modify ((id, v) :: ·)
      return (v, [])

/-- The value of a document. -/
def Document.value (d : Document) : Except Fault Value := do
  let (_, s) ← (Build.makeAll d.root).run { nodes := d.nodes }
  let ((v, _), _) := (valueAt s.made (d.nodes.size + unrollDepth + 1) [] d.root).run []
  return v

/-- The value of the document in a text; nothing if there is no document. -/
def valueOfText (t : Text) : Except Fault Value := do
  match ← Document.ofText? t with
  | none => return .null
  | some d => d.value

end Copyedit.Yaml
