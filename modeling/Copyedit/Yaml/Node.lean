import Copyedit.Sequence
import Copyedit.Yaml.Kind
import Copyedit.Yaml.Lexer

/-!
# The nodes of a document

The tokens of a document make scalars, lists and mappings, each of a kind. They are numbered, so that a node
can be part of several others, and even of itself: a name stands for the number of the node that was given
it. There is one document in a text, or none.
-/

namespace Copyedit.Yaml

/-- A node, whose parts are given by their numbers. -/
inductive Node where
  /-- A scalar. -/
  | scalar (kind : Kind) (text : Text)
  /-- A list. -/
  | list (kind : Kind) (items : List Nat)
  /-- A mapping. -/
  | map (kind : Kind) (entries : List (Nat × Nat))

/-- The kind of a node. -/
def Node.kind : Node → Kind
  | .scalar k _ | .list k _ | .map k _ => k

/-- The node of another kind. -/
def Node.withKind (k : Kind) : Node → Node
  | .scalar _ t => .scalar k t
  | .list _ items => .list k items
  | .map _ entries => .map k entries

/-- The nodes of a document, and which of them holds the others. -/
structure Document where
  /-- The number of the outermost node. -/
  root : Nat
  /-- The nodes by number. -/
  nodes : Array Node

/-- The state of reading nodes. -/
structure Composer where
  /-- The text, as far as it is left, and its tokens. -/
  lexer : Lexer
  /-- What handles of tags stand for. -/
  handles : List (Text × Text)
  /-- The numbers of the nodes that have names. -/
  named : List (Text × Nat) := []
  /-- The nodes that have been begun. -/
  nodes : Array Node := #[]
  /-- The number of lists and mappings around what is being read. -/
  depth : Nat := 0

/-- Reads nodes. -/
abbrev Compose := StateT Composer (Except Fault)

namespace Compose

/-- Gives up. -/
def fail {α : Type} : Compose α := throw .malformed

/-- The next token. -/
def peek : Compose Token := do
  let (t, lexer) ← (← get).lexer.peek
  modify fun s => { s with lexer }
  return t

/-- Goes past a token. -/
def skip : Compose Unit := modify fun s => { s with lexer := s.lexer.take }

/-- Begins a node. -/
def begin_ (n : Node) : Compose Nat :=
  modifyGet fun s => (s.nodes.size, { s with nodes := s.nodes.push n })

/-- Completes a node that was begun. -/
def complete (id : Nat) (n : Node) : Compose Unit :=
  modify fun s => { s with nodes := s.nodes.setIfInBounds id n }

/-- The most lists and mappings that may be inside of each other. -/
def depthLimit : Nat := 488

/-- Reads what stands inside a list or mapping. -/
def inside {α : Type} (inner : Compose α) : Compose α := do
  if depthLimit ≤ (← get).depth then throw (.failed .tooDeep)
  modify fun s => { s with depth := s.depth + 1 }
  let x ← inner
  modify fun s => { s with depth := s.depth - 1 }
  return x

/-- The handles that are always there. -/
def standardHandles : List (Text × Text) := [(['!'], ['!']), (['!', '!'], Kind.tagStart)]

/-- A node for what is left out. -/
def nothing : Compose Nat := begin_ (.scalar .null [])

/-! ### Names and tags of nodes -/

/-- The tag that a handle and a suffix make. -/
def fullTag (handle : Option Text) (suffix : Text) : Compose Text := do
  match handle with
  | none => return suffix
  | some h => match (← get).handles.lookup h with
    | some start => return start ++ suffix
    | none => fail

/-- The name and the tag before a node, in either order. -/
def properties : Compose (Option Text × Option Text) := do
  let tagHere : Compose (Option (Option Text × Text)) := do
    match ← peek with
    | .tag h s =>
      skip
      return some (h, s)
    | _ => return none
  let nameHere : Compose (Option Text) := do
    match ← peek with
    | .anchor n =>
      skip
      return some n
    | _ => return none
  let (name, tag) ← match ← nameHere with
    | some n => pure (some n, ← tagHere)
    | none =>
      match ← tagHere with
      | some t => pure (← nameHere, some t)
      | none => pure (none, none)
  return (name, ← tag.mapM fun (h, s) => fullTag h s)

/-- Checks that a name is new. -/
def requireNew (name : Option Text) : Compose Unit := do
  match name with
  | some n => if ((← get).named.lookup n).isSome then fail else return
  | none => return

/-- Begins a node with a name, if it has one. -/
def beginNamed (name : Option Text) (node : Node) : Compose Nat := do
  requireNew name
  let id ← begin_ node
  match name with
  | some n => modify fun s => { s with named := (n, id) :: s.named }
  | none => pure ()
  return id

/-- The kind of a scalar with a tag, plainly written or not. -/
def scalarKind (tag : Option Text) (plain : Bool) (t : Text) : Kind :=
  match tag with
  | none => if plain then Kind.ofPlain t else .text
  | some tag => if tag = ['!'] then Kind.ofPlain t else Kind.ofTag tag

/-- The kind of a list or mapping with a tag. -/
def collectionKind (tag : Option Text) (usual : Kind) : Kind :=
  match tag with
  | none => usual
  | some tag => if tag = ['!'] then usual else Kind.ofTag tag

/-! ### Nodes -/

/-- Whether the next token is one at which a node may be left out. -/
def nextIs (p : Token → Bool) : Compose Bool := do return p (← peek)

/-- Ends a part of a node that starts with a block. -/
def isBlockEntry : Token → Bool
  | .blockEntry => true
  | _ => false

/-- The end of a block. -/
def isBlockEnd : Token → Bool
  | .blockEnd => true
  | _ => false

/-- The mark of a key or of a value. -/
def isKeyOrValue : Token → Bool
  | .key | .value => true
  | _ => false

/-- The mark of a value. -/
def isValue : Token → Bool
  | .value => true
  | _ => false

/-- A comma or the end of a list in brackets. -/
def endsFlowItem : Token → Bool
  | .flowEntry | .flowSequenceEnd => true
  | _ => false

/-- A comma or the end of a mapping in braces. -/
def endsFlowPair : Token → Bool
  | .flowEntry | .flowMappingEnd => true
  | _ => false

mutual

/-- A node. Blocks may be read if `block`, and items of a list without a block of their own if
`indentless`. -/
def node (block indentless : Bool) : Nat → Compose Nat
  | 0 => fail
  | left + 1 => do
    match ← peek with
    | .alias_ n =>
      skip
      match (← get).named.lookup n with
      | some node => return node
      | none => fail
    | _ =>
      let (name, tag) ← properties
      let token ← peek
      match token with
      | .scalar t plain =>
        skip
        beginNamed name (.scalar (scalarKind tag plain t) t)
      | .flowSequenceStart =>
        skip
        sequence name tag (flowItems true left)
      | .flowMappingStart =>
        skip
        mapping name tag (flowPairs true left)
      | _ =>
        if indentless && isBlockEntry token then
          sequence name tag (indentlessItems left)
        else match token, block with
          | .blockSequenceStart, true =>
            skip
            sequence name tag (blockItems left)
          | .blockMappingStart, true =>
            skip
            mapping name tag (blockPairs left)
          | _, _ =>
            if name.isNone && tag.isNone then fail
            else beginNamed name (.scalar (scalarKind tag true []) [])

/-- A list with its name, its tag and its items. -/
def sequence (name tag : Option Text) (items : Compose (List Nat)) : Compose Nat := do
  let kind := collectionKind tag .list
  let id ← beginNamed name (.list kind [])
  complete id (.list kind (← inside items))
  return id

/-- A mapping with its name, its tag and its entries. -/
def mapping (name tag : Option Text) (entries : Compose (List (Nat × Nat))) : Compose Nat := do
  let kind := collectionKind tag .map
  let id ← beginNamed name (.map kind [])
  complete id (.map kind (← inside entries))
  return id

/-- A node, or nothing if the next token is one at which it is left out. -/
def nodeUnless (p : Token → Bool) (block indentless : Bool) : Nat → Compose Nat
  | 0 => fail
  | left + 1 => do if ← nextIs p then nothing else node block indentless left

/-- The items of a list in a block, and the end of the block. -/
def blockItems : Nat → Compose (List Nat)
  | 0 => fail
  | left + 1 => do
    match ← peek with
    | .blockEntry =>
      skip
      let item ← nodeUnless (fun t => isBlockEntry t || isBlockEnd t) true false left
      return item :: (← blockItems left)
    | .blockEnd =>
      skip
      return []
    | _ => fail

/-- The items of a list without a block of its own. -/
def indentlessItems : Nat → Compose (List Nat)
  | 0 => fail
  | left + 1 => do
    match ← peek with
    | .blockEntry =>
      skip
      let item ← nodeUnless (fun t => isBlockEntry t || isBlockEnd t || isKeyOrValue t) true false left
      return item :: (← indentlessItems left)
    | _ => return []

/-- The value after a key, if there is one; `p` tells the tokens at which it is left out. -/
def valuePart (p : Token → Bool) (block : Bool) : Nat → Compose Nat
  | 0 => fail
  | left + 1 => do
    if ← nextIs isValue then
      skip
      nodeUnless p block block left
    else nothing

/-- The entries of a mapping in a block, and the end of the block. -/
def blockPairs : Nat → Compose (List (Nat × Nat))
  | 0 => fail
  | left + 1 => do
    match ← peek with
    | .key =>
      skip
      let key ← nodeUnless (fun t => isKeyOrValue t || isBlockEnd t) true true left
      let value ← valuePart (fun t => isKeyOrValue t || isBlockEnd t) true left
      return (key, value) :: (← blockPairs left)
    | .blockEnd =>
      skip
      return []
    | _ => fail

/-- The items of a list in brackets, and the closing bracket. A key makes a mapping of one entry. -/
def flowItems (first : Bool) : Nat → Compose (List Nat)
  | 0 => fail
  | left + 1 => do
    match ← peek with
    | .flowSequenceEnd =>
      skip
      return []
    | token =>
      if !first then
        match token with
        | .flowEntry => skip
        | _ => fail
      match ← peek with
      | .flowSequenceEnd =>
        skip
        return []
      | .key =>
        skip
        let pair ← begin_ (.map .map [])
        let key ← inside (nodeUnless (fun t => isValue t || endsFlowItem t) false false left)
        let value ← inside (valuePart endsFlowItem false left)
        complete pair (.map .map [(key, value)])
        return pair :: (← flowItems false left)
      | _ =>
        let item ← node false false left
        return item :: (← flowItems false left)

/-- The entries of a mapping in braces, and the closing brace. -/
def flowPairs (first : Bool) : Nat → Compose (List (Nat × Nat))
  | 0 => fail
  | left + 1 => do
    match ← peek with
    | .flowMappingEnd =>
      skip
      return []
    | token =>
      if !first then
        match token with
        | .flowEntry => skip
        | _ => fail
      match ← peek with
      | .flowMappingEnd =>
        skip
        return []
      | .key =>
        skip
        let key ← nodeUnless (fun t => isValue t || endsFlowPair t) false false left
        let value ← valuePart endsFlowPair false left
        return (key, value) :: (← flowPairs false left)
      | _ =>
        let key ← node false false left
        let value ← nothing
        return (key, value) :: (← flowPairs false left)

end

/-! ### Documents -/

/-- The directives before a document: handles, each given once, and at most one version, which is 1. -/
def directives (versioned : Bool) (handles : List (Text × Text)) : Nat → Compose Unit
  | 0 => fail
  | left + 1 => do
    match ← peek with
    | .directive d =>
      skip
      match d with
      | .version major =>
        if versioned || major ≠ 1 then fail else directives true handles left
      | .handle name start =>
        if (handles.lookup name).isSome then fail
        else directives versioned ((name, start) :: handles) left
      | .other => directives versioned handles left
    | _ => modify fun s => { s with handles := handles ++ standardHandles }

/-- Marks of the end of a document. -/
def documentEnds : Nat → Compose Unit
  | 0 => fail
  | left + 1 => do
    match ← peek with
    | .documentEnd =>
      skip
      documentEnds left
    | _ => return

/-- The end of the text after marks of the end of a document. What is there instead is read as the start of
another document before it is refused. -/
def finish (fuel : Nat) : Compose Unit := do
  documentEnds fuel
  match ← peek with
  | .finish => return
  | _ =>
    directives false [] fuel
    fail

/-- The only document of a text, by its outermost node. -/
def document (fuel : Nat) : Compose (Option Nat) := do
  match ← peek with
  | .finish => return none
  | .directive _ | .documentStart =>
    directives false [] fuel
    match ← peek with
    | .documentStart => skip
    | _ => fail
    let root ← nodeUnless (fun
      | .directive _ | .documentStart | .documentEnd | .finish => true
      | _ => false) true false fuel
    finish fuel
    return some root
  | _ =>
    let root ← node true false fuel
    finish fuel
    return some root

end Compose

/-- The document in a text, or none if there is no document. -/
def Document.ofText? (t : Text) : Except Fault (Option Document) := do
  let lexer ← Lexer.ofText t
  let (root, s) ← (Compose.document (16 * t.length + 16)).run
    { lexer, handles := Compose.standardHandles }
  return root.map fun root => { root, nodes := s.nodes }

end Copyedit.Yaml
