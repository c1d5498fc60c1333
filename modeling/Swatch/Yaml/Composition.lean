import Swatch.Yaml.Node
import Swatch.Yaml.Resolution

/-!
Composing the nodes of a document from its tokens. A text holds at most one document. A token is
looked at only when it is needed, so that a fault behind the tokens shows unless these break the
grammar first, or go too deep. The rounds that bound the recursion are counted down along every
chain of calls. No chain makes more than four calls for a token that it goes past, so four times as
many rounds as there are tokens are never used up.
-/
namespace Swatch.Yaml

/-- What composing works on: the tokens ahead, the nodes so far, those that anchors name, the latest
first, the texts that tag handles stand for, and the number of collections that are not complete. -/
structure Ahead where
  run : TokenRun
  graph : Graph := {}
  anchors : List (Text × NodeId) := []
  handles : List (Text × Text) := []
  depth : Nat := 0

/-- A step of composing. -/
abbrev Compose := StateT Ahead (Except Fault)

/-- The refusal of the tokens ahead. -/
def refuse {α : Type} : Compose α := throw .malformed

/-- The next token; none at the end of the document. -/
def peek : Compose (Option Token) := do
  let run := (← get).run
  match run.tokens, run.fault with
  | token :: _, _ => return some token
  | [], none => return none
  | [], some e => throw e

/-- Goes past the next token. -/
def skip : Compose Unit :=
  modify fun s => { s with run := { s.run with tokens := s.run.tokens.drop 1 } }

/-- Whether the next token is one of those given; the end of the tokens is none. -/
def nextIn (tokens : List Token) : Compose Bool := do
  return (← peek).any tokens.contains

/-- Goes past a token that has to come next. -/
def expect (token : Token) : Compose Unit := do
  if ← nextIn [token] then skip else refuse

/-- The full name of a tag. -/
def tagName (handle : Option Text) (suffix : Text) : Compose Text := do
  match handle with
  | none => return suffix
  | some handle =>
    match (← get).handles.lookup handle with
    | some lead => return lead ++ suffix
    | none => refuse

/-- The anchor that stands here, if there is one. -/
def anchor? : Compose (Option Text) := do
  match ← peek with
  | some (.anchor name) => skip; return some name
  | _ => return none

/-- The tag that stands here, if there is one: its handle and its suffix. -/
def tag? : Compose (Option (Option Text × Text)) := do
  match ← peek with
  | some (.tag handle suffix) => skip; return some (handle, suffix)
  | _ => return none

/-- The anchor and the tag in front of a node, in either order. -/
def properties : Compose (Option Text × Option Text) := do
  let before ← anchor?
  let tag ← tag?
  let behind ← if before.isNone && tag.isSome then anchor? else pure none
  let name ← tag.mapM fun (handle, suffix) => tagName handle suffix
  return (before <|> behind, name)

/-- The tag of a collection: the one that is written, or that of its kind. -/
def collectionTag (written : Option Text) (kind : Tag) : Tag :=
  match written with
  | none => kind
  | some ['!'] => kind
  | some name => .ofName name

/-- The tag of a scalar: the one that is written, or the one that a plain text has by its form. -/
def scalarTag (written : Option Text) (text : Text) (plain : Bool) : Tag :=
  match written with
  | none => if plain then .ofPlain text else .text
  | some ['!'] => .ofPlain text
  | some name => .ofName name

/-- Adds a node, and lets a name stand for it if one is given. -/
def addNode (name : Option Text) (n : Node) : Compose NodeId := do
  let s ← get
  let id := s.graph.size
  set { s with
    graph := s.graph.add n
    anchors := name.elim s.anchors fun name => (name, id) :: s.anchors }
  return id

/-- Adds the node that stands where nothing is written. -/
def addEmpty : Compose NodeId := addNode none .empty

/-- The number of collections that may lie in each other. Nothing in the language of documents
bounds it: the bound stands for a call stack that runs out, and was measured for one interpreter
with its usual recursion limit and with few calls below the composer. Another one gives up at
another depth. -/
def greatestDepth : Nat := 487

/-- A collection: a node, which the name stands for while its parts are still composed. -/
def collection (name : Option Text) (n : Node) (parts : Compose Shape) : Compose NodeId := do
  let id ← addNode name n
  let depth := (← get).depth
  if depth ≥ greatestDepth then throw .tooDeep
  modify fun s => { s with depth := depth + 1 }
  let shape ← parts
  modify fun s => { s with depth := depth, graph := s.graph.reshape id shape }
  return id

mutual

/-- A node. Block collections are only looked for where they may stand, and so are sequences that
are indented no further than the mapping they belong to. -/
def node (block level : Bool) : Nat → Compose NodeId
  | 0 => refuse
  | rounds + 1 => do
    if let some (.alias name) ← peek then
      skip
      match (← get).anchors.lookup name with
      | some found => return found
      | none => refuse
    else
      let (name, written) ← properties
      content block level name written rounds

/-- What follows the anchor and the tag of a node. A name stands for a collection from its beginning
on, and may not be given twice. -/
def content (block level : Bool) (name written : Option Text) : Nat → Compose NodeId
  | 0 => refuse
  | rounds + 1 => do
    let next ← peek
    let anchors := (← get).anchors
    if name.any fun name => (anchors.lookup name).isSome then refuse
    let sequence (items : Compose (List NodeId)) : Compose NodeId :=
      collection name ⟨collectionTag written .sequence, .sequence []⟩ (.sequence <$> items)
    let mapping (entries : Compose (List (NodeId × NodeId))) : Compose NodeId :=
      collection name ⟨collectionTag written .mapping, .mapping []⟩ (.mapping <$> entries)
    match next with
    | some (.scalar text plain) =>
      skip
      addNode name ⟨scalarTag written text plain, .scalar text⟩
    | some .sequenceOpen =>
      skip
      sequence (flowItems true rounds)
    | some .mappingOpen =>
      skip
      mapping (flowPairs true rounds)
    | found =>
      if level && found == some .entry then
        sequence (levelItems rounds)
      else if block && found == some .blockSequence then
        skip
        sequence (blockItems rounds)
      else if block && found == some .blockMapping then
        skip
        mapping (blockPairs rounds)
      else if name.isSome || written.isSome then
        addNode name ⟨scalarTag written [] true, .scalar []⟩
      else refuse

/-- A node, or the empty one when one of the given tokens, which end its place, comes next. -/
def nodeUnless (ends : List Token) (block level : Bool) : Nat → Compose NodeId
  | 0 => refuse
  | rounds + 1 => do
    if ← nextIn ends then addEmpty else node block level rounds

/-- The items of a block sequence, to its end. -/
def blockItems : Nat → Compose (List NodeId)
  | 0 => refuse
  | rounds + 1 => do
    if ← nextIn [.entry] then
      skip
      let item ← nodeUnless [.entry, .blockEnd] true false rounds
      return item :: (← blockItems rounds)
    else
      expect .blockEnd
      return []

/-- The items of a sequence that has no block of its own. -/
def levelItems : Nat → Compose (List NodeId)
  | 0 => refuse
  | rounds + 1 => do
    if ← nextIn [.entry] then
      skip
      let item ← nodeUnless [.entry, .key, .value, .blockEnd] true false rounds
      return item :: (← levelItems rounds)
    else return []

/-- The entries of a block mapping, to its end. -/
def blockPairs : Nat → Compose (List (NodeId × NodeId))
  | 0 => refuse
  | rounds + 1 => do
    let ends := [Token.key, .value, .blockEnd]
    if ← nextIn [.key] then
      skip
      let key ← nodeUnless ends true true rounds
      let value ← valueUnless ends true rounds
      return (key, value) :: (← blockPairs rounds)
    else
      expect .blockEnd
      return []

/-- The value behind a key, which is empty when no colon comes next. -/
def valueUnless (ends : List Token) (block : Bool) : Nat → Compose NodeId
  | 0 => refuse
  | rounds + 1 => do
    if ← nextIn [.value] then
      skip
      nodeUnless ends block block rounds
    else addEmpty

/-- The items of a sequence in brackets, to its end. An item with a key is a mapping of one
entry. -/
def flowItems (first : Bool) : Nat → Compose (List NodeId)
  | 0 => refuse
  | rounds + 1 => do
    if ← nextIn [.sequenceClose] then
      skip
      return []
    if !first then expect .comma
    if ← nextIn [.key] then
      skip
      let item ← collection none ⟨.mapping, .mapping []⟩ do
        let key ← nodeUnless [.value, .comma, .sequenceClose] false false rounds
        let value ← valueUnless [.comma, .sequenceClose] false rounds
        return .mapping [(key, value)]
      return item :: (← flowItems false rounds)
    else if ← nextIn [.sequenceClose] then
      skip
      return []
    else
      let item ← node false false rounds
      return item :: (← flowItems false rounds)

/-- The entries of a mapping in braces, to its end. A node without a colon is a key with an empty
value. -/
def flowPairs (first : Bool) : Nat → Compose (List (NodeId × NodeId))
  | 0 => refuse
  | rounds + 1 => do
    if ← nextIn [.mappingClose] then
      skip
      return []
    if !first then expect .comma
    if ← nextIn [.key] then
      skip
      let key ← nodeUnless [.value, .comma, .mappingClose] false false rounds
      let value ← valueUnless [.comma, .mappingClose] false rounds
      return (key, value) :: (← flowPairs false rounds)
    else if ← nextIn [.mappingClose] then
      skip
      return []
    else
      let key ← node false false rounds
      return (key, ← addEmpty) :: (← flowPairs false rounds)

end

/-- The handles that directives declare. Only one version may be stated, whose major number is one,
and no handle may be declared twice. -/
def directives (versioned : Bool) (handles : List (Text × Text)) :
    Nat → Compose (List (Text × Text))
  | 0 => return handles
  | rounds + 1 => do
    match ← peek with
    | some (.version major _) =>
      skip
      if versioned || major != 1 then refuse else directives true handles rounds
    | some (.tagHandle handle lead) =>
      skip
      if (handles.lookup handle).isSome then refuse
      else directives versioned ((handle, lead) :: handles) rounds
    | some .otherDirective =>
      skip
      directives versioned handles rounds
    | _ => return handles

/-- The handles that need no declaration. -/
def standardHandles : List (Text × Text) :=
  [("!".toList, "!".toList), ("!!".toList, "tag:yaml.org,2002:".toList)]

/-- Whether a token ends the content of a document. -/
def endsContent : Token → Bool
  | .version _ _ => true
  | .tagHandle _ _ => true
  | .otherDirective => true
  | .documentStart => true
  | .documentEnd => true
  | _ => false

/-- Whether a document that begins with a token has to begin with a marker. -/
def isExplicit (token : Token) : Bool := endsContent token && token != .documentEnd

/-- Goes past the ends of documents. -/
def skipEnds : Nat → Compose Unit
  | 0 => return ()
  | rounds + 1 => do
    if ← nextIn [.documentEnd] then
      skip
      skipEnds rounds

/-- The root node of a document that begins with a token. -/
def root (first : Token) (rounds : Nat) : Compose NodeId := do
  if isExplicit first then
    let handles ← directives false [] rounds
    expect .documentStart
    modify fun s => { s with handles := handles ++ standardHandles }
    if (← peek).all endsContent then addEmpty else node true false rounds
  else
    modify fun s => { s with handles := standardHandles }
    node true false rounds

/-- The root node of the only document in the tokens, if there are tokens at all. -/
def onlyRoot (rounds : Nat) : Compose (Option NodeId) := do
  match ← peek with
  | none => return none
  | some first =>
    let found ← root first rounds
    skipEnds rounds
    match ← peek with
    | none => return some found
    | some _ =>
      let _ ← directives false [] rounds
      refuse

/-- The nodes of the only document in the tokens and its root, if there are tokens at all. -/
def compose (run : TokenRun) : Except Fault (Option (Graph × NodeId)) := do
  let (found, ahead) ← (onlyRoot (4 * run.tokens.length + 4)).run { run := run }
  return found.map fun id => (ahead.graph, id)

end Swatch.Yaml
