import PromptTemplate.Assoc
import PromptTemplate.Yaml.Look
import PromptTemplate.Yaml.Node.Basic
import PromptTemplate.Yaml.Token.Stream

set_option autoImplicit false

namespace PromptTemplate.Yaml

/-- The tokens that are left, and what is known of the document in front of them. -/
structure Composer where
  lexemes : List Lexeme
  /-- The room for nodes inside nodes. -/
  room : Nat
  graph : Graph := {}
  /-- The numbers of the nodes that anchors name. -/
  anchors : Assoc Text Nat := []
  handles : Assoc Text Text

/-- Steps that read a document. -/
abbrev Composing := StateT Composer (Except Fault)

namespace Composing

/-- The handles that every document knows. -/
def standardHandles : Assoc Text Text :=
  [(['!'], ['!']), (['!', '!'], Tag.standardStart)]

def next : Composing Lexeme := do
  match (← get).lexemes with
  | [] => return ⟨.textEnd, ⟨0, 0⟩, ⟨0, 0⟩⟩
  | lexeme :: _ =>
    match lexeme.token with
    | .broken fault => throw fault
    | _ => return lexeme

/-- Takes the next token. -/
def drop : Composing Unit :=
  modify fun composer => { composer with lexemes := composer.lexemes.tail }

def isAt (tokens : List Token) : Composing Bool := do
  return tokens.contains (← next).token

def add (node : Node) : Composing Nat :=
  modifyGet fun composer =>
    let (id, graph) := composer.graph.add node
    (id, { composer with graph })

/-- An anchor and a tag in front of a node, with the places where both together and the tag start. -/
structure Properties where
  anchor : Option Text := none
  tag : Option (Option Text × Text) := none
  start : Option Mark := none
  tagStart : Mark := ⟨0, 0⟩

def anchorBefore (found : Properties) : Composing Properties := do
  let lexeme ← next
  match lexeme.token with
  | .anchor name =>
    drop
    return { found with anchor := some name, start := some (found.start.getD lexeme.start) }
  | _ => return found

def tagBefore (found : Properties) : Composing Properties := do
  let lexeme ← next
  match lexeme.token with
  | .tag handle suffix =>
    drop
    return { found with
      tag := some (handle, suffix)
      start := some (found.start.getD lexeme.start)
      tagStart := lexeme.start }
  | _ => return found

/-- The properties in front of a node, in either order. -/
def properties : Composing Properties := do
  let found ← anchorBefore {}
  let found ← tagBefore found
  if found.anchor.isSome || found.tag.isNone then return found
  else anchorBefore found

def tagName (found : Properties) : Composing (Option Text) := do
  match found.tag with
  | none => return none
  | some (none, suffix) => return some suffix
  | some (some handle, suffix) =>
    match (← get).handles.get? handle with
    | some start => return some (start ++ suffix)
    | none =>
      refuse .node (found.start.getD found.tagStart) (.unknownHandle handle) found.tagStart

/-- The type of a node: that of its tag, unless it has none or one that says nothing. -/
def typed (name : Option Text) (otherwise : Tag) : Tag :=
  match name with
  | none => otherwise
  | some name => if name = ['!'] then otherwise else .ofName name

/-- The type of a scalar. One without a tag has a type by its look only if it is plain. -/
def scalarTag (name : Option Text) (isPlain : Bool) (text : Text) : Tag :=
  typed name (if name.isSome || isPlain then Look.tag text else .text)

/-- Adds a node of which the parts are still to come. An anchor names one node only. -/
def begin (found : Properties) (node : Node) : Composing Nat := do
  match found.anchor with
  | none => add node
  | some name =>
    match (← get).anchors.get? name with
    | some id =>
      refuse (.namedNode name) ((← get).graph.node id).start .secondNode node.start
    | none =>
      let id ← add node
      modify fun composer => { composer with anchors := composer.anchors ++ [(name, id)] }
      return id

def around (found : Properties) (node : Node) (parts : Composing Form) : Composing Nat := do
  let id ← begin found node
  let form ← parts
  modify fun composer =>
    { composer with graph := composer.graph.update id fun node => { node with form } }
  return id

/-- What ends an entry of a mapping, so that a node may be left out in front of it. -/
def entryEnds : List Token :=
  [.key, .value, .blockEnd]

def endBlock (activity : Activity) (since : Mark) : Composing Unit := do
  let lexeme ← next
  if lexeme.token = .blockEnd then drop
  else refuse activity since (.expectedPart "<block end>" lexeme.token.name) lexeme.start

/-- Takes the comma in front of an element of a flow collection that is not the first one. -/
def separate (isFirst : Bool) (activity : Activity) (since : Mark) (what : String) :
    Composing Unit := do
  if isFirst then return
  let lexeme ← next
  if lexeme.token = .flowEntry then drop
  else refuse activity since (.expectedEnd what lexeme.token.name) lexeme.start

def bareNode (found : Properties) (name : Option Text) (inBlock : Bool) (content : Lexeme) :
    Composing Nat := do
  let start := found.start.getD content.start
  if found.anchor.isNone && found.tag.isNone then
    refuse (if inBlock then .blockNode else .flowNode) start
      (.expectedPart "the node content" content.token.name) content.start
  else begin found { tag := typed name .null, form := .scalar [], start }

mutual

/-- Reads a node, within some room for nodes inside nodes. Block collections are read only outside of flow
collections, and a sequence without an indentation of its own only as a part of a block mapping. -/
def node : Nat → Nat → Bool → Bool → Composing Nat
  | 0, _, _, _ | _, 0, _, _ => throw .tooDeep
  | fuel + 1, room + 1, inBlock, mayLackIndent => do
    let first ← next
    match first.token with
    | .alias name =>
      drop
      match (← get).anchors.get? name with
      | some id => return id
      | none => refuseAt (.unknownAlias name) first.start
    | _ =>
      let found ← properties
      let name ← tagName found
      let content ← next
      let start := found.start.getD content.start
      match content.token with
      | .scalar text isPlain =>
        drop
        begin found { tag := scalarTag name isPlain text, form := .scalar text, start }
      | .flowSequenceStart =>
        around found { tag := typed name .sequence, form := .sequence [], start } do
          drop
          return .sequence (← flowItems fuel room content.start true)
      | .flowMappingStart =>
        around found { tag := typed name .mapping, form := .mapping [], start } do
          drop
          return .mapping (← flowPairs fuel room content.start true)
      | .blockEntry =>
        if mayLackIndent then
          around found { tag := typed name .sequence, form := .sequence [], start } do
            return .sequence (← flushItems fuel room)
        else bareNode found name inBlock content
      | .blockSequenceStart =>
        if inBlock then
          around found { tag := typed name .sequence, form := .sequence [], start } do
            drop
            return .sequence (← blockItems fuel room content.start)
        else bareNode found name inBlock content
      | .blockMappingStart =>
        if inBlock then
          around found { tag := typed name .mapping, form := .mapping [], start } do
            drop
            return .mapping (← blockPairs fuel room content.start)
        else bareNode found name inBlock content
      | _ => bareNode found name inBlock content

/-- A node, unless one of the tokens that end it follows at once; then it is empty and has a place. -/
def optionalNode : Nat → Nat → Bool → Bool → List Token → Mark → Composing Nat
  | 0, _, _, _, _, _ => throw .tooDeep
  | fuel + 1, room, inBlock, mayLackIndent, ends, place => do
    if ← isAt ends then add (.empty place) else node fuel room inBlock mayLackIndent

def optionalValue : Nat → Nat → Bool → List Token → Composing Nat
  | 0, _, _, _ => throw .tooDeep
  | fuel + 1, room, inBlock, ends => do
    let lexeme ← next
    if lexeme.token = .value then
      drop
      optionalNode fuel room inBlock inBlock ends lexeme.stop
    else add (.empty lexeme.start)

def blockItems : Nat → Nat → Mark → Composing (List Nat)
  | 0, _, _ => throw .tooDeep
  | fuel + 1, room, since => do
    let lexeme ← next
    if lexeme.token = .blockEntry then
      drop
      let first ← optionalNode fuel room true false [.blockEntry, .blockEnd] lexeme.stop
      return first :: (← blockItems fuel room since)
    else
      endBlock .blockSequence since
      return []

/-- The items of a sequence without an indentation of its own. -/
def flushItems : Nat → Nat → Composing (List Nat)
  | 0, _ => throw .tooDeep
  | fuel + 1, room => do
    let lexeme ← next
    if lexeme.token = .blockEntry then
      drop
      let first ← optionalNode fuel room true false (.blockEntry :: entryEnds) lexeme.stop
      return first :: (← flushItems fuel room)
    else return []

/-- The entries of a block mapping, up to its end. -/
def blockPairs : Nat → Nat → Mark → Composing (List (Nat × Nat))
  | 0, _, _ => throw .tooDeep
  | fuel + 1, room, since => do
    let lexeme ← next
    if lexeme.token = .key then
      drop
      let key ← optionalNode fuel room true true entryEnds lexeme.stop
      let value ← optionalValue fuel room true entryEnds
      return (key, value) :: (← blockPairs fuel room since)
    else
      endBlock .blockMapping since
      return []

/-- The items of a flow sequence, up to its end. An item may be a single entry of a mapping. -/
def flowItems : Nat → Nat → Mark → Bool → Composing (List Nat)
  | 0, _, _, _ => throw .tooDeep
  | fuel + 1, room, since, isFirst => do
    if ← isAt [.flowSequenceEnd] then
      drop
      return []
    separate isFirst .flowSequence since "',' or ']'"
    let lexeme ← next
    match lexeme.token with
    | .key =>
      let first ← pairNode fuel room lexeme
      return first :: (← flowItems fuel room since false)
    | .flowSequenceEnd =>
      drop
      return []
    | _ =>
      let first ← node fuel room false false
      return first :: (← flowItems fuel room since false)

/-- A single entry of a mapping, as an item of a flow sequence. -/
def pairNode : Nat → Nat → Lexeme → Composing Nat
  | 0, _, _ | _, 0, _ => throw .tooDeep
  | fuel + 1, room + 1, lexeme =>
    around {} { tag := .mapping, form := .mapping [], start := lexeme.start } do
      drop
      let key ←
        optionalNode fuel room false false [.value, .flowEntry, .flowSequenceEnd] lexeme.stop
      let value ← optionalValue fuel room false [.flowEntry, .flowSequenceEnd]
      return .mapping [(key, value)]

/-- The entries of a flow mapping, up to its end. -/
def flowPairs : Nat → Nat → Mark → Bool → Composing (List (Nat × Nat))
  | 0, _, _, _ => throw .tooDeep
  | fuel + 1, room, since, isFirst => do
    if ← isAt [.flowMappingEnd] then
      drop
      return []
    separate isFirst .flowMapping since "',' or '\x7d'"
    let lexeme ← next
    match lexeme.token with
    | .key =>
      drop
      let key ←
        optionalNode fuel room false false [.value, .flowEntry, .flowMappingEnd] lexeme.stop
      let value ← optionalValue fuel room false [.flowEntry, .flowMappingEnd]
      return (key, value) :: (← flowPairs fuel room since false)
    | .flowMappingEnd =>
      drop
      return []
    | _ =>
      let key ← node fuel room false false
      let value ← add (.empty (← next).start)
      return (key, value) :: (← flowPairs fuel room since false)

end

/-! ### Documents -/

def root : Composing Nat := do
  let composer ← get
  node (8 * composer.lexemes.length + 8) composer.room true false

/-- Takes the marks of the end of a document. -/
def dropEnds : Composing Unit :=
  modify fun composer =>
    { composer with lexemes := composer.lexemes.dropWhile (·.token == .documentEnd) }

/-- The handles of a document, from the directives in front of it. There is at most one version, and
each handle is given at most once. -/
def handlesOf (sawVersion : Bool) (handles : Assoc Text Text) :
    List Lexeme → Except Fault (Assoc Text Text)
  | [] => .ok handles
  | lexeme :: rest =>
    match lexeme.token with
    | .version major =>
      if sawVersion then refuseAt .repeatedVersion lexeme.start
      else if major != 1 then refuseAt .foreignVersion lexeme.start
      else handlesOf true handles rest
    | .tagHandle handle start =>
      match handles.get? handle with
      | some _ => refuseAt (.repeatedHandle handle) lexeme.start
      | none => handlesOf sawVersion (handles ++ [(handle, start)]) rest
    | _ => handlesOf sawVersion handles rest

/-- Reads the directives in front of a document. -/
def directives : Composing Unit := do
  let lexemes := (← get).lexemes
  let given ← handlesOf false [] (lexemes.takeWhile (·.token.isDirective))
  modify fun composer =>
    { composer with
      lexemes := lexemes.dropWhile (·.token.isDirective)
      handles := given ++ standardHandles
      anchors := [] }

/-- Reads the start of a document that is marked by a line. -/
def documentStart : Composing Unit := do
  directives
  let lexeme ← next
  if lexeme.token = .documentStart then drop
  else refuseAt (.expectedPart "'<document start>'" lexeme.token.name) lexeme.start

/-- Whether the content of a document is left out in front of a token. -/
def lacksContent (token : Token) : Bool :=
  token.isDirective || token == .documentStart || token == .documentEnd || token == .textEnd

def firstDocument : Composing (Option Nat) := do
  let lexeme ← next
  if lexeme.token = .textEnd then return none
  else if lexeme.token.isDirective || lexeme.token == .documentStart then
    documentStart
    let content ← next
    if lacksContent content.token then return some (← add (.empty content.start))
    else return some (← root)
  else return some (← root)

def refuseSecond (id : Nat) : Composing Unit := do
  dropEnds
  let lexeme ← next
  if lexeme.token = .textEnd then return
  documentStart
  refuse .document ((← get).graph.node id).start .secondDocument lexeme.start

def document : Composing (Option Nat) := do
  match ← firstDocument with
  | none => return none
  | some id =>
    refuseSecond id
    return some id

end Composing

/-- The number of the root of the only document that tokens spell, if there is one, and the nodes. -/
def Graph.ofLexemes (room : Nat) (lexemes : List Lexeme) : Except Fault (Option Nat × Graph) := do
  let (root, composer) ← Composing.document.run { lexemes, room, handles := Composing.standardHandles }
  return (root, composer.graph)

end PromptTemplate.Yaml
