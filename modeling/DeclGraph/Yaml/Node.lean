import DeclGraph.Yaml.Tag
import DeclGraph.Yaml.Token

/-!
Nodes of a YAML document: scalars, sequences and mappings with their tags.

The nodes are numbered. An alias stands for the number of the node that it names, so that a node may
have several places in a document, and may even lie inside itself.
-/

namespace DeclGraph.Yaml

/-- The number of a node. -/
abbrev NodeId := Nat

inductive Content where
  | scalar (text : String)
  | sequence (items : List NodeId)
  | mapping (entries : List (NodeId × NodeId))
deriving DecidableEq, Repr, Inhabited

structure Node where
  tag : Tag
  content : Content
deriving DecidableEq, Repr, Inhabited

/-- The nodes of a document, of which one is the whole. -/
structure NodeGraph where
  nodes : Array Node
  root : NodeId
deriving Repr

/-- An exclamation mark alone asks for what the text of a scalar says, even between quotes. -/
def Tag.ofScalar (given : Option String) (isPlain : Bool) (text : String) : Tag :=
  match given with
  | none => if isPlain then ofText text else .str
  | some "!" => ofText text
  | some name => ofName name

def Tag.ofCollection (given : Option String) (default : Tag) : Tag :=
  match given with
  | none | some "!" => default
  | some name => ofName name

/-- The tokens that are left, and what the document has declared so far. -/
structure NodeReader where
  stream : TokenStream
  anchors : List (String × NodeId)
  handles : List (String × String)
  nodes : Array Node

abbrev ReadM := StateT NodeReader Scan

namespace NodeReader

/-- Where a node stands. In a block mapping a sequence need not be indented; in brackets there are
no block collections. -/
inductive Place where
  | block
  | inMapping
  | flow
deriving DecidableEq, Repr

/-- The next token, or `none` at the end of the text. -/
def peek : ReadM (Option Token) := do
  match (← get).stream with
  | ⟨token :: _, _⟩ => return some token
  | ⟨[], none⟩ => return none
  | ⟨[], some problem⟩ => throw problem

def drop : ReadM Unit :=
  modify fun r => { r with stream := { r.stream with tokens := r.stream.tokens.tail } }

/-- Takes the next token if it is `token`. -/
def accept (token : Token) : ReadM Bool := do
  if (← peek) == some token then
    drop
    return true
  else return false

def isNext (tokens : List Token) : ReadM Bool := do
  match ← peek with
  | some token => return tokens.contains token
  | none => return false

/-- The properties of a node, in either order. -/
structure Properties where
  anchor : Option String
  tag : Option String

def Properties.isNone (p : Properties) : Bool := p.anchor.isNone && p.tag.isNone

def tagName (handle : Option String) (suffix : String) : ReadM String := do
  match handle with
  | none => return suffix
  | some handle =>
    match (← get).handles.lookup handle with
    | some stem => return stem ++ suffix
    | none => throw .undefinedHandle

def readAnchor : ReadM (Option String) := do
  match ← peek with
  | some (.anchor name) =>
    drop
    return some name
  | _ => return none

def readTag : ReadM (Option (Option String × String)) := do
  match ← peek with
  | some (.tag handle suffix) =>
    drop
    return some (handle, suffix)
  | _ => return none

def properties : ReadM Properties := do
  let first ← readAnchor
  let tag ← readTag
  let anchor ← if first.isNone && tag.isSome then readAnchor else pure first
  match tag with
  | some (handle, suffix) => return ⟨anchor, some (← tagName handle suffix)⟩
  | none => return ⟨anchor, none⟩

/-- Numbers a node. An anchor names only one node. -/
def register (anchor : Option String) (node : Node) : ReadM NodeId := do
  let r ← get
  let id := r.nodes.size
  let anchors ← match anchor with
    | none => pure r.anchors
    | some name =>
      if (r.anchors.lookup name).isSome then throw .duplicateAnchor else pure ((name, id) :: r.anchors)
  set { r with nodes := r.nodes.push node, anchors := anchors }
  return id

def setContent (id : NodeId) (content : Content) : ReadM Unit :=
  modify fun r => { r with nodes := r.nodes.modify id fun node => { node with content := content } }

/-- A collection has its number before its parts are read. -/
def collection (p : Properties) (default : Tag) (content : ReadM Content) : ReadM NodeId := do
  let id ← register p.anchor ⟨Tag.ofCollection p.tag default, .sequence []⟩
  setContent id (← content)
  return id

def scalar (p : Properties) (isPlain : Bool) (text : String) : ReadM NodeId :=
  register p.anchor ⟨Tag.ofScalar p.tag isPlain text, .scalar text⟩

def empty : ReadM NodeId := scalar ⟨none, none⟩ true ""

def lookupAlias (name : String) : ReadM NodeId := do
  match (← get).anchors.lookup name with
  | some id => return id
  | none => throw .undefinedAlias

mutual

def node : (fuel : Nat) → Place → ReadM NodeId
  | 0, _ => throw .unexpectedToken
  | fuel + 1, place => do
    match ← peek with
    | some (.alias name) =>
      drop
      lookupAlias name
    | _ =>
      let p ← properties
      match ← peek with
      | some (.scalar isPlain text) =>
        drop
        scalar p isPlain text
      | some .flowSequenceStart =>
        drop
        collection p .seq (.sequence <$> flowItems fuel true)
      | some .flowMappingStart =>
        drop
        collection p .map (.mapping <$> flowEntries fuel true)
      | some .blockEntry =>
        if place = .inMapping then collection p .seq (.sequence <$> flatItems fuel)
        else if p.isNone then throw .unexpectedToken
        else scalar p true ""
      | some .blockSequenceStart =>
        if place = .flow then (if p.isNone then throw .unexpectedToken else scalar p true "")
        else
          drop
          collection p .seq (.sequence <$> blockItems fuel)
      | some .blockMappingStart =>
        if place = .flow then (if p.isNone then throw .unexpectedToken else scalar p true "")
        else
          drop
          collection p .map (.mapping <$> blockEntries fuel)
      | _ => if p.isNone then throw .unexpectedToken else scalar p true ""

/-- A node, or an empty one where one of `ends` comes next. -/
def nodeUnless : (fuel : Nat) → (ends : List Token) → Place → ReadM NodeId
  | 0, _, _ => throw .unexpectedToken
  | fuel + 1, ends, place => do
    if ← isNext ends then empty else node fuel place

def blockItems : (fuel : Nat) → ReadM (List NodeId)
  | 0 => throw .unexpectedToken
  | fuel + 1 => do
    if ← accept .blockEntry then
      let item ← nodeUnless fuel [.blockEntry, .blockEnd] .block
      return item :: (← blockItems fuel)
    else if ← accept .blockEnd then return []
    else throw .unexpectedToken

/-- The items of a sequence that is not indented deeper than the key before it. -/
def flatItems : (fuel : Nat) → ReadM (List NodeId)
  | 0 => throw .unexpectedToken
  | fuel + 1 => do
    if ← accept .blockEntry then
      let item ← nodeUnless fuel [.blockEntry, .key, .value, .blockEnd] .block
      return item :: (← flatItems fuel)
    else return []

def blockEntries : (fuel : Nat) → ReadM (List (NodeId × NodeId))
  | 0 => throw .unexpectedToken
  | fuel + 1 => do
    let ends : List Token := [.key, .value, .blockEnd]
    if ← accept .key then
      let key ← nodeUnless fuel ends .inMapping
      let value ← if ← accept .value then nodeUnless fuel ends .inMapping else empty
      return (key, value) :: (← blockEntries fuel)
    else if ← accept .blockEnd then return []
    else throw .unexpectedToken

/-- The items of a sequence in brackets. An item with a colon is a mapping of one entry. -/
def flowItems : (fuel : Nat) → (isFirst : Bool) → ReadM (List NodeId)
  | 0, _ => throw .unexpectedToken
  | fuel + 1, isFirst => do
    if ← accept .flowSequenceEnd then return []
    if !isFirst then
      if !(← accept .flowEntry) then throw .unexpectedToken
    if ← accept .flowSequenceEnd then return []
    if ← accept .key then
      let item ← collection ⟨none, none⟩ .map do
        let key ← nodeUnless fuel [.value, .flowEntry, .flowSequenceEnd] .flow
        let value ←
          if ← accept .value then nodeUnless fuel [.flowEntry, .flowSequenceEnd] .flow else empty
        return .mapping [(key, value)]
      return item :: (← flowItems fuel false)
    else
      let item ← node fuel .flow
      return item :: (← flowItems fuel false)

/-- The entries of a mapping in braces. A node alone is a key without a value. -/
def flowEntries : (fuel : Nat) → (isFirst : Bool) → ReadM (List (NodeId × NodeId))
  | 0, _ => throw .unexpectedToken
  | fuel + 1, isFirst => do
    if ← accept .flowMappingEnd then return []
    if !isFirst then
      if !(← accept .flowEntry) then throw .unexpectedToken
    if ← accept .flowMappingEnd then return []
    if ← accept .key then
      let key ← nodeUnless fuel [.value, .flowEntry, .flowMappingEnd] .flow
      let value ←
        if ← accept .value then nodeUnless fuel [.flowEntry, .flowMappingEnd] .flow else empty
      return (key, value) :: (← flowEntries fuel false)
    else
      let key ← node fuel .flow
      return (key, ← empty) :: (← flowEntries fuel false)

end

/-- Reads the directives of a document: at most one version, which has to be 1, and handles, each at
most once. The result says whether there were any. -/
def directives : (fuel : Nat) → (hasVersion : Bool) → (handles : List (String × String)) → ReadM Bool
  | 0, _, _ => throw .badDirective
  | fuel + 1, hasVersion, handles => do
    match ← peek with
    | some (.version major) =>
      drop
      if hasVersion || major != 1 then throw .badDirective
      let _ ← directives fuel true handles
      return true
    | some (.tagHandle handle stem) =>
      drop
      if (handles.lookup handle).isSome then throw .badDirective
      let _ ← directives fuel hasVersion ((handle, stem) :: handles)
      return true
    | some .otherDirective =>
      drop
      let _ ← directives fuel hasVersion handles
      return true
    | _ =>
      modify fun r => { r with handles := handles ++ r.handles }
      return false

def defaultHandles : List (String × String) := [("!", "!"), ("!!", "tag:yaml.org,2002:")]

def isDirective : Token → Bool
  | .version _ | .tagHandle .. | .otherDirective => true
  | _ => false

/-- The start of a document, which directives have to precede. The result says whether it is
marked. -/
def start (fuel : Nat) : ReadM Bool := do
  let declared ← directives fuel false []
  let marked ← accept .documentStart
  if declared && !marked then throw .badDirective
  return marked

/-- The root of a document after its start. Nothing before its end is an empty node. -/
def root (fuel : Nat) (marked : Bool) : ReadM NodeId := do
  match ← peek with
  | none => empty
  | some token =>
    if marked && (isDirective token || token == .documentStart || token == .documentEnd) then empty
    else node fuel .block

/-- Nothing but ends may follow a document. -/
def finish : (fuel : Nat) → ReadM Unit
  | 0 => throw .secondDocument
  | fuel + 1 => do
    match ← peek with
    | none => pure ()
    | some .documentEnd =>
      drop
      finish fuel
    | some _ =>
      let _ ← start fuel
      throw .secondDocument

/-- The only document of a text; `none` if there is not even one. -/
def document? (fuel : Nat) : ReadM (Option NodeId) := do
  match ← peek with
  | none => return none
  | some _ =>
    let id ← root fuel (← start fuel)
    finish fuel
    return some id

end NodeReader

open NodeReader in
/-- The nodes of the only document among tokens; `none` if there is not even one. -/
def NodeGraph.ofTokens? (stream : TokenStream) : Scan (Option NodeGraph) := do
  let reader : NodeReader := ⟨stream, [], defaultHandles, #[]⟩
  let (root, reader) ← (document? (3 * stream.tokens.length + 3)).run reader
  .ok (root.map fun id => ⟨reader.nodes, id⟩)

end DeclGraph.Yaml
