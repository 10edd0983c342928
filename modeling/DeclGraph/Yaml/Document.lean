import DeclGraph.Yaml.Node
import DeclGraph.Yaml.Scalar

/-!
What a YAML document says.

Values are made from the outside in: a collection is at first an empty cell, and its parts are made
after everything that was begun before it. So of two mistakes the one that lies less deep is found
first. The cells of a document that contains itself are then written with knots.
-/

namespace DeclGraph.Yaml

/-- A value: a scalar, or the number of the cell of a collection. -/
inductive Ref where
  | scalar (value : Scalar)
  | cell (id : Nat)
deriving DecidableEq, Repr

inductive Cell where
  | sequence (form : SequenceForm) (items : List Ref)
  | map (entries : List (Scalar × Ref))
deriving DecidableEq, Repr, Inhabited

/-- The document of a cell without its parts, to tell what brackets it has. -/
def Cell.outer : Cell → Datum
  | .sequence form _ => .sequence form []
  | .map _ => .map []

/-- A cell whose parts have still to be made from a node. -/
structure Task where
  node : NodeId
  cell : Nat
deriving DecidableEq, Repr

/-- The nodes of a document, and the values that have been made of them. -/
structure Builder where
  nodes : Array Node
  values : Array (Option Ref)
  cells : Array Cell
  pending : Array Task
deriving Repr

abbrev BuildM := StateT Builder Scan

namespace Builder

def ofNodes (nodes : Array Node) : Builder := ⟨nodes, Array.replicate nodes.size none, #[], #[]⟩

def nodeAt (id : NodeId) : BuildM Node := return (← get).nodes.getD id default

def newCell (cell : Cell) : BuildM Nat := do
  let b ← get
  set { b with cells := b.cells.push cell }
  return b.cells.size

def setCell (id : Nat) (cell : Cell) : BuildM Unit :=
  modify fun b => { b with cells := b.cells.set! id cell }

/-! Scalars -/

/-- The node that holds the text of a node: the node itself, or for a mapping what stands under an
equals sign. -/
def textOf (nodes : Array Node) : (fuel : Nat) → NodeId → Scan String
  | 0, _ => .error .endless
  | fuel + 1, id =>
    match (nodes.getD id default).content with
    | .scalar text => .ok text
    | .sequence _ => .error .wrongKind
    | .mapping entries =>
      match entries.find? fun entry => (nodes.getD entry.1 default).tag == .value with
      | some (_, value) => textOf nodes fuel value
      | none => .error .wrongKind

/-- A timestamp is read from its own text only. -/
def checkTimestamp (node : Node) : Scan Unit :=
  match node.tag, node.content with
  | .timestamp, .mapping _ => .error .timestampMapping
  | _, _ => .ok ()

/-- The scalar that a node is, if its tag is that of a scalar. -/
def scalarOf? (id : NodeId) : BuildM (Option Scalar) := do
  let node ← nodeAt id
  if (node.tag.scalar? "").isNone then return none
  else
    let nodes := (← get).nodes
    let text ← textOf nodes (nodes.size + 1) id
    checkTimestamp node
    match node.tag.scalar? text with
    | some value => return some (← value)
    | none => return none

/-! Collections -/

/-- The empty cell of a collection. -/
def emptyCell? : Tag → Option Cell
  | .seq | .omap | .pairs => some (.sequence .list [])
  | .set => some (.sequence .set [])
  | .map => some (.map [])
  | _ => none

def create (id : NodeId) : BuildM Ref := do
  match ← scalarOf? id with
  | some value => return .scalar value
  | none =>
    match emptyCell? (← nodeAt id).tag with
    | some cell =>
      let place ← newCell cell
      modify fun b => { b with pending := b.pending.push ⟨id, place⟩ }
      return .cell place
    | none => throw .unknownTag

/-- The value of a node. It is made once. -/
def valueOf (id : NodeId) : BuildM Ref := do
  match (← get).values.getD id none with
  | some ref => return ref
  | none =>
    let ref ← create id
    modify fun b => { b with values := b.values.set! id (some ref) }
    return ref

/-- The items of a node that has to be a sequence. -/
def itemsOf (id : NodeId) : BuildM (List NodeId) := do
  match (← nodeAt id).content with
  | .sequence items => return items
  | _ => throw .wrongKind

/-- The entries of a node that has to be a mapping. -/
def entriesOf (otherwise : Problem) (id : NodeId) : BuildM (List (NodeId × NodeId)) := do
  match (← nodeAt id).content with
  | .mapping entries => return entries
  | _ => throw otherwise

def setEntries (id : NodeId) (entries : List (NodeId × NodeId)) : BuildM Unit :=
  modify fun b => { b with
    nodes := b.nodes.modify id fun node => { node with content := .mapping entries } }

/-- An equals sign that is a key is a string. -/
def settleKey (id : NodeId) : BuildM Unit :=
  modify fun b => { b with
    nodes := b.nodes.modify id fun node =>
      if node.tag = .value then { node with tag := .str } else node }

def isMerge (nodes : Array Node) (id : NodeId) : Bool := (nodes.getD id default).tag == .merge

/-- Replaces the merges of a mapping, from the entry `index` on, by the entries that they take from
other mappings. These come first, so that the mapping's own entries replace them; of several
mappings in a list the earlier ones replace the later. Every call removes a merge, and `fuel` is at
least the number of merges that are left. -/
def mergeFrom : (fuel : Nat) → (index : Nat) → (merged : List (NodeId × NodeId)) → NodeId → BuildM Unit
  | 0, _, _, _ => throw .badMerge
  | fuel + 1, index, merged, id => do
    let entries ← entriesOf .wrongKind id
    let nodes := (← get).nodes
    let own := (entries.drop index).takeWhile fun entry => !isMerge nodes entry.1
    own.forM fun entry => settleKey entry.1
    let place := index + own.length
    match entries[place]? with
    | none => if !merged.isEmpty then setEntries id (merged ++ entries)
    | some (_, source) =>
      setEntries id (entries.eraseIdx place)
      let taken ← match (← nodeAt source).content with
        | .scalar _ => throw .badMerge
        | .mapping _ => do
          mergeFrom fuel 0 [] source
          entriesOf .badMerge source
        | .sequence items => do
          let parts ← items.mapM fun item => do
            let _ ← entriesOf .badMerge item
            mergeFrom fuel 0 [] item
            entriesOf .badMerge item
          pure parts.reverse.flatten
      mergeFrom fuel place (merged ++ taken) id

/-- How many keys are merges. -/
def mergeCount (nodes : Array Node) : Nat :=
  nodes.foldl (fun count node => count + match node.content with
    | .mapping entries => (entries.filter fun entry => isMerge nodes entry.1).length
    | _ => 0) 0

/-- The entries of a mapping with their values. Only scalars are keys. -/
def mappingEntries (id : NodeId) : BuildM (List (Scalar × Ref)) := do
  let _ ← entriesOf .wrongKind id
  mergeFrom (mergeCount (← get).nodes + 1) 0 [] id
  (← entriesOf .wrongKind id).mapM fun (key, value) => do
    match ← valueOf key with
    | .scalar k => return (k, ← valueOf value)
    | .cell _ => throw .unhashableKey

/-- A pair is written as a mapping of one entry. -/
def pairOf (id : NodeId) : BuildM Ref := do
  match ← entriesOf .badPair id with
  | [(first, second)] =>
    let first ← valueOf first
    let second ← valueOf second
    return .cell (← newCell (.sequence .pair [first, second]))
  | _ => throw .badPair

/-- Makes the parts of a collection. -/
def run (task : Task) : BuildM Unit := do
  match (← nodeAt task.node).tag with
  | .seq => setCell task.cell (.sequence .list (← (← itemsOf task.node).mapM valueOf))
  | .omap | .pairs => setCell task.cell (.sequence .list (← (← itemsOf task.node).mapM pairOf))
  | .set =>
    let entries ← mappingEntries task.node
    setCell task.cell (.sequence .set (entries.map fun entry => .scalar entry.1))
  | _ => setCell task.cell (.map (← mappingEntries task.node))

/-- Makes the parts of the pending collections, and of those begun on the way. There are at most as
many as there are nodes. -/
def runAll : (fuel : Nat) → BuildM Unit
  | 0 => pure ()
  | fuel + 1 => do
    let tasks := (← get).pending
    if tasks.isEmpty then pure ()
    else
      modify fun b => { b with pending := #[] }
      tasks.forM run
      runAll fuel

/-! Documents -/

/-- Items of a set are keys: none occurs twice. -/
def setItems (items : List Datum) : List Datum :=
  let keys := items.filterMap fun
    | .scalar key => some (key, Datum.null)
    | _ => none
  (Entries.ofList keys).map fun entry => .scalar entry.1

/-- The document that a value is, inside the cells `around`, and whether it contains itself or one of
these. No cell is entered twice on one way, so that `fuel` may be one more than the number of
cells. -/
def datum (cells : Array Cell) : (fuel : Nat) → (around : List Nat) → Ref → Datum × Bool
  | 0, _, _ => (.null, false)
  | _ + 1, _, .scalar value => (.scalar value, false)
  | fuel + 1, around, .cell id =>
    let cell := cells.getD id default
    if around.contains id then (.loop id cell.outer.brackets, true)
    else
      let part : Ref → Datum × Bool := datum cells fuel (id :: around)
      let (d, loops) : Datum × Bool := match cell with
        | .sequence form refs =>
          let parts := refs.map part
          let items := parts.map (·.1)
          (.sequence form (if form = .set then setItems items else items), parts.any (·.2))
        | .map entries =>
          let parts := entries.map fun (key, ref) => (key, part ref)
          (.map (Entries.ofList (parts.map fun (key, made) => (key, made.1))), parts.any (·.2.2))
      (if loops then .knot id d else d, loops)

end Builder

open Builder in
/-- What the whole of a graph says. -/
def NodeGraph.datum (graph : NodeGraph) : Scan Datum := do
  let make : BuildM Ref := do
    let ref ← valueOf graph.root
    runAll (graph.nodes.size + 1)
    return ref
  let (ref, b) ← make.run (.ofNodes graph.nodes)
  .ok (Builder.datum b.cells (b.cells.size + 2) [] ref).1

/-- What a text says; an empty one says nothing. -/
def read (text : String) : Scan Datum := do
  match ← NodeGraph.ofTokens? (.ofString text) with
  | none => .ok .null
  | some graph => graph.datum

end DeclGraph.Yaml
