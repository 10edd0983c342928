import DeclGraph.Grammar.Uses

/-!
Data declarations: fields, constructors and data types.

Each production matches a node completely or not at all. A name is found in the identifier table
of a direct child, and has to be the only one of its role there.
-/

namespace DeclGraph.Grammar

def recordField : Query Id ResolvedNode RecordField := fun node =>
  Option.map (fun name => ⟨name.key, name.occ, uses node⟩) (uniqueNameChild .recordFieldDecl node)

def recordFields : Query Id ResolvedNode (List RecordField) :=
  Query.many1 Node.children recordField

/-- The fields of a record are held by one child, which has to be the only one that holds any. -/
def fieldContainer : Query Id ResolvedNode (List RecordField) :=
  Query.one Node.children recordFields

def recordBody : Query Id ResolvedNode ConstructorBody := fun node =>
  Option.map .record (fieldContainer node)

/-- A naked body matches every node. -/
def nakedBody : Query Id ResolvedNode ConstructorBody := fun node => some (.naked (uses node))

def constructorBody : Query Id ResolvedNode ConstructorBody :=
  Query.first [recordBody, nakedBody]

def constructor : Query Id ResolvedNode Constructor := fun node =>
  (do
    let name ← uniqueNameChild .conDecl node
    let body ← constructorBody node
    some ⟨name.key, name.occ, body⟩ : Option Constructor)

/-- The constructors among the children. Other children are dropped. -/
def constructors : Query Id ResolvedNode (List Constructor) :=
  Query.many Node.children constructor

def dataType : Query Id ResolvedNode DataType := fun node =>
  (do
    let name ← uniqueNameChild .dataDecl node
    let constructors ← constructors node
    some ⟨name.key, name.occ, constructors⟩ : Option DataType)

end DeclGraph.Grammar
