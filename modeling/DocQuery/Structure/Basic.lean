import DocQuery.Schema.Scalar

/-!
# Structure of a database

A structure lists the collections and graphs that a database should have.  A
graph is named, or defined by its edges; an edge definition says which collection
holds the edges and which collections they lead from and to.

Reports say what was found (`Presence`, `StructureReport`) and what was done
(`ProvisionReport`).  `Clearance` says how a database is emptied.
-/

namespace DocQuery

/-! ## Edges -/

/-- The two spellings of the field that says where an edge begins; the first counts
when an object has both. -/
def originSpellings : List String := ["from", "from_"]

/-- The field that says where an edge begins, under the spelling that counts. -/
def originField? (fields : Fields) : Option (String × Value) :=
  originSpellings.findSome? fun name => (fields.get? name).map fun v => (name, v)

/-- Reads the field that says where an edge begins.  Issues are found at the spelling
that the object uses, and at the first one when it has neither. -/
def readOrigin {α : Type} (read : Value → Schema.Checked α) (fields : Fields)
    (absent : Schema.Checked α) : Schema.Checked α :=
  match originField? fields with
  | some (name, v) => (read v).under (.key name)
  | none => absent.under (.key "from")

/-- Which collections the edges of a collection lead from and to. -/
structure EdgeDefinition where
  /-- The collection of the edges. -/
  collection : String
  /-- Where they begin. -/
  origins : Texts
  /-- Where they end. -/
  targets : Texts
deriving DecidableEq, Repr

namespace EdgeDefinition

/-- Reads the fields of an edge definition. -/
def readFields (fields : Fields) : Schema.Checked EdgeDefinition :=
  mk <$> Schema.required Schema.text fields "collection"
    <*> readOrigin Texts.read fields (.issue .missing)
    <*> Schema.required Texts.read fields "to"

/-- Reads an edge definition. -/
def read : Value → Schema.Checked EdgeDefinition := Schema.record readFields

/-- The edge definition as an object. -/
def toValue (e : EdgeDefinition) : Value :=
  .object [("collection", .str e.collection), ("from_", e.origins.toValue),
    ("to", e.targets.toValue)]

/-- The edge definition in the form that a server takes. -/
def request (e : EdgeDefinition) : Value :=
  .object [("edge_collection", .str e.collection),
    ("from_vertex_collections", .ofTexts e.origins.toList),
    ("to_vertex_collections", .ofTexts e.targets.toList)]

end EdgeDefinition

/-- An edge to be saved: the documents it leads from and to, and its fields. -/
structure Edge where
  /-- Where it begins. -/
  origin : Option String := none
  /-- Where it ends. -/
  target : Option String := none
  /-- Its fields. -/
  data : Fields := []
deriving Repr

namespace Edge

/-- Reads the fields of an edge. -/
def readFields (fields : Fields) : Schema.Checked Edge :=
  mk <$> readOrigin (Schema.nullable Schema.text) fields (.ok none)
    <*> Schema.nullableField Schema.text fields "to"
    <*> Schema.optional Schema.fieldsOf fields "data" []

/-- Reads an edge. -/
def read : Value → Schema.Checked Edge := Schema.record readFields

/-- The edge as an object. -/
def toValue (e : Edge) : Value :=
  .object [("from_", .ofText? e.origin), ("to", .ofText? e.target), ("data", .object e.data)]

end Edge

/-! ## Graphs -/

/-- A graph and its edges. -/
structure GraphDefinition where
  /-- The name. -/
  name : String
  /-- The edges. -/
  edges : List EdgeDefinition := []
deriving DecidableEq, Repr

namespace GraphDefinition

/-- Reads the fields of a graph definition. -/
def readFields (fields : Fields) : Schema.Checked GraphDefinition :=
  mk <$> Schema.required Schema.text fields "name"
    <*> Schema.optional (Schema.each EdgeDefinition.read) fields "edges" []

/-- Reads a graph definition. -/
def read : Value → Schema.Checked GraphDefinition := Schema.record readFields

/-- The graph definition as an object. -/
def toValue (g : GraphDefinition) : Value :=
  .object [("name", .str g.name), ("edges", .list (g.edges.map EdgeDefinition.toValue))]

end GraphDefinition

/-- A graph that a database should have. -/
inductive Graph where
  /-- One that is defined. -/
  | defined (g : GraphDefinition)
  /-- One that is only named. -/
  | named (name : String)
deriving DecidableEq, Repr

namespace Graph

/-- The name. -/
def name : Graph → String
  | defined g => g.name
  | named name => name

/-- Reads a definition or a name. -/
def read (v : Value) : Schema.Checked Graph :=
  (defined <$> (GraphDefinition.read v).under (.key "GraphDefinition")).or
    (named <$> (Schema.text v).under (.key "str"))

/-- The graph as a value. -/
def toValue : Graph → Value
  | defined g => g.toValue
  | named name => .str name

end Graph

/-! ## Structures -/

/-- The collections and graphs that a database should have. -/
structure Structure where
  /-- The collections. -/
  collections : List String := []
  /-- The graphs. -/
  graphs : List Graph := []
deriving DecidableEq, Repr

namespace Structure

/-- The names of the graphs. -/
def graphNames (s : Structure) : List String := s.graphs.map Graph.name

/-- The first definition of a graph in a list. -/
def definitionIn (name : String) : List Graph → Option GraphDefinition
  | [] => none
  | .defined g :: rest => if g.name = name then some g else definitionIn name rest
  | .named _ :: rest => definitionIn name rest

/-- The first definition of a graph. -/
def definition? (s : Structure) (name : String) : Option GraphDefinition :=
  definitionIn name s.graphs

/-- Reads the fields of a structure. -/
def readFields (fields : Fields) : Schema.Checked Structure :=
  mk <$> Schema.optional (Schema.each Schema.text) fields "collections" []
    <*> Schema.optional (Schema.each Graph.read) fields "graphs" []

/-- Reads a structure. -/
def read : Value → Schema.Checked Structure := Schema.record readFields

/-- The structure as an object. -/
def toValue (s : Structure) : Value :=
  .object [("collections", .ofTexts s.collections), ("graphs", .list (s.graphs.map Graph.toValue))]

end Structure

/-! ## Reports -/

/-- Whether something is there. -/
structure Presence where
  /-- Its name. -/
  name : String
  /-- Whether it is there. -/
  found : Bool
deriving DecidableEq, Repr

namespace Presence

/-- Reads the fields of a presence. -/
def readFields (fields : Fields) : Schema.Checked Presence :=
  mk <$> Schema.required Schema.text fields "name"
    <*> Schema.required Schema.truth fields "exists"

/-- Reads a presence. -/
def read : Value → Schema.Checked Presence := Schema.record readFields

/-- The presence of what goes by a name, which has to be a text. -/
def named (name : Value) (found : Bool) : Schema.Checked Presence :=
  readFields [("name", name), ("exists", .bool found)]

/-- The presence as an object. -/
def toValue (p : Presence) : Value := .object [("name", .str p.name), ("exists", .bool p.found)]

/-- A presence as a value, or null. -/
def toValue? : Option Presence → Value
  | none => .null
  | some p => p.toValue

end Presence

/-- What of a structure was found. -/
structure StructureReport where
  /-- The database. -/
  database : Option Presence := none
  /-- The collections. -/
  collections : List Presence := []
  /-- The graphs. -/
  graphs : List Presence := []
  /-- What is missing, in words. -/
  message : Option String := none
deriving DecidableEq, Repr

namespace StructureReport

/-- Reads the fields of a report. -/
def readFields (fields : Fields) : Schema.Checked StructureReport :=
  mk <$> Schema.nullableField Presence.read fields "database"
    <*> Schema.optional (Schema.each Presence.read) fields "collections" []
    <*> Schema.optional (Schema.each Presence.read) fields "graphs" []
    <*> Schema.nullableField Schema.text fields "message"

/-- Reads a report. -/
def read : Value → Schema.Checked StructureReport := Schema.record readFields

/-- The report as an object. -/
def toValue (r : StructureReport) : Value :=
  .object [("database", Presence.toValue? r.database),
    ("collections", .list (r.collections.map Presence.toValue)),
    ("graphs", .list (r.graphs.map Presence.toValue)), ("message", .ofText? r.message)]

end StructureReport

/-- What was done to provide a structure. -/
structure ProvisionReport where
  /-- What was done about the database. -/
  database : Option String := none
  /-- What was done about each collection. -/
  collections : List String := []
  /-- What was done about each graph. -/
  graphs : List String := []
  /-- The failure that ended it. -/
  error : Option String := none
deriving DecidableEq, Repr

namespace ProvisionReport

/-- Reads the fields of a report. -/
def readFields (fields : Fields) : Schema.Checked ProvisionReport :=
  mk <$> Schema.nullableField Schema.text fields "database"
    <*> Schema.optional (Schema.each Schema.text) fields "collections" []
    <*> Schema.optional (Schema.each Schema.text) fields "graphs" []
    <*> Schema.nullableField Schema.text fields "error"

/-- Reads a report. -/
def read : Value → Schema.Checked ProvisionReport := Schema.record readFields

/-- The report as an object. -/
def toValue (r : ProvisionReport) : Value :=
  .object [("database", .ofText? r.database), ("collections", .ofTexts r.collections),
    ("graphs", .ofTexts r.graphs), ("error", .ofText? r.error)]

end ProvisionReport

/-- How a database is emptied. -/
inductive Clearance where
  /-- The documents of all collections are removed. -/
  | deleteData
  /-- The database is dropped and created again. -/
  | recreate
deriving DecidableEq, Repr

namespace Clearance

/-- The written choice. -/
def text : Clearance → String
  | deleteData => "DELETE_DATA"
  | recreate => "RECREATE_DB"

/-- The choice that a text writes. -/
def ofText? : String → Option Clearance
  | "DELETE_DATA" => some deleteData
  | "RECREATE_DB" => some recreate
  | _ => none

end Clearance

end DocQuery
