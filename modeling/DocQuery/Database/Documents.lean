import DocQuery.Database.Query
import DocQuery.Document
import DocQuery.Structure.Basic

/-!
# Documents

Documents are read, created, updated and deleted by key, in lists, or by the value
of a property.  What is done by key or in lists is one call on the collection; what
is done by the value of a property is a query.

A property has to be a path written as a text; any other value is refused once the
document is read.

Edges are documents that lead from one document to another.  One edge has to have
both ends; in a list, edges that lack one are left out.
-/

namespace DocQuery

/-- What selects a document. -/
inductive Selector where
  /-- An identifier. -/
  | identifier (i : Identifier)
  /-- A key or what the server takes for one. -/
  | value (v : Value)
deriving Repr

namespace Selector

/-- What the server is asked for: whole numbers and truth values become keys. -/
def request : Value → Value
  | .int n => .str (toString n)
  | .bool b => .str (Value.bool b).literal
  | v => v

end Selector

namespace Database

/-- Does something with the documents of a collection. -/
def onCollection (collection : Value) (action : CollectionAction) (args : List Value)
    (options : Fields) : Session Value := do
  Session.ask (.collection collection)
  Session.ask (.documents collection action args options)

/-- A named value made of a property and the value of an identifier. -/
def selection (property : String) (value : KeyValue) : Session NamedValue :=
  Session.ofExcept (Failure.ofChecked "NamedValue" (NamedValue.named property value.toValue))

/-! ## Reading -/

/-- The document that is selected, as the server gives it. -/
def select (db : Database) (collection : Value) : Selector → Session Value
  | .identifier i => match i.selector? with
    | some property => do
        let p ← selection property i.value
        fetchOneByValues db collection (.one p) .any none (.other .null)
    | none => onCollection collection .get [.str i.value.key] []
  | .value v => onCollection collection .get [Selector.request v] []

/-- Reads a document; one that counts as false is none. -/
def read? (db : Database) (collection : Value) (selector : Selector) : Session (Option Value) := do
  let document ← select db collection selector
  return if document.isTrue then some document else none

/-- Reads a document and trims it. -/
def read (db : Database) (collection : Value) (selector : Selector) (trim : Option TrimOptions) :
    Session Value := do
  match ← read? db collection selector with
  | some document => return Trim.document trim document
  | none => return .null

/-- Reads a document that has to be there. -/
def readExisting (db : Database) (collection : Value) (selector : Selector) : Session Value := do
  match ← read? db collection selector with
  | some document => return document
  | none => Session.fail .noDocument

/-- The key of a document. -/
def keyOf (document : Value) : Except Failure Value :=
  match document.named with
  | .ok fields => match fields.get? "_key" with
    | some key => .ok key
    | none => .error (.noField "_key")
  | .error m => .error (.misuse m)

/-- Reads a property of a document. -/
def readProperty (db : Database) (collection : Value) (selector : Selector) (property : Value) :
    Session Value := do
  let document ← readExisting db collection selector
  let path ← Session.ofUse property.asPath
  return document.atPath path

/-! ## Writing -/

/-- Creates a document or a list of documents. -/
def create (collection : Value) (data : Value) (options : Fields) : Session Value :=
  match data with
  | .list _ => onCollection collection .insertMany [data] options
  | _ => do return .list [← onCollection collection .insert [data] options]

/-- Updates the document with a key. -/
def updateByKey (collection : Value) (key : String) (data options : Fields) : Session Value := do
  return .list [← onCollection collection .update [.object (data.set "_key" (.str key))] options]

/-- Updates a document, or those that an identifier selects. -/
def update (collection : Value) (u : DocumentUpdate) (options : Fields) : Session Value :=
  match u.key with
  | .key key => updateByKey collection key u.data options
  | .identifier i => match i.selector? with
    | some property => do
        let p ← selection property i.value
        return .list (← rowsOf (.updateWhere collection p (.object u.data)))
    | none => updateByKey collection i.value.key u.data options

/-- Updates a list of documents. -/
def updateMany (collection : Value) (documents : List Value) (options : Fields) : Session Value :=
  onCollection collection .updateMany [.list documents] options

/-- Deletes the document that the server takes a value for. -/
def deleteByKey (collection : Value) (key : Value) (options : Fields) : Session Value := do
  return .list [← onCollection collection .delete [key] options]

/-- Deletes documents: those of a list, those that an identifier selects, or one. -/
def delete (collection : Value) (selector : Selector) (options : Fields) : Session Value :=
  match selector with
  | .value (.list items) => onCollection collection .deleteMany [.list items] options
  | .value v => deleteByKey collection v options
  | .identifier i => match i.selector? with
    | some property => do
        let p ← selection property i.value
        return .list (← rowsOf (.removeWhere collection p))
    | none => deleteByKey collection (.str i.value.key) options

/-- Sets a property of the document that is selected. -/
def setProperty (db : Database) (collection : Value) (selector : Selector) (property : Value)
    (value : Value) : Session Value := do
  let document ← readExisting db collection selector
  let key ← Session.ofExcept (keyOf document)
  let path ← Session.ofUse property.asPath
  return .list (← rowsOf (.setProperty collection key path value))

/-! ## Edges -/

/-- An edge as a document, if it has both ends. -/
def edgeDocument? (e : Edge) : Option Value :=
  match e.origin.filter (· ≠ ""), e.target.filter (· ≠ "") with
  | some origin, some target =>
      some (.object ((e.data.set "_from" (.str origin)).set "_to" (.str target)))
  | _, _ => none

/-- The record of an edge that is left out. -/
def skippedEdgeRecord (e : Edge) : Log.Record :=
  ⟨.debug, "Skipping edge relation without endpoints: from_=" ++ (Value.ofText? e.origin).literal
    ++ " to=" ++ (Value.ofText? e.target).literal ++ " data=" ++ (Value.object e.data).literal⟩

/-- Reads an edge. -/
def edgeOf (v : Value) : Session Edge :=
  Session.ofExcept (Failure.ofChecked "EdgeRelation" (Edge.read v))

/-- The edges of a list that have both ends. -/
def completeEdges : List Value → Session (List Value)
  | [] => return []
  | v :: rest => do
      let e ← edgeOf v
      match edgeDocument? e with
      | some document => return document :: (← completeEdges rest)
      | none =>
          Session.note (skippedEdgeRecord e)
          completeEdges rest

/-- Saves an edge or a list of edges. -/
def createEdge (collection : Value) (relation : Value) (options : Fields) : Session Value :=
  match relation with
  | .list items => do
      let edges ← completeEdges items
      onCollection collection .insertMany [.list edges] options
  | v => do
      let e ← edgeOf v
      match edgeDocument? e with
      | some document => return .list [← onCollection collection .insert [document] options]
      | none => Session.fail (.input .looseEdge)

end Database

end DocQuery
