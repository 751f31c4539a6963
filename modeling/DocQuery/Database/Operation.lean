import DocQuery.Database.Lists
import DocQuery.Structure.Provision

/-!
# Operations of a database

`Operation` lists everything that can be asked of an open database, with what each
operation is given, and `perform` is the session of an operation.  What comes back
is an `Outcome`: a value, a cursor, or a collection.

Collections, properties and fields are given as any values; the operations say what
they do with one that is no text.
-/

namespace DocQuery

/-- Something that can be asked of an open database. -/
inductive Operation where
  /-- The name of the database. -/
  | name
  /-- A collection. -/
  | collection (name : Value)
  /-- The cursor of a query. -/
  | query (q : QueryInput) (binds : Value) (options : Fields)
  /-- All documents of a query. -/
  | returnAll (q : QueryInput) (options : FetchOptions)
  /-- The first document of a query. -/
  | returnOne (q : QueryInput) (options : FetchOptions)
  /-- Reading a document. -/
  | read (collection : Value) (selector : Selector) (trim : Option TrimOptions)
  /-- Creating documents. -/
  | create (collection : Value) (data : Value) (options : Fields)
  /-- Updating documents. -/
  | update (collection : Value) (u : DocumentUpdate) (options : Fields)
  /-- Updating a list of documents. -/
  | updateMany (collection : Value) (documents : List Value) (options : Fields)
  /-- Deleting documents. -/
  | delete (collection : Value) (selector : Selector) (options : Fields)
  /-- Reading a property. -/
  | readProperty (collection : Value) (selector : Selector) (property : Value)
  /-- Setting a property. -/
  | setProperty (collection : Value) (selector : Selector) (property value : Value)
  /-- Adding to a list. -/
  | addToList (collection : Value) (selector : Selector) (property value : Value)
      (allowDuplicates : Bool) (field : Value)
  /-- Removing from a list. -/
  | removeFromList (collection : Value) (selector : Selector) (property value : Value)
  /-- Adding an object to a list. -/
  | addObject (collection : Value) (selector : Selector) (property value field : Value)
  /-- Removing objects from a list. -/
  | removeObject (collection : Value) (selector : Selector)
      (property field identity : Value)
  /-- Changing objects in a list. -/
  | updateObject (collection : Value) (selector : Selector)
      (property field identity updated : Value) (mode : ElementUpdate)
      (addIfMissing allowDuplicates : Bool)
  /-- Saving edges. -/
  | createEdge (collection : Value) (relation : Value) (options : Fields)
  /-- All documents of a collection. -/
  | fetchAll (collection : Value) (options : Option FetchOptions)
  /-- The documents with some values. -/
  | fetchByValues (collection : Value) (equalities : Equalities) (join : Join)
      (options : Option FetchOptions) (input : FilterInput)
  /-- The first document with some values. -/
  | fetchOneByValues (collection : Value) (equalities : Equalities) (join : Join)
      (options : Option FetchOptions) (input : FilterInput)
  /-- The documents that satisfy a filter. -/
  | fetchByFilter (collection : Value) (input : FilterInput) (options : Option FetchOptions)
  /-- Checking a uniqueness constraint. -/
  | checkUnique (constraint : Option Uniqueness)
  /-- Trimming a document. -/
  | trimDocument (document : Value) (options : Option TrimOptions)
  /-- Trimming documents. -/
  | trimDocuments (documents : Value) (options : Option TrimOptions)
  /-- Asking whether the database is there. -/
  | exists_
  /-- Emptying the database. -/
  | clear (method : Clearance)
  /-- Comparing with a structure. -/
  | validate (s : Option Structure)
  /-- Providing a structure. -/
  | provide (s : Option Structure) (clearance : Option Clearance)
deriving Repr

/-- What an operation gives. -/
inductive Outcome where
  /-- A value. -/
  | value (v : Value)
  /-- A cursor. -/
  | cursor (c : Cursor)
  /-- A collection. -/
  | collection (name : Value)
deriving Repr

namespace Outcome

/-- What a lookup gives as an outcome. -/
def ofFound : Database.Found → Outcome
  | .documents r => value r.toValue
  | .cursor c => cursor c

end Outcome

namespace Database

/-- The session of an operation. -/
def perform (db : Database) : Operation → Session Outcome
  | .name => return .value db.name
  | .collection name => do
      Session.ask (.collection name)
      return .collection name
  | .query q binds options => .cursor <$> execute q binds options
  | .returnAll q options => (.value ∘ ResultSet.toValue) <$> returnAll q options
  | .returnOne q options => .value <$> returnOne q options
  | .read collection selector trim => .value <$> db.read collection selector trim
  | .create collection data options => .value <$> create collection data options
  | .update collection u options => .value <$> update collection u options
  | .updateMany collection documents options => .value <$> updateMany collection documents options
  | .delete collection selector options => .value <$> delete collection selector options
  | .readProperty collection selector property =>
      .value <$> db.readProperty collection selector property
  | .setProperty collection selector property value =>
      .value <$> db.setProperty collection selector property value
  | .addToList collection selector property value allowDuplicates field =>
      .value <$> db.addToList collection selector property value allowDuplicates field
  | .removeFromList collection selector property value =>
      .value <$> db.removeFromList collection selector property value
  | .addObject collection selector property value field =>
      .value <$> db.addObject collection selector property value field
  | .removeObject collection selector property field identity =>
      .value <$> db.removeObject collection selector property field identity
  | .updateObject collection selector property field identity updated mode addIfMissing
      allowDuplicates =>
      .value <$> db.updateObject collection selector property field identity updated mode
        addIfMissing allowDuplicates
  | .createEdge collection relation options => .value <$> createEdge collection relation options
  | .fetchAll collection options => .ofFound <$> db.fetchAll collection options
  | .fetchByValues collection equalities join options input =>
      .ofFound <$> db.fetchByValues collection equalities join options input
  | .fetchOneByValues collection equalities join options input =>
      .value <$> db.fetchOneByValues collection equalities join options input
  | .fetchByFilter collection input options =>
      .ofFound <$> db.fetchByFilter collection input options
  | .checkUnique constraint => (.value ∘ UniquenessReport.toValue) <$> db.checkUnique constraint
  | .trimDocument document options => return .value (Trim.document options document)
  | .trimDocuments documents options =>
      .value <$> Session.ofUse (Trim.listedDocuments options documents)
  | .exists_ => do
      db.requireSystem
      .value <$> db.existsValue
  | .clear method => do
      db.requireSystem
      db.clear method
      return .value .null
  | .validate s => do
      db.requireSystem
      (.value ∘ StructureReport.toValue) <$> db.validate s
  | .provide s clearance => do
      db.requireSystem
      (.value ∘ ProvisionReport.toValue) <$> db.provide s clearance

end Database

end DocQuery
