import DocQuery.Failure

/-!
# Calls to the server

A `Call` is one thing asked of the server or of the client that reaches it, with
everything that is sent.  What callers name a server, a database or a collection by is
sent as it is, whatever kind of value it is.  `Call.Answer` is what comes back when
there is no fault: a query gives a cursor, opening a database gives a handle on it,
and most calls give a value.

`Call.writes` says which calls change what is stored.
-/

namespace DocQuery

/-- A handle on a database. -/
structure Handle where
  /-- The number of the handle; no two handles share one. -/
  number : Nat
  /-- The name of the database. -/
  name : Value
deriving Repr

/-- What a query gives. -/
structure Cursor where
  /-- The rows. -/
  rows : List Value
  /-- The number of rows, as the server counts. -/
  count : Value
  /-- Statistics of the execution. -/
  stats : Value
deriving Repr

/-- What is done with the documents of a collection. -/
inductive CollectionAction where
  | get | insert | insertMany | update | updateMany | delete | deleteMany | truncate
deriving DecidableEq, Repr

/-- One thing asked of the server. -/
inductive Call where
  /-- Making a client for a server. -/
  | client (hosts : Value)
  /-- Opening a database. -/
  | database (name user password : Value)
  /-- Executing a query. -/
  | execute (text binds : Value) (options : Fields)
  /-- Naming a collection. -/
  | collection (name : Value)
  /-- Doing something with the documents of a collection. -/
  | documents (collection : Value) (action : CollectionAction) (args : List Value)
      (options : Fields)
  /-- Asking whether a database is there. -/
  | hasDatabase (name : Value)
  /-- Creating a database. -/
  | createDatabase (name : Value)
  /-- Dropping a database. -/
  | deleteDatabase (name : Value)
  /-- Asking for the collections. -/
  | collections
  /-- Asking for the graphs. -/
  | graphs
  /-- Creating a collection. -/
  | createCollection (name : String)
  /-- Creating a graph of some edges. -/
  | createGraph (name : String) (edges : List Value)
deriving Repr

namespace Call

/-- What a call gives. -/
abbrev Answer : Call → Type
  | client _ => Unit
  | database .. => Handle
  | execute .. => Cursor
  | collection _ => Unit
  | _ => Value

/-- Whether an action changes documents. -/
def actionWrites : CollectionAction → Bool
  | .get => false
  | _ => true

/-- Whether a call changes what is stored, the execution of queries left aside. -/
def writes : Call → Bool
  | documents _ action _ _ => actionWrites action
  | createDatabase _ | deleteDatabase _ | createCollection _ | createGraph .. => true
  | _ => false

end Call

end DocQuery
