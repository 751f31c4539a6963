import DocQuery.Database.Session

/-!
# A small server

`Server` is a server that holds names only: its databases, and the collections and
graphs of the one that is worked on.  Creating adds a name, dropping a database
removes it together with its collections and graphs, and questions are answered
truthfully.  Every call succeeds; queries give no rows and documents are not kept.
-/

namespace DocQuery

/-- A collection of a server. -/
structure StoredCollection where
  /-- Its name. -/
  name : Value
  /-- Whether the server keeps it for itself, if it says so. -/
  isSystem : Option Value := none
deriving Repr

/-- The names that a server holds. -/
structure Server where
  /-- The databases. -/
  databases : List Value := []
  /-- The collections of the database that is worked on. -/
  collections : List StoredCollection := []
  /-- The graphs of the database that is worked on. -/
  graphs : List Value := []
  /-- How many handles were given out. -/
  handles : Nat := 0
deriving Repr

namespace Server

/-- A cursor over rows, with the statistics that go with them. -/
def cursorOf (rows : List Value) : Cursor :=
  ⟨rows, .int rows.length, .object [("full_count", .int rows.length)]⟩

/-- A collection as the server lists it. -/
def listing (c : StoredCollection) : Value :=
  .object (("name", c.name) :: (c.isSystem.map fun v => ("system", v)).toList)

/-- Whether there is a database of a name. -/
def hasDatabase (s : Server) (name : Value) : Bool := s.databases.any name.alike

/-- The server after a database was dropped. -/
def withoutDatabase (s : Server) (name : Value) : Server :=
  { s with databases := s.databases.filter fun v => !name.alike v, collections := [], graphs := [] }

/-- Answers a call. -/
def respond : Session.Responder Server
  | .client _, s => (.ok (), s)
  | .database name _ _, s =>
      (.ok ⟨s.handles, name⟩, { s with handles := s.handles + 1 })
  | .execute .., s => (.ok (cursorOf []), s)
  | .collection _, s => (.ok (), s)
  | .documents .., s => (.ok .null, s)
  | .hasDatabase name, s => (.ok (.bool (s.hasDatabase name)), s)
  | .createDatabase name, s => (.ok .null, { s with databases := s.databases ++ [name] })
  | .deleteDatabase name, s => (.ok .null, s.withoutDatabase name)
  | .collections, s => (.ok (.list (s.collections.map listing)), s)
  | .graphs, s => (.ok (.list (s.graphs.map fun name => .object [("name", name)])), s)
  | .createCollection name, s =>
      (.ok .null, { s with collections := s.collections ++ [⟨.str name, some (.bool false)⟩] })
  | .createGraph name _, s => (.ok .null, { s with graphs := s.graphs ++ [.str name] })

end Server

end DocQuery
