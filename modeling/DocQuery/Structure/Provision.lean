import DocQuery.Database.Open
import DocQuery.Structure.Basic

/-!
# Providing structures

A database is compared with the structure it should have, and what is missing is
created.

* `validate` reports what of a structure is there.  Nothing is asked when the
  structure lists no collections, and nothing more when the database is missing.
* `provide` creates the database, or empties it if that is asked for, and then the
  missing collections and the missing graphs that have edges.  A fault of the
  server while something is created ends it and is reported, not raised.
* `clear` empties a database that is there: its collections are emptied one by
  one, system collections left out, or it is dropped and created again.
-/

namespace DocQuery

namespace Database

/-! ## Handles -/

/-- The handle on the system database, which has to be there. -/
def requireSystem (db : Database) : Session Unit :=
  if db.system.isSome then return () else Session.fail (.noSystem db.name.inText)

/-- Asks whether the database is there. -/
def existsValue (db : Database) : Session Value := Session.ask (.hasDatabase db.name)

/-- Whether the database is there. -/
def exists? (db : Database) : Session Bool := Value.isTrue <$> db.existsValue

/-! ## Names of what is there -/

/-- The field that names a collection or a graph. -/
def nameOf (v : Value) : Except Failure Value :=
  match v.named with
  | .ok fields => match fields.get? "name" with
    | some name => .ok name
    | none => .error (.noField "name")
  | .error m => .error (.misuse m)

/-- The names of what a value lists. -/
def namesListed (v : Value) : Session (List Value) := do
  let items ← Session.ofUse v.listed
  Session.ofExcept (items.mapM nameOf)

/-- Which of some names are there. -/
def presences (required : List String) (existing : List Value) : List Presence :=
  required.map fun name => ⟨name, existing.any fun v => v.text? = some name⟩

/-- Whether all are there. -/
def allFound (entities : List Presence) : Bool := entities.all Presence.found

/-! ## Comparing -/

/-- What is missing, in words. -/
def missingMessage (collectionsFound graphsFound : Bool) : Option String :=
  match collectionsFound, graphsFound with
  | true, true => none
  | false, true => some "Required collections do not exist"
  | true, false => some "Required graphs do not exist"
  | false, false => some "Required collections do not exist, and required graphs do not exist"

/-- Reports which of some graphs are there; no graphs are asked for when none is
required. -/
def graphPresences (names : List String) : Session (List Presence) :=
  if names.isEmpty then return []
  else do return presences names (← namesListed (← Session.ask .graphs))

/-- A structure that lists collections. -/
def usable? (s : Option Structure) : Option Structure := s.filter fun s => !s.collections.isEmpty

/-- Reports what of a structure is there. -/
def validateUsable (db : Database) (s : Structure) : Session StructureReport := do
  let found ← db.exists?
  let database ← Session.ofExcept
    (Failure.ofChecked "EntityExists" (Presence.named db.name found))
  if found then
    let existing ← namesListed (← Session.ask .collections)
    let collections := presences s.collections existing
    let graphs ← graphPresences s.graphNames
    return {
      database := some database
      collections
      graphs
      message := missingMessage (allFound collections) (allFound graphs) }
  else
    return { database := some database, message := some "Database does not exist" }

/-- Reports what of a structure is there, if it lists collections. -/
def validate (db : Database) (s : Option Structure) : Session StructureReport :=
  match usable? s with
  | some s => db.validateUsable s
  | none => return {}

/-! ## Emptying -/

/-- Empties collections one by one, system collections left out. -/
def truncateAll : List Value → Session Unit
  | [] => return ()
  | v :: rest => do
      let fields ← Session.ofUse v.lookup
      unless (fields.getD "system").isTrue do
        let name ← Session.ofExcept (nameOf v)
        Session.ask (.collection name)
        let _ ← Session.ask (.documents name .truncate [] [])
      truncateAll rest

/-- Drops and creates a database; a fault of the server is reported. -/
def recreate (name : Value) : Session Unit := do
  match ← Session.attempt (.deleteDatabase name) with
  | .error fault => failed fault
  | .ok _ => match ← Session.attempt (.createDatabase name) with
    | .error fault => failed fault
    | .ok _ => Session.note ⟨.info, "DB " ++ name.inText ++ " re-created"⟩
where
  /-- The failure that a fault is reported as. -/
  failed (fault : Fault) : Session Unit :=
    match fault.kind with
    | .server => Session.fail (.notRecreated name.inText)
    | _ => Session.fail (.fault fault)

/-- Empties a database that is there. -/
def clear (db : Database) (method : Clearance) : Session Unit := do
  if ← db.exists? then
    match method with
    | .recreate => recreate db.name
    | .deleteData => do
        truncateAll (← Session.ofUse (← Session.ask .collections).listed)
        Session.note ⟨.info, "DB " ++ db.name.inText ++ " cleaned"⟩

/-! ## Creating -/

/-- Calls the server; gives the fault of the server if there is one.  Any other
fault ends the session. -/
def serverFault? (c : Call) : Session (Option Fault) := do
  match ← Session.attempt c with
  | .ok _ => return none
  | .error fault => match fault.kind with
    | .server => return some fault
    | _ => Session.fail (.fault fault)

/-- What came of creating several things: a line for each, and the fault that ended
it. -/
structure Created where
  /-- What was done. -/
  lines : List String := []
  /-- The fault that ended it. -/
  fault : Option Fault := none

/-- Puts a line in front of what was done. -/
def Created.after (line : String) (c : Created) : Created := { c with lines := line :: c.lines }

/-- Creates one thing and goes on with the next, unless a fault ends it. -/
def createThen (what name : String) (c : Call) (rest : Session Created) : Session Created := do
  match ← serverFault? c with
  | some fault =>
      Session.note ⟨.error, "Failed to create " ++ what ++ " '" ++ name ++ "': " ++ fault.message⟩
      return { lines := ["Failed to create " ++ what ++ " '" ++ name ++ "'"], fault := some fault }
  | none =>
      Session.note ⟨.info, title what ++ " '" ++ name ++ "' created"⟩
      return (← rest).after (title what ++ " '" ++ name ++ "' created")
where
  /-- A word at the start of a sentence. -/
  title (what : String) : String := what.capitalize

/-- Creates the collections that are missing. -/
def createCollections : List Presence → Session Created
  | [] => return {}
  | entity :: rest =>
      if entity.found then
        Created.after ("Collection '" ++ entity.name ++ "' found") <$> createCollections rest
      else
        createThen "collection" entity.name (.createCollection entity.name)
          (createCollections rest)

/-- The definition of a graph that has edges. -/
def creatable? (s : Structure) (name : String) : Option GraphDefinition :=
  (s.definition? name).filter fun g => !g.edges.isEmpty

theorem creatable?_eq_some_iff {s : Structure} {name : String} {g : GraphDefinition} :
    creatable? s name = some g ↔ s.definition? name = some g ∧ g.edges ≠ [] := by
  simp [creatable?, Option.filter_eq_some_iff]

/-- Creates the graphs that are missing and have edges. -/
def createGraphs (s : Structure) : List Presence → Session Created
  | [] => return {}
  | entity :: rest =>
      if entity.found then
        Created.after ("Graph '" ++ entity.name ++ "' found") <$> createGraphs s rest
      else match creatable? s entity.name with
        | some g =>
            createThen "graph" entity.name
              (.createGraph g.name (g.edges.map EdgeDefinition.request)) (createGraphs s rest)
        | none => do
            Session.note
              ⟨.warning, "Graph '" ++ entity.name ++ "' has no edge definitions, not created"⟩
            createGraphs s rest

/-- A database in messages. -/
def described (db : Database) : String := "Database '" ++ db.name.inText ++ "'"

/-- What was done about the database, and the fault that ended it. -/
def provideDatabase (db : Database) (clearance : Option Clearance) :
    Session (String × Option Fault) := do
  if ← db.exists? then
    match clearance with
    | some method =>
        db.clear method
        Session.note ⟨.info, described db ++ " cleared with method " ++ method.text⟩
        return ("Database cleared with method " ++ method.text, none)
    | none =>
        Session.note ⟨.info, described db ++ " found"⟩
        return ("Database found", none)
  else
    Session.note ⟨.info, described db ++ " not found"⟩
    match ← serverFault? (.createDatabase db.name) with
    | some fault =>
        Session.note ⟨.error,
          "Failed to create database '" ++ db.name.inText ++ "': " ++ fault.message⟩
        return ("Failed to create database", some fault)
    | none =>
        Session.note ⟨.info, described db ++ " created"⟩
        return ("Database created", none)

/-- Creates what of a structure is missing. -/
def provide (db : Database) (s : Option Structure) (clearance : Option Clearance) :
    Session ProvisionReport := do
  match usable? s with
  | none => Session.fail (.input .noStructure)
  | some s =>
      let (line, fault) ← db.provideDatabase clearance
      if let some fault := fault then
        return { database := some line, error := some fault.message }
      let found ← db.validateUsable s
      let collections ← createCollections found.collections
      let report : ProvisionReport := { database := some line, collections := collections.lines }
      if let some fault := collections.fault then
        return { report with error := some fault.message }
      let graphs ← createGraphs s found.graphs
      return { report with graphs := graphs.lines, error := graphs.fault.map Fault.message }

end Database

end DocQuery
