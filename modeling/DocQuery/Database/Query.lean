import DocQuery.Database.Open
import DocQuery.Query.Request
import DocQuery.Trim

/-!
# Running queries

A query is executed with its own parameters and those a caller adds, which win.
Its rows are returned as documents, trimmed as the options say, as the first
document alone, or as a cursor.

With a limit, the server is also asked how many documents there are and how many
there would be without the limit, unless the caller says otherwise.
-/

namespace DocQuery

/-- A query to run: a text, or one with parameters of its own. -/
inductive QueryInput where
  /-- A text, or whatever else is sent in its place. -/
  | bare (v : Value)
  /-- A query with parameters. -/
  | prebuilt (q : Query)
deriving Repr

namespace Database

/-! ## Execution -/

/-- The options of a caller, and what the database logs. -/
def fetchOptions (db : Database) (options : Option FetchOptions) : FetchOptions :=
  let o := options.getD {}
  { o with
    printQuery := o.printQuery || db.options.printQueries
    debugFilters := o.debugFilters || db.options.debugFilters }

/-- The parameters of a query and those a caller adds. -/
def mergedBinds (own : Fields) (added : Value) : Except Misuse Value :=
  if added.isTrue then added.spread.map fun added => .object (own.merge added)
  else .ok (.object own)

/-- Executes a query. -/
def execute (q : QueryInput) (added : Value) (options : Fields) : Session Cursor :=
  match q with
  | .bare v => Session.ask (.execute v (if added.isTrue then added else .object []) options)
  | .prebuilt q => do
      let binds ← Session.ofUse (mergedBinds q.binds added)
      Session.ask (.execute (.str q.text) binds options)

/-- The options of an execution that are taken already. -/
def takenOptions : List String := ["query", "self"]

/-- The parameters and the other options among the options of an execution. -/
def splitExecution (options : Fields) : Except Misuse (Value × Fields) :=
  match takenOptions.find? options.has with
  | some name => .error (.takenOption name)
  | none => .ok (options.getD "bind_vars", options.filter fun entry => entry.1 ≠ "bind_vars")

/-- Executes a query with the options of an execution. -/
def executeWith (q : QueryInput) (options : Fields) : Session Cursor := do
  let (added, options) ← Session.ofUse (splitExecution options)
  execute q added options

/-! ## Results -/

/-- A result with checked numbers. -/
def resultSet (documents : List Value) (size total : Value) : Except Failure ResultSet :=
  Failure.ofChecked "QueryResult"
    (ResultSet.readFields [("data", .list documents), ("size", size), ("total", total)])

/-- Runs a query and returns its documents. -/
def returnAll (q : QueryInput) (options : FetchOptions) : Session ResultSet := do
  let cursor ← executeWith q options.execution
  Session.ofExcept (Failure.ofChecked "QueryResult"
    (ResultSet.readFields [("data", .list (Trim.documents options.trim cursor.rows))]))

/-- The first document of a query's rows: null when there is none or it counts as
false.  A list is trimmed item by item. -/
def firstDocument (trim : Option TrimOptions) : List Value → Value
  | [] => .null
  | first :: _ =>
      if first.isTrue then
        match first with
        | .list items => .list (Trim.documents trim items)
        | v => Trim.document trim v
      else .null

/-- Runs a query and returns its first document. -/
def returnOne (q : QueryInput) (options : FetchOptions) : Session Value := do
  let cursor ← executeWith q options.execution
  return firstDocument options.trim cursor.rows

/-- What a lookup gives: documents, or a cursor when that is asked for. -/
inductive Found where
  /-- Documents. -/
  | documents (r : ResultSet)
  /-- A cursor. -/
  | cursor (c : Cursor)
deriving Repr

/-- The options of the execution of a lookup. -/
def lookupExecution (options : FetchOptions) : Fields :=
  if options.limit.any (· ≠ 0) then
    (options.execution.setDefault "count" (.bool true)).setDefault "full_count" (.bool true)
  else options.execution

/-- The number of documents without the limit, in the statistics. -/
def fullCount (stats : Value) : Except Misuse Value :=
  if stats.isTrue then stats.lookup.map fun fields => fields.getD "full_count" else .ok .null

/-- Runs the query of a lookup. -/
def fetch (q : Query) (options : FetchOptions) : Session Found := do
  let execution := lookupExecution options
  let cursor ← executeWith (.prebuilt q) execution
  if options.returnCursor then return .cursor cursor
  let total ← Session.ofUse
    (if (execution.getD "full_count").isTrue then fullCount cursor.stats else .ok .null)
  .documents <$> Session.ofExcept
    (resultSet (Trim.documents options.trim cursor.rows) cursor.count total)

/-! ## Requests -/

/-- The query of a request; its records are logged. -/
def build (r : Request) : Session Query := do
  Session.notes r.records
  Session.ofExcept r.query

/-- Runs the query of a request and returns the rows. -/
def rowsOf (r : Request) : Session (List Value) := do
  let q ← build r
  let cursor ← execute (.prebuilt q) .null []
  return cursor.rows

/-- Runs a lookup and returns what it finds. -/
def fetchRequest (r : Request) (options : FetchOptions) : Session Found := do
  let q ← build r
  fetch q options

/-- Runs a lookup and returns its first document. -/
def firstOfRequest (r : Request) (options : FetchOptions) : Session Value := do
  let q ← build r
  returnOne (.prebuilt q) options

/-! ## Lookups -/

/-- What is handed in as criteria, if anything, as criteria. -/
def criteriaOf (input : FilterInput) : Except Failure (Option Criteria) :=
  if input.isAbsent then .ok none else (Failure.ofChecked "Criteria" input.toCriteria).map some

/-- All documents of a collection. -/
def fetchAll (db : Database) (collection : Value) (options : Option FetchOptions) :
    Session Found :=
  let options := db.fetchOptions options
  fetchRequest (.all collection (some options)) options

/-- The documents with some values. -/
def fetchByValues (db : Database) (collection : Value) (equalities : Equalities) (join : Join)
    (options : Option FetchOptions) (input : FilterInput) : Session Found := do
  let options := db.fetchOptions options
  let criteria ← Session.ofExcept (criteriaOf input)
  fetchRequest (.byValues collection equalities join (some options) criteria) options

/-- The first document with some values. -/
def fetchOneByValues (db : Database) (collection : Value) (equalities : Equalities) (join : Join)
    (options : Option FetchOptions) (input : FilterInput) : Session Value := do
  let options := db.fetchOptions options
  let criteria ← Session.ofExcept (criteriaOf input)
  firstOfRequest (.byValues collection equalities join (some options) criteria) options

/-- The documents that satisfy a filter. -/
def fetchByFilter (db : Database) (collection : Value) (input : FilterInput)
    (options : Option FetchOptions) : Session Found :=
  if input.isAbsent then Session.fail (.input .noCriteria)
  else
    let options := db.fetchOptions options
    fetchRequest (.byFilter collection input (some options)) options

/-- The record of a violated constraint. -/
def violationRecord (collection : String) (documents : List Value) : Log.Record :=
  ⟨.debug, "Unique constraint on '" ++ collection ++ "' violated by "
    ++ (Value.list documents).literal⟩

/-- Asks which documents a uniqueness constraint conflicts with. -/
def checkUnique (db : Database) (constraint : Option Uniqueness) : Session UniquenessReport := do
  let documents ← rowsOf (.conflicts constraint (some (db.fetchOptions none)))
  unless documents.isEmpty do
    Session.note (violationRecord ((constraint.map Uniqueness.collection).getD "") documents)
  return ⟨!documents.isEmpty, documents⟩

end Database

end DocQuery
