import DocQuery.Cli.Command
import DocQuery.Cli.Display
import DocQuery.Cli.NamedPair
import DocQuery.Database.Query
import DocQuery.Structure.Provision
import DocQuery.Text.Terminal

/-!
# Running commands

A command is a session that ends with what is printed and an exit code.  The exit
code is 0 for success, 1 for a failure or a refusal, and 2 for arguments that are
wrong; a failure is printed as an error and ends nothing else.

* Finding documents and checking uniqueness first build their query.  A dry run
  prints it; otherwise a database is opened and asked.
* A composed condition and a question are printed without terminal sequences.
* Emptying a database asks first, unless told not to.  Anything but yes and no is
  asked again, an empty line is no, and so is the end of the input.

`World` is what a command sees besides its arguments: the settings, the files, the
lines of the input, and what the terminal shows of a text.
-/

namespace DocQuery

namespace Cli

/-- What a command sees besides its arguments. -/
structure World where
  /-- The settings. -/
  settings : Settings := {}
  /-- The text of the file that a path leads to. -/
  file : String → Except FileFault String := fun _ => .error .missing
  /-- The lines of the input. -/
  input : List String := []
  /-- What is shown of a text. -/
  terminal : Terminal := .still

/-- How a command ends. -/
inductive Finish where
  /-- The arguments are wrong. -/
  | usage (e : UsageError)
  /-- The level of logging is unknown. -/
  | noLevel (level : String)
  /-- It ends with an exit code after printing something. -/
  | exited (code : Nat) (output : Output)
deriving DecidableEq, Repr

namespace Finish

/-- The exit code. -/
def code : Finish → Nat
  | usage _ => 2
  | noLevel _ => 1
  | exited code _ => code

/-- What is printed. -/
def output : Finish → Output
  | exited _ output => output
  | _ => {}

/-- Puts plain text in front of what is printed. -/
def afterText (text : String) : Finish → Finish
  | exited code output => exited code { output with text := text ++ output.text }
  | finish => finish

end Finish

/-! ## Texts from outside -/

/-- Line breaks of all kinds as line feeds. -/
def unifyBreaks : List Char → List Char
  | [] => []
  | '\r' :: '\n' :: rest => '\n' :: unifyBreaks rest
  | '\r' :: rest => '\n' :: unifyBreaks rest
  | c :: rest => c :: unifyBreaks rest

/-- The lines of an input; a last line without characters is none. -/
def linesOf (text : String) : List String :=
  let parts := (Text.splitOn '\n' (unifyBreaks text.toList)).map String.ofList
  if parts.getLast? = some "" then parts.dropLast else parts

/-! ## Failures -/

/-- Ends with success. -/
def succeed (output : Output) : Session Finish := return .exited 0 output

/-- Ends with an error that says what failed. -/
def failed (what message : String) : Session Finish :=
  return .exited 1 (.markup (errorMarkup (what ++ ": " ++ message)))

/-- Prints a failure as an error. -/
def reporting (what : String) (s : Session Finish) : Session Finish :=
  s.recover fun e => failed what e.message

/-- Goes on with pairs that were read. -/
def withPairs {α : Type} (what : String) (pairs : Except PairError α) (next : α → Session Finish) :
    Session Finish :=
  match pairs with
  | .ok a => next a
  | .error (.malformed pair) => return .usage (.notAPair pair)
  | .error (.unreadable e) => failed what e.message

/-- Opens the database of a command. -/
def openTarget (settings : Settings) (t : Target) : Session Database := do
  Database.connect settings (.str t.host)
  Database.openWith settings
    (.object [("host", .str t.host), ("user", .str t.user), ("password", .str t.password),
      ("db_name", .str t.database)])
    true none

/-! ## Finding documents -/

namespace FindOptions

/-- The options of the lookup. -/
def fetchOptions (o : FindOptions) : FetchOptions where
  sortBy := o.sortBy
  sortOrder := o.sortOrder
  limit := o.limit
  offset := o.offset
  qualify := o.qualify
  trim := if o.stripPrivate then some { stripPrivate := true } else none

/-- The filter: one condition, or several joined. -/
def filter? (o : FindOptions) : Option Filter :=
  match o.filters with
  | [] => none
  | [condition] => some (.text condition)
  | conditions => some (.clauses ⟨conditions, o.join, o.qualify⟩)

/-- The search, if there are properties and terms. -/
def search? (o : FindOptions) : Option Search :=
  match o.searchProperties.filter (· ≠ ""), o.searchTerms.filter (· ≠ "") with
  | some properties, some terms => some ⟨.one properties, .one terms, o.join⟩
  | _, _ => none

/-- The criteria, if there is a filter or a search. -/
def criteria? (o : FindOptions) : Option Criteria :=
  if o.filter?.any Filter.isGiven || o.search?.isSome then
    some { filter := o.filter?, search := o.search?, join := o.join }
  else none

/-- What is wanted, with the named values that were read. -/
def request (o : FindOptions) (properties : List NamedValue) : Request :=
  match properties, o.criteria? with
  | [], none => .all (.str o.collection) (some o.fetchOptions)
  | [], some criteria => .byFilter (.str o.collection) (.criteria criteria) (some o.fetchOptions)
  | properties, criteria =>
      .byValues (.str o.collection) (.many properties) o.join (some o.fetchOptions) criteria

/-- Asks a database. -/
def fetch (o : FindOptions) (db : Database) (properties : List NamedValue) :
    Session Database.Found :=
  match properties, o.criteria? with
  | [], none => db.fetchAll (.str o.collection) (some o.fetchOptions)
  | [], some criteria =>
      db.fetchByFilter (.str o.collection) (.criteria criteria) (some o.fetchOptions)
  | properties, criteria =>
      db.fetchByValues (.str o.collection) (.many properties) o.join (some o.fetchOptions)
        (match criteria with
          | some criteria => .criteria criteria
          | none => .other .null)

/-- What is printed of what was found. -/
def foundOutput (o : FindOptions) : Database.Found → Output
  | .documents r =>
      documentsOutput r.documents o.collection (r.total.elim .null .int) o.format
  | .cursor c => documentsOutput c.rows o.collection .null o.format

/-- What failed, in words. -/
def failureTitle : String := "Query failed"

/-- Finds documents with the named values that were read. -/
def runWith (world : World) (o : FindOptions) (properties : List NamedValue) :
    Session Finish := do
  let q ← Database.build (o.request properties)
  if o.dryRun then succeed (.one (queryPanel q world.terminal))
  else
    let db ← openTarget world.settings o.target
    succeed (o.foundOutput (← o.fetch db properties))

/-- Finds documents. -/
def run (world : World) (o : FindOptions) : Session Finish :=
  withPairs failureTitle (o.pairs.mapM readPair) fun properties =>
    reporting failureTitle (runWith world o properties)

end FindOptions

/-! ## Checking uniqueness -/

namespace UniqueOptions

/-- Reads the parts of the constraint: single values first. -/
def readConstraints (o : UniqueOptions) : Except PairError (List Constraint) := do
  let singles ← o.pairs.mapM readPair
  let groups ← o.groups.mapM readGroup
  return singles.map .single ++ groups.filterMap fun members =>
    match members with
    | first :: others => some (.composite ⟨first, others⟩)
    | [] => none

/-- The constraint of the parts that were read. -/
def constraint (o : UniqueOptions) (constraints : List Constraint) : Uniqueness where
  collection := o.collection
  constraints := constraints
  excludedKey := o.excludedKey
  caseInsensitive := o.caseInsensitive

/-- What is printed of a report. -/
def reportOutput (r : UniquenessReport) : Output :=
  if r.violated then
    .markup ("[yellow]Unique constraint violated by:[/yellow] "
      ++ ", ".intercalate (r.documents.map Value.inText))
  else .markup "[green]No conflicting documents found.[/green]"

/-- What failed, in words. -/
def failureTitle : String := "Unique constraint check failed"

/-- Checks the parts that were read. -/
def runWith (world : World) (o : UniqueOptions) (constraints : List Constraint) :
    Session Finish := do
  let u := o.constraint constraints
  let q ← Database.build (.conflicts (some u) none)
  if o.dryRun then succeed (.one (queryPanel q world.terminal))
  else
    let db ← openTarget world.settings o.target
    succeed (reportOutput (← db.checkUnique (some u)))

/-- Checks uniqueness. -/
def run (world : World) (o : UniqueOptions) : Session Finish :=
  withPairs failureTitle o.readConstraints fun constraints =>
    reporting failureTitle (runWith world o constraints)

end UniqueOptions

/-! ## Structures -/

/-- Reads the structure in a file. -/
def loadStructure (world : World) (path : String) : Except Failure Structure := do
  let text ← (world.file path).mapError (.file path)
  let v ← (Json.readChars (unifyBreaks text.toList)).mapError .unreadable
  Failure.ofChecked "DbStructure" (Structure.read v)

/-- Compares a database with the structure in a file. -/
def runValidate (world : World) (path : String) (t : Target) : Session Finish :=
  reporting "Structure validation failed" do
    let s ← Session.ofExcept (loadStructure world path)
    let db ← openTarget world.settings t
    db.requireSystem
    succeed (structureOutput (← db.validate (some s)))

/-- Provides the structure in a file. -/
def runCreate (world : World) (path : String) (clearance : Option Clearance) (t : Target) :
    Session Finish :=
  reporting "Structure creation failed" do
    let s ← Session.ofExcept (loadStructure world path)
    let db ← openTarget world.settings t
    db.requireSystem
    let report ← db.provide (some s) clearance
    return .exited (if hasFailed report then 1 else 0) (provisionOutput report)

/-! ## Asking -/

/-- The answer that a line gives: yes, no, or neither. -/
def answerOf (line : String) : Option Bool :=
  match Text.trimmed (Text.lowered line) with
  | "y" | "yes" => some true
  | "n" | "no" | "" => some false
  | _ => none

/-- Asks until a line gives an answer: what is printed, and the answer. -/
def ask (question : String) : List String → String × Bool
  | [] => (question, false)
  | line :: rest =>
      let shown := question ++ line ++ "\n"
      match answerOf line with
      | some answer => (shown, answer)
      | none =>
          let (more, answer) := ask question rest
          (shown ++ "Error: invalid input\n" ++ more, answer)

/-- The question asked before a database is emptied. -/
def clearQuestion (method : Clearance) (t : Target) : String :=
  Text.withoutSequences
    ("Clear database '" ++ t.database ++ "' using " ++ method.text ++ "? [y/N]: ")

/-- Empties a database. -/
def clearTarget (settings : Settings) (method : Clearance) (t : Target) : Session Finish :=
  reporting "Clearing database failed" do
    let db ← openTarget settings t
    db.requireSystem
    db.clear method
    succeed (.markup ("[green]Database '" ++ t.database ++ "' cleared (" ++ method.text
      ++ ").[/green]"))

/-- Empties a database, asking first unless it is agreed already. -/
def runClear (world : World) (method : Clearance) (agreed : Bool) (t : Target) : Session Finish :=
  if agreed then clearTarget world.settings method t
  else
    match ask (clearQuestion method t) world.input with
    | (shown, true) => Finish.afterText shown <$> clearTarget world.settings method t
    | (shown, false) => return .exited 1 { text := shown }

/-! ## All commands -/

/-- The line that composing a condition prints. -/
def composedLine (condition : String) : String :=
  Text.withoutSequences (Clause.composed condition) ++ "\n"

/-- Runs a command. -/
def Command.run (world : World) : Command → Session Finish
  | .compose condition => succeed { text := composedLine condition }
  | .find o => o.run world
  | .unique o => o.run world
  | .validate path t => runValidate world path t
  | .create path clearance t => runCreate world path clearance t
  | .clear method agreed t => runClear world method agreed t

/-- Reads the arguments and runs the command they name. -/
def run (world : World) (args : List String) : Session Finish :=
  match Invocation.read world.settings args with
  | .error e => return .usage e
  | .ok invocation =>
      if isLevel invocation.level then
        match invocation.command with
        | .ok command => command.run world
        | .error e => return .usage e
      else return .noLevel invocation.level

end Cli

end DocQuery
