import DocQuery.Cli.Arguments
import DocQuery.Join
import DocQuery.Settings
import DocQuery.Structure.Basic

/-!
# Commands

There are two groups of commands.  `query` composes conditions, finds documents
and checks uniqueness; `db` compares a database with a structure, provides the
structure, and empties the database.

An `Invocation` is a command with the level of logging asked for.  The level comes
before the group, so it is known even when the arguments behind the group are
wrong.
-/

namespace DocQuery

namespace Cli

/-! ## Commands and what they are given -/

/-- The database a command works on. -/
structure Target where
  /-- The address of the server. -/
  host : String
  /-- The user. -/
  user : String
  /-- The user's password. -/
  password : String
  /-- The name of the database. -/
  database : String
deriving DecidableEq, Repr

/-- What finding documents is given. -/
structure FindOptions where
  /-- The collection. -/
  collection : String
  /-- Conditions. -/
  filters : List String := []
  /-- Named values. -/
  pairs : List String := []
  /-- How they are joined. -/
  join : Join := .any
  /-- The properties to search. -/
  searchProperties : Option String := none
  /-- The terms to search for. -/
  searchTerms : Option String := none
  /-- Whether properties in conditions are qualified. -/
  qualify : Bool := true
  /-- The property to sort by. -/
  sortBy : Option String := none
  /-- The direction of sorting. -/
  sortOrder : Option String := none
  /-- How many documents are returned at most. -/
  limit : Option Nat := none
  /-- How many documents are skipped. -/
  offset : Option Nat := none
  /-- Whether private fields are dropped. -/
  stripPrivate : Bool := false
  /-- Whether the query is only shown. -/
  dryRun : Bool := false
  /-- The form of the output. -/
  format : String := "table"
  /-- The database. -/
  target : Target
deriving DecidableEq, Repr

/-- What checking uniqueness is given. -/
structure UniqueOptions where
  /-- The collection. -/
  collection : String
  /-- Single values. -/
  pairs : List String := []
  /-- Composite keys. -/
  groups : List String := []
  /-- The key of a document that is left out. -/
  excludedKey : Option String := none
  /-- Whether texts are compared without regard to case. -/
  caseInsensitive : Bool := false
  /-- Whether the query is only shown. -/
  dryRun : Bool := false
  /-- The database. -/
  target : Target
deriving DecidableEq, Repr

/-- A command. -/
inductive Command where
  /-- Composing a condition. -/
  | compose (condition : String)
  /-- Finding documents. -/
  | find (o : FindOptions)
  /-- Checking uniqueness. -/
  | unique (o : UniqueOptions)
  /-- Comparing with the structure in a file. -/
  | validate (file : String) (target : Target)
  /-- Providing the structure in a file. -/
  | create (file : String) (clearance : Option Clearance) (target : Target)
  /-- Emptying a database, with or without asking. -/
  | clear (method : Clearance) (agreed : Bool) (target : Target)
deriving DecidableEq, Repr

/-! ## Options -/

/-- An option with a value. -/
def valued (spellings : List String) : OptionForm := ⟨spellings, true⟩

/-- An option without a value. -/
def plain (spellings : List String) : OptionForm := ⟨spellings, false⟩

/-- The options that choose the database. -/
def targetForms : List OptionForm :=
  [valued ["--host", "-h"], valued ["--username", "-u"], valued ["--password", "-p"],
    valued ["--database", "-d"]]

/-- The options of finding documents. -/
def findForms : List OptionForm :=
  [valued ["--filter", "-f"], valued ["--where", "-w"], valued ["--match", "-m"],
    valued ["--search-props"], valued ["--search-terms"], plain ["--prefix"],
    plain ["--no-prefix"], valued ["--sort-by"], valued ["--sort-order"],
    valued ["--limit", "-n"], valued ["--offset"], plain ["--strip-private"],
    plain ["--dry-run"], valued ["--output", "-o"]] ++ targetForms

/-- The options of checking uniqueness; `-u` stands for a value here. -/
def uniqueForms : List OptionForm :=
  [valued ["--unique", "-u"], valued ["--composite", "-c"], valued ["--exclude-key", "-x"],
    plain ["--case-insensitive", "-i"], plain ["--dry-run"], valued ["--host", "-h"],
    valued ["--username"], valued ["--password", "-p"], valued ["--database", "-d"]]

/-- The options of comparing with a structure. -/
def validateForms : List OptionForm := valued ["--file", "-f"] :: targetForms

/-- The options of providing a structure. -/
def createForms : List OptionForm := valued ["--file", "-f"] :: valued ["--clear"] :: targetForms

/-- The options of emptying a database. -/
def clearForms : List OptionForm :=
  valued ["--method", "-m"] :: plain ["--yes", "-y"] :: targetForms

/-- The options in front of a group. -/
def rootForms : List OptionForm := [valued ["--log-level", "-l"]]

/-! ## Reading commands -/

/-- A setting, or the value of an option. -/
def settingOr (a : Arguments) (name : String) (setting : Value) : String :=
  (a.value? name).getD setting.inText

/-- The database that options choose. -/
def readTarget (settings : Settings) (a : Arguments) : Target where
  host := settingOr a "--host" settings.connection.host
  user := settingOr a "--username" settings.connection.user
  password := settingOr a "--password" settings.connection.password
  database := settingOr a "--database" settings.connection.database

/-- Reads the arguments of finding documents. -/
def readFind (settings : Settings) (args : List String) : Except UsageError Command := do
  let a ← Arguments.read findForms false args
  let collection ← a.onlyWord "collection"
  let join ← a.choice? "--match" Join.ofText?
  let limit ← a.count? "--limit"
  let offset ← a.count? "--offset"
  return .find {
    collection
    filters := a.values "--filter"
    pairs := a.values "--where"
    join := join.getD .any
    searchProperties := a.value? "--search-props"
    searchTerms := a.value? "--search-terms"
    qualify := a.switch "--prefix" "--no-prefix" true
    sortBy := a.value? "--sort-by"
    sortOrder := a.value? "--sort-order"
    limit
    offset
    stripPrivate := a.has "--strip-private"
    dryRun := a.has "--dry-run"
    format := (a.value? "--output").getD "table"
    target := readTarget settings a }

/-- Reads the arguments of checking uniqueness. -/
def readUnique (settings : Settings) (args : List String) : Except UsageError Command := do
  let a ← Arguments.read uniqueForms false args
  let collection ← a.onlyWord "collection"
  return .unique {
    collection
    pairs := a.values "--unique"
    groups := a.values "--composite"
    excludedKey := a.value? "--exclude-key"
    caseInsensitive := a.has "--case-insensitive"
    dryRun := a.has "--dry-run"
    target := readTarget settings a }

/-- Reads the arguments of composing a condition. -/
def readCompose (args : List String) : Except UsageError Command := do
  let a ← Arguments.read [] false args
  return .compose (← a.onlyWord "filter_string")

/-- Reads the arguments of comparing with a structure. -/
def readValidate (settings : Settings) (args : List String) : Except UsageError Command := do
  let a ← Arguments.read validateForms false args
  a.noWord
  return .validate (← a.required "--file") (readTarget settings a)

/-- Reads the arguments of providing a structure. -/
def readCreate (settings : Settings) (args : List String) : Except UsageError Command := do
  let a ← Arguments.read createForms false args
  a.noWord
  let clearance ← a.choice? "--clear" Clearance.ofText?
  return .create (← a.required "--file") clearance (readTarget settings a)

/-- Reads the arguments of emptying a database. -/
def readClear (settings : Settings) (args : List String) : Except UsageError Command := do
  let a ← Arguments.read clearForms false args
  a.noWord
  let method ← a.choice? "--method" Clearance.ofText?
  return .clear (method.getD .deleteData) (a.has "--yes") (readTarget settings a)

/-- A reader of the arguments behind the name of a command. -/
abbrev Reader := List String → Except UsageError Command

/-- The groups and their commands. -/
def groups (settings : Settings) : List (String × List (String × Reader)) := [
  ("query", [("compose", readCompose), ("find", readFind settings),
    ("unique", readUnique settings)]),
  ("db", [("validate", readValidate settings), ("create", readCreate settings),
    ("clear", readClear settings)])]

/-- Reads the command of a group. -/
def readGroupCommand (commands : List (String × Reader)) (args : List String) :
    Except UsageError Command := do
  let a ← Arguments.read [] true args
  match a.words with
  | [] => .error .noCommand
  | name :: rest => match commands.lookup name with
    | some reader => reader rest
    | none => .error (.unknownCommand name)

/-- A command and the level of logging. -/
structure Invocation where
  /-- The level of logging. -/
  level : String
  /-- The command, or what is wrong with the arguments behind the group. -/
  command : Except UsageError Command

/-- Reads all arguments. -/
def Invocation.read (settings : Settings) (args : List String) : Except UsageError Invocation := do
  let a ← Arguments.read rootForms true args
  match a.words with
  | [] => .error .noCommand
  | name :: rest => match (groups settings).lookup name with
    | some commands =>
        return {
          level := (a.value? "--log-level").getD settings.level
          command := readGroupCommand commands rest }
    | none => .error (.unknownCommand name)

/-! ## Levels of logging -/

/-- The names of the levels. -/
def levelNames : List String :=
  ["TRACE", "DEBUG", "INFO", "SUCCESS", "WARNING", "ERROR", "CRITICAL"]

/-- Whether a text names a level, in any letter case. -/
def isLevel (text : String) : Bool := levelNames.contains (Text.uppered text)

example : isLevel "debug" = true := by decide +kernel
example : isLevel "" = false := by decide +kernel

end Cli

end DocQuery
