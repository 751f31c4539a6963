import DocQuery.Log
import DocQuery.Text.LowerCase
import DocQuery.Text.Space
import DocQuery.Text.UpperCase

/-!
# Settings

Settings say which server to reach, as which user, and what to log.  They come
from environment variables, each with a value for when it is not set; a program may
set them to any value, and add further entries of its own.

A flag is set when its variable is one of four words, in any letter case and with
white space around it.  Settings are complete when the server, the user, the
database and all further entries count as true; an empty password is fine.
-/

namespace DocQuery

/-- How to reach a database. -/
structure Connection where
  /-- The address of the server. -/
  host : Value := .str "http://localhost:8529"
  /-- The user. -/
  user : Value := .str "root"
  /-- The user's password. -/
  password : Value := .str ""
  /-- The name of the database. -/
  database : Value := .str "_system"
  /-- Further entries. -/
  further : Fields := []
deriving Repr

namespace Connection

/-- The names of the entries, further ones left aside. -/
def names : List String := ["host", "user", "password", "db_name"]

/-- The connection as an object. -/
def fields (c : Connection) : Fields :=
  [("host", c.host), ("user", c.user), ("password", c.password), ("db_name", c.database)]
    ++ c.further

/-- The connection with some entries set anew. -/
def override (c : Connection) (entries : Fields) : Connection where
  host := (entries.get? "host").getD c.host
  user := (entries.get? "user").getD c.user
  password := (entries.get? "password").getD c.password
  database := (entries.get? "db_name").getD c.database
  further := c.further.merge (entries.filter fun entry => !names.contains entry.1)

end Connection

/-- All settings. -/
structure Settings where
  /-- How to reach the database. -/
  connection : Connection := {}
  /-- Whether queries are logged for users to see. -/
  printQueries : Value := .bool false
  /-- Whether filters are logged for users to see. -/
  debugFilters : Value := .bool false
  /-- The least level that is logged. -/
  level : String := "INFO"
deriving Repr

namespace Settings

/-! ## From the environment -/

/-- The words that set a flag. -/
def flagWords : List String := ["1", "true", "yes", "on"]

/-- Whether a text sets a flag. -/
def isSet (text : String) : Bool := flagWords.contains (Text.lowered (Text.trimmed text))

/-- Whether a variable sets a flag. -/
def flag (environment : String → Option String) (name : String) : Bool :=
  isSet ((environment name).getD "false")

/-- The settings of an environment. -/
def ofEnvironment (environment : String → Option String) : Settings :=
  let text (name absent : String) : Value := .str ((environment name).getD absent)
  { connection :=
      { host := text "ARANGO_HOST" "http://localhost:8529"
        user := text "ARANGO_USER" "root"
        password := text "ARANGO_PASSWORD" ""
        database := text "ARANGO_DB_NAME" "_system" }
    printQueries := .bool (flag environment "AQLKIT_PRINT_QUERIES")
    debugFilters := .bool (flag environment "AQLKIT_DEBUG_FILTERS")
    level := (environment "AQLKIT_LOG_LEVEL").getD "INFO" }

/-- What is logged as an object. -/
def loggingFields (s : Settings) : Fields :=
  [("print_queries", s.printQueries), ("debug_filters", s.debugFilters)]

/-- What a database opened with these settings logs. -/
def logOptions (s : Settings) : Schema.Checked LogOptions := LogOptions.readFields s.loggingFields

/-- The settings with some entries of both kinds set anew. -/
def override (s : Settings) (connection logging : Fields) : Settings :=
  { s with
    connection := s.connection.override connection
    printQueries := (logging.get? "print_queries").getD s.printQueries
    debugFilters := (logging.get? "debug_filters").getD s.debugFilters }

/-- The settings as an object. -/
def toValue (s : Settings) : Value :=
  .object [
    ("arango", .object s.connection.fields),
    ("logging", .object (s.loggingFields ++ [("level", .str s.level)]))]

/-! ## Completeness -/

/-- The variable of an entry. -/
def variableName (entry : String) : String := "ARANGO_" ++ Text.uppered entry

/-- The entries that have to count as true. -/
def needed (s : Settings) : Fields := s.connection.fields.filter fun entry => entry.1 ≠ "password"

/-- The variables of the needed entries that do not count as true. -/
def missing (s : Settings) : List String :=
  s.needed.filterMap fun (name, v) => if v.isTrue then none else some (variableName name)

/-- Whether the settings are complete. -/
def isComplete (s : Settings) : Bool := s.missing.isEmpty

/-- What is logged when the settings are checked. -/
def checkRecord (s : Settings) : Log.Record :=
  if s.isComplete then
    ⟨.info, "Configuration environment variables validated successfully."⟩
  else ⟨.error, "Missing ArangoDB environment variables: " ++ ", ".intercalate s.missing⟩

/-- What a check of the settings prints. -/
def checkLine (s : Settings) : String :=
  if s.isComplete then "✅ VALIDATION COMPLETE - Required environment variables are set."
  else "❌ VALIDATION FAILED - Missing required environment variables. See logs for details."

/-- The exit code of a check of the settings. -/
def checkExit (s : Settings) : Nat := if s.isComplete then 0 else 1

example : isSet " ON " = true := by decide +kernel

end Settings

end DocQuery
