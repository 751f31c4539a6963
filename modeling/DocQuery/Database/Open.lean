import DocQuery.Database.Session
import DocQuery.Settings

/-!
# Opening databases

A client is made for the address of a server, and opens databases on it.  What a
caller leaves out comes from the settings; opening a database does not ask whether
it is there, and what names it or its user is sent as it is, of whatever kind.

A `Database` is an open database together with a handle on the system database,
if there is one, and what to log.
-/

namespace DocQuery

/-- An open database. -/
structure Database where
  /-- The handle on it. -/
  handle : Handle
  /-- The handle on the system database. -/
  system : Option Handle := none
  /-- What is logged. -/
  options : LogOptions := {}
deriving Repr

namespace Database

/-- The name of the system database. -/
def systemName : String := "_system"

/-- The name of the database. -/
def name (db : Database) : Value := db.handle.name

/-- Makes a client for a server; the one of the settings, when the address counts as
false. -/
def connect (settings : Settings) (hosts : Value) : Session Unit := do
  let hosts := if hosts.isTrue then hosts else settings.connection.host
  match ← Session.attempt (.client hosts) with
  | .ok () => Session.note ⟨.info, "ArangoDB client ready for " ++ hosts.inText⟩
  | .error fault =>
      let failure := Failure.notConnected hosts.inText fault.message
      Session.note ⟨.error, failure.message⟩
      Session.fail failure

/-- What a caller gave, or a setting where that is null. -/
def orSetting (given setting : Value) : Value := if given.isNull then setting else given

/-- Opens a database; what is null comes from the settings. -/
def openHandle (settings : Settings) (name user password : Value) : Session Handle := do
  let name := orSetting name settings.connection.database
  let user := orSetting user settings.connection.user
  let password := orSetting password settings.connection.password
  Session.note ⟨.debug,
    "Opening database handle '" ++ name.inText ++ "' as '" ++ user.inText ++ "'"⟩
  Session.ask (.database name user password)

/-- A field that has to be there. -/
def givenField (fields : Fields) (name : String) : Except Failure Value :=
  match fields.get? name with
  | some v => .ok v
  | none => .error (.noField name)

/-- A field of what describes a connection. -/
def configField (config : Value) (name : String) : Session Value :=
  Session.ofExcept <| match config.named with
    | .ok fields => givenField fields name
    | .error m => .error (.misuse m)

/-- Opens the database that an object describes, by default the one of the
settings, and the system database beside it.  A client is made unless there is one
already.  The settings' log options, which may be unusable, are read last. -/
def openWith (settings : Settings) (config : Value) (hasClient : Bool)
    (options : Option LogOptions) : Session Database := do
  let config := if config.isTrue then config else .object settings.connection.fields
  unless hasClient do
    connect settings (← configField config "host")
  let name ← configField config "db_name"
  let user ← configField config "user"
  let password ← configField config "password"
  let handle ← openHandle settings name user password
  let system ← openHandle settings (.str systemName) user password
  match options with
  | some options => return { handle, system := some system, options }
  | none =>
      let options ← Session.ofExcept (Failure.ofChecked "LogOptions" settings.logOptions)
      return { handle, system := some system, options }

end Database

end DocQuery
