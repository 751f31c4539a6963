import DocQuery.Database.Open

/-!
# The registry of open databases

A registry holds one client's credentials and the databases opened with it.  A
database is opened the first time its name is asked for and is the same from then
on; all databases share the handle on the system database and the log options.

Any value but a list or an object can be a name.  Names are told apart as the keys of
a dictionary are: a number and a text are two names, and a number and what is worth as
much are one.  When opening a database fails, the registry is as it was.
-/

namespace DocQuery

/-- The databases opened with one client. -/
structure Registry where
  /-- The user. -/
  user : Value
  /-- The user's password. -/
  password : Value
  /-- What is logged. -/
  options : LogOptions
  /-- The handle on the system database. -/
  system : Handle
  /-- The open databases by name, in the order in which they were opened. -/
  databases : List (Value × Database) := []
deriving Repr

/-- What a registry is made with; what is null is left out. -/
structure RegistryOptions where
  /-- The address of the server. -/
  hosts : Value := .null
  /-- The user. -/
  user : Value := .null
  /-- The user's password. -/
  password : Value := .null
  /-- The databases to open at once: a text is one name, and anything else lists
  them. -/
  databases : Value := .null
  /-- What is logged. -/
  options : LogOptions := {}
  /-- Whether there is a client already. -/
  hasClient : Bool := false
deriving Repr

namespace RegistryOptions

/-- The names of the databases to open at once. -/
def names (o : RegistryOptions) : Except Misuse (List Value) :=
  match o.databases with
  | .str name => .ok [.str name]
  | v => if v.isTrue then v.listed else .ok []

end RegistryOptions

namespace Registry

/-- The names of the open databases, in the order in which they were opened. -/
def names (r : Registry) : List Value := r.databases.map Prod.fst

/-- The open database of a name. -/
def find? (r : Registry) (name : Value) : Option Database :=
  (r.databases.find? fun entry => entry.1.alike name).map Prod.snd

/-- Opens a database and remembers it. -/
def openNew (settings : Settings) (r : Registry) (name : Value) : Session (Database × Registry) :=
  do
  Session.note ⟨.info, "Adding '" ++ name.inText ++ "' to pool"⟩
  let handle ← Database.openHandle settings name r.user r.password
  let db : Database := { handle, system := some r.system, options := r.options }
  return (db, { r with databases := r.databases ++ [(name, db)] })

/-- The database of a name, opened if it is not open yet. -/
def database (settings : Settings) (r : Registry) (name : Value) : Session (Database × Registry) :=
  do
  let _ ← Session.ofUse name.fieldName
  match r.find? name with
  | some db => return (db, r)
  | none => openNew settings r name

/-- The handle on the database of a name. -/
def handle (settings : Settings) (r : Registry) (name : Value) : Session (Handle × Registry) := do
  let (db, r) ← r.database settings name
  return (db.handle, r)

/-- Names a collection of a database.  The database is open afterwards even when that
fails. -/
def collection (settings : Settings) (r : Registry) (name collection : Value) :
    Session (Except Failure Value × Registry) := do
  let (_, r) ← r.database settings name
  let named : Session (Except Failure Value) := do
    Session.ask (.collection collection)
    return .ok collection
  return (← named.recover fun e => return .error e, r)

/-- Opens several databases. -/
def openAll (settings : Settings) (r : Registry) : List Value → Session Registry
  | [] => return r
  | name :: rest => do
      let (_, r) ← r.database settings name
      r.openAll settings rest

/-- Makes a registry. -/
def create (settings : Settings) (o : RegistryOptions) : Session Registry := do
  let user := Database.orSetting o.user settings.connection.user
  let password := Database.orSetting o.password settings.connection.password
  unless o.hasClient do
    Database.connect settings o.hosts
  let system ← Database.openHandle settings (.str Database.systemName) user password
  let names ← Session.ofUse o.names
  Registry.openAll settings { user, password, options := o.options, system } names

end Registry

end DocQuery
