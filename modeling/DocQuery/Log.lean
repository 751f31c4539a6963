import DocQuery.Options
import DocQuery.Query.Basic
import DocQuery.Shown

/-!
# Log records

Queries and the filters they are made from are logged, for developers unless the
options ask for users to see them.  Long values are shortened.
-/

namespace DocQuery

namespace Log

/-- How important a record is. -/
inductive Level where
  /-- For developers. -/
  | debug
  /-- For users. -/
  | info
  /-- Something was left out. -/
  | warning
  /-- Something failed. -/
  | error
deriving DecidableEq, Repr

/-- The name of a level. -/
def Level.name : Level → String
  | debug => "DEBUG"
  | info => "INFO"
  | warning => "WARNING"
  | error => "ERROR"

/-- One record. -/
structure Record where
  /-- How important it is. -/
  level : Level
  /-- What it says. -/
  message : String
deriving DecidableEq, Repr

/-- For users if they asked for it, else for developers. -/
def level (asked : Bool) : Level := if asked then .info else .debug

/-- The record of a query that was built. -/
def query (operation : String) (q : Query) (options : Option FetchOptions) : Record :=
  ⟨level (options.any fun o => o.printQuery || o.debugFilters),
    operation ++ ": " ++ q.text ++ " | bind_vars=" ++ (Value.object q.binds).shortened.inText⟩

/-- The record of the filters that a query is built from. -/
def filters (operation : String) (input : Shown) (options : Option FetchOptions) : Record :=
  ⟨level (options.any FetchOptions.debugFilters),
    operation ++ " filters: " ++ input.shortened.inText⟩

/-- The record of criteria that hold nothing. -/
def emptyCriteria : Record := ⟨.debug, "Criteria produced no filter expression"⟩

end Log

end DocQuery
