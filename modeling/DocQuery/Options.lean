import DocQuery.Schema.Scalar

/-!
# Options and results

`TrimOptions` say which fields of a document are kept, `LogOptions` what a
database logs, and `FetchOptions` how documents are sorted, paged, trimmed and
returned.  A `ResultSet` holds the documents found, their number, and the number
there would be without a limit.
-/

namespace DocQuery

/-- Which fields of a document are kept. -/
structure TrimOptions where
  /-- Whether private fields are dropped. -/
  stripPrivate : Bool := false
  /-- The fields to drop. -/
  omitted : Option Texts := none
  /-- The only fields to keep. -/
  kept : Option Texts := none
deriving DecidableEq, Repr

namespace TrimOptions

/-- Reads the fields of trim options. -/
def readFields (fields : Fields) : Schema.Checked TrimOptions :=
  mk <$> Schema.optional Schema.truth fields "strip_private_props" false
    <*> Schema.nullableField Texts.read fields "omit"
    <*> Schema.nullableField Texts.read fields "keep"

/-- Reads trim options. -/
def read : Value → Schema.Checked TrimOptions := Schema.record readFields

/-- One or more texts as a value, or null. -/
def textsToValue : Option Texts → Value
  | none => .null
  | some texts => texts.toValue

/-- The options as an object. -/
def toValue (o : TrimOptions) : Value :=
  .object [("strip_private_props", .bool o.stripPrivate), ("omit", textsToValue o.omitted),
    ("keep", textsToValue o.kept)]

end TrimOptions

/-- What a database logs. -/
structure LogOptions where
  /-- Whether queries are logged for users to see. -/
  printQueries : Bool := false
  /-- Whether filters are logged for users to see. -/
  debugFilters : Bool := false
deriving DecidableEq, Repr

namespace LogOptions

/-- Reads the fields of log options. -/
def readFields (fields : Fields) : Schema.Checked LogOptions :=
  mk <$> Schema.optional Schema.truth fields "print_queries" false
    <*> Schema.optional Schema.truth fields "debug_filters" false

/-- Reads log options. -/
def read : Value → Schema.Checked LogOptions := Schema.record readFields

/-- The options as an object. -/
def toValue (o : LogOptions) : Value :=
  .object [("print_queries", .bool o.printQueries), ("debug_filters", .bool o.debugFilters)]

end LogOptions

/-- How documents are fetched. -/
structure FetchOptions where
  /-- The property to sort by. -/
  sortBy : Option String := none
  /-- The direction of sorting. -/
  sortOrder : Option String := none
  /-- How many documents are returned at most. -/
  limit : Option Nat := none
  /-- How many documents are skipped. -/
  offset : Option Nat := none
  /-- How documents are trimmed. -/
  trim : Option TrimOptions := none
  /-- Whether a cursor is returned instead of documents. -/
  returnCursor : Bool := false
  /-- Whether properties in filter texts are qualified. -/
  qualify : Bool := true
  /-- Whether the query is logged for users to see. -/
  printQuery : Bool := false
  /-- Whether the filters are logged for users to see. -/
  debugFilters : Bool := false
  /-- Further options of the execution. -/
  execution : Fields := []
deriving Repr

namespace FetchOptions

/-- Reads the fields of fetch options. -/
def readFields (fields : Fields) : Schema.Checked FetchOptions :=
  mk <$> Schema.nullableField Schema.text fields "sort_by"
    <*> Schema.nullableField Schema.text fields "sort_order"
    <*> Schema.nullableField Schema.count fields "limit"
    <*> Schema.nullableField Schema.count fields "offset"
    <*> Schema.nullableField TrimOptions.read fields "trim"
    <*> Schema.optional Schema.truth fields "return_cursor" false
    <*> Schema.optional Schema.truth fields "prefix_property_names" true
    <*> Schema.optional Schema.truth fields "print_query" false
    <*> Schema.optional Schema.truth fields "debug_filters" false
    <*> Schema.optional Schema.fieldsOf fields "query" []

/-- Reads fetch options. -/
def read : Value → Schema.Checked FetchOptions := Schema.record readFields

/-- A count as a value, or null. -/
def countToValue : Option Nat → Value
  | none => .null
  | some n => .int n

/-- Trim options as a value, or null. -/
def trimToValue : Option TrimOptions → Value
  | none => .null
  | some o => o.toValue

/-- The options as an object. -/
def toValue (o : FetchOptions) : Value :=
  .object [("sort_by", .ofText? o.sortBy), ("sort_order", .ofText? o.sortOrder),
    ("limit", countToValue o.limit), ("offset", countToValue o.offset),
    ("trim", trimToValue o.trim), ("return_cursor", .bool o.returnCursor),
    ("prefix_property_names", .bool o.qualify), ("print_query", .bool o.printQuery),
    ("debug_filters", .bool o.debugFilters), ("query", .object o.execution)]

end FetchOptions

/-- The documents found. -/
structure ResultSet where
  /-- The documents. -/
  documents : List Value := []
  /-- Their number. -/
  size : Option Int := none
  /-- The number there would be without a limit. -/
  total : Option Int := none
deriving Repr

namespace ResultSet

/-- Reads the fields of a result. -/
def readFields (fields : Fields) : Schema.Checked ResultSet :=
  mk <$> Schema.optional (Schema.each Schema.anything) fields "data" []
    <*> Schema.nullableField Schema.whole fields "size"
    <*> Schema.nullableField Schema.whole fields "total"

/-- Reads a result. -/
def read : Value → Schema.Checked ResultSet := Schema.record readFields

/-- A whole number as a value, or null. -/
def wholeToValue : Option Int → Value
  | none => .null
  | some n => .int n

/-- The result as an object. -/
def toValue (r : ResultSet) : Value :=
  .object [("data", .list r.documents), ("size", wholeToValue r.size),
    ("total", wholeToValue r.total)]

end ResultSet

end DocQuery
