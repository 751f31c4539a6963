import DocQuery.Schema.Scalar

/-!
# Named values

A named value pairs a property with the value that it should have.  The name is a
path, its parts between full stops; it is never blank, and white space around it
is cut off when it is read.
-/

namespace DocQuery

/-- A property and a value for it. -/
structure NamedValue where
  /-- The path of the property. -/
  name : String
  /-- The value. -/
  value : Value := .null
  /-- Whether the case of letters counts when texts are compared. -/
  caseSensitive : Bool := true
deriving Repr, Inhabited

namespace NamedValue

/-- Reads a property name. -/
def readName (v : Value) : Schema.Checked String :=
  (Schema.text v).andThen fun s =>
    if s = "" then .issue .emptyText
    else if Text.isBlank s then .issue .blankName
    else .ok (Text.trimmed s)

/-- Reads the fields of a named value. -/
def readFields (fields : Fields) : Schema.Checked NamedValue :=
  mk <$> Schema.required readName fields "name"
    <*> Schema.optional Schema.anything fields "value" .null
    <*> Schema.optional Schema.truth fields "case_sensitive" true

/-- Reads a named value. -/
def read : Value → Schema.Checked NamedValue := Schema.record readFields

/-- The named value as an object. -/
def toValue (p : NamedValue) : Value :=
  .object [("name", .str p.name), ("value", p.value), ("case_sensitive", .bool p.caseSensitive)]

/-- A named value with a checked name. -/
def named (name : String) (value : Value) : Schema.Checked NamedValue :=
  readFields [("name", .str name), ("value", value)]

/-- A named value with another say on whether case counts, which has to be checked. -/
def withCase (p : NamedValue) (caseSensitive : Value) : Schema.Checked NamedValue :=
  (fun b => { p with caseSensitive := b }) <$>
    (Schema.truth caseSensitive).under (.key "case_sensitive")

end NamedValue

end DocQuery
