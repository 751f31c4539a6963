import DocQuery.Schema.Scalar

/-!
# Selecting and updating documents

An `Identifier` selects documents by key or, with a property, by the value of
that property.  A `DocumentUpdate` says which document or documents to change and
what to put into them.  `ElementUpdate` says how an element of a list is changed.
-/

namespace DocQuery

/-- The value of an identifier: a text or a whole number. -/
inductive KeyValue where
  /-- A text. -/
  | text (s : String)
  /-- A whole number. -/
  | whole (n : Int)
deriving DecidableEq, Repr

namespace KeyValue

/-- The key that the value is. -/
def key : KeyValue → String
  | text s => s
  | whole n => toString n

/-- The value as a value. -/
def toValue : KeyValue → Value
  | text s => .str s
  | whole n => .int n

/-- Reads a text, or what a whole number may be read from. -/
def read (v : Value) : Schema.Checked KeyValue :=
  (text <$> (Schema.text v).under (.key "str")).or (whole <$> (Schema.whole v).under (.key "int"))

end KeyValue

/-- What selects documents. -/
structure Identifier where
  /-- The key, or the value of the property. -/
  value : KeyValue
  /-- The property. -/
  property : Option String := none
deriving DecidableEq, Repr

namespace Identifier

/-- The property that selects; one without characters does not. -/
def selector? (i : Identifier) : Option String := i.property.filter (· ≠ "")

/-- Reads the fields of an identifier. -/
def readFields (fields : Fields) : Schema.Checked Identifier :=
  mk <$> Schema.required KeyValue.read fields "value"
    <*> Schema.nullableField Schema.text fields "property"

/-- Reads an identifier. -/
def read : Value → Schema.Checked Identifier := Schema.record readFields

/-- The identifier as an object. -/
def toValue (i : Identifier) : Value :=
  .object [("value", i.value.toValue), ("property", .ofText? i.property)]

end Identifier

/-- What an update selects documents by. -/
inductive UpdateKey where
  /-- A key. -/
  | key (s : String)
  /-- An identifier. -/
  | identifier (i : Identifier)
deriving DecidableEq, Repr

namespace UpdateKey

/-- Reads a key or an identifier. -/
def read (v : Value) : Schema.Checked UpdateKey :=
  (key <$> (Schema.text v).under (.key "str")).or
    (identifier <$> (Identifier.read v).under (.key "Identifier"))

/-- The key as a value. -/
def toValue : UpdateKey → Value
  | key s => .str s
  | identifier i => i.toValue

end UpdateKey

/-- A change to a document, or to those an identifier selects. -/
structure DocumentUpdate where
  /-- What is selected. -/
  key : UpdateKey
  /-- What is put into it. -/
  data : Fields
deriving Repr

namespace DocumentUpdate

/-- Reads the fields of an update. -/
def readFields (fields : Fields) : Schema.Checked DocumentUpdate :=
  mk <$> Schema.required UpdateKey.read fields "key"
    <*> Schema.required Schema.fieldsOf fields "data"

/-- Reads an update. -/
def read : Value → Schema.Checked DocumentUpdate := Schema.record readFields

/-- The update as an object. -/
def toValue (u : DocumentUpdate) : Value :=
  .object [("key", u.key.toValue), ("data", .object u.data)]

end DocumentUpdate

/-- How an element of a list is changed. -/
inductive ElementUpdate where
  /-- The new fields are set in it. -/
  | merge
  /-- The new fields stand in its place. -/
  | replace
deriving DecidableEq, Repr

namespace ElementUpdate

/-- The way that a text writes. -/
def ofText? : String → Option ElementUpdate
  | "merge" => some merge
  | "replace" => some replace
  | _ => none

end ElementUpdate

end DocQuery
