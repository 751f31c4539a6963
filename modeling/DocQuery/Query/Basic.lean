import DocQuery.Schema.Scalar

/-!
# Queries

A query is its text together with the values of the parameters that the text
names.  A parameter is written `@name` in the text; a collection's parameter is
written with two such signs and bound under a name that starts with one.
-/

namespace DocQuery

/-- A query text and the values of its parameters. -/
structure Query where
  /-- The text. -/
  text : String
  /-- The values, in the order in which they were bound. -/
  binds : Fields := []
deriving Repr, Inhabited

namespace Query

/-- The names of the fields. -/
def fieldNames : List String := ["query", "bind_vars"]

/-- Reads the fields of a query. -/
def readFields (fields : Fields) : Schema.Checked Query :=
  mk <$> Schema.required Schema.text fields "query"
    <*> Schema.optional Schema.fieldsOf fields "bind_vars" []

/-- Reads a query. -/
def read : Value → Schema.Checked Query := Schema.record readFields

/-- The query as an object. -/
def toValue (q : Query) : Value := .object [("query", .str q.text), ("bind_vars", .object q.binds)]

end Query

end DocQuery
