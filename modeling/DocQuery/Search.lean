import DocQuery.Join

/-!
# Searches

A search looks for terms in properties.  Both may be given as one text with
commas between the parts or as a list; white space around each part is cut off.
A part without characters is no property, but it is a term.
-/

namespace DocQuery

/-- Terms to look for in properties. -/
structure Search where
  /-- The properties. -/
  properties : Texts
  /-- The terms. -/
  terms : Texts
  /-- How the pairs of property and term are put together. -/
  join : Join := .any
deriving DecidableEq, Repr

namespace Search

/-- The parts of a text between commas, or of a list, without white space around. -/
def parts : Texts → List String
  | .one s => (Text.split ',' s).map Text.trimmed
  | .many texts => texts.map Text.trimmed

/-- The properties searched. -/
def propertyList (s : Search) : List String := (parts s.properties).filter (· ≠ "")

/-- The terms looked for. -/
def termList (s : Search) : List String := parts s.terms

/-- Reads the fields of a search. -/
def readFields (fields : Fields) : Schema.Checked Search :=
  mk <$> Schema.required Texts.read fields "properties"
    <*> Schema.required Texts.read fields "terms"
    <*> Join.readField fields

/-- Reads a search. -/
def read : Value → Schema.Checked Search := Schema.record readFields

/-- The search as messages show it. -/
def shown (s : Search) : Shown :=
  .record [("properties", .value s.properties.toValue), ("terms", .value s.terms.toValue),
    ("match", s.join.shown)]

/-- The search as an object. -/
def toValue (s : Search) : Value := s.shown.plain

end Search

end DocQuery
