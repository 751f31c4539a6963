import DocQuery.NamedValue
import DocQuery.Search

/-!
# Uniqueness constraints

A uniqueness constraint lists what must not be stored already: single named
values, and composite keys, whose values count only together.  A composite key
has at least one member, which the type says.

In input, `kind` tells the two forms apart.
-/

namespace DocQuery

/-- Named values that count only together. -/
structure CompositeKey where
  /-- The first member. -/
  first : NamedValue
  /-- The other members. -/
  others : List NamedValue := []
deriving Repr

namespace CompositeKey

/-- The tag of composite keys. -/
def tag : String := "composite"

/-- The members. -/
def members (k : CompositeKey) : List NamedValue := k.first :: k.others

/-- A composite key of a list of members. -/
def ofList : List NamedValue → Schema.Checked CompositeKey
  | [] => .issue .noItems
  | first :: others => .ok ⟨first, others⟩

end CompositeKey

/-- Reads a field that can only be the tag of its record. -/
def readTag (tag : String) (v : Value) : Schema.Checked String :=
  if v.text? = some tag then .ok tag else .issue .wrongTag

namespace CompositeKey

/-- Reads the members; there has to be one. -/
def readMembers (v : Value) : Schema.Checked CompositeKey :=
  (Schema.each NamedValue.read v).andThen ofList

/-- Reads the fields of a composite key. -/
def readFields (fields : Fields) : Schema.Checked CompositeKey :=
  (fun _ k => k) <$> Schema.optional (readTag tag) fields "kind" tag
    <*> Schema.required readMembers fields "composite"

/-- Reads a composite key. -/
def read : Value → Schema.Checked CompositeKey := Schema.record readFields

/-- The composite key as an object. -/
def toValue (k : CompositeKey) : Value :=
  .object [("kind", .str tag), ("composite", .list (k.members.map NamedValue.toValue))]

end CompositeKey

/-- The tag of single values. -/
def singleTag : String := "unique"

/-- Reads the fields of a single value of a uniqueness constraint. -/
def readSingleFields (fields : Fields) : Schema.Checked NamedValue :=
  (fun _ p => p) <$> Schema.optional (readTag singleTag) fields "kind" singleTag
    <*> Schema.required NamedValue.read fields "unique"

/-- Reads a single value of a uniqueness constraint. -/
def readSingle : Value → Schema.Checked NamedValue := Schema.record readSingleFields

/-- A single value of a uniqueness constraint as an object. -/
def singleToValue (p : NamedValue) : Value :=
  .object [("kind", .str singleTag), ("unique", p.toValue)]

/-- One part of a uniqueness constraint. -/
inductive Constraint where
  /-- A value that must not be stored. -/
  | single (p : NamedValue)
  /-- Values that must not be stored together. -/
  | composite (k : CompositeKey)
deriving Repr

namespace Constraint

/-- The named values. -/
def members : Constraint → List NamedValue
  | single p => [p]
  | composite k => k.members

/-- Reads a part by its tag. -/
def read : Value → Schema.Checked Constraint
  | .object fields => match Fields.get? fields "kind" with
    | none => .issue .noTag
    | some (.str "composite") =>
        composite <$> (CompositeKey.readFields fields).under (.key "composite")
    | some (.str "unique") => single <$> (readSingleFields fields).under (.key "unique")
    | some _ => .issue .unknownTag
  | _ => .issue .noFields

/-- The part as an object. -/
def toValue : Constraint → Value
  | single p => singleToValue p
  | composite k => k.toValue

end Constraint

/-- What must not be stored already in a collection. -/
structure Uniqueness where
  /-- The collection. -/
  collection : String
  /-- The parts; one that is stored is enough for a conflict. -/
  constraints : List Constraint := []
  /-- The key of a document that is left out. -/
  excludedKey : Option String := none
  /-- Whether texts are compared without regard to case. -/
  caseInsensitive : Bool := false
  /-- A search that conflicting documents also have to satisfy. -/
  search : Option Search := none
deriving Repr

namespace Uniqueness

/-- Reads the fields of a uniqueness constraint. -/
def readFields (fields : Fields) : Schema.Checked Uniqueness :=
  mk <$> Schema.required Schema.text fields "collection"
    <*> Schema.optional (Schema.each Constraint.read) fields "constraints" []
    <*> Schema.nullableField Schema.text fields "exclude_document_key"
    <*> Schema.optional Schema.truth fields "case_insensitive" false
    <*> Schema.nullableField Search.read fields "search"

/-- Reads a uniqueness constraint. -/
def read : Value → Schema.Checked Uniqueness := Schema.record readFields

/-- The uniqueness constraint as messages show it. -/
def shown (u : Uniqueness) : Shown :=
  .record [("collection", .value (.str u.collection)),
    ("constraints", .value (.list (u.constraints.map Constraint.toValue))),
    ("exclude_document_key", .value (.ofText? u.excludedKey)),
    ("case_insensitive", .value (.bool u.caseInsensitive)),
    ("search", Shown.ofOption Search.shown u.search)]

/-- The uniqueness constraint as an object. -/
def toValue (u : Uniqueness) : Value := u.shown.plain

end Uniqueness

/-- What a uniqueness check found. -/
structure UniquenessReport where
  /-- Whether the constraint is violated. -/
  violated : Bool
  /-- The conflicting documents. -/
  documents : List Value := []
deriving Repr

namespace UniquenessReport

/-- Reads the fields of a report. -/
def readFields (fields : Fields) : Schema.Checked UniquenessReport :=
  mk <$> Schema.required Schema.truth fields "violates_unique_constraint"
    <*> Schema.optional (Schema.each Schema.anything) fields "documents" []

/-- Reads a report. -/
def read : Value → Schema.Checked UniquenessReport := Schema.record readFields

/-- The report as an object. -/
def toValue (r : UniquenessReport) : Value :=
  .object [("violates_unique_constraint", .bool r.violated), ("documents", .list r.documents)]

end UniquenessReport

end DocQuery
