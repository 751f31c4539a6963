import DocQuery.Constraint
import DocQuery.Document
import DocQuery.Filter.Basic
import DocQuery.Filter.Locate
import DocQuery.Options
import DocQuery.Structure.Basic

/-!
# Kinds of records

`Record` is any record of this library, and `RecordKind` names the kinds.  A kind
reads its records from values, and every record can be shown and be turned back
into a value.
-/

namespace DocQuery

/-- A record. -/
inductive Record where
  /-- An occurrence of a marker. -/
  | occurrence (r : Occurrence)
  /-- A named value. -/
  | namedValue (r : NamedValue)
  /-- A composite key. -/
  | compositeKey (r : CompositeKey)
  /-- A single value of a uniqueness constraint. -/
  | singleValue (r : NamedValue)
  /-- A query. -/
  | query (r : Query)
  /-- A search. -/
  | search (r : Search)
  /-- A list of conditions. -/
  | clauses (r : ClauseList)
  /-- Criteria. -/
  | criteria (r : Criteria)
  /-- A uniqueness constraint. -/
  | uniqueness (r : Uniqueness)
  /-- What a uniqueness check found. -/
  | uniquenessReport (r : UniquenessReport)
  /-- Trim options. -/
  | trimOptions (r : TrimOptions)
  /-- Log options. -/
  | logOptions (r : LogOptions)
  /-- Fetch options. -/
  | fetchOptions (r : FetchOptions)
  /-- A result. -/
  | resultSet (r : ResultSet)
  /-- An identifier. -/
  | identifier (r : Identifier)
  /-- An update. -/
  | documentUpdate (r : DocumentUpdate)
  /-- An edge definition. -/
  | edgeDefinition (r : EdgeDefinition)
  /-- An edge. -/
  | edge (r : Edge)
  /-- A graph definition. -/
  | graphDefinition (r : GraphDefinition)
  /-- A structure. -/
  | structure_ (r : Structure)
  /-- A presence. -/
  | presence (r : Presence)
  /-- What of a structure was found. -/
  | structureReport (r : StructureReport)
  /-- What was done to provide a structure. -/
  | provisionReport (r : ProvisionReport)
deriving Repr

/-- The kinds of records. -/
inductive RecordKind where
  | occurrence | namedValue | compositeKey | singleValue | query | search | clauses | criteria
  | uniqueness | uniquenessReport | trimOptions | logOptions | fetchOptions | resultSet
  | identifier | documentUpdate | edgeDefinition | edge | graphDefinition | structure_ | presence
  | structureReport | provisionReport
deriving DecidableEq, Repr

namespace RecordKind

/-- The names of the kinds in messages. -/
def names : List (String × RecordKind) := [
  ("IndexedValue", occurrence), ("NamedValue", namedValue), ("CompositeKey", compositeKey),
  ("UniqueValue", singleValue), ("AqlQuery", query), ("SearchTerms", search),
  ("ListOfFilters", clauses), ("Criteria", criteria), ("UniqueConstraint", uniqueness),
  ("UniqueConstraintResult", uniquenessReport), ("DocumentTrimOptions", trimOptions),
  ("LogOptions", logOptions), ("FetchOptions", fetchOptions), ("QueryResult", resultSet),
  ("Identifier", identifier), ("DocumentUpdate", documentUpdate),
  ("EdgeDefinition", edgeDefinition), ("EdgeRelation", edge), ("GraphDefinition", graphDefinition),
  ("DbStructure", structure_), ("EntityExists", presence),
  ("DbStructureValidation", structureReport), ("DbStructureResult", provisionReport)]

/-- The kind that a name names. -/
def ofName? (name : String) : Option RecordKind := names.lookup name

/-- Reads a record of a kind. -/
def read : RecordKind → Value → Schema.Checked Record
  | occurrence, v => .occurrence <$> Occurrence.read v
  | namedValue, v => .namedValue <$> NamedValue.read v
  | compositeKey, v => .compositeKey <$> CompositeKey.read v
  | singleValue, v => .singleValue <$> readSingle v
  | query, v => .query <$> Query.read v
  | search, v => .search <$> Search.read v
  | clauses, v => .clauses <$> ClauseList.read v
  | criteria, v => .criteria <$> Criteria.read v
  | uniqueness, v => .uniqueness <$> Uniqueness.read v
  | uniquenessReport, v => .uniquenessReport <$> UniquenessReport.read v
  | trimOptions, v => .trimOptions <$> TrimOptions.read v
  | logOptions, v => .logOptions <$> LogOptions.read v
  | fetchOptions, v => .fetchOptions <$> FetchOptions.read v
  | resultSet, v => .resultSet <$> ResultSet.read v
  | identifier, v => .identifier <$> Identifier.read v
  | documentUpdate, v => .documentUpdate <$> DocumentUpdate.read v
  | edgeDefinition, v => .edgeDefinition <$> EdgeDefinition.read v
  | edge, v => .edge <$> Edge.read v
  | graphDefinition, v => .graphDefinition <$> GraphDefinition.read v
  | structure_, v => .structure_ <$> Structure.read v
  | presence, v => .presence <$> Presence.read v
  | structureReport, v => .structureReport <$> StructureReport.read v
  | provisionReport, v => .provisionReport <$> ProvisionReport.read v

end RecordKind

namespace Record

/-- The record as messages show it. -/
def shown : Record → Shown
  | occurrence r => .value r.toValue
  | namedValue r => .value r.toValue
  | compositeKey r => .value r.toValue
  | singleValue r => .value (singleToValue r)
  | query r => .value r.toValue
  | search r => r.shown
  | clauses r => r.shown
  | criteria r => r.shown
  | uniqueness r => r.shown
  | uniquenessReport r => .value r.toValue
  | trimOptions r => .value r.toValue
  | logOptions r => .value r.toValue
  | fetchOptions r => .value r.toValue
  | resultSet r => .value r.toValue
  | identifier r => .value r.toValue
  | documentUpdate r => .value r.toValue
  | edgeDefinition r => .value r.toValue
  | edge r => .value r.toValue
  | graphDefinition r => .value r.toValue
  | structure_ r => .value r.toValue
  | presence r => .value r.toValue
  | structureReport r => .value r.toValue
  | provisionReport r => .value r.toValue

/-- The record as a value. -/
def toValue (r : Record) : Value := r.shown.plain

end Record

end DocQuery
