import DocQuery.Query.Basic
import DocQuery.Search

/-!
# Filters and criteria

A filter is one of three things.

* text: a condition written by the caller.
* clauses: several such conditions and how they are joined.
* prebuilt: a query text with parameters of its own.

Criteria hold a filter, a search, or both, and say how the two are joined.  What
callers hand in where a filter is expected is a `FilterInput`, which may also be a
whole criteria or a value that is no filter at all.

An object may be read as clauses or as a prebuilt filter.  When both readings
succeed, the one that has more of its fields in the object is taken.  When there is
no difference, it is the clauses if nothing in them had to be converted, and the
prebuilt filter otherwise.
-/

namespace DocQuery

/-- Conditions written by the caller, joined in one way. -/
structure ClauseList where
  /-- The conditions. -/
  clauses : List String
  /-- How they are joined. -/
  join : Join := .any
  /-- Whether the property of each is qualified. -/
  qualify : Bool := false
deriving DecidableEq, Repr

namespace ClauseList

/-- The names of the fields. -/
def fieldNames : List String := ["filters", "match", "auto_prefix_prop_names"]

/-- Reads the fields of a list of conditions. -/
def readFields (fields : Fields) : Schema.Checked ClauseList :=
  mk <$> Schema.required (Schema.each Schema.text) fields "filters"
    <*> Join.readField fields
    <*> Schema.optional Schema.truth fields "auto_prefix_prop_names" false

/-- Reads a list of conditions. -/
def read : Value → Schema.Checked ClauseList := Schema.record readFields

/-- Whether a list of conditions is read from an object without a conversion: how
they are joined is not written out, and the qualification is a truth value. -/
def isVerbatim (fields : Fields) : Bool :=
  !fields.has "match" && ((fields.get? "auto_prefix_prop_names").all fun v => v.isBool)

/-- The list of conditions as messages show it. -/
def shown (l : ClauseList) : Shown :=
  .record [("filters", .value (.ofTexts l.clauses)), ("match", l.join.shown),
    ("auto_prefix_prop_names", .value (.bool l.qualify))]

/-- The list of conditions as an object. -/
def toValue (l : ClauseList) : Value := l.shown.plain

end ClauseList

/-- A filter. -/
inductive Filter where
  /-- A condition written by the caller. -/
  | text (s : String)
  /-- Several of them. -/
  | clauses (l : ClauseList)
  /-- A query text with parameters of its own. -/
  | prebuilt (q : Query)
deriving Repr

namespace Filter

/-- Whether the filter counts as given: an empty text does not. -/
def isGiven : Filter → Bool
  | text s => s ≠ ""
  | _ => true

/-- How many of some names an object has. -/
def present (fields : Fields) (names : List String) : Nat := (names.filter fields.has).length

/-- Whether a prebuilt filter is the better reading of an object that can also be
read as clauses. -/
def prefersPrebuilt (fields : Fields) : Bool :=
  let clauses := present fields ClauseList.fieldNames
  let prebuilt := present fields Query.fieldNames
  decide (clauses < prebuilt) || (clauses == prebuilt && !ClauseList.isVerbatim fields)

/-- The better of two readings of one object. -/
def better (v : Value) (clauses prebuilt : Schema.Checked Filter) : Schema.Checked Filter :=
  match clauses, prebuilt, v with
  | .ok l, .ok q, .object fields => if prefersPrebuilt fields then .ok q else .ok l
  | _, _, _ => clauses.or prebuilt

/-- Reads a filter. -/
def read (v : Value) : Schema.Checked Filter :=
  (text <$> (Schema.text v).under (.key "str")).or
    (better v (clauses <$> (ClauseList.read v).under (.key "ListOfFilters"))
      (prebuilt <$> (Query.read v).under (.key "AqlQuery")))

/-- The filter as messages show it. -/
def shown : Filter → Shown
  | text s => .value (.str s)
  | clauses l => l.shown
  | prebuilt q => .value q.toValue

end Filter

/-- A filter, a search, or both. -/
structure Criteria where
  /-- The filter. -/
  filter : Option Filter := none
  /-- The search. -/
  search : Option Search := none
  /-- How the two are joined. -/
  join : Join := .any
deriving Repr

namespace Criteria

/-- Reads the fields of criteria. -/
def readFields (fields : Fields) : Schema.Checked Criteria :=
  mk <$> Schema.nullableField Filter.read fields "filter"
    <*> Schema.nullableField Search.read fields "search"
    <*> Join.readField fields

/-- Reads criteria. -/
def read : Value → Schema.Checked Criteria := Schema.record readFields

/-- The criteria as messages show them. -/
def shown (c : Criteria) : Shown :=
  .record [("filter", Shown.ofOption Filter.shown c.filter),
    ("search", Shown.ofOption Search.shown c.search), ("match", c.join.shown)]

/-- The criteria as an object. -/
def toValue (c : Criteria) : Value := c.shown.plain

end Criteria

/-- What is handed in where a filter is expected. -/
inductive FilterInput where
  /-- A filter. -/
  | filter (f : Filter)
  /-- Criteria. -/
  | criteria (c : Criteria)
  /-- Any other value; a text is a filter. -/
  | other (v : Value)
deriving Repr

namespace FilterInput

/-- What a bare value is: a text is a filter. -/
def ofValue : Value → FilterInput
  | .str s => filter (.text s)
  | v => other v

/-- Whether something is handed in. -/
def isGiven : FilterInput → Bool
  | filter f => f.isGiven
  | criteria _ => true
  | other v => v.isTrue

/-- Whether it is the absent value. -/
def isAbsent : FilterInput → Bool
  | other .null => true
  | _ => false

/-- The name of its kind in messages. -/
def kindName : FilterInput → String
  | filter (.text _) => "str"
  | filter (.clauses _) => "ListOfFilters"
  | filter (.prebuilt _) => "AqlQuery"
  | criteria _ => "Criteria"
  | other v => v.kindName

/-- The input as messages show it. -/
def shown : FilterInput → Shown
  | filter f => f.shown
  | criteria c => c.shown
  | other v => .value v

/-- The input as criteria; a value that is neither is read as a filter. -/
def toCriteria : FilterInput → Schema.Checked Criteria
  | filter f => .ok { filter := some f }
  | criteria c => .ok c
  | other v => Criteria.readFields [("filter", v)]

end FilterInput

end DocQuery
