import DocQuery.Constraint
import DocQuery.Failure
import DocQuery.Filter.Compile
import DocQuery.Log
import DocQuery.Query.Statement

/-!
# Requests

A request says what is wanted from a collection: documents, changes to them, or
the documents that a uniqueness constraint conflicts with.  `plan` turns it into
a statement and the values of the statement's parameters, and `query` into the
query itself; `records` are what is logged on the way.

Property names and values are always bound as parameters.  Text reaches a query
only where a caller wrote a condition or a sort key.

* A single named value binds its property and value under two fixed names; the
  named values of a list are numbered from one, and so are those of the parts of a
  uniqueness constraint, all parts together.
* Criteria come after equalities and hold together with them.
* A property to be set is wrapped into an object for each part of its path.
-/

namespace DocQuery

/-- The named values to look for: one, or several in a list. -/
inductive Equalities where
  /-- One. -/
  | one (p : NamedValue)
  /-- Several. -/
  | many (ps : List NamedValue)
deriving Repr

namespace Equalities

/-- The equalities as messages show them. -/
def shown : Equalities → Shown
  | one p => .value p.toValue
  | many ps => .value (.list (ps.map NamedValue.toValue))

/-- The condition that the equalities hold, and its parameters. -/
def compile (join : Join) (binds : Fields) : Equalities → Compiled Condition
  | one p =>
      let (t, binds) := p.test "prop" "val" binds
      (.ok (.test t), binds)
  | many [] => (.error .noNamedValues, binds)
  | many ps =>
      let (tests, binds) := NamedValue.testsFrom false 1 ps binds
      (.ok (.joined join tests), binds)

end Equalities

/-- What is wanted from a collection. -/
inductive Request where
  /-- All documents. -/
  | all (collection : Value) (options : Option FetchOptions)
  /-- The documents with some values. -/
  | byValues (collection : Value) (equalities : Equalities) (join : Join)
      (options : Option FetchOptions) (criteria : Option Criteria)
  /-- The documents that satisfy a filter. -/
  | byFilter (collection : Value) (input : FilterInput) (options : Option FetchOptions)
  /-- Updating the documents with a value. -/
  | updateWhere (collection : Value) (equality : NamedValue) (data : Value)
  /-- Removing the documents with a value. -/
  | removeWhere (collection : Value) (equality : NamedValue)
  /-- Setting a property of a document. -/
  | setProperty (collection : Value) (key : Value) (property : String) (value : Value)
  /-- Adding to a list that a document holds. -/
  | addToList (collection : Value) (key : Value) (property : String) (value : Value)
      (unique : Value)
  /-- Removing from a list that a document holds. -/
  | removeFromList (collection : Value) (key : Value) (property : String) (value : Value)
  /-- The documents in conflict with a uniqueness constraint. -/
  | conflicts (constraint : Option Uniqueness) (options : Option FetchOptions)
deriving Repr

namespace Request

/-- The documents with all of some values. -/
def byAllValues (collection : Value) (equalities : Equalities) (options : Option FetchOptions)
    (criteria : Option Criteria) : Request :=
  byValues collection equalities .all options criteria

/-- The statement of a request and the values of its parameters. -/
abbrev Plan := Except Failure (Statement × Fields)

/-! ## Lookups -/

/-- The name under which a collection is bound. -/
def collectionParameter : String := "@collection"

/-- The parameters of every statement. -/
def baseBinds (collection : Value) : Fields := [(collectionParameter, collection)]

/-- A statement that returns documents. -/
def lookup (filters : List Condition) (options : Option FetchOptions) : Statement :=
  { filters, sort := options.bind FetchOptions.sort?, page := options.bind FetchOptions.page? }

/-- Whether properties in filter texts are qualified. -/
def qualifies (options : Option FetchOptions) : Bool := options.all FetchOptions.qualify

/-- Equalities together with the condition of criteria. -/
def withCriteria (equalities : Condition) : Option Condition → Condition
  | some c => .joined .all [.group equalities, c]
  | none => equalities

/-- Compiles criteria, if there are any. -/
def compileCriteria (criteria : Option Criteria) (options : Option FetchOptions) (binds : Fields) :
    Compiled (Option Condition) :=
  match criteria with
  | some c => c.compile binds (qualifies options)
  | none => (.ok none, binds)

/-- A compiled outcome as a plan. -/
def planOf {α : Type} (compiled : Compiled α) (statement : α → Statement) : Plan :=
  match compiled with
  | (.ok a, binds) => .ok (statement a, binds)
  | (.error e, _) => .error (.input e)

/-- The condition of a lookup by values. -/
def valuesCondition (equalities : Equalities) (join : Join) (options : Option FetchOptions)
    (criteria : Option Criteria) (binds : Fields) : Compiled Condition :=
  match equalities.compile join binds with
  | (.error e, binds) => (.error e, binds)
  | (.ok e, binds) =>
      match compileCriteria criteria options binds with
      | (.error e, binds) => (.error e, binds)
      | (.ok c, binds) => (.ok (withCriteria e c), binds)

/-- The criteria of a lookup by filter, if something is handed in. -/
def filterCriteria (input : FilterInput) : Except Failure (Option Criteria) :=
  if input.isGiven then (Failure.ofChecked "Criteria" input.toCriteria).map some else .ok none

/-! ## Changes -/

/-- A value wrapped into an object for each part of a path. -/
def nestedValue : List String → Value → Value
  | [], value => value
  | part :: rest, value => .object [(part, nestedValue rest value)]

/-- Binds the parts of a path, the last one first. -/
def bindSegments : Nat → List String → Fields → Fields
  | _, [], binds => binds
  | number, part :: rest, binds =>
      (bindSegments (number + 1) rest binds).set (fieldParameter number) (.str part)

/-- A statement that changes a list of the document with a key. -/
def changeList (change : ListChange) (collection : Value) (key : Value) (property : String)
    (binds : Fields) : Statement × Fields :=
  let parts := segments property
  let binds := binds.merge
    [(collectionParameter, collection), ("key", key), ("property", attributePath property)]
  ({ filters := [.test (.keyIs "key")], action := .changeList change parts.length },
    bindSegments 1 parts binds)

/-- A statement that does something to the documents with a value. -/
def actWhere (action : Action) (p : NamedValue) (binds : Fields) : Statement × Fields :=
  let (t, binds) := p.test "property" "value" binds
  ({ filters := [.test t], action }, binds)

/-! ## Conflicts -/

/-- The branches of the parts of a constraint, numbered from a number on. -/
def branchesFrom (ignoreCase : Bool) : Nat → List Constraint → Fields → List Condition × Fields
  | _, [], binds => ([], binds)
  | number, constraint :: rest, binds =>
      let (tests, binds) := NamedValue.testsFrom ignoreCase number constraint.members binds
      let branch := match constraint, tests with
        | .single _, [test] => test
        | _, tests => .group (.joined .all tests)
      let (branches, binds) :=
        branchesFrom ignoreCase (number + constraint.members.length) rest binds
      (branch :: branches, binds)

/-- The name under which an excluded key is bound. -/
def excludedParameter : String := "excludeDocumentKey"

/-- The key that a constraint leaves out; one without characters is none. -/
def excluded? (u : Uniqueness) : Option String := u.excludedKey.filter (· ≠ "")

/-- The filter that leaves a key out, and its parameter. -/
def exclusion (u : Uniqueness) (binds : Fields) : List Condition × Fields :=
  match excluded? u with
  | some key =>
      ([.test (.keyIsNot excludedParameter)], binds.set excludedParameter (.str key))
  | none => ([], binds)

/-- The filter of a constraint's search, if it has a pair. -/
def searchFilter (u : Uniqueness) (binds : Fields) : List Condition × Fields :=
  match u.search with
  | none => ([], binds)
  | some s => match s.compile? binds with
    | (some c, binds) => ([.group c], binds)
    | (none, binds) => ([], binds)

/-- The statement that finds conflicting documents. -/
def conflictPlan (u : Uniqueness) : Statement × Fields :=
  let (exclusion, binds) := exclusion u (baseBinds (.str u.collection))
  let (branches, binds) := branchesFrom u.caseInsensitive 1 u.constraints binds
  let (search, binds) := searchFilter u binds
  ({ filters := exclusion ++ [.joined .any branches] ++ search, action := .keys }, binds)

/-- The constraint of a request, if it has parts. -/
def usable? (constraint : Option Uniqueness) : Option Uniqueness :=
  constraint.filter fun u => !u.constraints.isEmpty

/-! ## Plans and queries -/

/-- The statement of a request and the values of its parameters. -/
def plan : Request → Plan
  | all collection options => .ok (lookup [] options, baseBinds collection)
  | byValues collection equalities join options criteria =>
      planOf (valuesCondition equalities join options criteria (baseBinds collection))
        fun c => lookup [c] options
  | byFilter collection input options =>
      match filterCriteria input with
      | .error e => .error e
      | .ok criteria =>
          planOf (compileCriteria criteria options (baseBinds collection))
            fun c => lookup c.toList options
  | updateWhere collection equality data =>
      .ok (actWhere .update equality (baseBinds collection ++ [("data", data)]))
  | removeWhere collection equality => .ok (actWhere .remove equality (baseBinds collection))
  | setProperty collection key property value =>
      .ok ({ filters := [.test (.keyIs "key")], action := .patch },
        baseBinds collection ++
          [("key", key), ("patch", nestedValue (Value.pathParts property) value),
            ("property", attributePath property)])
  | addToList collection key property value unique =>
      .ok (changeList (if value.isList then .append else .push) collection key property
        [("value", value), ("unique", unique)])
  | removeFromList collection key property value =>
      .ok (changeList .remove collection key property [("value", value)])
  | conflicts constraint _ =>
      match usable? constraint with
      | some u => .ok (conflictPlan u)
      | none => .error (.input .noConstraints)

/-- The query of a request. -/
def query (r : Request) : Except Failure Query :=
  r.plan.map fun (statement, binds) => statement.query binds

/-! ## Records -/

/-- The name of a request in records. -/
def name : Request → String
  | all .. => "fetch_all"
  | byValues .. => "fetch_by_property_value"
  | byFilter .. => "find_by_filter_criteria"
  | updateWhere .. => "update_documents_by_key_value"
  | removeWhere .. => "delete_documents_by_key_value"
  | setProperty .. => "update_property"
  | addToList .. => "add_array_value"
  | removeFromList .. => "remove_array_value"
  | conflicts .. => "unique_constraint_query"

/-- The options of a request. -/
def options? : Request → Option FetchOptions
  | all _ options | byValues _ _ _ options _ | byFilter _ _ options | conflicts _ options => options
  | _ => none

/-- The filters that a request is made from. -/
def input? : Request → Option Shown
  | byValues _ equalities _ _ _ => some equalities.shown
  | byFilter _ input _ => some input.shown
  | conflicts constraint _ => (usable? constraint).map Uniqueness.shown
  | _ => none

/-- The record of criteria that hold nothing. -/
def emptinessRecords (criteria : Option Criteria) (options : Option FetchOptions)
    (binds : Fields) : List Log.Record :=
  match criteria, compileCriteria criteria options binds with
  | some _, (.ok none, _) => [Log.emptyCriteria]
  | _, _ => []

/-- The records of the criteria of a request. -/
def criteriaRecords : Request → List Log.Record
  | byValues collection equalities join options criteria =>
      match equalities.compile join (baseBinds collection) with
      | (.ok _, binds) => emptinessRecords criteria options binds
      | (.error _, _) => []
  | byFilter collection input options =>
      match filterCriteria input with
      | .ok criteria => emptinessRecords criteria options (baseBinds collection)
      | .error _ => []
  | _ => []

/-- The record of the query that was built. -/
def queryRecords (r : Request) : List Log.Record :=
  match r.query with
  | .ok q => [Log.query r.name q r.options?]
  | .error _ => []

/-- What is logged while a request becomes a query. -/
def records (r : Request) : List Log.Record :=
  ((r.input?.map fun input => Log.filters r.name input r.options?).toList ++ r.criteriaRecords)
    ++ r.queryRecords

end Request

end DocQuery
