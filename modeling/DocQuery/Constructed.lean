import DocQuery.Catalogue

/-!
# Records in constructed form

A record in constructed form is the name of its kind and its fields in parentheses,
as in `Kind(first='a', second=1)`.  Records that it holds have that form too, and
everything else its literal form.
-/

namespace DocQuery

namespace Constructed

/-- The constructed form of what is shown, some fields of which have a form already. -/
def form (kind : String) (s : Shown) (formed : List (String × String) := []) : String :=
  kind ++ "(" ++ ", ".intercalate (s.fields.map fun (name, v) =>
    name ++ "=" ++ (formed.lookup name).getD v.literal) ++ ")"

/-- A list of forms. -/
def listForm (forms : List String) : String := "[" ++ ", ".intercalate forms ++ "]"

/-- A form, or the literal form of null. -/
def formOr {α : Type} (f : α → String) (a : Option α) : String :=
  (a.map f).getD Value.null.literal

/-! ## Searches and filters -/

/-- The form of a named value. -/
def ofNamed (p : NamedValue) : String := form "NamedValue" (.value p.toValue)

/-- The form of a query. -/
def ofQuery (q : Query) : String := form "AqlQuery" (.value q.toValue)

/-- The form of a search. -/
def ofSearch (s : Search) : String := form "SearchTerms" s.shown

/-- The form of a list of conditions. -/
def ofClauses (l : ClauseList) : String := form "ListOfFilters" l.shown

/-- The form of a filter. -/
def ofFilter : Filter → String
  | .text s => Text.quoted s
  | .clauses l => ofClauses l
  | .prebuilt q => ofQuery q

/-- The form of criteria. -/
def ofCriteria (c : Criteria) : String :=
  form "Criteria" c.shown
    [("filter", formOr ofFilter c.filter), ("search", formOr ofSearch c.search)]

/-! ## Uniqueness -/

/-- The form of a composite key. -/
def ofKey (k : CompositeKey) : String :=
  form "CompositeKey" (.value k.toValue) [("composite", listForm (k.members.map ofNamed))]

/-- The form of a single value. -/
def ofSingle (p : NamedValue) : String :=
  form "UniqueValue" (.value (singleToValue p)) [("unique", ofNamed p)]

/-- The form of a part of a uniqueness constraint. -/
def ofConstraint : Constraint → String
  | .single p => ofSingle p
  | .composite k => ofKey k

/-- The form of a uniqueness constraint. -/
def ofUniqueness (u : Uniqueness) : String :=
  form "UniqueConstraint" u.shown
    [("constraints", listForm (u.constraints.map ofConstraint)),
      ("search", formOr ofSearch u.search)]

/-! ## Documents and options -/

/-- The form of trim options. -/
def ofTrim (o : TrimOptions) : String := form "DocumentTrimOptions" (.value o.toValue)

/-- The form of fetch options. -/
def ofFetch (o : FetchOptions) : String :=
  form "FetchOptions" (.value o.toValue) [("trim", formOr ofTrim o.trim)]

/-- The form of an identifier. -/
def ofIdentifier (i : Identifier) : String := form "Identifier" (.value i.toValue)

/-- The form of an update. -/
def ofUpdate (u : DocumentUpdate) : String :=
  form "DocumentUpdate" (.value u.toValue) <| match u.key with
    | .key _ => []
    | .identifier i => [("key", ofIdentifier i)]

/-! ## Structures -/

/-- The form of an edge definition. -/
def ofEdge (e : EdgeDefinition) : String := form "EdgeDefinition" (.value e.toValue)

/-- The form of a graph definition. -/
def ofGraph (g : GraphDefinition) : String :=
  form "GraphDefinition" (.value g.toValue) [("edges", listForm (g.edges.map ofEdge))]

/-- The form of a graph. -/
def ofAnyGraph : Graph → String
  | .defined g => ofGraph g
  | .named name => Text.quoted name

/-- The form of a structure. -/
def ofStructure (s : Structure) : String :=
  form "DbStructure" (.value s.toValue) [("graphs", listForm (s.graphs.map ofAnyGraph))]

/-- The form of a presence. -/
def ofPresence (p : Presence) : String := form "EntityExists" (.value p.toValue)

/-- The form of what of a structure was found. -/
def ofReport (r : StructureReport) : String :=
  form "DbStructureValidation" (.value r.toValue)
    [("database", formOr ofPresence r.database),
      ("collections", listForm (r.collections.map ofPresence)),
      ("graphs", listForm (r.graphs.map ofPresence))]

/-! ## All records -/

/-- The form of a record of some kind. -/
def ofRecord (kind : String) : Record → String
  | .compositeKey r => ofKey r
  | .singleValue r => ofSingle r
  | .criteria r => ofCriteria r
  | .uniqueness r => ofUniqueness r
  | .fetchOptions r => ofFetch r
  | .documentUpdate r => ofUpdate r
  | .graphDefinition r => ofGraph r
  | .structure_ r => ofStructure r
  | .structureReport r => ofReport r
  | r => form kind r.shown

/-- A record of some kind in constructed form. -/
def shown (kind : String) (r : Record) : Shown := .constructed kind (ofRecord kind r)

example : ofNamed ⟨"a", .int 1, true⟩ = "NamedValue(name='a', value=1, case_sensitive=True)" := by
  decide +kernel

end Constructed

end DocQuery
