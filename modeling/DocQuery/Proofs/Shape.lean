import DocQuery.Proofs.Closure

/-!
# What the text of a query depends on

The text of a query never holds a value, a property name, a key or a search term.  The
*shape* of a request is what remains without them: how many named values, parts, members,
properties and terms there are, the stems of the parameters, which texts are compared in
lower case, which terms ask for null, the limit and the offset, the joins, and how deep a
changed list lies.

`Shape.statement?` makes a statement from a shape alone, and it is the statement of every
request of that shape (`plan_eq_statement`).  So two requests of one shape have one text,
whatever else is in them.  The stems are in the text, so they are harmless on their own:
each has letters, digits and underscores only (`IsStem`).

Callers may still write text themselves, as filters and sort keys.  `NoCallerText` leaves
those requests out.
-/

namespace DocQuery

/-! ## Shapes -/

/-- What the condition of a search depends on. -/
structure Search.Shape where
  /-- How many properties are searched; a blank part is none. -/
  properties : Nat
  /-- The kinds of the terms. -/
  terms : List Search.TermKind
  /-- How the pairs are joined. -/
  join : Join
deriving DecidableEq, Repr

/-- The shape of a search. -/
def Search.shape (s : Search) : Search.Shape :=
  ⟨s.propertyList.length, s.termList.map Search.kind, s.join⟩

/-- What the condition of equalities depends on. -/
inductive Equalities.Shape where
  /-- Whether lower case is compared. -/
  | one (lowered : Bool)
  /-- The forms of several named values. -/
  | many (forms : List NamedValue.Form)
deriving DecidableEq, Repr

/-- The shape of equalities. -/
def Equalities.shape : Equalities → Equalities.Shape
  | one p => .one (p.form false).lowered
  | many ps => .many (ps.map (NamedValue.form false))

/-- What the statement of a uniqueness constraint depends on. -/
structure Uniqueness.Shape where
  /-- The forms of the parts. -/
  constraints : List Constraint.Form
  /-- Whether a key is left out. -/
  excludes : Bool
  /-- The shape of the search. -/
  search : Option Search.Shape
deriving DecidableEq, Repr

/-- The shape of a uniqueness constraint. -/
def Uniqueness.shape (u : Uniqueness) : Uniqueness.Shape :=
  ⟨u.constraints.map (Constraint.form u.caseInsensitive), (Request.excluded? u).isSome,
    u.search.map Search.shape⟩

/-- A limit and an offset. -/
structure Bounds where
  /-- The limit. -/
  limit : Option Nat
  /-- The offset. -/
  offset : Option Nat
deriving DecidableEq, Repr

namespace Request

/-- What the text of a request depends on. -/
inductive Shape where
  | all (bounds : Bounds)
  | byValues (equalities : Equalities.Shape) (join : Join) (bounds : Bounds)
      (search : Option Search.Shape)
  /-- A lookup by filter, with the search that is read unless the input is refused. -/
  | byFilter (search : Option (Option Search.Shape)) (bounds : Bounds)
  | updateWhere (lowered : Bool)
  | removeWhere (lowered : Bool)
  | setProperty
  | addToList (isList : Bool) (depth : Nat)
  | removeFromList (depth : Nat)
  | conflicts (constraint : Option Uniqueness.Shape)
deriving DecidableEq, Repr

/-- The limit and the offset of options. -/
def bounds (options : Option FetchOptions) : Bounds :=
  ⟨options.bind FetchOptions.limit, options.bind FetchOptions.offset⟩

/-- The shape of the search of criteria. -/
def searchShape (criteria : Option Criteria) : Option Search.Shape :=
  (criteria.bind Criteria.search).map Search.shape

/-- The shape of a request. -/
def shape : Request → Shape
  | all _ options => .all (bounds options)
  | byValues _ equalities join options criteria =>
      .byValues equalities.shape join (bounds options) (searchShape criteria)
  | byFilter _ input options =>
      .byFilter ((filterCriteria input).toOption.map searchShape) (bounds options)
  | updateWhere _ equality _ => .updateWhere (equality.form false).lowered
  | removeWhere _ equality => .removeWhere (equality.form false).lowered
  | setProperty .. => .setProperty
  | addToList _ _ property value _ => .addToList value.isList (segments property).length
  | removeFromList _ _ property _ => .removeFromList (segments property).length
  | conflicts constraint _ => .conflicts (constraint.map Uniqueness.shape)

end Request

/-! ## Requests without text of a caller -/

/-- Options without a sort key. -/
def FetchOptions.NoCallerText (o : FetchOptions) : Prop := ∀ key ∈ o.sortBy, key = ""

/-- Criteria without a filter. -/
def Criteria.NoCallerText (c : Criteria) : Prop := ∀ f ∈ c.filter, f.isGiven = false

/-- A request without a filter and a sort key.  A value given as a filter counts as the
criteria that it is read as. -/
def Request.NoCallerText : Request → Prop
  | all _ options => ∀ o ∈ options, o.NoCallerText
  | byValues _ _ _ options criteria =>
      (∀ o ∈ options, o.NoCallerText) ∧ ∀ c ∈ criteria, c.NoCallerText
  | byFilter _ input options =>
      (∀ o ∈ options, o.NoCallerText) ∧
        ∀ c, filterCriteria input = .ok (some c) → c.NoCallerText
  | _ => True

/-! ## Statements of shapes -/

/-- The condition of a search of a shape, if it has a pair. -/
def Search.Shape.condition? (s : Search.Shape) : Option Condition :=
  let tests := testsOf 1 (List.replicate s.properties s.terms).flatten
  if tests.isEmpty then none else some (.joined s.join tests)

/-- The condition of a search in brackets, if there is one. -/
def Search.Shape.group? (s : Option Search.Shape) : Option Condition :=
  (s.bind Search.Shape.condition?).map .group

/-- The condition of equalities of a shape; a list has to have one. -/
def Equalities.Shape.condition? (join : Join) : Equalities.Shape → Option Condition
  | one lowered => some (.test (NamedValue.testOf lowered "prop" "val"))
  | many forms =>
      if forms.isEmpty then none else some (.joined join (NamedValue.formTests 1 forms))

/-- The statement of a uniqueness constraint of a shape; there has to be a part. -/
def Uniqueness.Shape.statement? (u : Uniqueness.Shape) : Option Statement :=
  if u.constraints.isEmpty then none
  else some {
    filters := (if u.excludes then [.test (.keyIsNot Request.excludedParameter)] else [])
      ++ [.joined .any (Constraint.branches 1 u.constraints)]
      ++ (Search.Shape.group? u.search).toList
    action := .keys }

/-- The page of a limit and an offset. -/
def Bounds.page? (b : Bounds) : Option Page :=
  FetchOptions.page? { limit := b.limit, offset := b.offset }

/-- The statement of a request of a shape, unless it is refused. -/
def Request.Shape.statement? : Request.Shape → Option Statement
  | all b => some { page := b.page? }
  | byValues equalities join b search =>
      (equalities.condition? join).map fun c =>
        { filters := [withCriteria c (Search.Shape.group? search)], page := b.page? }
  | byFilter search b =>
      search.map fun s => { filters := (Search.Shape.group? s).toList, page := b.page? }
  | updateWhere lowered =>
      some { filters := [.test (NamedValue.testOf lowered "property" "value")], action := .update }
  | removeWhere lowered =>
      some { filters := [.test (NamedValue.testOf lowered "property" "value")], action := .remove }
  | setProperty => some { filters := [.test (.keyIs "key")], action := .patch }
  | addToList isList depth =>
      some { filters := [.test (.keyIs "key")]
             action := .changeList (if isList then .append else .push) depth }
  | removeFromList depth =>
      some { filters := [.test (.keyIs "key")], action := .changeList .remove depth }
  | conflicts constraint => constraint.bind Uniqueness.Shape.statement?

/-! ## A statement is that of its shape -/

theorem Search.kinds_eq (s : Search) :
    s.kinds = (List.replicate s.shape.properties s.shape.terms).flatten := by
  have hpairs (properties : List String) :
      (properties.flatMap fun property => s.termList.map fun term => (property, term)).map
        (fun pair => kind pair.2) =
          (List.replicate properties.length (s.termList.map kind)).flatten := by
    induction properties with
    | nil => rfl
    | cons property rest ih =>
        rw [List.flatMap_cons, List.map_append, ih, List.map_map, List.length_cons,
          List.replicate_succ, List.flatten_cons]
        rfl
  exact hpairs s.propertyList

theorem Search.compile?_fst (s : Search) (binds : Fields) :
    (s.compile? binds).1 = s.shape.condition? := by
  rw [compile?, tests_eq, kinds_eq]
  rfl

theorem Equalities.compile_fst (e : Equalities) (join : Join) (binds : Fields) :
    (e.compile join binds).1.toOption = e.shape.condition? join := by
  cases e with
  | one p =>
      rw [compile, NamedValue.test_eq]
      rfl
  | many ps =>
      cases ps with
      | nil => rfl
      | cons p rest =>
          simp only [compile, NamedValue.testsFrom_eq]
          rfl

namespace Criteria

theorem compileFilter_of_noCallerText {c : Criteria} (hc : c.NoCallerText) (binds : Fields)
    (qualify : Bool) : c.compileFilter binds qualify = (.ok none, binds) := by
  unfold compileFilter
  cases hf : c.filter with
  | none => rfl
  | some f => simp [hc f hf]

/-- Criteria without a filter compile to their search in brackets. -/
theorem compile_fst {c : Criteria} (hc : c.NoCallerText) (binds : Fields) (qualify : Bool) :
    (c.compile binds qualify).1 = .ok (Search.Shape.group? (c.search.map Search.shape)) := by
  rw [compile, compileFilter_of_noCallerText hc]
  simp only [compileSearch]
  cases c.search with
  | none => rfl
  | some s =>
      have hsearch : (s.compile? binds).1 = s.shape.condition? := s.compile?_fst binds
      simp only [hsearch, Search.Shape.group?, Option.map_some, Option.bind_some]
      cases s.shape.condition? <;> rfl

end Criteria

namespace Request

theorem lookup_eq {options : Option FetchOptions} (ho : ∀ o ∈ options, o.NoCallerText)
    (filters : List Condition) :
    lookup filters options = { filters, page := (bounds options).page? } := by
  cases options with
  | none => rfl
  | some o =>
      have hsort : o.sort? = none := by
        unfold FetchOptions.sort?
        split
        next => rfl
        next => rfl
        next key hne hkey => exact absurd (ho o rfl key hkey) hne
      rw [lookup, Option.bind_some, hsort]
      rfl

theorem compileCriteria_fst {criteria : Option Criteria} (hc : ∀ c ∈ criteria, c.NoCallerText)
    (options : Option FetchOptions) (binds : Fields) :
    (compileCriteria criteria options binds).1 =
      .ok (Search.Shape.group? (searchShape criteria)) := by
  cases criteria with
  | none => rfl
  | some c => exact c.compile_fst (hc c rfl) binds (qualifies options)

theorem planOf_fst {α : Type} (compiled : Compiled α) (statement : α → Statement) :
    (planOf compiled statement).toOption.map Prod.fst = compiled.1.toOption.map statement := by
  obtain ⟨result, binds⟩ := compiled
  cases result <;> rfl

theorem valuesCondition_fst {criteria : Option Criteria} (hc : ∀ c ∈ criteria, c.NoCallerText)
    (equalities : Equalities) (join : Join) (options : Option FetchOptions) (binds : Fields) :
    (valuesCondition equalities join options criteria binds).1.toOption =
      (equalities.shape.condition? join).map fun c =>
        withCriteria c (Search.Shape.group? (searchShape criteria)) := by
  rw [← equalities.compile_fst join binds, valuesCondition]
  cases hvalues : equalities.compile join binds with
  | mk result middle =>
      cases result with
      | error e => rfl
      | ok e =>
          have hcriteria := compileCriteria_fst hc options middle
          cases hcompile : compileCriteria criteria options middle with
          | mk result last =>
              rw [hcompile] at hcriteria
              obtain rfl : result = _ := hcriteria
              simp only [hcompile]
              rfl

theorem exclusion_fst (u : Uniqueness) (binds : Fields) :
    (exclusion u binds).1 =
      if u.shape.excludes then [.test (.keyIsNot excludedParameter)] else [] := by
  rw [exclusion, Uniqueness.shape]
  cases excluded? u <;> rfl

theorem searchFilter_fst (u : Uniqueness) (binds : Fields) :
    (searchFilter u binds).1 = (Search.Shape.group? u.shape.search).toList := by
  simp only [searchFilter, Uniqueness.shape]
  cases u.search with
  | none => rfl
  | some s =>
      have hsearch : (s.compile? binds).1 = s.shape.condition? := s.compile?_fst binds
      cases hcompile : s.compile? binds with
      | mk c after =>
          rw [hcompile] at hsearch
          obtain rfl : c = _ := hsearch
          simp only [hcompile, Search.Shape.group?, Option.map_some, Option.bind_some]
          cases s.shape.condition? <;> rfl

theorem conflictPlan_fst (u : Uniqueness) :
    (usable? (some u)).map (fun u => (conflictPlan u).1) = u.shape.statement? := by
  have hparts : u.shape.constraints.isEmpty = u.constraints.isEmpty := List.isEmpty_map
  rw [Uniqueness.Shape.statement?, hparts, usable?]
  cases hempty : u.constraints.isEmpty with
  | true => simp [Option.filter, hempty]
  | false =>
      simp only [Option.filter, hempty, Bool.not_false, if_true, Option.map_some, conflictPlan,
        exclusion_fst, Constraint.branchesFrom_eq, searchFilter_fst, Bool.false_eq_true, if_false]
      rfl

/-- A request without text of a caller has the statement of its shape. -/
theorem plan_eq_statement {r : Request} (h : r.NoCallerText) :
    r.plan.toOption.map Prod.fst = r.shape.statement? := by
  cases r with
  | all collection options =>
      have hlookup := lookup_eq h []
      simp only [plan, shape, Shape.statement?, ← hlookup]
      rfl
  | byValues collection equalities join options criteria =>
      have hlookup := lookup_eq h.1
      rw [plan, planOf_fst, valuesCondition_fst h.2, Option.map_map]
      simp only [shape, Shape.statement?, ← hlookup]
      rfl
  | byFilter collection input options =>
      have hlookup := lookup_eq h.1
      simp only [plan, shape, Shape.statement?, ← hlookup]
      cases hcriteria : filterCriteria input with
      | error e => rfl
      | ok criteria =>
          have hno : ∀ c ∈ criteria, c.NoCallerText := by
            intro c hc
            exact h.2 c (by rw [hcriteria, hc])
          simp only [planOf_fst, compileCriteria_fst hno]
          rfl
  | updateWhere collection equality data =>
      simp only [plan, actWhere, NamedValue.test_eq]
      rfl
  | removeWhere collection equality =>
      simp only [plan, actWhere, NamedValue.test_eq]
      rfl
  | setProperty collection key property value => rfl
  | addToList collection key property value unique => rfl
  | removeFromList collection key property value => rfl
  | conflicts constraint options =>
      cases constraint with
      | none => rfl
      | some u =>
          have hconflict := conflictPlan_fst u
          simp only [shape, Shape.statement?, Option.map_some, Option.bind_some, ← hconflict, plan]
          cases usable? (some u) <;> rfl

theorem query_text (r : Request) :
    r.query.toOption.map Query.text = (r.plan.toOption.map Prod.fst).map Statement.text := by
  unfold query
  cases r.plan <;> rfl

end Request

/-! ## Stems -/

/-- Some letters of ASCII, digits and underscores, with no underscore in front. -/
structure IsStem (s : String) : Prop where
  /-- There is a character. -/
  nonempty : s ≠ ""
  /-- All characters are allowed. -/
  chars : ∀ c ∈ s.toList,
    ('A' ≤ c ∧ c ≤ 'Z') ∨ ('a' ≤ c ∧ c ≤ 'z') ∨ ('0' ≤ c ∧ c ≤ '9') ∨ c = '_'
  /-- The first is no underscore. -/
  start : s.toList.head? ≠ some '_'

/-- The name made from a path is a stem, whatever the path is. -/
theorem isStem_bindName (path : String) : IsStem (bindName path) := by
  have hname := isName_bindName path
  refine ⟨hname.1, fun c hc => isNameChar_iff.1 (hname.2 c hc), fun hhead => ?_⟩
  rw [bindName, String.toList_ofList, bindStem] at hhead
  split at hhead
  next => cases hhead
  next stem =>
    -- dropping goes on as long as there are underscores
    have hdropped := List.head?_dropWhile_not (· = '_') (path.toList.map fun c =>
      if isNameChar c then c else '_')
    rw [hhead] at hdropped
    cases hdropped

namespace Request

/-- Two requests of one shape have one text or are both refused, whatever names, values,
keys and terms are in them; and the stems in the text are harmless. -/
theorem text_eq_of_shape_eq :
    (∀ r₁ r₂ : Request, r₁.NoCallerText → r₂.NoCallerText → r₁.shape = r₂.shape →
      r₁.query.toOption.map Query.text = r₂.query.toOption.map Query.text) ∧
    ∀ path, IsStem (bindName path) := by
  refine ⟨fun r₁ r₂ h₁ h₂ hshape => ?_, isStem_bindName⟩
  rw [query_text, query_text, plan_eq_statement h₁, plan_eq_statement h₂, hshape]

/-- A lookup by a value and a search. -/
def romans : Request :=
  byValues (.str "people") (.many [⟨"address.city", .str "Rome", false⟩]) .all
    (some { limit := some 10 })
    (some { search := some ⟨.one "name,bio", .many ["lan", "null"], .any⟩ })

/-- A lookup of the same shape that tries to write text. -/
def hostile : Request :=
  byValues (.str "people REMOVE d IN people") (.many [⟨"address)city", .str "\" || true", false⟩])
    .all (some { limit := some 10, sortBy := some "" })
    (some { search := some ⟨.one "name) || LIKE(,@@collection", .many ["%\", true) ||", "NULL"],
                            .any⟩ })

theorem hostile_text : hostile.plan.toOption.isSome = true ∧
    romans.query.toOption.map Query.text = hostile.query.toOption.map Query.text := by
  have hshape : romans.shape = hostile.shape := by decide +kernel
  have hromans : romans.NoCallerText := by
    constructor
    · intro o ho key hkey
      cases ho
      cases hkey
    · intro c hc f hf
      cases hc
      cases hf
  have hhostile : hostile.NoCallerText := by
    constructor
    · intro o ho key hkey
      cases ho
      cases hkey
      rfl
    · intro c hc f hf
      cases hc
      cases hf
  exact ⟨by decide +kernel, text_eq_of_shape_eq.1 romans hostile hromans hhostile hshape⟩

end Request

end DocQuery
