import DocQuery.Proofs.KeptBindings
import DocQuery.Proofs.ValueTests
import DocQuery.Proofs.WrittenText

/-!
# Placeholders and bindings

A query is *closed* when the placeholders of its text are the names that it binds, no
more and no fewer.  A placeholder without a binding would be refused by the server, and
so would a binding without a placeholder.

Compiling threads the bindings through one function after the other, and each of them
writes conditions and binds.  `Closes` relates the two: between two dictionaries, exactly
the parameters of some conditions are added.  It holds of the tests of a search, of those
of named values and of the branches of a constraint, goes through brackets and operators,
and composes (`Closes.append`), so it holds of everything compiled from them.

A filter is the only part that a caller writes.  It has to be `SelfContained`: its text
has no placeholders, or, for a prebuilt filter, those that it binds.  Main result: the
query of a request is closed when what the caller wrote is self-contained
(`query_closed`).
-/

namespace DocQuery

/-- The placeholders of a query's text are the names that it binds. -/
def Query.Closed (q : Query) : Prop := ∀ name, name ∈ placeholders q.text ↔ name ∈ q.binds.names

/-! ## What callers write -/

/-- Text of a caller has no signs; a prebuilt filter names what it binds. -/
def Filter.SelfContained : Filter → Prop
  | text s => '@' ∉ s.toList
  | clauses l => ∀ s ∈ l.clauses, '@' ∉ s.toList
  | prebuilt q => q.Closed

/-- The filter of criteria is self-contained. -/
def Criteria.SelfContained (c : Criteria) : Prop := ∀ f ∈ c.filter, f.SelfContained

/-- The sort key of options has no sign. -/
def FetchOptions.SelfContained (o : FetchOptions) : Prop := ∀ key ∈ o.sortBy, '@' ∉ key.toList

/-- What the caller of a request wrote is self-contained.  A value given as a filter
counts as the criteria that it is read as. -/
def Request.SelfContained : Request → Prop
  | all _ options => ∀ o ∈ options, o.SelfContained
  | byValues _ _ _ options criteria =>
      (∀ o ∈ options, o.SelfContained) ∧ ∀ c ∈ criteria, c.SelfContained
  | byFilter _ input options =>
      (∀ o ∈ options, o.SelfContained) ∧
        ∀ c, filterCriteria input = .ok (some c) → c.SelfContained
  | _ => True

/-! ## Conditions and the bindings they need -/

/-- Some conditions have good names, and from one dictionary to another exactly their
parameters are bound. -/
structure Closes (cs : List Condition) (before after : Fields) : Prop where
  /-- Their parameters are names. -/
  named : ∀ c ∈ cs, c.Named
  /-- Their parameters are bound, and no others. -/
  binds : ∀ name, after.has name = true ↔
    before.has name = true ∨ name ∈ cs.flatMap Condition.parameters

namespace Closes

variable {before middle after : Fields}

theorem nil (binds : Fields) : Closes [] binds binds := by
  constructor
  · intro c hc
    cases hc
  · intro name
    simp

theorem append {cs ds : List Condition} (hc : Closes cs before middle)
    (hd : Closes ds middle after) : Closes (cs ++ ds) before after := by
  constructor
  · intro c hmem
    exact (List.mem_append.1 hmem).elim (hc.named c) (hd.named c)
  · intro name
    rw [hd.binds, hc.binds, List.flatMap_append, List.mem_append, or_assoc]

theorem joined {cs : List Condition} (h : Closes cs before after) (j : Join) :
    Closes [.joined j cs] before after := by
  constructor
  · intro c hc
    obtain rfl := List.mem_singleton.1 hc
    exact Condition.allNamed_iff.2 h.named
  · intro name
    rw [h.binds, List.flatMap_singleton, Condition.parameters, Condition.parametersOf_eq_flatMap]

/-- Brackets change nothing. -/
theorem groups {cs : List Condition} (h : Closes cs before after) :
    Closes (cs.map .group) before after := by
  constructor
  · intro d hd
    obtain ⟨c, hc, rfl⟩ := List.mem_map.1 hd
    exact h.named c hc
  · intro name
    rw [h.binds, List.flatMap_map]
    rfl

/-- A merge with the parameters of some conditions closes them. -/
theorem merge {cs : List Condition} {more : Fields} (hnamed : ∀ c ∈ cs, c.Named)
    (hnames : more.names = cs.flatMap Condition.parameters) (binds : Fields) :
    Closes cs binds (binds.merge more) :=
  ⟨hnamed, fun name => by rw [Fields.has_merge, hnames]⟩

theorem test {t : Test} (ht : t.Named) (hbinds : ∀ name, after.has name = true ↔
    before.has name = true ∨ name ∈ t.parameters) : Closes [.test t] before after := by
  constructor
  · intro c hc
    obtain rfl := List.mem_singleton.1 hc
    exact ht
  · intro name
    rw [hbinds, List.flatMap_singleton, Condition.parameters]

/-- Written text without placeholders needs no bindings. -/
theorem written {cs : List Condition}
    (h : ∀ c ∈ cs, ∃ s, c = .written s ∧ placeholders s = []) (binds : Fields) :
    Closes cs binds binds := by
  constructor
  · intro c hc
    obtain ⟨s, rfl, -⟩ := h c hc
    exact trivial
  · intro name
    have hnone : cs.flatMap Condition.parameters = [] := by
      refine List.flatMap_eq_nil_iff.2 fun c hc => ?_
      obtain ⟨s, rfl, hs⟩ := h c hc
      exact hs
    rw [hnone]
    simp

end Closes

/-! ## Searches -/

namespace Search

theorem names_bindingsFrom (number : Nat) (pairs : List (String × String)) :
    (bindingsFrom number pairs).names =
      (testsOf number (pairs.map fun pair => kind pair.2)).flatMap Condition.parameters := by
  induction pairs generalizing number with
  | nil => rfl
  | cons pair rest ih =>
      obtain ⟨property, term⟩ := pair
      have hpair : (bindingsOf number property term).names =
          (testOf number (kind term)).parameters := by
        unfold bindingsOf
        cases kind term with
        | null => rfl
        | notNull => rfl
        | inside => rfl
      rw [bindingsFrom, Fields.names_append, ih, hpair]
      rfl

theorem named_testsOf (number : Nat) (kinds : List TermKind) :
    ∀ c ∈ testsOf number kinds, c.Named := by
  have hproperty (n : Nat) : IsName (propertyParameter n) :=
    (show IsName "search_prop_" by decide).append (isName_toString n)
  have hterm (n : Nat) : IsName (termParameter n) :=
    (show IsName "search_term_" by decide).append (isName_toString n)
  induction kinds generalizing number with
  | nil => intro c hc; cases hc
  | cons k rest ih =>
      rw [testsOf, List.forall_mem_cons]
      refine ⟨?_, ih (number + 1)⟩
      cases k with
      | null => exact List.forall_mem_singleton.2 (hproperty number)
      | notNull => exact List.forall_mem_singleton.2 (hproperty number)
      | inside =>
          exact List.forall_mem_cons.2
            ⟨hproperty number, List.forall_mem_singleton.2 (hterm number)⟩

/-- A search closes what it tests; without a pair it binds nothing. -/
theorem closes_compile? (s : Search) (binds : Fields) :
    Closes (s.compile? binds).1.toList binds (s.compile? binds).2 := by
  have htests : Closes (testsOf 1 s.kinds) binds (binds.merge s.bindings) :=
    .merge (named_testsOf 1 s.kinds) (names_bindingsFrom 1 s.pairs) binds
  rw [compile?, tests_eq]
  cases hkinds : testsOf 1 s.kinds with
  | nil =>
      -- no condition is written, and without tests nothing was bound
      rw [hkinds] at htests
      exact htests
  | cons c rest =>
      rw [hkinds] at htests
      exact htests.joined s.join

end Search

/-! ## Named values and constraints -/

namespace NamedValue

theorem parameters_testOf (lowered : Bool) (key value : String) :
    (testOf lowered key value).parameters = [key, value] := by
  cases lowered <;> rfl

theorem named_testOf (lowered : Bool) {key value : String} (hkey : IsName key)
    (hvalue : IsName value) : (testOf lowered key value).Named := by
  rw [Test.Named, parameters_testOf]
  exact List.forall_mem_cons.2 ⟨hkey, List.forall_mem_singleton.2 hvalue⟩

theorem closes_test (p : NamedValue) {key value : String} (hkey : IsName key)
    (hvalue : IsName value) (binds : Fields) :
    Closes [.test (p.test key value binds).1] binds (p.test key value binds).2 := by
  rw [test_eq]
  refine .test (named_testOf _ hkey hvalue) fun name => ?_
  rw [Fields.has_merge, parameters_testOf]
  rfl

theorem names_bindingsFrom (ignoreCase : Bool) (number : Nat) (ps : List NamedValue) :
    (bindingsFrom ignoreCase number ps).names =
      (formTests number (ps.map (form ignoreCase))).flatMap Condition.parameters := by
  induction ps generalizing number with
  | nil => rfl
  | cons p rest ih =>
      rw [bindingsFrom, Fields.names_append, ih, List.map_cons, formTests, List.flatMap_cons,
        Condition.parameters, Form.test, parameters_testOf]
      rfl

theorem named_formTests (ignoreCase : Bool) (number : Nat) (ps : List NamedValue) :
    ∀ c ∈ formTests number (ps.map (form ignoreCase)), c.Named := by
  induction ps generalizing number with
  | nil => intro c hc; cases hc
  | cons p rest ih =>
      rw [List.map_cons, formTests, List.forall_mem_cons]
      have hstem := isName_bindName p.name
      have hkey := hstem.append (show IsName "_key_" by decide)
      have hvalue := hstem.append (show IsName "_val_" by decide)
      have hnumber := isName_toString number
      exact ⟨named_testOf _ (hkey.append hnumber) (hvalue.append hnumber), ih (number + 1)⟩

/-- Named values close their tests. -/
theorem closes_testsFrom (ignoreCase : Bool) (number : Nat) (ps : List NamedValue)
    (binds : Fields) :
    Closes (testsFrom ignoreCase number ps binds).1 binds
      (testsFrom ignoreCase number ps binds).2 := by
  rw [testsFrom_eq]
  exact .merge (named_formTests ignoreCase number ps) (names_bindingsFrom ignoreCase number ps)
    binds

end NamedValue

namespace Constraint

/-- The parts of a constraint close their branches. -/
theorem closes_branches (ignoreCase : Bool) (number : Nat) (cs : List Constraint)
    (binds : Fields) :
    Closes (branches number (cs.map (form ignoreCase))) binds
      (binds.merge (bindingsFrom ignoreCase number cs)) := by
  induction cs generalizing number binds with
  | nil => exact .nil binds
  | cons c rest ih =>
      -- the branch binds what its members bind, whichever way it is written
      have hmembers := NamedValue.closes_testsFrom ignoreCase number c.members binds
      rw [NamedValue.testsFrom_eq] at hmembers
      have hbranch : Closes [(c.form ignoreCase).branch number] binds
          (binds.merge (NamedValue.bindingsFrom ignoreCase number c.members)) := by
        cases c with
        | single p => exact hmembers
        | composite k => exact (hmembers.joined .all).groups
      rw [List.map_cons, branches, size_form, bindingsFrom, Fields.merge_append]
      exact hbranch.append (ih _ _)

end Constraint

theorem Equalities.closes_compile {e : Equalities} {join : Join} {before after : Fields}
    {c : Condition} (h : e.compile join before = (.ok c, after)) : Closes [c] before after := by
  cases e with
  | one p =>
      cases h
      exact p.closes_test (by decide) (by decide) before
  | many ps =>
      cases ps with
      | nil => cases h
      | cons p rest =>
          cases h
          exact (NamedValue.closes_testsFrom false 1 (p :: rest) before).joined join

/-! ## Filters and criteria -/

/-- A clause without a sign has no placeholders, qualified or not. -/
theorem ClauseList.placeholders_clause (l : ClauseList) {s : String} (h : '@' ∉ s.toList) :
    ∃ text, l.clause s = .written text ∧ placeholders text = [] := by
  refine ⟨_, rfl, ?_⟩
  split
  · exact placeholders_qualified h
  · rw [placeholders_trimmed, placeholders_of_not_mem h]

/-- A self-contained filter closes its condition. -/
theorem Filter.closes_compile {f : Filter} (hf : f.SelfContained) {before after : Fields}
    {qualify : Bool} {e : Condition} (h : f.compile before qualify = (.ok e, after)) :
    Closes [e] before after := by
  cases f with
  | text s =>
      cases h
      refine .written (fun c hc => ⟨_, List.mem_singleton.1 hc, ?_⟩) before
      split
      · exact placeholders_composed hf
      · rw [placeholders_trimmed, placeholders_of_not_mem hf]
  | clauses l =>
      obtain ⟨hl, rfl⟩ := Prod.mk.inj h
      rw [ClauseList.compile] at hl
      split at hl
      · cases hl
      · cases hl
        refine Closes.joined (.written ?_ before) l.join
        intro c hc
        obtain ⟨s, hs, rfl⟩ := List.mem_map.1 hc
        exact l.placeholders_clause (hf s hs)
  | prebuilt q =>
      obtain ⟨hafter, -⟩ := compile_ok h
      have htext : e = .written (Text.trimmed q.text) := by
        simp only [compile] at h
        split at h
        · cases h
          rfl
        · cases h
      subst htext hafter
      constructor
      · intro c hc
        obtain rfl := List.mem_singleton.1 hc
        exact trivial
      · intro name
        rw [Fields.has_merge, List.flatMap_singleton, Condition.parameters, placeholders_trimmed,
          hf name]
        rfl

namespace Criteria

variable {c : Criteria} {before after : Fields} {qualify : Bool} {e : Option Condition}

/-- An empty condition is dropped, but then it has no parameters. -/
theorem closes_compileFilter (hc : c.SelfContained)
    (h : c.compileFilter before qualify = (.ok e, after)) : Closes e.toList before after := by
  rcases compileFilter_cases h with ⟨rfl, rfl, -⟩ | ⟨f, written, hf, -, hcompile, rfl⟩
  · exact .nil after
  · have hcloses := Filter.closes_compile (hc f hf) hcompile
    split
    next hempty =>
      have hnone : written.parameters = [] := by
        rw [← written.placeholders_text (hcloses.named written List.mem_cons_self), hempty]
        rfl
      -- what the filter bound stays, so it must have bound nothing
      refine ⟨fun d hd => (by cases hd), fun name => ?_⟩
      rw [hcloses.binds, List.flatMap_singleton, hnone]
      rfl
    next => exact hcloses

theorem closes_compileSearch (c : Criteria) (before : Fields) :
    Closes (c.compileSearch before).1.toList before (c.compileSearch before).2 := by
  unfold compileSearch
  cases c.search with
  | none => exact .nil before
  | some s => exact s.closes_compile? before

theorem closes_combine (join : Join) {f s : Option Condition}
    (h : Closes (f.toList ++ s.toList) before after) :
    Closes (combine join f s).toList before after := by
  cases f with
  | none =>
      cases s with
      | none => exact h
      | some s => exact h.groups
  | some f =>
      cases s with
      | none => exact h.groups
      | some s =>
          -- both are bracketed, then joined, then bracketed once more
          have hgroups : Closes [.group f, .group s] before after := h.groups
          exact (hgroups.joined join).groups

/-- Criteria with a self-contained filter close what is there of their condition. -/
theorem closes_compile (hc : c.SelfContained) (h : c.compile before qualify = (.ok e, after)) :
    Closes e.toList before after := by
  obtain ⟨f, middle, hf, rfl, rfl⟩ := compile_cases h
  exact closes_combine c.join ((closes_compileFilter hc hf).append (c.closes_compileSearch middle))

end Criteria

/-! ## Statements and requests -/

/-- A statement is closed when its action names what was bound before its filters. -/
theorem Statement.closed {s : Statement} {before after : Fields}
    (hsort : ∀ k ∈ s.sort, '@' ∉ k.property.toList) (h : Closes s.filters before after)
    (hbefore : ∀ name, before.has name = true ↔
      name = "@collection" ∨ name ∈ s.action.parameters) : (s.query after).Closed := by
  intro name
  have htext : placeholders (s.query after).text = s.parameters :=
    s.placeholders_text ⟨h.named, hsort⟩
  have hbinds : (s.query after).binds = after := rfl
  rw [htext, hbinds, ← Fields.has_iff_mem, h.binds, hbefore, parameters, List.mem_append,
    List.mem_cons, or_right_comm]

namespace Request

theorem has_baseBinds (collection : Value) (name : String) :
    (baseBinds collection).has name = true ↔ name = "@collection" := by
  rw [Fields.has_iff_mem]
  exact List.mem_singleton

/-- A lookup is sorted by the property that its options name. -/
theorem sortBy_of_mem_sort {filters : List Condition} {options : Option FetchOptions} {k : SortKey}
    (h : k ∈ (lookup filters options).sort) : ∃ o ∈ options, k.property ∈ o.sortBy := by
  obtain ⟨o, ho, hsort⟩ := Option.bind_eq_some_iff.1 h
  unfold FetchOptions.sort? at hsort
  split at hsort
  · cases hsort
  · cases hsort
  next property _ hproperty =>
    cases hsort
    exact ⟨o, ho, hproperty⟩

/-- A lookup is closed when its filters are and its sort key has no sign. -/
theorem lookup_closed {filters : List Condition} {options : Option FetchOptions}
    (ho : ∀ o ∈ options, o.SelfContained) {collection : Value} {after : Fields}
    (h : Closes filters (baseBinds collection) after) :
    ((lookup filters options).query after).Closed := by
  refine Statement.closed ?_ h fun name => ?_
  · intro k hk
    obtain ⟨o, hmem, hsortBy⟩ := sortBy_of_mem_sort hk
    exact ho o hmem k.property hsortBy
  · rw [has_baseBinds]
    simp [lookup, Action.parameters]

theorem closes_compileCriteria {criteria : Option Criteria} (hc : ∀ c ∈ criteria, c.SelfContained)
    {options : Option FetchOptions} {before after : Fields} {e : Option Condition}
    (h : compileCriteria criteria options before = (.ok e, after)) :
    Closes e.toList before after := by
  cases criteria with
  | none =>
      cases h
      exact .nil before
  | some c => exact c.closes_compile (hc c rfl) h

/-- Equalities and criteria compile one after the other. -/
theorem valuesCondition_cases {equalities : Equalities} {join : Join}
    {options : Option FetchOptions} {criteria : Option Criteria} {before after : Fields}
    {c : Condition}
    (h : valuesCondition equalities join options criteria before = (.ok c, after)) :
    ∃ e middle group, equalities.compile join before = (.ok e, middle) ∧
      compileCriteria criteria options middle = (.ok group, after) ∧ c = withCriteria e group := by
  unfold valuesCondition at h
  cases hequal : equalities.compile join before with
  | mk result middle =>
      rw [hequal] at h
      cases result with
      | error e => cases h
      | ok e =>
          cases hcriteria : compileCriteria criteria options middle with
          | mk result last =>
              simp only [hcriteria] at h
              cases result with
              | error e => cases h
              | ok group =>
                  cases h
                  exact ⟨e, middle, group, rfl, hcriteria, rfl⟩

theorem closes_valuesCondition {equalities : Equalities} {join : Join}
    {options : Option FetchOptions} {criteria : Option Criteria}
    (hc : ∀ c ∈ criteria, c.SelfContained) {before after : Fields} {e : Condition}
    (h : valuesCondition equalities join options criteria before = (.ok e, after)) :
    Closes [e] before after := by
  obtain ⟨values, middle, group, hequal, hcriteria, rfl⟩ := valuesCondition_cases h
  have hvalues := Equalities.closes_compile hequal
  have hcloses := closes_compileCriteria hc hcriteria
  cases group with
  | none => exact hvalues.append hcloses
  | some c => exact (hvalues.groups.append hcloses).joined .all

theorem has_bindSegments (number : Nat) (parts : List String) (binds : Fields) (name : String) :
    (bindSegments number parts binds).has name = true ↔
      binds.has name = true ∨ name ∈ fieldParameters number parts.length := by
  induction parts generalizing number with
  | nil => simp [bindSegments, fieldParameters]
  | cons part rest ih =>
      rw [bindSegments, Fields.has_set, ih, fieldParameters, fieldParameters, List.length_cons,
        List.range'_succ, List.map_cons, List.mem_cons, or_left_comm]

/-- A change of a list is closed when it brings the parameters of the changed list. -/
theorem changeList_closed {change : ListChange} {binds : Fields}
    (h : "property" :: binds.names = change.parameters) (collection key : Value)
    (property : String) :
    ((changeList change collection key property binds).1.query
      (changeList change collection key property binds).2).Closed := by
  have hkey : Closes [.test (.keyIs "key")]
      (bindSegments 1 (segments property)
        (binds.merge [(collectionParameter, collection), ("property", attributePath property)]))
      (bindSegments 1 (segments property) (binds.merge
        [(collectionParameter, collection), ("key", key), ("property", attributePath property)])) :=
    .test (by decide) fun name => by
      simp only [has_bindSegments, Fields.has_merge, Fields.names_cons, Fields.names_nil,
        List.mem_cons, List.not_mem_nil, Test.parameters]
      grind
  refine Statement.closed (fun k hk => (by cases hk)) hkey fun name => ?_
  rw [has_bindSegments, Fields.has_merge, Fields.has_iff_mem]
  simp only [changeList, Action.parameters, ← h, Fields.names_cons, Fields.names_nil,
    List.mem_append, List.mem_cons, List.not_mem_nil, collectionParameter]
  grind

/-- A patch is closed. -/
theorem patch_closed (collection key patch property : Value) :
    (Statement.query { filters := [.test (.keyIs "key")], action := .patch }
      (baseBinds collection ++
        [("key", key), ("patch", patch), ("property", property)])).Closed := by
  have hkey : Closes [.test (.keyIs "key")]
      (baseBinds collection ++ [("patch", patch), ("property", property)])
      (baseBinds collection ++ [("key", key), ("patch", patch), ("property", property)]) :=
    .test (by decide) fun name => by
      simp only [Fields.has_iff_mem, Fields.names_append, Fields.names_cons, List.mem_append,
        List.mem_cons, Test.parameters]
      grind
  refine Statement.closed (fun k hk => (by cases hk)) hkey fun name => ?_
  simp only [Fields.has_iff_mem, baseBinds, collectionParameter, Fields.names_append,
    Fields.names_cons, Fields.names_nil, Action.parameters, List.mem_append, List.mem_cons]
  grind

theorem actWhere_closed {action : Action} {binds : Fields}
    (h : ∀ name, binds.has name = true ↔ name = "@collection" ∨ name ∈ action.parameters)
    (p : NamedValue) : ((actWhere action p binds).1.query (actWhere action p binds).2).Closed :=
  Statement.closed (fun k hk => (by cases hk))
    (p.closes_test (by decide) (by decide) binds) h

/-! ### Conflicts -/

theorem closes_exclusion (u : Uniqueness) (binds : Fields) :
    Closes (exclusion u binds).1 binds (exclusion u binds).2 := by
  unfold exclusion
  cases excluded? u with
  | none => exact .nil binds
  | some key =>
      refine .test (by decide) fun name => ?_
      rw [Fields.has_set, Test.parameters, List.mem_singleton, or_comm]

theorem closes_searchFilter (u : Uniqueness) (binds : Fields) :
    Closes (searchFilter u binds).1 binds (searchFilter u binds).2 := by
  unfold searchFilter
  cases u.search with
  | none => exact .nil binds
  | some s =>
      have hsearch := s.closes_compile? binds
      dsimp only
      cases hcompile : s.compile? binds with
      | mk c after =>
          rw [hcompile] at hsearch
          cases c with
          | none => exact hsearch
          | some c => exact hsearch.groups

theorem conflictPlan_closed (u : Uniqueness) :
    ((conflictPlan u).1.query (conflictPlan u).2).Closed := by
  have hexcluded := closes_exclusion u (baseBinds (.str u.collection))
  have hbranches := (Constraint.closes_branches u.caseInsensitive 1 u.constraints
    (exclusion u (baseBinds (.str u.collection))).2).joined .any
  rw [conflictPlan]
  simp only [Constraint.branchesFrom_eq]
  have hsearch := closes_searchFilter u ((exclusion u (baseBinds (.str u.collection))).2.merge
    (Constraint.bindingsFrom u.caseInsensitive 1 u.constraints))
  refine Statement.closed (fun k hk => (by cases hk)) ((hexcluded.append hbranches).append hsearch)
    fun name => ?_
  rw [has_baseBinds]
  simp [Action.parameters]

/-! ### All requests -/

theorem query_eq_ok {r : Request} {q : Query} (h : r.query = .ok q) :
    ∃ s binds, r.plan = .ok (s, binds) ∧ q = s.query binds := by
  unfold query at h
  cases hplan : r.plan with
  | error e =>
      rw [hplan] at h
      cases h
  | ok plan =>
      rw [hplan] at h
      cases h
      exact ⟨plan.1, plan.2, rfl, rfl⟩

theorem exists_query {r : Request} (h : r.plan.toOption.isSome = true) : ∃ q, r.query = .ok q := by
  unfold query
  cases hplan : r.plan with
  | error e =>
      rw [hplan] at h
      cases h
  | ok plan => exact ⟨_, rfl⟩

theorem planOf_eq_ok {α : Type} {compiled : Compiled α} {statement : α → Statement} {s : Statement}
    {binds : Fields} (h : planOf compiled statement = .ok (s, binds)) :
    ∃ a, compiled = (.ok a, binds) ∧ s = statement a := by
  obtain ⟨result, after⟩ := compiled
  cases result with
  | error e => cases h
  | ok a =>
      cases h
      exact ⟨a, rfl, rfl⟩

/-- The placeholders of the query of a request are the names that it binds. -/
theorem query_closed {r : Request} (h : r.SelfContained) {q : Query} (hq : r.query = .ok q) :
    q.Closed := by
  obtain ⟨s, binds, hplan, rfl⟩ := query_eq_ok hq
  cases r with
  | all collection options =>
      cases hplan
      exact lookup_closed h (.nil _)
  | byValues collection equalities join options criteria =>
      obtain ⟨c, hcompile, rfl⟩ := planOf_eq_ok hplan
      exact lookup_closed h.1 (closes_valuesCondition h.2 hcompile)
  | byFilter collection input options =>
      simp only [plan] at hplan
      cases hcriteria : filterCriteria input with
      | error e =>
          rw [hcriteria] at hplan
          cases hplan
      | ok criteria =>
          rw [hcriteria] at hplan
          obtain ⟨c, hcompile, rfl⟩ := planOf_eq_ok hplan
          refine lookup_closed h.1 (closes_compileCriteria (fun c hc => h.2 c ?_) hcompile)
          rw [hcriteria, hc]
  | updateWhere collection equality data =>
      cases hplan
      refine actWhere_closed (fun name => ?_) equality
      simp [Fields.has_iff_mem, baseBinds, collectionParameter, Action.parameters, or_comm]
  | removeWhere collection equality =>
      cases hplan
      refine actWhere_closed (fun name => ?_) equality
      rw [has_baseBinds]
      simp [Action.parameters]
  | setProperty collection key property value =>
      cases hplan
      exact patch_closed collection key _ _
  | addToList collection key property value unique =>
      cases hplan
      split
      · exact changeList_closed rfl collection key property
      · exact changeList_closed rfl collection key property
  | removeFromList collection key property value =>
      cases hplan
      exact changeList_closed rfl collection key property
  | conflicts constraint options =>
      simp only [plan] at hplan
      cases hu : usable? constraint with
      | none =>
          rw [hu] at hplan
          cases hplan
      | some u =>
          rw [hu] at hplan
          cases hplan
          exact conflictPlan_closed u

/-- A lookup by a prebuilt filter and a search, one of whose terms asks for null. -/
def adults : Request :=
  byFilter (.str "people")
    (.criteria { filter := some (.prebuilt ⟨" d.age >= @least ", [("least", .int 18)]⟩)
                 search := some ⟨.one "name, address.city", .many ["lan", "null"], .any⟩
                 join := .all })
    (some { sortBy := some "age", limit := some 10, offset := some 20 })

theorem adults_closed : ∃ q, adults.query = .ok q ∧ adults.SelfContained ∧ q.Closed := by
  obtain ⟨q, hq⟩ := exists_query (show adults.plan.toOption.isSome = true by decide +kernel)
  have hfilter : placeholders " d.age >= @least " = ["least"] := by decide
  have hcontained : adults.SelfContained := by
    constructor
    · intro o ho key hkey
      cases ho
      cases hkey
      decide
    · intro c hc f hf
      cases hc
      cases hf
      intro name
      rw [hfilter]
      rfl
  exact ⟨q, hq, hcontained, query_closed hcontained hq⟩

end Request

end DocQuery
