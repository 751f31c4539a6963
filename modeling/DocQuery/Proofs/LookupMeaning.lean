import DocQuery.Proofs.CriteriaMeaning
import DocQuery.Proofs.ParameterNames
import DocQuery.Proofs.StatementParts

/-!
# What a lookup by values accepts

The query of a lookup by values has one filter, and behind it the order and the page.  The
filter is read back from the text of the query, and each placeholder is the value bound for
it.  Main result: it says that the equalities hold, any or all of them, and that the
criteria are met (`Request.byValues_means`).

Criteria may come without a filter, without a pair to search for, or without both; then
that much less is asked (`Criteria.Asks`).  Their filter is text of a caller.  It has to be
well-formed, and it means what it means on its own: its parameters have the values that it
brings along.  No equality binds them as well, or the lookup is refused, and no search
binds them as long as none begins with `search_`.
-/

namespace DocQuery

/-! ## Equalities -/

namespace Equalities

/-- The named values. -/
def members : Equalities → List NamedValue
  | one p => [p]
  | many ps => ps

/-- What equalities bind. -/
def bindings : Equalities → Fields
  | one p => p.bindings false "prop" "val"
  | many ps => NamedValue.bindingsFrom false 1 ps

/-- The condition of equalities. -/
def condition (join : Join) : Equalities → Condition
  | one p => .test (NamedValue.testOf (p.form false).lowered "prop" "val")
  | many ps => .joined join (NamedValue.formTests 1 (ps.map (NamedValue.form false)))

theorem compile_ok {e : Equalities} {join : Join} {before out : Fields} {c : Condition}
    (h : e.compile join before = (.ok c, out)) :
    e.members ≠ [] ∧ c = e.condition join ∧ out = before.merge e.bindings := by
  cases e with
  | one p =>
      rw [compile, NamedValue.test_eq] at h
      cases h
      exact ⟨List.cons_ne_nil _ _, rfl, rfl⟩
  | many ps =>
      cases ps with
      | nil => cases h
      | cons p rest =>
          simp only [compile, NamedValue.testsFrom_eq] at h
          cases h
          exact ⟨List.cons_ne_nil _ _, rfl, rfl⟩

theorem endsWordlike_fixed : EndsWordlike "prop" ∧ EndsWordlike "val" := by
  constructor
  · intro c hc
    cases hc
    rfl
  · intro c hc
    cases hc
    rfl

theorem bindings_nodup (e : Equalities) : e.bindings.names.Nodup := by
  cases e with
  | one p => simp [bindings, NamedValue.bindings]
  | many ps => exact NamedValue.bindingsFrom_nodup false 1 ps

/-- No search binds what equalities bind. -/
theorem not_mem_search {e : Equalities} {name : String} (h : name ∈ e.bindings.names)
    (s : Search) : name ∉ s.bindings.names := by
  cases e with
  | one p =>
      simp only [bindings, NamedValue.bindings, Fields.names_cons, Fields.names_nil,
        List.mem_cons, List.not_mem_nil, or_false] at h
      obtain rfl | rfl := h
      · exact Search.not_mem_of_endsWordlike endsWordlike_fixed.1 s
      · exact Search.not_mem_of_endsWordlike endsWordlike_fixed.2 s
  | many ps =>
      obtain ⟨k, -, hk⟩ := NamedValue.numbered_of_mem h
      exact hk.not_mem_search s

variable {look : String → Option Value}

/-- The condition of equalities says that any or all of their named values are there. -/
theorem says_condition {e : Equalities} (hne : e.members ≠ []) (h : Gives look e.bindings)
    (join : Join) :
    Says look [e.condition join] fun I =>
      join.Combines (fun p => I (p.fact false).slots) e.members := by
  cases e with
  | one p =>
      have hnamed : (NamedValue.testOf (p.form false).lowered "prop" "val").Named :=
        NamedValue.named_testOf _ (by decide) (by decide)
      refine .piece (.test hnamed) fun I => ?_
      rw [Test.holds_iff hnamed (p.fact?_testOf false h)]
      exact (Join.combines_singleton (fun p => I (p.fact false).slots) p join).symm
  | many ps =>
      refine .joined ?_ (NamedValue.pieces_formTests (NamedValue.named_formTests false 1 ps))
        fun I => NamedValue.combines_formTests h join I
      cases ps with
      | nil => exact absurd rfl hne
      | cons p rest => exact List.cons_ne_nil _ _

end Equalities

/-! ## Criteria -/

/-- All parameters of a search have the same beginning. -/
theorem Search.prefix_of_mem {s : Search} {name : String} (h : name ∈ s.bindings.names) :
    "search_".toList <+: name.toList := by
  have hproperty : "search_".toList <+: "search_prop_".toList := by decide
  have hterm : "search_".toList <+: "search_term_".toList := by decide
  obtain ⟨k, rfl | rfl⟩ := exists_parameter h
  · rw [propertyParameter, String.toList_append]
    exact hproperty.trans (List.prefix_append _ _)
  · rw [termParameter, String.toList_append]
    exact hterm.trans (List.prefix_append _ _)

theorem Fields.get?_merge_or (fields more : Fields) (name : String) :
    (fields.merge more).get? name = ((merge [] more).get? name).or (fields.get? name) := by
  induction more generalizing fields with
  | nil => rfl
  | cons entry more ih =>
      obtain ⟨key, value⟩ := entry
      rw [merge_cons, merge_cons, ih, ih (set [] key value), Option.or_assoc, get?_set, get?_set]
      by_cases h : key = name
      · rw [if_pos h, if_pos h]
        rfl
      · rw [if_neg h, if_neg h]
        rfl

theorem Filter.compile_alone {f : Filter} {before out : Fields} {qualify : Bool} {e : Condition}
    (h : f.compile before qualify = (.ok e, out)) : (f.compile [] qualify).1 = .ok e := by
  cases f with
  | text s =>
      cases h
      rfl
  | clauses l => exact (Prod.mk.inj h).1
  | prebuilt q =>
      have hfree : (boundInBoth q.binds []).isEmpty = true :=
        boundInBoth_isEmpty.2 fun name _ => List.not_mem_nil
      simp only [compile] at h ⊢
      rw [if_pos hfree]
      split at h
      · cases h
        rfl
      · cases h

namespace Criteria

theorem compileFilter_alone {c : Criteria} {before out : Fields} {qualify : Bool}
    {e : Option Condition} (h : c.compileFilter before qualify = (.ok e, out)) :
    (c.compileFilter [] qualify).1 = .ok e := by
  unfold compileFilter at h ⊢
  cases hf : c.filter with
  | none =>
      rw [hf] at h
      cases h
      rfl
  | some f =>
      rw [hf] at h
      simp only at h ⊢
      split at h
      next hgiven =>
        rw [if_pos hgiven]
        cases hcompile : f.compile before qualify with
        | mk result middle =>
            rw [hcompile] at h
            cases result with
            | error refusal => cases h
            | ok written =>
                have halone := Filter.compile_alone hcompile
                cases h
                cases hagain : f.compile [] qualify with
                | mk result after =>
                    rw [hagain] at halone
                    obtain rfl : result = .ok written := halone
                    rfl
      next hgiven =>
        rw [if_neg hgiven]
        cases h
        rfl

/-- The text of the filter, compiled on its own, where criteria have one. -/
def filterText? (c : Criteria) (qualify : Bool) : Option String :=
  (c.compileFilter [] qualify).1.toOption.join.map Condition.text

/-- The search, where criteria have one with a pair. -/
def search? (c : Criteria) : Option Search := c.search.filter fun s => !s.pairs.isEmpty

/-- The parameters of the filter have the values that it brings along, and others those
that the query binds. -/
def ownFirst (c : Criteria) (look : String → Option Value) (name : String) : Option Value :=
  ((Fields.merge [] c.filterBinds).get? name).or (look name)

/-- What criteria ask of a document: the filter and the search, joined, as far as they are
there. -/
def Asks (c : Criteria) (qualify : Bool) (look : String → Option Value) (I : List Slot → Prop) :
    Prop :=
  let filter := (c.filterText? qualify).map fun s =>
    Truth (fun cs => I (resolve (c.ownFirst look) cs)) s.toList
  let search := c.search?.map fun s => s.Asks I
  filter.toList ++ search.toList ≠ [] → c.join.Combines id (filter.toList ++ search.toList)

theorem filterText?_eq {c : Criteria} {before out : Fields} {qualify : Bool}
    {e : Option Condition} (h : c.compileFilter before qualify = (.ok e, out)) :
    c.filterText? qualify = e.map Condition.text := by
  rw [filterText?, compileFilter_alone h]
  rfl

theorem compileSearch_fst (c : Criteria) (binds : Fields) :
    (c.compileSearch binds).1 =
      c.search?.map fun s => .joined s.join (Search.testsOf 1 s.kinds) := by
  unfold compileSearch search?
  cases c.search with
  | none => rfl
  | some s =>
      obtain ⟨hempty, hnone⟩ | ⟨hpairs, -, hsome⟩ := s.compile?_cases binds
      · rw [Option.filter, if_neg (by simp [hempty])]
        exact hnone
      · rw [Option.filter, if_pos (by simpa using hpairs)]
        exact hsome

/-- The search that is compiled finds its parameters bound. -/
theorem gives_search {c : Criteria} {look : String → Option Value} (h : Gives look c.searchBinds)
    {s : Search} (hs : s ∈ c.search?) : Gives look s.bindings := by
  have hsearch : c.search = some s := (Option.filter_eq_some_iff.1 hs).1
  rwa [searchBinds, hsearch] at h

/-- What a query binds keeps the parameters of the filter, which no search gives out. -/
theorem ownFirst_eq {c : Criteria} (before : Fields)
    (hnames : ∀ name ∈ c.filterBinds.names, name ∉ c.searchBinds.names) :
    c.ownFirst ((before.merge c.filterBinds).merge c.searchBinds).get? =
      ((before.merge c.filterBinds).merge c.searchBinds).get? := by
  funext name
  rw [ownFirst]
  by_cases hname : name ∈ c.filterBinds.names
  · rw [Fields.get?_merge_of_not_mem _ (hnames name hname), Fields.get?_merge_or before]
    cases (Fields.merge [] c.filterBinds).get? name <;> rfl
  · have hnone : (Fields.merge [] c.filterBinds).get? name = none := by
      rw [Fields.get?_merge_of_not_mem [] hname]
      rfl
    rw [hnone]
    rfl

theorem combine_eq_none {j : Join} {f s : Option Condition} (h : combine j f s = none) :
    f = none ∧ s = none := by
  cases f with
  | none =>
      cases s with
      | none => exact ⟨rfl, rfl⟩
      | some s => cases h
  | some f => cases s <;> cases h

/-- A filter counts with its text alone. -/
theorem text_combine (j : Join) (f s : Option Condition) :
    (combine j (f.map fun f => .written f.text) s).map Condition.text =
      (combine j f s).map Condition.text := by
  cases f <;> cases s <;> rfl

theorem combines_toList {α : Type} {P Q : α → Prop} {o : Option α} (h : ∀ a ∈ o, (P a ↔ Q a))
    (j : Join) : j.Combines P o.toList ↔ j.Combines id (o.map Q).toList := by
  rw [Option.toList_map, Join.combines_map]
  exact Join.combines_congr (fun a ha => h a (Option.mem_toList.1 ha)) j

/-- The condition of criteria, with the filter taken as the text that it is, asks what the
criteria ask. -/
theorem compile_asks {c : Criteria} {before out : Fields} {qualify : Bool} {e : Option Condition}
    (hnames : ∀ name ∈ c.filterBinds.names, name ∉ c.searchBinds.names)
    (hwell : ∀ s ∈ c.filterText? qualify, WellFormed s.toList)
    (h : c.compile before qualify = (.ok e, out)) :
    ∃ e' : Option Condition, e'.map Condition.text = e.map Condition.text ∧
      (∀ x ∈ e', x.Piece) ∧
      ∀ I, (∀ x ∈ e', x.Holds fun cs => I (resolve out.get? cs)) ↔
        c.Asks qualify out.get? I := by
  obtain ⟨rfl, -⟩ := compile_ok h
  obtain ⟨f, middle, hf, rfl, -⟩ := compile_cases h
  have hgives : Gives ((before.merge c.filterBinds).merge c.searchBinds).get? c.searchBinds :=
    gives_merge _ c.searchBinds_nodup
  have hown := ownFirst_eq before hnames
  have htext := filterText?_eq hf
  rw [htext] at hwell
  generalize ((before.merge c.filterBinds).merge c.searchBinds).get? = look at hgives hown ⊢
  have hreadable : ∀ x ∈ f.map fun f => Condition.written f.text, x.Readable := by
    intro x hx
    obtain ⟨g, rfl, rfl⟩ := Option.map_eq_some_iff.1 hx
    exact hwell g.text rfl
  refine ⟨_, text_combine c.join f (c.compileSearch middle).1, fun x hx =>
    (holds_combine hreadable (c.readable_search middle) hx).1, fun I => ?_⟩
  -- each part asks on its own what it asks as a part of the condition
  have hfilter : c.join.Combines (Condition.Holds fun cs => I (resolve look cs))
      (f.map fun f => Condition.written f.text).toList ↔ c.join.Combines id
        ((c.filterText? qualify).map fun s =>
          Truth (fun cs => I (resolve (c.ownFirst look) cs)) s.toList).toList := by
    rw [htext, Option.map_map, Option.toList_map, Join.combines_map, hown]
    exact combines_toList (fun _ _ => Iff.rfl) c.join
  have hsearch : c.join.Combines (Condition.Holds fun cs => I (resolve look cs))
      (c.compileSearch middle).1.toList ↔
        c.join.Combines id (c.search?.map fun s => s.Asks I).toList := by
    rw [compileSearch_fst, Option.toList_map, Join.combines_map]
    exact combines_toList (fun s hs => Search.holds_joined (gives_search hgives hs) I) c.join
  cases hcombine : combine c.join (f.map fun f => .written f.text) (c.compileSearch middle).1 with
  | none =>
      obtain ⟨hnone, hnothing⟩ := combine_eq_none hcombine
      have hempty : (c.filterText? qualify) = none := by
        rw [htext]
        exact Option.map_eq_none_iff.2 (Option.map_eq_none_iff.1 hnone)
      have hblank : c.search? = none := by
        rw [compileSearch_fst] at hnothing
        exact Option.map_eq_none_iff.1 hnothing
      simp [Asks, hempty, hblank]
  | some x =>
      have hholds := (holds_combine hreadable (c.readable_search middle) hcombine).2
      have hparts : ((c.filterText? qualify).map fun s =>
          Truth (fun cs => I (resolve (c.ownFirst look) cs)) s.toList).toList ++
            (c.search?.map fun s => s.Asks I).toList ≠ [] := by
        intro hnil
        obtain ⟨hempty, hblank⟩ := List.append_eq_nil_iff.1 hnil
        rw [Option.toList_eq_nil_iff, Option.map_eq_none_iff] at hempty hblank
        rw [htext, Option.map_eq_none_iff] at hempty
        rw [compileSearch_fst, hempty, hblank] at hcombine
        cases hcombine
      have hone : (∀ y ∈ some x, y.Holds fun cs => I (resolve look cs)) ↔
          x.Holds fun cs => I (resolve look cs) := by simp
      rw [hone, hholds, Join.combines_append, hfilter, hsearch, ← Join.combines_append, Asks]
      exact ⟨fun hasks _ => hasks, fun hasks => hasks hparts⟩

end Criteria

/-! ## The query -/

namespace Request

/-- What a lookup writes behind its filters: the order, the page and the action. -/
def lookupEnding (options : Option FetchOptions) : List Char := (lookup [] options).ending

/-- What equalities bind stays bound when criteria are compiled: a filter that binds one of their
parameters is refused, and no search does. -/
theorem gives_equalities {equalities : Equalities} {options : Option FetchOptions}
    {criteria : Option Criteria} {before after : Fields} {group : Option Condition}
    (h : compileCriteria criteria options (before.merge equalities.bindings) = (.ok group, after)) :
    Gives after.get? equalities.bindings := by
  have hvalues := gives_merge before equalities.bindings_nodup
  cases criteria with
  | none =>
      cases h
      exact hvalues
  | some criteria =>
      obtain ⟨rfl, hfree⟩ := Criteria.compile_ok h
      refine (hvalues.merge fun name hname hfilter => ?_).merge fun name hname =>
        Search.not_mem_option (Equalities.not_mem_search hname) criteria.search
      refine hfree name hfilter (Fields.has_iff_mem.1 ?_)
      exact (Fields.has_merge _ _ _).2 (.inr hname)

/-- The condition of a lookup by values has the text of one that says what is asked. -/
theorem says_valuesCondition {equalities : Equalities} {join : Join}
    {options : Option FetchOptions} {criteria : Option Criteria}
    (hnames : ∀ c ∈ criteria, ∀ name ∈ c.filterBinds.names, ¬ "search_".toList <+: name.toList)
    (hwell : ∀ c ∈ criteria, ∀ s ∈ c.filterText? (qualifies options), WellFormed s.toList)
    {before after : Fields} {c : Condition}
    (h : valuesCondition equalities join options criteria before = (.ok c, after)) :
    ∃ c' : Condition, c'.text = c.text ∧ Says after.get? [c'] fun I =>
      join.Combines (fun p => I (p.fact false).slots) equalities.members ∧
        ∀ c ∈ criteria, c.Asks (qualifies options) after.get? I := by
  obtain ⟨e, middle, group, hequal, hcriteria, rfl⟩ := valuesCondition_cases h
  obtain ⟨hne, rfl, rfl⟩ := Equalities.compile_ok hequal
  have hkept := gives_equalities hcriteria
  cases criteria with
  | none =>
      cases hcriteria
      refine ⟨_, rfl, (Equalities.says_condition hne hkept join).congr fun I => ?_⟩
      simp
  | some criteria =>
      obtain ⟨rfl, -⟩ := Criteria.compile_ok hcriteria
      have hapart : ∀ name ∈ criteria.filterBinds.names, name ∉ criteria.searchBinds.names :=
        fun name hname => Search.not_mem_option (fun s hmem =>
          hnames criteria rfl name hname (Search.prefix_of_mem hmem)) criteria.search
      obtain ⟨group', htext, hpiece, hasks⟩ :=
        Criteria.compile_asks hapart (hwell criteria rfl) hcriteria
      have hmeaning := Equalities.says_condition hne hkept join
      cases group with
      | none =>
          obtain rfl : group' = none := Option.map_eq_none_iff.1 htext
          refine ⟨_, rfl, hmeaning.congr fun I => ?_⟩
          have hnothing := (hasks I).1 (by simp)
          simpa using fun _ => hnothing
      | some group =>
          obtain ⟨x, rfl, hx⟩ := Option.map_eq_some_iff.1 htext
          have hgroup : (Condition.group (equalities.condition join)).Piece :=
            .group (hmeaning.readable _ List.mem_cons_self)
          refine ⟨.joined .all [.group (equalities.condition join), x], ?_,
            .joined (List.cons_ne_nil _ _)
              (List.forall_mem_cons.2 ⟨hgroup, List.forall_mem_singleton.2 (hpiece x rfl)⟩)
              fun I => ?_⟩
          · simp [withCriteria, Condition.text, Condition.texts, hx]
          · rw [Join.combines_cons, Join.combines_singleton, Condition.Holds]
            exact and_congr (by simpa using hmeaning.holds I) (by simpa using hasks I)

theorem toList_text_lookup (c : Condition) (options : Option FetchOptions) :
    (lookup [c] options).text.toList =
      "FOR d IN @@collection FILTER ".toList ++ c.text.toList ++ lookupEnding options := by
  have hstart : "FOR d IN @@collection FILTER ".toList =
      "FOR d IN @@collection".toList ++ " FILTER ".toList := by decide
  have hfilter : (String.join ((lookup [c] options).filters.map Statement.filterText)).toList =
      " FILTER ".toList ++ c.text.toList := by
    simp [lookup, Statement.filterText]
  have hending : (lookup [c] options).ending = lookupEnding options := rfl
  rw [Statement.text_eq_ending, hfilter, hending, hstart, List.append_assoc, List.append_assoc,
    List.append_assoc]

/-- A lookup by values has one filter, which says that the equalities hold and that the
criteria are met.  The order and the page come behind it and have no part in it; they hold
no other filter unless the sort key has white space. -/
theorem byValues_means {collection : Value} {equalities : Equalities} {join : Join}
    {options : Option FetchOptions} {criteria : Option Criteria}
    (hnames : ∀ c ∈ criteria, ∀ name ∈ c.filterBinds.names, ¬ "search_".toList <+: name.toList)
    (hwell : ∀ c ∈ criteria, ∀ s ∈ c.filterText? (qualifies options), WellFormed s.toList)
    {q : Query} (hq : (byValues collection equalities join options criteria).query = .ok q) :
    ∃ e, q.text.toList = "FOR d IN @@collection FILTER ".toList ++ e ++ lookupEnding options ∧
      filtersOf q.text.toList = e :: filtersOf (lookupEnding options) ∧
      ((∀ o ∈ options, ∀ key ∈ o.sortBy, ∀ c ∈ key.toList, isSpace c = false) →
        filtersOf (lookupEnding options) = []) ∧
      WellFormed e ∧
      ∀ I, Truth (fun cs => I (resolve q.binds.get? cs)) e ↔
        join.Combines (fun p => I (p.fact false).slots) equalities.members ∧
          ∀ c ∈ criteria, c.Asks (qualifies options) q.binds.get? I := by
  obtain ⟨s, binds, hplan, rfl⟩ := query_eq_ok hq
  obtain ⟨c, hc, rfl⟩ := planOf_eq_ok hplan
  obtain ⟨c', htext, hmeaning⟩ := says_valuesCondition hnames hwell hc
  have hwritten : (lookup [c] options).text.toList = (lookup [c'] options).text.toList := by
    rw [toList_text_lookup, toList_text_lookup, htext]
  have hmeans := c'.truth_text (hmeaning.readable c' List.mem_cons_self)
  have hending : (lookup [c'] options).ending = lookupEnding options := rfl
  refine ⟨c'.text.toList, ?_, ?_, ?_, hmeans.1, fun I => ?_⟩
  · rw [Statement.query, hwritten, toList_text_lookup]
  · rw [Statement.query, hwritten, Statement.filtersOf_text _ hmeaning.sheltered, hending]
    rfl
  · intro hsort
    refine Statement.filtersOf_ending rfl fun k hk => ?_
    obtain ⟨o, ho, hsortBy⟩ := sortBy_of_mem_sort hk
    exact hsort o ho k.property hsortBy
  · rw [hmeans.2, Statement.query, ← hmeaning.holds I, List.forall_mem_singleton]

/-- Riders who are of age or of no known age, with a term in their name or any name at all. -/
def grownRiders : Criteria where
  filter := some (.prebuilt ⟨"d.age >= @least || d.age == null", [("least", .int 18)]⟩)
  search := some ⟨.one "name", .many ["lan", "!null"], .any⟩
  join := .all

theorem asks_grownRiders (look : String → Option Value) (I : List Slot → Prop) :
    grownRiders.Asks true look I ↔
      (I (Fact.chars "d.age >= " ++ [.value (.int 18)]) ∨ I (Fact.chars "d.age == null")) ∧
        (I (Fact.like (.str "name") (.str "%lan%")).slots ∨
          I (Fact.notNull (.str "name")).slots) := by
  have htext : grownRiders.filterText? true = some "d.age >= @least || d.age == null" := by cbv
  have hread : Formula.read "d.age >= @least || d.age == null".toList =
      some (.joined .any [.joined .all [.atom "d.age >= @least".toList],
        .joined .all [.atom "d.age == null".toList]]) := by cbv
  have hage : resolve (grownRiders.ownFirst look) "d.age >= @least".toList =
      Fact.chars "d.age >= " ++ [.value (.int 18)] := by cbv
  have hnull : resolve (grownRiders.ownFirst look) "d.age == null".toList =
      Fact.chars "d.age == null" := by cbv
  have hfilter : Truth (fun cs => I (resolve (grownRiders.ownFirst look) cs))
      "d.age >= @least || d.age == null".toList ↔
        I (Fact.chars "d.age >= " ++ [.value (.int 18)]) ∨ I (Fact.chars "d.age == null") := by
    rw [Truth, hread]
    simp only [Option.mem_def, Option.some.injEq, exists_eq_left', Formula.holds_joined,
      Join.combines_cons, Join.combines_any_nil, Join.combines_all_nil, or_false, and_true,
      Join.Both]
    simp only [Formula.Holds, hage, hnull]
  have hpairs : (⟨.one "name", .many ["lan", "!null"], .any⟩ : Search).pairs =
      [("name", "lan"), ("name", "!null")] := by cbv
  have hsearch : grownRiders.search? = some ⟨.one "name", .many ["lan", "!null"], .any⟩ := by
    simp [Criteria.search?, grownRiders, hpairs]
  have hlan : Search.fact "name" "lan" = .like (.str "name") (.str "%lan%") := by cbv
  have hany : Search.fact "name" "!null" = .notNull (.str "name") := by cbv
  have hjoin : grownRiders.join = .all := rfl
  simp only [Criteria.Asks, htext, Option.map_some, hfilter]
  simp [hsearch, hjoin, Search.Asks, hpairs, hlan, hany, Join.combines_cons, Join.Both]

/-- The name as it is written, the team in any case. -/
def knownRiders : Equalities :=
  .many [⟨"name", .str "Lance", true⟩, ⟨"team", .str "Postal", false⟩]

def firstThree : FetchOptions where
  sortBy := some "age"
  limit := some 3

/-- The first three of them by age. -/
def riders : Request :=
  byValues (.str "cyclists") knownRiders .any (some firstThree) (some grownRiders)

theorem riders_means : ∃ q e, riders.query = .ok q ∧
    filtersOf q.text.toList = [e] ∧ WellFormed e ∧
    ∀ I : List Slot → Prop, Truth (fun cs => I (resolve q.binds.get? cs)) e ↔
      (I (Fact.equal (.str "name") (.str "Lance")).slots ∨
        I (Fact.equalLower (.str "team") (.str "postal")).slots) ∧
      (I (Fact.chars "d.age >= " ++ [.value (.int 18)]) ∨ I (Fact.chars "d.age == null")) ∧
      (I (Fact.like (.str "name") (.str "%lan%")).slots ∨
        I (Fact.notNull (.str "name")).slots) := by
  obtain ⟨q, hq⟩ := exists_query (show riders.plan.toOption.isSome = true by decide +kernel)
  have hnames : ∀ c ∈ some grownRiders, ∀ name ∈ c.filterBinds.names,
      ¬ "search_".toList <+: name.toList := by
    rintro c hc name hname
    cases hc
    have hnames : grownRiders.filterBinds.names = ["least"] := rfl
    rw [hnames, List.mem_singleton] at hname
    rw [hname]
    decide
  have htext : grownRiders.filterText? true = some "d.age >= @least || d.age == null" := by cbv
  have hwell : ∀ c ∈ some grownRiders, ∀ s ∈ c.filterText? true, WellFormed s.toList := by
    rintro c hc s hs
    cases hc
    rw [htext] at hs
    cases hs
    decide +kernel
  -- The options are named: left to unification they would be looked for through `qualifies`.
  obtain ⟨e, -, hfilters, hending, hwellFormed, hmeans⟩ :=
    @byValues_means (.str "cyclists") knownRiders .any (some firstThree) (some grownRiders)
      hnames hwell q hq
  have hsort := hending fun o ho key hkey => by
    cases ho
    cases hkey
    exact isSpace_of_all (by decide)
  rw [hsort] at hfilters
  refine ⟨q, e, hq, hfilters, hwellFormed, fun I => ?_⟩
  have hname : NamedValue.fact false ⟨"name", .str "Lance", true⟩ =
      .equal (.str "name") (.str "Lance") := by cbv
  have hteam : NamedValue.fact false ⟨"team", .str "Postal", false⟩ =
      .equalLower (.str "team") (.str "postal") := by cbv
  have hqualifies : qualifies (some firstThree) = true := rfl
  rw [hmeans, hqualifies]
  simp [knownRiders, Equalities.members, Join.combines_cons, Join.Both, hname, hteam,
    asks_grownRiders]

end Request

end DocQuery
