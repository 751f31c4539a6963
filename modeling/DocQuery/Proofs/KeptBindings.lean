import DocQuery.Proofs.SearchTests

/-!
# What compiling criteria keeps bound

Compiling criteria starts from parameters that a caller has bound.  First a prebuilt
filter adds its own, which is refused when one of them is bound already.  Then the
search adds the parameters of its pairs, and nothing is refused there.

So the search may bind a name a second time, one that the caller or the filter has
bound.  `Search.Spares` says that it does not: every name that a pair of the search
binds is free, or bound to the value that the pair gives it.  The bindings of caller and
filter are kept exactly when the search spares both (`compile_keeps_iff`), and
`search_rebinds_filter` is a filter whose parameter is lost.
-/

namespace DocQuery

/-- A search does not rebind a name to another value. -/
def Search.Spares (s : Search) (bound : Fields) : Prop :=
  ∀ k property term, s.pairs[k]? = some (property, term) →
    ∀ name v, Binds (k + 1) property term name v → ∀ w, bound.get? name = some w → w = v

theorem Search.spares_iff_agree {s : Search} {bound : Fields} :
    s.Spares bound ↔ Fields.Agree s.bindings bound := by
  constructor
  · intro hspares name v w hv hw
    obtain ⟨k, property, term, hk, hbinds⟩ := get?_bindings.1 hv
    exact (hspares k property term hk name v hbinds w hw).symm
  · intro hagree k property term hk name v hbinds w hw
    exact (hagree name v w (get?_bindings.2 ⟨k, property, term, hk, hbinds⟩) hw).symm

namespace Filter

theorem boundInBoth_isEmpty {own binds : Fields} :
    (boundInBoth own binds).isEmpty = true ↔ ∀ name ∈ own.names, name ∉ binds.names := by
  rw [List.isEmpty_iff, ← List.length_eq_zero_iff, boundInBoth, List.length_mergeSort,
    List.length_eq_zero_iff, List.filter_eq_nil_iff]
  simp only [Fields.has_iff_mem]

/-- The parameters that a filter brings along. -/
def binds : Filter → Fields
  | prebuilt q => q.binds
  | _ => []

/-- A filter that compiles adds its parameters, and none of them was bound. -/
theorem compile_ok {f : Filter} {before out : Fields} {qualify : Bool} {e : Condition}
    (h : f.compile before qualify = (.ok e, out)) :
    out = before.merge f.binds ∧ ∀ name ∈ f.binds.names, name ∉ before.names := by
  cases f with
  | text s =>
      cases h
      exact ⟨rfl, by simp [binds]⟩
  | clauses l =>
      obtain ⟨-, rfl⟩ := Prod.mk.inj h
      exact ⟨rfl, by simp [binds]⟩
  | prebuilt q =>
      simp only [compile] at h
      split at h
      next hempty =>
        cases h
        exact ⟨rfl, boundInBoth_isEmpty.1 hempty⟩
      next => cases h

end Filter

namespace Criteria

/-- The parameters that the filter brings along. -/
def filterBinds (c : Criteria) : Fields := (c.filter.map Filter.binds).getD []

/-- The parameters of the search. -/
def searchBinds (c : Criteria) : Fields := (c.search.map Search.bindings).getD []

theorem searchBinds_nodup (c : Criteria) : c.searchBinds.names.Nodup :=
  Search.nodup_of_option c.search

/-- A filter that is not given compiles to nothing, and any other as it does alone. -/
theorem compileFilter_cases {c : Criteria} {before out : Fields} {qualify : Bool}
    {e : Option Condition} (h : c.compileFilter before qualify = (.ok e, out)) :
    (e = none ∧ out = before ∧ ∀ f ∈ c.filter, f.isGiven = false) ∨
      ∃ f written, c.filter = some f ∧ f.isGiven = true ∧
        f.compile before qualify = (.ok written, out) ∧
        e = if written.text = "" then none else some written := by
  cases hf : c.filter with
  | none =>
      simp only [compileFilter, hf] at h
      cases h
      exact .inl ⟨rfl, rfl, fun f hf => (by cases hf)⟩
  | some f =>
      simp only [compileFilter, hf] at h
      split at h
      next hgiven =>
        cases hcompile : f.compile before qualify with
        | mk result middle =>
            rw [hcompile] at h
            cases result with
            | error e => cases h
            | ok written =>
                cases h
                exact .inr ⟨f, written, rfl, hgiven, hcompile, rfl⟩
      next hgiven =>
        cases h
        refine .inl ⟨rfl, rfl, fun g hg => ?_⟩
        cases hg
        exact Bool.eq_false_iff.2 hgiven

theorem compileFilter_ok {c : Criteria} {before out : Fields} {qualify : Bool}
    {e : Option Condition} (h : c.compileFilter before qualify = (.ok e, out)) :
    out = before.merge c.filterBinds ∧ ∀ name ∈ c.filterBinds.names, name ∉ before.names := by
  unfold filterBinds
  rcases compileFilter_cases h with ⟨-, rfl, hgiven⟩ | ⟨f, written, hf, -, hcompile, -⟩
  · have hnone : (c.filter.map Filter.binds).getD [] = [] := by
      cases hf : c.filter with
      | none => rfl
      | some f =>
          -- only an empty text is not given
          cases f with
          | text s => rfl
          | clauses l => cases hgiven _ hf
          | prebuilt q => cases hgiven _ hf
    rw [hnone]
    exact ⟨rfl, by simp⟩
  · rw [hf]
    exact Filter.compile_ok hcompile

theorem compileSearch_snd (c : Criteria) (before : Fields) :
    (c.compileSearch before).2 = before.merge c.searchBinds := by
  unfold compileSearch searchBinds
  cases c.search with
  | none => rfl
  | some s => exact s.compile?_snd before

/-- Criteria that compile, compile their filter and then their search. -/
theorem compile_cases {c : Criteria} {before out : Fields} {qualify : Bool} {e : Option Condition}
    (h : c.compile before qualify = (.ok e, out)) :
    ∃ f middle, c.compileFilter before qualify = (.ok f, middle) ∧
      e = combine c.join f (c.compileSearch middle).1 ∧ out = (c.compileSearch middle).2 := by
  rw [compile] at h
  cases hf : c.compileFilter before qualify with
  | mk result middle =>
      rw [hf] at h
      cases result with
      | error e => cases h
      | ok f =>
          cases h
          exact ⟨f, middle, rfl, rfl, rfl⟩

/-- Criteria that compile add the parameters of the filter and then those of the
search. -/
theorem compile_ok {c : Criteria} {binds out : Fields} {qualify : Bool} {e : Option Condition}
    (h : c.compile binds qualify = (.ok e, out)) :
    out = (binds.merge c.filterBinds).merge c.searchBinds ∧
      ∀ name ∈ c.filterBinds.names, name ∉ binds.names := by
  obtain ⟨f, middle, hf, -, rfl⟩ := compile_cases h
  obtain ⟨rfl, hfree⟩ := compileFilter_ok hf
  exact ⟨c.compileSearch_snd _, hfree⟩

/-- Criteria that compile keep what the caller and the filter have bound exactly when the
search rebinds none of it to another value.  A filter binds no name twice. -/
theorem compile_keeps_iff (c : Criteria) (hdistinct : c.filterBinds.names.Nodup)
    {binds out : Fields} {qualify : Bool} {e : Option Condition}
    (h : c.compile binds qualify = (.ok e, out)) :
    (out.Keeps binds ∧ out.Keeps c.filterBinds) ↔
      ∀ s, c.search = some s → s.Spares binds ∧ s.Spares c.filterBinds := by
  obtain ⟨rfl, hfree⟩ := compile_ok h
  have hcaller : (binds.merge c.filterBinds).Keeps binds := by
    refine (Fields.keeps_merge_iff hdistinct fun _ _ hv => hv).2 fun name v w hv hw => ?_
    exact absurd (Fields.has_iff_mem.1 (Fields.has_of_get? hw))
      (hfree name (Fields.has_iff_mem.1 (Fields.has_of_get? hv)))
  have hfilter := Fields.keeps_merge_right binds hdistinct
  rw [Fields.keeps_merge_iff c.searchBinds_nodup hcaller,
    Fields.keeps_merge_iff c.searchBinds_nodup hfilter]
  unfold searchBinds
  cases c.search with
  | none => simp [Fields.Agree]
  | some s => simp [Search.spares_iff_agree]

/-- A search for one term in one property. -/
def oneTerm : Search := ⟨.one "name", .one "lan", .any⟩

theorem bindings_oneTerm : oneTerm.bindings =
    [("search_prop_1", .str "name"), ("search_term_1", .str "%lan%")] := by cbv

/-- A filter whose parameter has a name and a value that the search gives out. -/
def agreeing : Criteria where
  filter := some (.prebuilt ⟨"d.@search_prop_1 == 1", [("search_prop_1", .str "name")]⟩)
  search := some oneTerm

/-- Bindings that the search repeats are kept, the filter's and the caller's. -/
theorem agreeing_keeps :
    ∃ e out, agreeing.compile [("search_term_1", .str "%lan%")] = (.ok e, out) ∧
      out.Keeps [("search_term_1", .str "%lan%")] ∧ out.Keeps agreeing.filterBinds := by
  have hok : (agreeing.compile [("search_term_1", .str "%lan%")]).1.toOption.isSome = true := by
    decide +kernel
  cases hc : agreeing.compile [("search_term_1", .str "%lan%")] with
  | mk result out =>
      rw [hc] at hok
      cases result with
      | error e => cases hok
      | ok e =>
          refine ⟨e, out, rfl, (compile_keeps_iff agreeing (by decide) hc).2 fun s hs => ?_⟩
          cases hs
          rw [Search.spares_iff_agree, Search.spares_iff_agree, bindings_oneTerm]
          constructor
          · intro name v w hv hw
            simp only [Fields.get?] at hv hw
            grind
          · intro name v w hv hw
            simp only [agreeing, filterBinds, Option.map_some, Option.getD_some, Filter.binds,
              Fields.get?] at hv hw
            grind

/-- A filter whose own parameter has a name that the search gives out. -/
def rebinding : Criteria where
  filter := some (.prebuilt ⟨"d.age == @search_prop_1", [("search_prop_1", .int 42)]⟩)
  search := some oneTerm

/-- The search binds the filter's parameter to the name of its property, and the criteria
compile all the same. -/
theorem search_rebinds_filter :
    ∃ e out, rebinding.compile [] = (.ok e, out) ∧ ¬ out.Keeps rebinding.filterBinds := by
  have hok : (rebinding.compile []).1.toOption.isSome = true := by decide +kernel
  cases hc : rebinding.compile [] with
  | mk result out =>
      rw [hc] at hok
      cases result with
      | error e => cases hok
      | ok e =>
          refine ⟨e, out, rfl, fun hkeeps => ?_⟩
          have hsearch : rebinding.searchBinds = oneTerm.bindings := rfl
          obtain ⟨rfl, -⟩ := compile_ok hc
          have hout := hkeeps "search_prop_1" (.int 42) rfl
          rw [hsearch, bindings_oneTerm] at hout
          cases hout

end Criteria

end DocQuery
