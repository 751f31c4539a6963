import DocQuery.Proofs.KeptBindings

/-!
# Refused filters

What is handed in as a filter is compiled next to parameters that are bound already.  Four
kinds of input are refused (`FilterInput.Refused`): a list without conditions, a prebuilt
filter with a parameter that is bound, criteria, and whatever is no filter at all.

Every check comes before the first binding.  So a refusal leaves the bound parameters as they
are, and whatever is not refused puts its own parameters behind them
(`FilterInput.compile_cases`).  Criteria compile their filter first and refuse nothing else, so
they are refused with their filter and bind nothing then either (`Criteria.refused_cases`).
-/

namespace DocQuery

namespace FilterInput

/-- The parameters that what is handed in brings along. -/
def binds : FilterInput → Fields
  | filter f => f.binds
  | _ => []

/-- What is refused as a filter, next to parameters that are bound. -/
inductive Refused (bound : Fields) : FilterInput → Prop where
  /-- A list without conditions. -/
  | noClauses {l : ClauseList} (h : l.clauses = []) : Refused bound (filter (.clauses l))
  /-- A prebuilt filter with a parameter that is bound. -/
  | boundTwice {q : Query} {name : String} (hown : name ∈ q.binds.names)
      (hbound : name ∈ bound.names) : Refused bound (filter (.prebuilt q))
  /-- Criteria, which may hold a filter but are none. -/
  | criteria (c : Criteria) : Refused bound (criteria c)
  /-- Any other value. -/
  | other (v : Value) : Refused bound (other v)

variable {bound : Fields}

theorem refused_clauses {l : ClauseList} :
    Refused bound (filter (.clauses l)) ↔ l.clauses = [] := by
  constructor
  · intro h
    cases h with
    | noClauses hempty => exact hempty
  · exact .noClauses

theorem refused_prebuilt {q : Query} :
    Refused bound (filter (.prebuilt q)) ↔
      ¬ (Filter.boundInBoth q.binds bound).isEmpty = true := by
  rw [Filter.boundInBoth_isEmpty]
  constructor
  · intro h hfree
    cases h with
    | boundTwice hown hbound => exact hfree _ hown hbound
  · intro h
    refine Classical.byContradiction fun hnone => ?_
    exact h fun name hown hbound => hnone (.boundTwice hown hbound)

/-- Either something is refused and nothing is bound, or it adds its own parameters, all of
them new. -/
theorem compile_cases (input : FilterInput) (bound : Fields) (qualify : Bool) :
    (input.Refused bound ∧ ∃ e, input.compile bound qualify = (.error e, bound)) ∨
      (¬ input.Refused bound ∧ (∀ name ∈ input.binds.names, name ∉ bound.names) ∧
        ∃ c, input.compile bound qualify = (.ok c, bound.merge input.binds)) := by
  cases input with
  | criteria c => exact .inl ⟨.criteria c, _, rfl⟩
  | other v => exact .inl ⟨.other v, _, rfl⟩
  | filter f =>
      cases f with
      | text s =>
          refine .inr ⟨fun h => (by cases h), ?_, _, rfl⟩
          intro name hname
          cases hname
      | clauses l =>
          by_cases hempty : l.clauses = []
          · refine .inl ⟨.noClauses hempty, .noClauses, ?_⟩
            rw [compile, Filter.compile, ClauseList.compile, if_pos (List.isEmpty_iff.2 hempty)]
          · refine .inr ⟨fun h => hempty (refused_clauses.1 h), ?_,
              .joined l.join (l.clauses.map l.clause), ?_⟩
            · intro name hname
              cases hname
            · rw [compile, Filter.compile, ClauseList.compile,
                if_neg (mt List.isEmpty_iff.1 hempty)]
              rfl
      | prebuilt q =>
          by_cases hfree : (Filter.boundInBoth q.binds bound).isEmpty = true
          · refine .inr ⟨fun h => refused_prebuilt.1 h hfree, Filter.boundInBoth_isEmpty.1 hfree,
              .written (Text.trimmed q.text), ?_⟩
            simp only [compile, Filter.compile, if_pos hfree]
            rfl
          · refine .inl ⟨refused_prebuilt.2 hfree,
              .boundTwice (Filter.boundInBoth q.binds bound), ?_⟩
            simp only [compile, Filter.compile, if_neg hfree]

end FilterInput

/-- Either the filter of criteria is refused and nothing is bound, or the criteria compile. -/
theorem Criteria.refused_cases (c : Criteria) (bound : Fields) (qualify : Bool) :
    ((∃ f ∈ c.filter, (FilterInput.filter f).Refused bound) ∧
        ∃ e, c.compile bound qualify = (.error e, bound)) ∨
      ((¬ ∃ f ∈ c.filter, (FilterInput.filter f).Refused bound) ∧
        ∃ e out, c.compile bound qualify = (.ok e, out)) := by
  cases hfilter : c.filter with
  | none =>
      refine .inr ⟨fun ⟨f, hf, _⟩ => (by cases hf), ?_⟩
      simp only [compile, compileFilter, hfilter]
      exact ⟨_, _, rfl⟩
  | some f =>
      have hcases := (FilterInput.filter f).compile_cases bound qualify
      have hsame : (FilterInput.filter f).compile bound qualify = f.compile bound qualify := rfl
      rw [hsame] at hcases
      simp only [Option.mem_some_iff, exists_eq_left', compile, compileFilter, hfilter]
      rcases hcases with ⟨hrefused, e, he⟩ | ⟨hnot, -, e, he⟩
      · -- a filter that does not count as given is a text, and no text is refused
        have hgiven : f.isGiven = true := by
          cases f with
          | text s => cases hrefused
          | clauses l => rfl
          | prebuilt q => rfl
        rw [if_pos hgiven, he]
        exact .inl ⟨hrefused, e, rfl⟩
      · refine .inr ⟨hnot, ?_⟩
        rw [he]
        by_cases hgiven : f.isGiven = true
        · rw [if_pos hgiven]
          exact ⟨_, _, rfl⟩
        · rw [if_neg hgiven]
          exact ⟨_, _, rfl⟩

namespace FilterInput

/-- A refusal leaves the bound parameters as they are, of whatever is handed in and of
criteria.  Exactly the four kinds of `Refused` are refused, and the rest puts its own
parameters behind the bound ones.  Criteria are refused exactly with their filter. -/
theorem refusal_binds_nothing (input : FilterInput) (bound : Fields) (qualify : Bool) :
    (((∃ e, (input.compile bound qualify).1 = .error e) ↔ input.Refused bound) ∧
      (∀ e out, input.compile bound qualify = (.error e, out) → out = bound) ∧
      ∀ c out, input.compile bound qualify = (.ok c, out) →
        out = bound.merge input.binds ∧
          (∀ name ∉ input.binds.names, out.get? name = bound.get? name) ∧
          (input.binds.names.Nodup → out = bound ++ input.binds)) ∧
      ∀ c : Criteria,
        ((∃ e, (c.compile bound qualify).1 = .error e) ↔
          ∃ f ∈ c.filter, (filter f).Refused bound) ∧
        ∀ e out, c.compile bound qualify = (.error e, out) → out = bound := by
  refine ⟨?_, fun c => ?_⟩
  · rcases input.compile_cases bound qualify with ⟨hrefused, e, he⟩ | ⟨hnot, hnew, c, hc⟩
    · rw [he]
      refine ⟨⟨fun _ => hrefused, fun _ => ⟨e, rfl⟩⟩, ?_, ?_⟩
      · intro e' out h
        cases h
        rfl
      · intro c out h
        cases h
    · rw [hc]
      refine ⟨⟨fun ⟨e, he⟩ => (by cases he), fun h => absurd h hnot⟩, ?_, ?_⟩
      · intro e out h
        cases h
      · intro c' out h
        cases h
        exact ⟨rfl, fun name hname => Fields.get?_merge_of_not_mem _ hname,
          fun hdistinct => Fields.merge_of_fresh hdistinct hnew⟩
  · rcases c.refused_cases bound qualify with ⟨hrefused, e, he⟩ | ⟨hnot, e, out, hc⟩
    · rw [he]
      refine ⟨⟨fun _ => hrefused, fun _ => ⟨e, rfl⟩⟩, ?_⟩
      intro e' out h
      cases h
      rfl
    · rw [hc]
      refine ⟨⟨fun ⟨e, he⟩ => (by cases he), fun h => absurd h hnot⟩, ?_⟩
      intro e' out' h
      cases h

/-- A prebuilt filter with one parameter. -/
def leastAge (name : String) : Filter :=
  .prebuilt ⟨"d.age >= @" ++ name, [(name, .int 18)]⟩

/-- The filter is refused where its parameter is bound, alone and in criteria, and puts it
behind the others where it is not. -/
theorem leastAge_binds :
    let bound : Fields := [("@collection", .str "cyclists"), ("prop", .str "name")]
    ((filter (leastAge "prop")).compile bound).2 = bound ∧
      (({ filter := some (leastAge "prop") } : Criteria).compile bound).2 = bound ∧
      ((filter (leastAge "least")).compile bound).2 = bound ++ [("least", .int 18)] := by
  intro bound
  have hrefused : (filter (leastAge "prop")).Refused bound :=
    .boundTwice (List.mem_singleton.2 rfl) (by decide)
  refine ⟨?_, ?_, ?_⟩
  · obtain ⟨⟨hiff, hsame, -⟩, -⟩ := refusal_binds_nothing (filter (leastAge "prop")) bound true
    obtain ⟨e, he⟩ := hiff.2 hrefused
    exact hsame e _ (Prod.ext he rfl)
  · obtain ⟨-, hcriteria⟩ := refusal_binds_nothing (filter (leastAge "prop")) bound true
    obtain ⟨hiff, hsame⟩ := hcriteria { filter := some (leastAge "prop") }
    obtain ⟨e, he⟩ := hiff.2 ⟨_, rfl, hrefused⟩
    exact hsame e _ (Prod.ext he rfl)
  · obtain ⟨⟨hiff, -, hadds⟩, -⟩ := refusal_binds_nothing (filter (leastAge "least")) bound true
    cases hc : (filter (leastAge "least")).compile bound with
    | mk result out =>
        cases result with
        | error e =>
            have hrefused := hiff.1 ⟨e, congrArg Prod.fst hc⟩
            cases hrefused with
            | boundTwice hown hbound =>
                cases List.mem_singleton.1 hown
                exact absurd hbound (by decide)
        | ok c => exact (hadds c out hc).2.2 (by decide)

end FilterInput

end DocQuery
