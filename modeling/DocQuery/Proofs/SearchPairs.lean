import DocQuery.Proofs.SearchTests
import DocQuery.Query.Condition

/-!
# The pairs of a search

A search tests every property with every term.  The pairs stand row by row, one row for each
property, so the pair with a number has its property at the quotient, and its term at the
remainder, of the number by the length of a row (`getElem?_pairs`).

What a search comes to is said pair by pair (`PairCompiled`): the clause of the pair, the
parameter of its property, and the parameter of its term where the term is looked for.  A term
that asks for null binds nothing, so its number is left out among the parameters of terms, and
whatever was bound under that name stays.  The clauses of all pairs, joined, are the whole
condition, and no other name is touched (`compile_every_pair`).
-/

namespace DocQuery

namespace Search

/-! ## Rows of pairs -/

/-- Rows of one width: what stands at an index is in the row of the quotient, at the place of the
remainder. -/
theorem getElem?_rows {α β : Type} (rows : List α) (columns : List β) (k : Nat) :
    (rows.flatMap fun a => columns.map fun b => (a, b))[k]? =
      (rows[k / columns.length]?).bind fun a =>
        (columns[k % columns.length]?).map fun b => (a, b) := by
  induction rows generalizing k with
  | nil => rfl
  | cons a rest ih =>
      rw [List.flatMap_cons]
      rcases Nat.lt_or_ge k columns.length with hk | hk
      · -- The first row.
        rw [List.getElem?_append_left (by simpa using hk), Nat.div_eq_of_lt hk, Nat.mod_eq_of_lt hk,
          List.getElem?_map]
        rfl
      · rw [List.getElem?_append_right (by simpa using hk), List.length_map, ih]
        rcases Nat.eq_zero_or_pos columns.length with hwidth | hwidth
        · have hnone (i : Nat) : columns[i]? = none := List.getElem?_eq_none (by omega)
          simp [hnone]
        · rw [Nat.div_eq_sub_div hwidth hk, Nat.mod_eq_sub_mod hk, List.getElem?_cons_succ]

theorem getElem?_pairs (s : Search) (k : Nat) :
    s.pairs[k]? = (s.propertyList[k / s.termList.length]?).bind fun property =>
      (s.termList[k % s.termList.length]?).map fun term => (property, term) :=
  getElem?_rows s.propertyList s.termList k

theorem length_pairs (s : Search) :
    s.pairs.length = s.propertyList.length * s.termList.length := by
  rw [pairs, List.length_flatMap]
  simp only [List.length_map, List.map_const', List.sum_replicate_nat]

/-- The pair of every index below the product of the two lengths. -/
theorem exists_pair {s : Search} {k : Nat} (h : k < s.propertyList.length * s.termList.length) :
    ∃ property term, s.propertyList[k / s.termList.length]? = some property ∧
      s.termList[k % s.termList.length]? = some term ∧ s.pairs[k]? = some (property, term) := by
  have hpair : k < s.pairs.length := by rwa [length_pairs]
  have hget := s.getElem?_pairs k
  rw [List.getElem?_eq_getElem hpair] at hget
  obtain ⟨property, hproperty, hrest⟩ := Option.bind_eq_some_iff.1 hget.symm
  obtain ⟨term, hterm, hsame⟩ := Option.map_eq_some_iff.1 hrest
  refine ⟨property, term, hproperty, hterm, ?_⟩
  rw [List.getElem?_eq_getElem hpair, hsame]

/-! ## Clauses -/

/-- The terms that ask for a property that is missing. -/
def nullTerms : List String := ["null", "NULL"]

/-- The terms that ask for a property that is there. -/
def notNullTerms : List String := ["!null", "!NULL"]

/-- The clause of a pair: the test of its property for its term. -/
def clauseText (number : Nat) (term : String) : String :=
  let property := "d.@search_prop_" ++ toString number
  if term ∈ nullTerms then property ++ " == null"
  else if term ∈ notNullTerms then property ++ " != null"
  else "LIKE(" ++ property ++ ", @search_term_" ++ toString number ++ ", true)"

theorem mem_nullTerms {term : String} : term ∈ nullTerms ↔ term = "null" ∨ term = "NULL" := by
  simp [nullTerms]

theorem mem_notNullTerms {term : String} :
    term ∈ notNullTerms ↔ term = "!null" ∨ term = "!NULL" := by
  simp [notNullTerms]

theorem kind_ne_inside {term : String} :
    kind term ≠ .inside ↔ term ∈ nullTerms ++ notNullTerms := by
  rw [List.mem_append, mem_nullTerms, mem_notNullTerms, kind]
  split
  next h => exact ⟨fun _ => .inl h, fun _ => nofun⟩
  next h =>
    split
    next h' => exact ⟨fun _ => .inr h', fun _ => nofun⟩
    next h' => exact ⟨fun hne => absurd rfl hne, fun hor => (hor.elim h h').elim⟩

theorem text_testOf (number : Nat) (term : String) :
    (testOf number (kind term)).text = clauseText number term := by
  have hproperty : "d.@search_prop_" = "d.@" ++ "search_prop_" := rfl
  have hterm : ", @search_term_" = ", @" ++ "search_term_" := rfl
  have hlike : "LIKE(d.@" = "LIKE(" ++ "d.@" := rfl
  simp only [kind, clauseText, mem_nullTerms, mem_notNullTerms, hproperty, hterm]
  split
  next => simp only [testOf, Test.text, propertyParameter, String.append_assoc]
  next =>
    split
    next => simp only [testOf, Test.text, propertyParameter, String.append_assoc]
    next => simp only [testOf, Test.text, propertyParameter, termParameter, hlike,
        String.append_assoc]

theorem getElem?_testsOf (number : Nat) (kinds : List TermKind) (k : Nat) :
    (testsOf number kinds)[k]? = kinds[k]?.map fun kind => .test (testOf (number + k) kind) := by
  induction kinds generalizing number k with
  | nil => rfl
  | cons kind rest ih =>
      cases k with
      | zero => rfl
      | succ k => rw [testsOf, List.getElem?_cons_succ, List.getElem?_cons_succ, ih,
          Nat.add_assoc, Nat.add_comm 1]

theorem length_testsOf (number : Nat) (kinds : List TermKind) :
    (testsOf number kinds).length = kinds.length := by
  induction kinds generalizing number with
  | nil => rfl
  | cons kind rest ih => rw [testsOf, List.length_cons, ih, List.length_cons]

/-! ## Every pair -/

/-- What a pair with a number comes to, among the clauses of a search and in what is bound after
it.  Only a term that is looked for is bound. -/
structure PairCompiled (before after : Fields) (clauses : List String) (number : Nat)
    (property term : String) : Prop where
  /-- The clause at the number, counted from one, is that of the pair. -/
  clause : clauses[number - 1]? = some (clauseText number term)
  /-- The property is bound under the number. -/
  property : after.get? ("search_prop_" ++ toString number) = some (attributePath property)
  /-- The pattern of the term is bound under the number, or nothing new is. -/
  term : after.get? ("search_term_" ++ toString number) =
    if term ∈ nullTerms ++ notNullTerms then before.get? ("search_term_" ++ toString number)
    else some (.str ("%" ++ term ++ "%"))

section

variable {s : Search} {before : Fields} {name : String}

theorem get?_bound {v : Value} (h : s.bindings.get? name = some v) :
    (before.merge s.bindings).get? name = some v := by
  rw [Fields.get?_merge _ s.bindings_nodup, h, Option.some_or]

theorem get?_unbound (h : s.bindings.get? name = none) :
    (before.merge s.bindings).get? name = before.get? name := by
  rw [Fields.get?_merge _ s.bindings_nodup, h, Option.none_or]

/-- A term that asks for null leaves its number unbound. -/
theorem get?_termParameter_of_null {k : Nat} {property term : String}
    (hpair : s.pairs[k]? = some (property, term)) (hnull : kind term ≠ .inside) :
    s.bindings.get? (termParameter (k + 1)) = none := by
  rw [Option.eq_none_iff_forall_ne_some]
  intro v hv
  obtain ⟨i, other, text, hi, ⟨hname, -⟩ | ⟨hinside, hname, -⟩⟩ := get?_bindings.1 hv
  · exact propertyParameter_ne_termParameter _ _ hname.symm
  · obtain rfl := Nat.succ.inj (termParameter_inj hname)
    rw [hpair] at hi
    cases hi
    exact hnull hinside

/-- A name that is the parameter of no pair is not bound. -/
theorem get?_other (h : ∀ k, 1 ≤ k → k ≤ s.pairs.length →
    name ≠ propertyParameter k ∧ name ≠ termParameter k) : s.bindings.get? name = none := by
  rw [Option.eq_none_iff_forall_ne_some]
  intro v hv
  obtain ⟨i, property, term, hi, hbinds⟩ := get?_bindings.1 hv
  obtain ⟨hlt, -⟩ := List.getElem?_eq_some_iff.1 hi
  obtain ⟨hproperty, hterm⟩ := h (i + 1) (Nat.succ_pos i) hlt
  rcases hbinds with ⟨hname, -⟩ | ⟨-, hname, -⟩
  · exact hproperty hname
  · exact hterm hname

/-- The clauses of a search. -/
def clauses (s : Search) : List String := (testsOf 1 s.kinds).map Condition.text

theorem text_compile (s : Search) (before : Fields) :
    (s.compile before).1.text = (" " ++ s.join.operator ++ " ").intercalate s.clauses := by
  rw [compile, tests_eq, Condition.text, Condition.texts_eq_map, clauses]

theorem binds_compile (s : Search) (before : Fields) :
    (s.compile before).2 = before.merge s.bindings := by
  rw [compile, tests_eq]

theorem length_clauses (s : Search) :
    s.clauses.length = s.propertyList.length * s.termList.length := by
  rw [clauses, List.length_map, length_testsOf, kinds, List.length_map, length_pairs]

theorem pairCompiled {k : Nat} {property term : String}
    (hpair : s.pairs[k]? = some (property, term)) (before : Fields) :
    PairCompiled before (before.merge s.bindings) s.clauses (k + 1) property term where
  clause := by
    rw [Nat.add_sub_cancel, clauses, List.getElem?_map, getElem?_testsOf, kinds, List.getElem?_map,
      hpair, Nat.add_comm 1]
    exact congrArg some (text_testOf (k + 1) term)
  property := get?_bound (get?_bindings.2 ⟨k, property, term, hpair, .inl ⟨rfl, rfl⟩⟩)
  term := by
    by_cases hinside : kind term = .inside
    · rw [if_neg fun hmem => kind_ne_inside.2 hmem hinside]
      exact get?_bound (get?_bindings.2 ⟨k, property, term, hpair, .inr ⟨hinside, rfl, rfl⟩⟩)
    · rw [if_pos (kind_ne_inside.1 hinside)]
      exact get?_unbound (get?_termParameter_of_null hpair hinside)

end

/-- A search compiles every pair once, in order: the condition is the clauses of the pairs, joined;
the parameters of a pair are bound under its number; and every other name keeps its value. -/
theorem compile_every_pair (s : Search) (before : Fields) :
    let properties := s.propertyList
    let terms := s.termList
    let count := properties.length * terms.length
    let after := (s.compile before).2
    ∃ clauses : List String,
      (s.compile before).1.text = (" " ++ s.join.operator ++ " ").intercalate clauses ∧
      clauses.length = count ∧
      (∀ k, 1 ≤ k → k ≤ count → ∃ property term,
        properties[(k - 1) / terms.length]? = some property ∧
        terms[(k - 1) % terms.length]? = some term ∧
        PairCompiled before after clauses k property term) ∧
      ∀ name, (∀ k, 1 ≤ k → k ≤ count →
          name ≠ "search_prop_" ++ toString k ∧ name ≠ "search_term_" ++ toString k) →
        after.get? name = before.get? name := by
  intro properties terms count after
  have hafter : after = before.merge s.bindings := s.binds_compile before
  refine ⟨s.clauses, s.text_compile before, s.length_clauses, fun k hfirst hlast => ?_,
    fun name hname => ?_⟩
  · obtain ⟨k, rfl⟩ := Nat.exists_eq_add_of_le' hfirst
    obtain ⟨property, term, hproperty, hterm, hpair⟩ := exists_pair hlast
    rw [hafter]
    exact ⟨property, term, hproperty, hterm, pairCompiled hpair before⟩
  · rw [hafter]
    refine get?_unbound (get?_other fun k hfirst hlast => hname k hfirst ?_)
    rwa [s.length_pairs] at hlast

/-- The second term of the second property asks for null: its clause has the number of the pair,
and what a caller has bound under the name of its term stays. -/
theorem teamless_riders_compiled :
    let s : Search := ⟨.one "name, team.name", .many ["lan", " null "], .any⟩
    let before : Fields := [("search_term_4", .int 7)]
    let after := (s.compile before).2
    s.propertyList = ["name", "team.name"] ∧ s.termList = ["lan", "null"] ∧
      (∃ clauses, (s.compile before).1.text = " || ".intercalate clauses ∧ clauses.length = 4 ∧
        clauses[3]? = some "d.@search_prop_4 == null") ∧
      after.get? "search_prop_4" = some (.ofTexts ["team", "name"]) ∧
      after.get? "search_term_4" = some (.int 7) := by
  intro s before after
  have hproperties : s.propertyList = ["name", "team.name"] := by cbv
  have hterms : s.termList = ["lan", "null"] := by cbv
  obtain ⟨clauses, htext, hlength, hpairs, -⟩ := compile_every_pair s before
  rw [hproperties, hterms] at hlength hpairs
  obtain ⟨property, term, hproperty, hterm, hpair⟩ := hpairs 4 (by decide) (by decide)
  obtain rfl : "team.name" = property := Option.some.inj hproperty
  obtain rfl : "null" = term := Option.some.inj hterm
  exact ⟨hproperties, hterms, ⟨clauses, htext, hlength, hpair.clause.trans (by decide)⟩,
    hpair.property.trans (by rfl), hpair.term.trans (by rfl)⟩

end Search

end DocQuery
