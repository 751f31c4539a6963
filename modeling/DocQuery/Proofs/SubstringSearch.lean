import DocQuery.Proofs.LikePattern
import DocQuery.Proofs.ParameterNames
import DocQuery.Proofs.SearchPairs
import DocQuery.Proofs.StoredDocument

/-!
# What a search finds

The clause of a pair, with its parameters resolved, is a pattern test: the attribute at the path
of the property is compared with the term between two `%` (`resolve_clause`).  `Passes` says which
documents pass such a test, from the resolved text alone.

A term goes into the pattern as it is.  So a document passes exactly when the attribute holds the
term, in any case, if and only if no character of the term has a meaning in patterns
(`finds_literally_iff`).  With a `%` or a `_` more is found, but nothing is missed; a backslash
can make a search miss what it looks for.
-/

namespace DocQuery

namespace Fact

theorem slots_like_inj {property pattern other more : Value}
    (h : (like property pattern).slots = (like other more).slots) :
    property = other ∧ pattern = more := by
  simp only [slots, List.append_cancel_left_eq, List.cons.injEq, Slot.value.injEq] at h
  exact ⟨h.1, h.2.1⟩

end Fact

theorem Value.follow_nestedValue (parts : List String) (v : Value) :
    (Request.nestedValue parts v).follow parts = v := by
  induction parts with
  | nil => cases v <;> rfl
  | cons part rest ih =>
      rw [Request.nestedValue, follow, Fields.getD, Fields.get?, if_pos rfl]
      exact ih

/-- A path that is not empty addresses its parts, even if there is none. -/
theorem pathBound?_attributePath_of_ne_empty {path : String} (h : path ≠ "") :
    pathBound? (attributePath path) = some (segments path) := by
  by_cases hparts : segments path = []
  · have hdot : path.toList.contains '.' = true := by
      by_contra hdot
      have hone : Value.pathParts path = [path] := by
        rw [Value.pathParts, Text.split, Text.splitOn_of_not_mem (by simpa using hdot)]
        simp
      rw [segments, hone] at hparts
      simp [h] at hparts
    rw [attributePath, if_pos hdot, hparts]
    rfl
  · exact pathBound?_attributePath hparts

/-- Whether a document passes a pattern test, given as a resolved text.  Only a text is compared
with a pattern. -/
def Like.Casing.Passes (k : Like.Casing) (document : Value) (row : List Slot) : Prop :=
  ∃ property pattern parts text, row = (Fact.like property (.str pattern)).slots ∧
    pathBound? property = some parts ∧ document.follow parts = .str text ∧
    k.matchesPattern text pattern = true

namespace Search

theorem toList_pattern (term : String) : (pattern term).toList = Like.wrapped term.toList := by
  simp [pattern, Like.wrapped]

theorem passes_fact_iff {k : Like.Casing} {document : Value} {property term v : String}
    (hproperty : property ≠ "") (hterm : kind term = .inside)
    (hv : document.follow (segments property) = .str v) :
    k.Passes document (fact property term).slots ↔
      k.fits (Like.signs (Like.wrapped term.toList)) v.toList = true := by
  have hpath := pathBound?_attributePath_of_ne_empty hproperty
  have hfact : fact property term = .like (attributePath property) (.str (pattern term)) := by
    rw [fact, hterm]
  rw [hfact, ← toList_pattern]
  constructor
  · rintro ⟨bound, text, parts, found, hrow, hparts, hfound, hmatches⟩
    obtain ⟨rfl, hpattern⟩ := Fact.slots_like_inj hrow
    cases hpattern
    obtain rfl : segments property = parts := Option.some.inj (hpath.symm.trans hparts)
    obtain rfl : v = found := Value.str.inj (hv.symm.trans hfound)
    exact hmatches
  · intro hfits
    exact ⟨_, _, _, v, rfl, hpath, hv, hfits⟩

variable {s : Search} {i : Nat} {property term : String}

theorem property_ne_empty (hpair : s.pairs[i]? = some (property, term)) : property ≠ "" := by
  obtain ⟨p, hp, hmem⟩ := List.mem_flatMap.1 (List.mem_of_getElem? hpair)
  obtain ⟨t, -, hsame⟩ := List.mem_map.1 hmem
  cases hsame
  simpa using List.of_mem_filter hp

/-- The clause of a pair, resolved, says of the values of its parameters what the pair asks. -/
theorem resolve_clause (hpair : s.pairs[i]? = some (property, term)) (before : Fields) :
    resolve (s.compile before).2.get? (clauseText (i + 1) term).toList =
      (fact property term).slots := by
  have hgives : Gives (s.compile before).2.get? (bindingsOf (i + 1) property term) := by
    rintro ⟨name, v⟩ hentry
    rw [binds_compile]
    exact get?_bound (get?_bindings.2 ⟨i, property, term, hpair, mem_bindingsOf.1 hentry⟩)
  have hnamed : (testOf (i + 1) (kind term)).Named :=
    named_testsOf (i + 1) [kind term] _ List.mem_cons_self
  rw [← text_testOf]
  exact Test.resolve_text hnamed (fact?_testOf hgives)

theorem clauses_getElem? (hpair : s.pairs[i]? = some (property, term)) :
    s.clauses[i]? = some (clauseText (i + 1) term) :=
  (pairCompiled hpair []).clause

/-- A search finds the documents whose attribute holds the term, and no others, exactly when the
term is written without a character that has a meaning in patterns.  Without a backslash in the
term no such document is missed. -/
theorem finds_literally_iff (k : Like.Casing) (s : Search) (before : Fields) {i : Nat}
    {property term : String} (hpair : s.pairs[i]? = some (property, term))
    (hterm : term ∉ nullTerms ++ notNullTerms) :
    let finds (clause : String) (document : Value) :=
      k.Passes document (resolve (s.compile before).2.get? clause.toList)
    (s.compile before).1.text = (" " ++ s.join.operator ++ " ").intercalate s.clauses ∧
    ∃ clause, s.clauses[i]? = some clause ∧
      ((∀ document v, document.follow (segments property) = .str v →
        (finds clause document ↔ k.Contains v.toList term.toList)) ↔ Like.Literal term.toList) ∧
      ('\\' ∉ term.toList → ∀ document v, document.follow (segments property) = .str v →
        k.Contains v.toList term.toList → finds clause document) := by
  intro finds
  have hproperty := property_ne_empty hpair
  have hkind : kind term = .inside := by
    by_contra hne
    exact hterm (kind_ne_inside.1 hne)
  have hfinds {document : Value} {v : String} (hv : document.follow (segments property) = .str v) :
      finds (clauseText (i + 1) term) document ↔
        k.fits (Like.signs (Like.wrapped term.toList)) v.toList = true := by
    simp only [finds]
    rw [resolve_clause hpair, passes_fact_iff hproperty hkind hv]
  refine ⟨s.text_compile before, clauseText (i + 1) term, clauses_getElem? hpair, ?_, ?_⟩
  · rw [← k.fits_eq_contains_iff]
    constructor
    · intro hall cs
      -- Every text is the attribute of some document.
      have hv := Value.follow_nestedValue (segments property) (.str (String.ofList cs))
      have hdocument := hall _ _ hv
      rw [hfinds hv, String.toList_ofList] at hdocument
      exact hdocument
    · intro hall document v hv
      rw [hfinds hv]
      exact hall v.toList
  · intro hescape document v hv hcontains
    exact (hfinds hv).2 (Like.Casing.fits_of_contains hescape hcontains)

/-- Names of teams are searched for a term without a character that has a meaning. -/
theorem finds_team_names :
    let s : Search := ⟨.one "name, team.name", .many ["null", "Lan"], .any⟩
    s.pairs[3]? = some ("team.name", "Lan") ∧ "Lan" ∉ nullTerms ++ notNullTerms ∧
      s.clauses[3]? = some "LIKE(d.@search_prop_4, @search_term_4, true)" ∧
      ∀ document v, document.follow ["team", "name"] = .str v →
        (Like.Casing.unicode.Passes document (resolve (s.compile []).2.get?
            "LIKE(d.@search_prop_4, @search_term_4, true)".toList) ↔
          Like.Casing.unicode.Contains v.toList ['L', 'a', 'n']) := by
  intro s
  have hpair : s.pairs[3]? = some ("team.name", "Lan") := by rfl
  have hterm : "Lan" ∉ nullTerms ++ notNullTerms := by decide
  have hclause : s.clauses[3]? = some "LIKE(d.@search_prop_4, @search_term_4, true)" := by rfl
  obtain ⟨-, clause, hfound, hiff, -⟩ :=
    finds_literally_iff Like.Casing.unicode s [] hpair hterm
  obtain rfl := Option.some.inj (hfound.symm.trans hclause)
  have hsegments : segments "team.name" = ["team", "name"] := by rfl
  rw [hsegments] at hiff
  exact ⟨hpair, hterm, hclause, hiff.2 (by decide)⟩

/-- A search for `a_b` finds a document that does not hold it: the underscore stands
for any character. -/
theorem underscore_found_elsewhere :
    let s : Search := ⟨.one "name", .one "a_b", .any⟩
    let document : Value := .object [("name", .str "axb")]
    s.pairs = [("name", "a_b")] ∧
      s.clauses = ["LIKE(d.@search_prop_1, @search_term_1, true)"] ∧
      Like.Casing.unicode.Passes document (resolve (s.compile []).2.get?
        "LIKE(d.@search_prop_1, @search_term_1, true)".toList) ∧
      ¬ Like.Casing.unicode.Contains ['a', 'x', 'b'] ['a', '_', 'b'] := by
  intro s document
  have hpairs : s.pairs = [("name", "a_b")] := by rfl
  have hpair : s.pairs[0]? = some ("name", "a_b") := by rw [hpairs]; rfl
  refine ⟨hpairs, by rfl, ?_, fun hcontains => ?_⟩
  · have hclause : "LIKE(d.@search_prop_1, @search_term_1, true)" = clauseText 1 "a_b" := by rfl
    rw [hclause, resolve_clause hpair, passes_fact_iff (by decide) (by decide) (by rfl)]
    decide +kernel
  · have halike := Like.Casing.forall₂_of_contains hcontains (Nat.le_refl _)
    have hunderscore := (List.forall₂_cons.1 (List.forall₂_cons.1 halike).2).1
    exact absurd hunderscore (by decide +kernel)

end Search

end DocQuery
