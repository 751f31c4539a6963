import DocQuery.Proofs.Split

/-!
# Splitting a composed condition

Composing cuts a condition at its operators, qualifies the clauses and writes them with
the operators between.  Splitting what it wrote finds the same operators again, and
between them the qualified clauses (`composed_splits`).

*Clauses.*  No clause of a split holds an operator (`absentFrom_of_mem_clauses`), as the
scan would have cut it there.  Two neighbours in a clause were neighbours in the text.

*Qualifying.*  It makes no operator (`absentFrom_qualify`).  New neighbours arise at the
`d.`, behind an opening bracket and in front of a closing one, and none of these
characters belongs to an operator.

*Spaces.*  Around an operator stand single spaces, so a qualified clause has one at an
end where an operator is, and trimming takes it off again.
-/

namespace DocQuery

namespace Split

/-! ## Clauses and operators -/

/-- The clauses, in order. -/
def clauses : Split → List (List Char)
  | last clause => [clause]
  | more clause _ rest => clause :: rest.clauses

/-- The operators, in order. -/
def operators : Split → List Join
  | last _ => []
  | more _ j rest => j :: rest.operators

/-- The text that was cut. -/
def text : Split → List Char
  | last clause => clause
  | more clause j rest => clause ++ j.chars ++ rest.text

/-- A split with every clause changed. -/
def map (f : List Char → List Char) : Split → Split
  | last clause => last (f clause)
  | more clause j rest => more (f clause) j (rest.map f)

theorem length_clauses (s : Split) : s.clauses.length = s.operators.length + 1 := by
  induction s with
  | last clause => rfl
  | more clause j rest ih => simp [clauses, operators, ih]

@[simp] theorem clauses_map (f : List Char → List Char) (s : Split) :
    (s.map f).clauses = s.clauses.map f := by
  induction s with
  | last clause => rfl
  | more clause j rest ih => simp [map, clauses, ih]

@[simp] theorem operators_map (f : List Char → List Char) (s : Split) :
    (s.map f).operators = s.operators := by
  induction s with
  | last clause => rfl
  | more clause j rest ih => simp [map, operators, ih]

theorem text_prepend (cs : List Char) (s : Split) : (s.prepend cs).text = cs ++ s.text := by
  cases s with
  | last clause => rfl
  | more clause j rest => simp [prepend, text]

/-- Cutting loses nothing. -/
theorem text_of (cs : List Char) : (of cs).text = cs := by
  fun_induction of cs with
  | case1 => rfl
  | case2 rest ih => simp [text, ih]
  | case3 rest ih => simp [text, ih]
  | case4 c rest _ _ ih => rw [text_prepend, ih, List.singleton_append]

/-- The first clause begins as the text does. -/
theorem head?_clause {s : Split} {first : List Char} {others : List (List Char)}
    (h : s.clauses = first :: others) {d : Char} (hd : d ∈ first.head?) : d ∈ s.text.head? := by
  obtain ⟨more, rfl⟩ : ∃ more, first = d :: more := by
    cases first with
    | nil => cases hd
    | cons e more =>
        cases hd
        exact ⟨more, rfl⟩
  cases s with
  | last clause =>
      cases h
      rfl
  | more clause j rest =>
      cases h
      rfl

theorem clauses_prepend {s : Split} {first : List Char} {others : List (List Char)}
    (h : s.clauses = first :: others) (cs : List Char) :
    (s.prepend cs).clauses = (cs ++ first) :: others := by
  cases s with
  | last clause =>
      cases h
      rfl
  | more clause j rest =>
      cases h
      rfl

/-! ## No clause holds an operator -/

theorem absentFrom_of_mem_clauses {cs clause : List Char} (h : clause ∈ (of cs).clauses) :
    Join.AbsentFrom clause := by
  fun_induction of cs generalizing clause with
  | case1 =>
      obtain rfl := List.mem_singleton.1 h
      exact List.isChain_nil
  | case2 rest ih =>
      obtain rfl | h := List.mem_cons.1 h
      · exact List.isChain_nil
      · exact ih h
  | case3 rest ih =>
      obtain rfl | h := List.mem_cons.1 h
      · exact List.isChain_nil
      · exact ih h
  | case4 c rest hbar hand ih =>
      obtain ⟨first, others, hclauses⟩ := List.exists_cons_of_length_pos
        (show 0 < (of rest).clauses.length by rw [length_clauses]; omega)
      rw [clauses_prepend hclauses, List.singleton_append] at h
      rw [hclauses] at ih
      obtain rfl | h := List.mem_cons.1 h
      · refine List.isChain_cons.2 ⟨fun d hd j hj => ?_, ih List.mem_cons_self⟩
        -- the neighbours stand in the text, where the scan took one character
        have hnext : d ∈ rest.head? := by
          have hhead := head?_clause hclauses hd
          rwa [text_of] at hhead
        obtain ⟨more, rfl⟩ := List.head?_eq_some_iff.1 hnext
        cases j
        · obtain ⟨rfl, rfl⟩ : c = '|' ∧ d = '|' := by simpa using hj
          exact hbar more rfl rfl
        · obtain ⟨rfl, rfl⟩ : c = '&' ∧ d = '&' := by simpa using hj
          exact hand more rfl rfl
      · exact ih (List.mem_cons_of_mem first h)

end Split

theorem Join.AbsentFrom.not_within {cs : List Char} (h : AbsentFrom cs) (j : Join) :
    ¬ j.chars <:+: cs := by
  intro hinfix
  have hpair : AbsentFrom j.chars := List.IsChain.infix h hinfix
  cases j
  · exact (List.isChain_cons_cons.1 hpair).1 .any rfl
  · exact (List.isChain_cons_cons.1 hpair).1 .all rfl

/-- A text in which no operator stands has none between any two neighbours. -/
theorem Join.AbsentFrom.of_not_within {cs : List Char} (h : ∀ j : Join, ¬ j.chars <:+: cs) :
    AbsentFrom cs := by
  induction cs with
  | nil => exact List.isChain_nil
  | cons c rest ih =>
      refine List.isChain_cons.2 ⟨fun d hd j hj => h j ?_, ih fun j hj => h j ?_⟩
      · obtain ⟨more, rfl⟩ := List.head?_eq_some_iff.1 hd
        rw [← hj]
        exact (List.prefix_append [c, d] more).isInfix
      · exact hj.trans (List.suffix_cons c rest).isInfix

/-! ## Qualifying makes no operator -/

namespace Clause

open Join (AbsentFrom)

theorem absentFrom_trim {cs : List Char} (h : AbsentFrom cs) : AbsentFrom (Text.trim cs) := by
  have hstart : AbsentFrom (Text.trimStart cs) := List.IsChain.suffix h (List.dropWhile_suffix _)
  have hprefix : Text.trim cs <+: Text.trimStart cs := by
    have hsuffix := List.dropWhile_suffix (l := (Text.trimStart cs).reverse) isSpace
    rw [← List.reverse_prefix, List.reverse_reverse] at hsuffix
    exact hsuffix
  exact List.IsChain.prefix hstart hprefix

/-- What a tightened text begins with was there before or is a closing bracket. -/
theorem head?_tighten {cs : List Char} {d : Char} (h : d ∈ (tighten cs).head?) :
    d ∈ cs.head? ∨ d = ')' := by
  cases cs with
  | nil => cases h
  | cons c rest =>
      by_cases hgap : isSpace c = true ∧ ∃ more, tighten rest = ')' :: more
      · obtain ⟨hspace, more, hmore⟩ := hgap
        rw [tighten_cons_space hspace hmore, hmore] at h
        cases h
        exact .inr rfl
      · rw [tighten_cons fun hspace more hmore => hgap ⟨hspace, more, hmore⟩] at h
        cases h
        exact .inl rfl

theorem absentFrom_tighten {cs : List Char} (h : AbsentFrom cs) : AbsentFrom (tighten cs) := by
  induction cs with
  | nil => exact h
  | cons c rest ih =>
      obtain ⟨hhead, hrest⟩ := List.isChain_cons.1 h
      by_cases hgap : isSpace c = true ∧ ∃ more, tighten rest = ')' :: more
      · obtain ⟨hspace, more, hmore⟩ := hgap
        rw [tighten_cons_space hspace hmore]
        exact ih hrest
      · rw [tighten_cons fun hspace more hmore => hgap ⟨hspace, more, hmore⟩]
        refine List.isChain_cons.2 ⟨fun d hd j hj => ?_, ih hrest⟩
        obtain hd | rfl := head?_tighten hd
        · exact hhead d hd j hj
        · cases j <;> simp at hj

theorem absentFrom_qualifier_append {cs : List Char} (h : AbsentFrom cs) :
    AbsentFrom (qualifier ++ cs) :=
  AbsentFrom.around List.isChain_nil (by decide) (by decide)
    (AbsentFrom.around List.isChain_nil (by decide) (by decide) h)

theorem absentFrom_qualifyBehindBracket {cs : List Char} (h : AbsentFrom cs) :
    AbsentFrom (qualifyBehindBracket cs) := by
  obtain hsame | ⟨before, rest, hcs, hqualified⟩ := qualifyBehindBracket_cases cs
  · rwa [hsame]
  · rw [hcs] at h
    have hbefore : AbsentFrom before := List.IsChain.prefix h (List.prefix_append _ _)
    have hrest : AbsentFrom rest :=
      List.IsChain.suffix h ((List.suffix_cons _ _).trans (List.suffix_append _ _))
    have htrimmed : AbsentFrom (Text.trimStart rest) :=
      List.IsChain.suffix hrest (List.dropWhile_suffix _)
    rw [hqualified]
    exact hbefore.around (by decide) (by decide) (absentFrom_qualifier_append htrimmed)

theorem absentFrom_qualify {cs : List Char} (h : AbsentFrom cs) : AbsentFrom (qualify cs) := by
  have htrim := absentFrom_trim h
  rw [qualify]
  split
  · exact absentFrom_tighten (absentFrom_qualifyBehindBracket htrim)
  · split
    · exact absentFrom_tighten (absentFrom_qualifier_append htrim)
    · exact absentFrom_qualifier_append htrim

end Clause

/-! ## Splitting again -/

namespace Split

theorem map_trim_prepend_space {c : Char} (h : isSpace c = true) (s : Split) :
    (s.prepend [c]).map Text.trim = s.map Text.trim := by
  cases s with
  | last clause => exact congrArg last (Text.trim_cons_space h clause)
  | more clause j rest =>
      exact congrArg (more · j (rest.map Text.trim)) (Text.trim_cons_space h clause)

/-- Splitting a composed split gives its qualified clauses, with spaces to trim. -/
theorem of_compose (s : Split) (h : ∀ clause ∈ s.clauses, Join.AbsentFrom clause) :
    (of s.compose).map Text.trim = s.map Clause.qualify := by
  induction s with
  | last clause =>
      have hclause : Join.AbsentFrom (Clause.qualify clause) :=
        Clause.absentFrom_qualify (h clause List.mem_cons_self)
      rw [compose, of_eq_last hclause, map, map, Clause.trim_qualify]
  | more clause j rest ih =>
      have hclause : Join.AbsentFrom (Clause.qualify clause) :=
        Clause.absentFrom_qualify (h clause List.mem_cons_self)
      have hrest := ih fun other hother => h other (List.mem_cons_of_mem clause hother)
      have htrim : Text.trim (Clause.qualify clause ++ [' ']) = Clause.qualify clause := by
        rw [Text.trim_append_space (by decide), Clause.trim_qualify]
      rw [compose, of_append_operator, of_eq_last hclause, append, prepend, map, map,
        map_trim_prepend_space (by decide), hrest, htrim]

/-- A composed condition is its split with every clause qualified and single spaces
around the operators; no clause holds an operator; and split again it has the same
operators, with the qualified clauses between them. -/
theorem composed_splits (s : String) :
    (Clause.composed s).toList = (of s.toList).compose ∧
      (of s.toList).clauses.length = (of s.toList).operators.length + 1 ∧
      (∀ clause ∈ (of s.toList).clauses, ∀ j : Join, ¬ j.chars <:+: clause) ∧
      (of (Clause.composed s).toList).operators = (of s.toList).operators ∧
      (of (Clause.composed s).toList).clauses.map Text.trim =
        (of s.toList).clauses.map Clause.qualify := by
  have hcomposed : (Clause.composed s).toList = (of s.toList).compose := by
    rw [Clause.composed, String.toList_ofList, compose_eq]
  have hfree : ∀ clause ∈ (of s.toList).clauses, Join.AbsentFrom clause :=
    fun clause hclause => absentFrom_of_mem_clauses hclause
  have hagain := of_compose (of s.toList) hfree
  refine ⟨hcomposed, length_clauses _, fun clause hclause => (hfree clause hclause).not_within,
    ?_, ?_⟩
  · rw [hcomposed, ← operators_map Text.trim, hagain, operators_map]
  · rw [hcomposed, ← clauses_map Text.trim, hagain, clauses_map]

example : (of "|||&&&".toList).clauses = ["".toList, "|".toList, "&".toList] := by decide

end Split

end DocQuery
