import DocQuery.Proofs.Resolution

/-!
# What filters and criteria mean

Criteria put brackets around all that they combine, so their condition is a piece and
means what is said of its parts (`Criteria.holds_combine`).

A list of conditions has no brackets around its members: they are written as they are,
with the operator between them.  The list means any or all of its members as long as the
operator tears none of them apart (`ClauseList.means_join`).  Only `&&` can do that, only
beside another member, and only to a member with an uncovered `||` (`Join.Guards`).  It
does happen otherwise, and then the list holds although a member does not
(`ClauseList.torn_holds`).
-/

namespace DocQuery

theorem not_wellFormed_nil : ¬ WellFormed [] := by
  rw [Formula.wellFormed_iff]
  rintro ⟨s, hs, hsome⟩
  cases hs
  have hnone := hsome [] List.mem_cons_self
  cases hnone

theorem WellFormed.text_ne {s : String} (h : WellFormed s.toList) : s ≠ "" := by
  rintro rfl
  exact not_wellFormed_nil h

theorem wellFormed_trim {cs : List Char} : WellFormed (Text.trim cs) ↔ WellFormed cs := by
  rw [WellFormed, Formula.read_trim, WellFormed]

theorem truth_trim (I : List Char → Prop) (cs : List Char) :
    Truth I (Text.trim cs) ↔ Truth I cs := by
  rw [Truth, Formula.read_trim, Truth]

/-! ## Criteria -/

namespace Criteria

/-- What criteria combine is a piece, and it means what its parts do. -/
theorem holds_combine {j : Join} {f s : Option Condition} (hf : ∀ c ∈ f, c.Readable)
    (hs : ∀ c ∈ s, c.Readable) {e : Condition} (h : combine j f s = some e) :
    e.Piece ∧ ∀ I, e.Holds I ↔ j.Combines (Condition.Holds I) (f.toList ++ s.toList) := by
  cases f with
  | some f =>
      have hfilter := hf f rfl
      cases s with
      | some s =>
          have hsearch := hs s rfl
          cases h
          have hpieces : ∀ c ∈ [Condition.group f, .group s], c.Piece :=
            List.forall_mem_cons.2 ⟨.group hfilter, List.forall_mem_singleton.2 (.group hsearch)⟩
          refine ⟨.group (Condition.readable_joined (List.cons_ne_nil _ _) hpieces j), fun I => ?_⟩
          rw [Condition.Holds, Condition.holds_joined]
          simp only [Option.toList_some, List.singleton_append, Join.combines_cons,
            Condition.Holds]
      | none =>
          cases h
          exact ⟨.group hfilter, fun I => (Join.combines_singleton _ f j).symm⟩
  | none =>
      cases s with
      | some s =>
          cases h
          exact ⟨.group (hs s rfl), fun I => (Join.combines_singleton _ s j).symm⟩
      | none => cases h

theorem exists_combine (j : Join) (f : Condition) (s : Option Condition) :
    ∃ e, combine j (some f) s = some e := by
  cases s with
  | none => exact ⟨_, rfl⟩
  | some s => exact ⟨_, rfl⟩

/-- The condition of a search can be read. -/
theorem readable_search (c : Criteria) (binds : Fields) :
    ∀ s ∈ (c.compileSearch binds).1, s.Readable := by
  intro e he
  unfold compileSearch at he
  cases hsearch : c.search with
  | none =>
      rw [hsearch] at he
      cases he
  | some s =>
      rw [hsearch] at he
      obtain ⟨-, hnone⟩ | ⟨-, htests, hsome⟩ := s.compile?_cases binds
      · rw [hnone] at he
        cases he
      · rw [hsome] at he
        cases he
        exact Condition.readable_joined htests (Search.pieces_testsOf 1 s.kinds) s.join

end Criteria

/-! ## Lists of conditions -/

namespace ClauseList

theorem toList_text_clause {l : ClauseList} (h : l.qualify = false) (s : String) :
    (l.clause s).text.toList = Text.trim s.toList := by
  rw [clause, h, Condition.text, if_neg Bool.false_ne_true, Text.trimmed, String.toList_ofList]

/-- Members that the operator tears nowhere apart can be read together. -/
theorem readable_joined {l : ClauseList} (hqualify : l.qualify = false) (hne : l.clauses ≠ [])
    (hwell : ∀ s ∈ l.clauses, WellFormed s.toList)
    (hguards : l.join.Guards (l.clauses.map String.toList)) :
    (Condition.joined l.join (l.clauses.map l.clause)).Readable := by
  refine ⟨by simpa using hne, ?_, Condition.allReadable_iff.2 ?_⟩
  · intro hall hlength cs hcs
    obtain ⟨c, hc, rfl⟩ := List.mem_map.1 hcs
    obtain ⟨s, hs, rfl⟩ := List.mem_map.1 hc
    have htight := hguards hall (by simpa using hlength) s.toList (List.mem_map_of_mem hs)
    rw [toList_text_clause hqualify, Formula.Tight, Formula.operands_trim]
    exact htight
  · intro c hc
    obtain ⟨s, hs, rfl⟩ := List.mem_map.1 hc
    have htext := toList_text_clause hqualify s
    rw [clause, Condition.text] at htext
    rw [clause, Condition.Readable, htext]
    exact wellFormed_trim.2 (hwell s hs)

theorem holds_joined {l : ClauseList} (hqualify : l.qualify = false) (I : List Char → Prop) :
    (Condition.joined l.join (l.clauses.map l.clause)).Holds I ↔
      l.join.Combines (fun s => Truth I s.toList) l.clauses := by
  rw [Condition.holds_joined, Join.combines_map]
  refine Join.combines_congr (fun s _ => ?_) l.join
  have htext := toList_text_clause hqualify s
  rw [clause, Condition.text] at htext
  rw [clause, Condition.Holds, htext, truth_trim]

/-- A list of conditions means any or all of its members, on its own and in criteria with
or without a search, where the operator tears no member apart. -/
theorem means_join (l : ClauseList) (hqualify : l.qualify = false) (hne : l.clauses ≠ [])
    (hwell : ∀ s ∈ l.clauses, WellFormed s.toList)
    (hguards : l.join.Guards (l.clauses.map String.toList)) (binds : Fields) (qualify : Bool) :
    (∃ e, (Filter.clauses l).compile binds qualify = (.ok e, binds) ∧
      WellFormed e.text.toList ∧
      ∀ I, Truth I e.text.toList ↔ l.join.Combines (fun s => Truth I s.toList) l.clauses) ∧
    ∀ c : Criteria, c.filter = some (.clauses l) →
      ∃ e out, c.compile binds qualify = (.ok (some e), out) ∧ WellFormed e.text.toList ∧
        ∀ I, Truth I e.text.toList ↔ c.join.Combines id
          (l.join.Combines (fun s => Truth I s.toList) l.clauses ::
            ((c.compileSearch binds).1.map fun s => Truth I s.text.toList).toList) := by
  have hreadable := readable_joined hqualify hne hwell hguards
  have hcompile : (Filter.clauses l).compile binds qualify =
      (.ok (.joined l.join (l.clauses.map l.clause)), binds) := by
    rw [Filter.compile, compile, if_neg (by simpa using hne)]
  have hmeans := Condition.truth_text _ hreadable
  constructor
  · refine ⟨_, hcompile, hmeans.1, fun I => ?_⟩
    rw [hmeans.2, holds_joined hqualify]
  · intro c hc
    have hfilter : c.compileFilter binds qualify =
        (.ok (some (.joined l.join (l.clauses.map l.clause))), binds) := by
      simp only [Criteria.compileFilter, hc, Filter.isGiven, if_true, hcompile,
        if_neg hmeans.1.text_ne]
    have hsearch := c.readable_search binds
    obtain ⟨e, he⟩ := Criteria.exists_combine c.join
      (.joined l.join (l.clauses.map l.clause)) (c.compileSearch binds).1
    obtain ⟨hpiece, hholds⟩ := Criteria.holds_combine (by simpa using hreadable) hsearch he
    refine ⟨e, (c.compileSearch binds).2, by rw [Criteria.compile, hfilter, ← he],
      (e.truth_text hpiece.readable).1, fun I => ?_⟩
    have hsearches : c.join.Combines id
        ((c.compileSearch binds).1.map fun s => Truth I s.text.toList).toList ↔
          c.join.Combines (Condition.Holds I) (c.compileSearch binds).1.toList := by
      rw [Option.toList_map, Join.combines_map]
      exact Join.combines_congr
        (fun s hs => (s.truth_text (hsearch s (by simpa using hs))).2 I) c.join
    rw [(e.truth_text hpiece.readable).2, hholds, Option.toList_some, List.singleton_append,
      Join.combines_cons, Join.combines_cons, holds_joined hqualify, hsearches, id]

/-- Members with operators of their own, which `&&` tears nowhere apart. -/
def guarded : ClauseList where
  clauses := ["( d.a == 1 || d.b == 2 )", " d.c == 3 && d.e == 4"]
  join := .all

theorem guarded_means :
    ∃ e, (Filter.clauses guarded).compile [] = (.ok e, []) ∧ WellFormed e.text.toList ∧
      ∀ I, Truth I e.text.toList ↔
        guarded.join.Combines (fun s => Truth I s.toList) guarded.clauses :=
  (means_join guarded rfl (List.cons_ne_nil _ _) (by decide +kernel) (by decide +kernel) [] true).1

/-- A member with an uncovered `||`, joined to another by `&&`. -/
def torn : ClauseList where
  clauses := ["d.a == 1 || d.b == 2", "d.c == 3"]
  join := .all

/-- Where `d.a` is one the list holds, on its own and in criteria, whatever `d.c` is. -/
theorem torn_holds :
    (∀ s ∈ torn.clauses, WellFormed s.toList) ∧
      ∃ e g, (Filter.clauses torn).compile [] = (.ok e, []) ∧
        ({ filter := some (.clauses torn) } : Criteria).compile [] = (.ok (some g), []) ∧
        ∃ I, Truth I e.text.toList ∧ Truth I g.text.toList ∧
          ¬ torn.join.Combines (fun s => Truth I s.toList) torn.clauses := by
  refine ⟨by decide +kernel, _, _, rfl, rfl, (· = "d.a == 1".toList), ?_, ?_, ?_⟩
  · have hread : Formula.read (Condition.joined .all (torn.clauses.map torn.clause)).text.toList =
        some (.joined .any [.joined .all [.atom "d.a == 1".toList],
          .joined .all [.atom "d.b == 2".toList, .atom "d.c == 3".toList]]) := by cbv
    refine ⟨_, hread, ?_⟩
    simp [Formula.Holds, Formula.HoldsJoined, Join.Both]
  · have hread : Formula.read
        (Condition.group (.joined .all (torn.clauses.map torn.clause))).text.toList =
          some (.joined .any [.joined .all [.joined .any [.joined .all [.atom "d.a == 1".toList],
            .joined .all [.atom "d.b == 2".toList, .atom "d.c == 3".toList]]]]) := by cbv
    refine ⟨_, hread, ?_⟩
    simp [Formula.Holds, Formula.HoldsJoined, Join.Both]
  · have hread : Formula.read "d.c == 3".toList =
        some (.joined .any [.joined .all [.atom "d.c == 3".toList]]) := by cbv
    intro hall
    obtain ⟨f, hf, hholds⟩ := hall "d.c == 3" (by decide)
    rw [hread] at hf
    cases hf
    simp [Formula.Holds, Formula.HoldsJoined, Join.Both] at hholds

end ClauseList

end DocQuery
