import DocQuery.Proofs.CriteriaMeaning

/-!
# Composing a list of conditions

A list of conditions can be qualified in two ways: each member on its own before they are
joined, or all at once, when the joined text is composed.  The second way has to find the
members again in the text.

It finds them when no member holds an operator (`qualified_eq_composed`).  Every operator
between two members has a space on both sides, so no bar or ampersand at the end of a member
runs into it, and no member is so short or blank that it is missed.
-/

namespace DocQuery

namespace Clause

/-- A text without an operator is composed as the one clause that it is. -/
theorem compose_eq_qualify {cs : List Char} (h : Join.AbsentFrom cs) :
    compose cs = qualify cs := by
  rw [Split.compose_eq, Split.of_eq_last h, Split.compose]

/-- Texts without operators are composed one by one. -/
theorem compose_between (j : Join) {texts : List (List Char)} (hne : texts ≠ [])
    (h : ∀ cs ∈ texts, Join.AbsentFrom cs) :
    compose (j.between texts) = j.between (texts.map qualify) := by
  induction texts with
  | nil => exact absurd rfl hne
  | cons cs rest ih =>
      obtain ⟨hcs, hrest⟩ := List.forall_mem_cons.1 h
      cases rest with
      | nil =>
          have hone (ds : List Char) : j.between [ds] = ds := List.intercalate_singleton
          rw [List.map_singleton, hone, hone, compose_eq_qualify hcs]
      | cons ds rest =>
          rw [Join.between_cons_cons, compose_append_operator, compose_eq_qualify hcs,
            ih (List.cons_ne_nil ds rest) hrest]
          exact (Join.between_cons_cons j _ _ _).symm

end Clause

/-- The text of strings with an operator and spaces between them. -/
theorem Join.toList_intercalate (j : Join) (texts : List String) :
    ((" " ++ j.operator ++ " ").intercalate texts).toList = j.between (texts.map String.toList) := by
  rw [String.toList_intercalate, between]
  simp [chars]

namespace ClauseList

/-- Members without operators are qualified on their own to what the joined text is composed
to.  In particular a text without an operator is composed as it is qualified. -/
theorem qualified_eq_composed (l : ClauseList) (hqualify : l.qualify = true)
    (hne : l.clauses ≠ []) (hfree : ∀ s ∈ l.clauses, ∀ j : Join, ¬ j.chars <:+: s.toList)
    (binds : Fields) (qualify : Bool) :
    (∃ e, (Filter.clauses l).compile binds qualify = (.ok e, binds) ∧
      e.text = Clause.composed ((" " ++ l.join.operator ++ " ").intercalate l.clauses)) ∧
    ∀ s : String, (∀ j : Join, ¬ j.chars <:+: s.toList) →
      Clause.composed s = Clause.qualified s := by
  have habsent : ∀ s ∈ l.clauses, Join.AbsentFrom s.toList :=
    fun s hs => .of_not_within (hfree s hs)
  constructor
  · refine ⟨.joined l.join (l.clauses.map l.clause), ?_, ?_⟩
    · rw [Filter.compile, compile, if_neg (by simpa using hne)]
    · have hmembers : (l.clauses.map l.clause).map (fun c => c.text.toList) =
          (l.clauses.map String.toList).map Clause.qualify := by
        rw [List.map_map, List.map_map]
        refine List.map_congr_left fun s _ => ?_
        show (l.clause s).text.toList = Clause.qualify s.toList
        rw [clause, Condition.text, if_pos hqualify, Clause.qualified, String.toList_ofList]
      have hcomposed : Clause.compose (l.join.between (l.clauses.map String.toList)) =
          l.join.between ((l.clauses.map String.toList).map Clause.qualify) :=
        Clause.compose_between l.join (by simpa using hne) (List.forall_mem_map.2 habsent)
      rw [← String.toList_inj, Condition.toList_text_joined, hmembers, Clause.composed,
        String.toList_ofList, Join.toList_intercalate, hcomposed]
  · intro s hs
    rw [Clause.composed, Clause.compose_eq_qualify (.of_not_within hs), Clause.qualified]

/-- Members that begin or end with half an operator, and a blank one. -/
def halves : ClauseList where
  clauses := ["a == 1 |", " & b == 2", " ", "LIKE( c, \"x\" )"]
  join := .all
  qualify := true

theorem halves_composed :
    ∃ e, (Filter.clauses halves).compile [] = (.ok e, []) ∧
      e.text = Clause.composed "a == 1 | &&  & b == 2 &&   && LIKE( c, \"x\" )" := by
  have habsent : ∀ s ∈ halves.clauses, Join.AbsentFrom s.toList := by decide
  exact (qualified_eq_composed halves rfl (List.cons_ne_nil _ _)
    (fun s hs => (habsent s hs).not_within) [] true).1

end ClauseList

end DocQuery
