import DocQuery.Proofs.Split

/-!
# Composing boolean expressions

Callers write conditions as expressions over comparisons and calls, with operators and
groups.  `Expression` is the tree of such a condition and `text` its rendering, with
single spaces around operators and brackets directly around groups.

`compose` never sees the tree.  It cuts the text at the operators, so a group is
scattered over several clauses, such as `(a == 1` and `b == 2))`.  Still it qualifies
the first property of every comparison and every call, and nothing else
(`composed_eq_qualified`), as long as no group begins directly with a group or a call
(`GroupsStartPlain`).

*Fragments.*  The clause of a comparison has at most one opening bracket in front of it
and any number of closing brackets behind it.  The clause of a call has only closing
brackets around it.  So the induction is over expressions with brackets on both sides:
what stands in front is nothing, or one opening bracket where the expression starts with
a comparison, and `k` closing brackets stand behind (`compose_fragment`).
-/

namespace DocQuery

namespace Expression

/-- A comparison: text without white space around it, brackets and operators. -/
structure Comparison where
  /-- The text. -/
  text : List Char
  nonempty : text ≠ []
  solidStart : Text.SolidStart text
  solidEnd : Text.SolidEnd text
  noOpening : '(' ∉ text
  noClosing : ')' ∉ text
  noOperator : Join.AbsentFrom text

/-- A call: the text in front of its opening bracket and what it is called with. -/
structure Call where
  /-- The function. -/
  function : List Char
  /-- What stands between the brackets. -/
  arguments : List Char
  nonempty : function ≠ []
  solidStart : Text.SolidStart function
  noOpening : '(' ∉ function
  noClosing : ')' ∉ function
  noOperator : Join.AbsentFrom function
  argumentsNoOperator : Join.AbsentFrom arguments
  argumentsSolidStart : Text.SolidStart arguments
  argumentsSolidEnd : Text.SolidEnd arguments
  argumentsNoGap : Clause.NoGap arguments

end Expression

/-- A boolean expression over comparisons and calls. -/
inductive Expression where
  /-- A comparison. -/
  | comparison (c : Expression.Comparison)
  /-- A call. -/
  | call (c : Expression.Call)
  /-- An expression in brackets. -/
  | group (e : Expression)
  /-- Two expressions with an operator between them. -/
  | joined (left : Expression) (j : Join) (right : Expression)

namespace Expression

/-! ## Qualified comparisons and calls -/

namespace Comparison

/-- The comparison with its property qualified. -/
def qualified (c : Comparison) : Comparison where
  text := Clause.qualifier ++ c.text
  nonempty := by simp [Clause.qualifier]
  solidStart := by
    intro d hd
    cases hd
    decide
  solidEnd := c.solidEnd.append c.nonempty _
  noOpening := by simp [Clause.qualifier, c.noOpening]
  noClosing := by simp [Clause.qualifier, c.noClosing]
  noOperator :=
    Join.AbsentFrom.around List.isChain_nil (by decide) (by decide)
      (Join.AbsentFrom.around List.isChain_nil (by decide) (by decide) c.noOperator)

end Comparison

namespace Call

/-- The text of a call. -/
def text (c : Call) : List Char := c.function ++ '(' :: c.arguments ++ [')']

/-- The call with its first argument qualified. -/
def qualified (c : Call) : Call where
  __ := c
  arguments := Clause.qualifier ++ c.arguments
  argumentsNoOperator :=
    Join.AbsentFrom.around List.isChain_nil (by decide) (by decide)
      (Join.AbsentFrom.around List.isChain_nil (by decide) (by decide) c.argumentsNoOperator)
  argumentsSolidStart := by
    intro d hd
    cases hd
    decide
  argumentsSolidEnd := c.argumentsSolidEnd.of_append Clause.solidEnd_qualifier
  argumentsNoGap :=
    Clause.NoGap.append (Clause.noGap_of_not_mem (by decide)) c.argumentsNoGap
      Clause.solidEnd_qualifier

end Call

/-! ## Expressions -/

/-- The text of an expression. -/
def text : Expression → List Char
  | comparison c => c.text
  | call c => c.text
  | group e => '(' :: e.text ++ [')']
  | joined left j right => left.text ++ ' ' :: j.chars ++ ' ' :: right.text

/-- The expression with every comparison and every call qualified. -/
def qualified : Expression → Expression
  | comparison c => comparison c.qualified
  | call c => call c.qualified
  | group e => group e.qualified
  | joined left j right => joined left.qualified j right.qualified

/-- Whether an expression begins with a comparison. -/
def StartsPlain : Expression → Prop
  | comparison _ => True
  | call _ | group _ => False
  | joined left _ _ => left.StartsPlain

/-- Whether every group begins with a comparison, so with no group and no call. -/
def GroupsStartPlain : Expression → Prop
  | comparison _ | call _ => True
  | group e => e.StartsPlain ∧ e.GroupsStartPlain
  | joined left _ right => left.GroupsStartPlain ∧ right.GroupsStartPlain

/-! ## Fragments -/

/-- A number of closing brackets. -/
def closers (k : Nat) : List Char := List.replicate k ')'

theorem solidEnd_closers (k : Nat) : Text.SolidEnd (closers k) :=
  Text.SolidEnd.replicate (by decide) k

theorem absentFrom_closers : ∀ k : Nat, Join.AbsentFrom (closers k)
  | 0 => List.isChain_nil
  | k + 1 => Join.AbsentFrom.around List.isChain_nil (by decide) (by decide) (absentFrom_closers k)

/-- No operator arises where closing brackets are put behind a text. -/
theorem absentFrom_append_closers {cs : List Char} (h : Join.AbsentFrom cs) (k : Nat) :
    Join.AbsentFrom (cs ++ closers k) := by
  cases k with
  | zero => simpa [closers] using h
  | succ k => exact h.around (by decide) (by decide) (absentFrom_closers k)

/-- A comparison is one clause with any closing brackets behind it. -/
theorem compose_comparison (c : Comparison) (k : Nat) :
    Clause.compose (c.text ++ closers k) = c.qualified.text ++ closers k := by
  have hone : Join.AbsentFrom (c.text ++ closers k) := absentFrom_append_closers c.noOperator k
  rw [Split.compose_eq, Split.of_eq_last hone, Split.compose, Clause.qualify_of_no_bracket]
  · rfl
  · exact c.solidStart.append c.nonempty _
  · exact (solidEnd_closers k).of_append c.solidEnd
  · simp [c.noOpening, closers]
  · exact (Clause.noGap_of_not_mem c.noClosing).append (Clause.noGap_replicate k) c.solidEnd

/-- So it is with an opening bracket in front of it. -/
theorem compose_opened_comparison (c : Comparison) (k : Nat) :
    Clause.compose ('(' :: c.text ++ closers k) = '(' :: c.qualified.text ++ closers k := by
  have hone : Join.AbsentFrom ('(' :: (c.text ++ closers k)) :=
    Join.AbsentFrom.around List.isChain_nil (by decide) (by decide)
      (absentFrom_append_closers c.noOperator k)
  have hend : Text.SolidEnd (c.text ++ closers k) := (solidEnd_closers k).of_append c.solidEnd
  have hgap : Clause.NoGap ('(' :: c.qualified.text ++ closers k) := by
    refine Clause.NoGap.append ?_ (Clause.noGap_replicate k) ?_
    · exact Clause.noGap_of_not_mem (by simp [c.qualified.noClosing])
    · exact c.qualified.solidEnd.append c.qualified.nonempty ['(']
  rw [List.cons_append, Split.compose_eq, Split.of_eq_last hone, Split.compose,
    ← List.nil_append ('(' :: _), Clause.qualify_of_bracket]
  · simp [Comparison.qualified]
  · simp
  · intro d hd
    cases hd
    decide
  · exact hend.append (by simp [c.nonempty]) ['(']
  · exact c.solidStart.append c.nonempty _
  · simpa [Comparison.qualified] using hgap

/-- A call is one clause with any closing brackets behind it. -/
theorem compose_call (c : Call) (k : Nat) :
    Clause.compose (c.text ++ closers k) = c.qualified.text ++ closers k := by
  -- the bracket of the call is the first of the closing ones
  have htext : ∀ c : Call,
      c.text ++ closers k = c.function ++ '(' :: (c.arguments ++ closers (k + 1)) := by
    intro c
    simp [Call.text, closers, List.replicate_succ]
  have hone : Join.AbsentFrom (c.function ++ '(' :: (c.arguments ++ closers (k + 1))) :=
    c.noOperator.around (by decide) (by decide)
      (absentFrom_append_closers c.argumentsNoOperator (k + 1))
  have hend : Text.SolidEnd (c.arguments ++ closers (k + 1)) :=
    (solidEnd_closers (k + 1)).of_append c.argumentsSolidEnd
  have hstart : Text.SolidStart (closers (k + 1)) := by
    intro d hd
    cases hd
    decide
  have hgap : Clause.NoGap
      ((c.function ++ ['(']) ++ (c.qualified.arguments ++ closers (k + 1))) := by
    refine Clause.NoGap.append (Clause.noGap_of_not_mem (by simp [c.noClosing])) ?_ ?_
    · exact c.qualified.argumentsNoGap.append (Clause.noGap_replicate (k + 1))
        c.qualified.argumentsSolidEnd
    · intro d hd
      simp at hd
      subst hd
      decide
  rw [htext, htext, Split.compose_eq, Split.of_eq_last hone, Split.compose,
    Clause.qualify_of_bracket]
  · simp [Call.qualified]
  · exact c.noOpening
  · exact c.solidStart.append c.nonempty _
  · simpa using hend.append (by simp [closers]) (c.function ++ ['('])
  · exact c.argumentsSolidStart.of_append hstart
  · simpa [Call.qualified] using hgap

/-- What may stand in front of an expression inside a clause: nothing, or the bracket of
a group that begins with a comparison. -/
def Opens (e : Expression) (before : List Char) : Prop :=
  before = [] ∨ before = ['('] ∧ e.StartsPlain

/-- An expression is qualified inside any brackets that groups put around it. -/
theorem compose_fragment (e : Expression) (h : e.GroupsStartPlain) {before : List Char}
    (hb : e.Opens before) (k : Nat) :
    Clause.compose (before ++ e.text ++ closers k) =
      before ++ e.qualified.text ++ closers k := by
  induction e generalizing before k with
  | comparison c =>
      rcases hb with rfl | ⟨rfl, -⟩
      · exact compose_comparison c k
      · exact compose_opened_comparison c k
  | call c =>
      rcases hb with rfl | ⟨-, hplain⟩
      · exact compose_call c k
      · exact hplain.elim
  | group e ih =>
      rcases hb with rfl | ⟨-, hplain⟩
      · -- the brackets of the group move to the two sides
        have hstep := ih h.2 (.inr ⟨rfl, h.1⟩) (k + 1)
        simpa [text, qualified, closers, List.replicate_succ] using hstep
      · exact hplain.elim
  | joined left j right ihl ihr =>
      -- the operator cuts the text, and each side keeps the brackets at its own end
      have hl := ihl h.1 (hb.imp id fun hb => ⟨hb.1, hb.2⟩) 0
      have hr := ihr h.2 (.inl rfl) k
      have hcut := Clause.compose_append_operator (before ++ left.text) (right.text ++ closers k) j
      simp only [closers, List.replicate_zero, List.append_nil] at hl
      simp only [List.nil_append] at hr
      rw [hl, hr] at hcut
      simpa [text, qualified] using hcut

/-- Composing the text of an expression qualifies its comparisons and calls, and keeps
operators, groups and order, when every group begins with a comparison. -/
theorem composed_eq_qualified (e : Expression) (h : e.GroupsStartPlain) :
    Clause.composed (String.ofList e.text) = String.ofList e.qualified.text := by
  have hfragment := compose_fragment e h (.inl rfl) 0
  simp only [closers, List.replicate_zero, List.append_nil, List.nil_append] at hfragment
  rw [Clause.composed, String.toList_ofList, hfragment]

/-- A group in a group, both opened by comparisons, with a call at the end. -/
def nested : Expression :=
  group (.joined (.comparison ⟨"a == 1".toList, by decide, by decide, by decide, by decide,
      by decide, by decide⟩) .all
    (group (.joined (.comparison ⟨"b|2".toList, by decide, by decide, by decide, by decide,
        by decide, by decide⟩) .any
      (.call ⟨"LIKE".toList, "c, (1)".toList, by decide, by decide, by decide, by decide,
        by decide, by decide, by decide, by decide, by decide⟩))))

theorem composed_nested :
    nested.GroupsStartPlain ∧
      Clause.composed "(a == 1 && (b|2 || LIKE(c, (1))))" =
        "(d.a == 1 && (d.b|2 || LIKE(d.c, (1))))" := by
  have h : nested.GroupsStartPlain := ⟨trivial, trivial, ⟨trivial, trivial, trivial⟩⟩
  exact ⟨h, composed_eq_qualified nested h⟩

end Expression

end DocQuery
