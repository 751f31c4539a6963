import DocQuery.Proofs.Brackets
import DocQuery.Proofs.Expression

/-!
# Composing a group

Brackets around a condition only touch its ends.  The closing one never matters: it is put
behind the last clause before or after composing with the same outcome
(`qualify_append_closer`).  The opening one becomes the first bracket of the first clause, and
the `d.` goes behind it.  So composing goes through the brackets exactly when the first clause
has no opening bracket of its own (`compose_group_iff`, for every text).

`Expression.Written` is a boolean expression as callers write it: with any white space around
operators and inside the brackets of groups, and with calls of anything.  For it the first
clause has no opening bracket exactly when the expression begins with a comparison
(`composed_group_iff`).
-/

namespace DocQuery

namespace Clause

/-- A closing bracket behind a clause stays there. -/
theorem qualify_append_closer (cs : List Char) : qualify (cs ++ [')']) = qualify cs ++ [')'] := by
  by_cases hopen : '(' ∈ cs
  · obtain ⟨as, bs, rfl, has⟩ := List.eq_append_cons_of_mem hopen
    rw [List.append_assoc, List.cons_append, qualify_of_opener has, qualify_of_opener has,
      tighten_trim_closer]
    simp
  · have hboth : '(' ∉ cs ++ [')'] := by simpa using hopen
    rw [qualify_of_not_mem hopen, qualify_of_not_mem hboth, tighten_trim_closer,
      List.append_assoc]

/-- An opening bracket in front of a clause stays there when it is the only one. -/
theorem qualify_cons_opener_iff {cs : List Char} :
    qualify ('(' :: cs) = '(' :: qualify cs ↔ '(' ∉ cs := by
  have hfirst : qualify ('(' :: cs) = '(' :: (qualifier ++ tighten (Text.trim cs)) :=
    qualify_of_opener List.not_mem_nil cs
  by_cases hopen : '(' ∈ cs
  · obtain ⟨as, bs, rfl, has⟩ := List.eq_append_cons_of_mem hopen
    have hclear : '(' ∉ tighten (Text.trimStart as) :=
      fun hmem => has (List.dropWhile_subset _ (mem_tighten hmem))
    have hsolid : isSpace '(' = false := by decide
    rw [hfirst, qualify_of_opener has, Text.trim_append hsolid,
      tighten_append hsolid (by simp), List.cons.injEq]
    simp only [hopen, not_true_eq_false, iff_false, not_and]
    exact fun _ heq => opener_ne_prefixed hclear hclear (Nat.le_refl _) _ _ heq.symm
  · simp [hfirst, qualify_of_not_mem hopen, hopen]

end Clause

namespace Split

/-- The first clause. -/
def first : Split → List Char
  | last clause => clause
  | more clause _ _ => clause

@[simp] theorem first_prepend (cs : List Char) (s : Split) :
    (s.prepend cs).first = cs ++ s.first := by cases s <;> rfl

/-- A text in brackets is cut where the text is. -/
theorem of_group (cs : List Char) :
    of ('(' :: cs ++ [')']) = ((of cs).append (last [')'])).prepend ['('] := by
  have hclose : of (cs ++ [')']) = (of cs).append (last [')']) :=
    of_append_cons (by decide) (by decide) cs []
  rw [List.cons_append, of_cons (by simp [Join.opening?]), hclose]

theorem compose_append_closer (s : Split) :
    (s.append (last [')'])).compose = s.compose ++ [')'] := by
  induction s with
  | last clause => exact Clause.qualify_append_closer clause
  | more clause j rest ih => simp [append, compose, ih]

theorem compose_prepend_opener_iff (s : Split) :
    (s.prepend ['(']).compose = '(' :: s.compose ↔ '(' ∉ s.first := by
  cases s with
  | last clause => exact Clause.qualify_cons_opener_iff
  | more clause j rest =>
      rw [prepend, compose, compose, List.singleton_append, List.append_assoc, List.append_assoc,
        ← List.cons_append, List.append_cancel_right_eq]
      exact Clause.qualify_cons_opener_iff

theorem mem_first_append_closer (s : Split) :
    '(' ∈ (s.append (last [')'])).first ↔ '(' ∈ s.first := by
  cases s <;> simp [append, prepend, first]

end Split

/-- Composing goes through the brackets around a text exactly when the first clause of the text
has no opening bracket. -/
theorem Clause.compose_group_iff (cs : List Char) :
    compose ('(' :: cs ++ [')']) = '(' :: compose cs ++ [')'] ↔ '(' ∉ (Split.of cs).first := by
  rw [Split.compose_eq, Split.compose_eq, Split.of_group, List.cons_append,
    ← Split.compose_append_closer, Split.compose_prepend_opener_iff, Split.mem_first_append_closer]

namespace Expression

/-! ## Expressions as they are written -/

/-- White space. -/
structure Blank where
  /-- The text. -/
  text : List Char
  isSpace : ∀ c ∈ text, isSpace c = true

/-- A call of anything with anything. -/
structure AnyCall where
  /-- What stands in front of the opening bracket. -/
  function : List Char
  /-- What stands between the brackets. -/
  arguments : List Char
  noOpening : '(' ∉ function
  noOperator : Join.AbsentFrom function

/-- A boolean expression with the white space that it is written with. -/
inductive Written where
  /-- A comparison. -/
  | comparison (c : Comparison)
  /-- A call. -/
  | call (c : AnyCall)
  /-- An expression in brackets. -/
  | group (before : Blank) (e : Written) (after : Blank)
  /-- Two expressions with an operator between them. -/
  | joined (left : Written) (before : Blank) (j : Join) (after : Blank) (right : Written)

namespace Written

/-- The text of an expression. -/
def text : Written → List Char
  | comparison c => c.text
  | call c => c.function ++ '(' :: c.arguments ++ [')']
  | group before e after => '(' :: before.text ++ e.text ++ after.text ++ [')']
  | joined left before j after right =>
      left.text ++ (before.text ++ (j.chars ++ (after.text ++ right.text)))

/-- Whether an expression begins with a comparison. -/
def StartsPlain : Written → Prop
  | comparison _ => True
  | call _ | group .. => False
  | joined left .. => left.StartsPlain

end Written

theorem not_mem_first_blank (before : Blank) (j : Join) (rest : List Char) :
    '(' ∉ (Split.of (before.text ++ (j.chars ++ rest))).first := by
  obtain ⟨blank, hblank⟩ := before
  induction blank with
  | nil => simp [Split.of_chars_append, Split.first]
  | cons c blank ih =>
      have hspace : isSpace c = true := hblank c List.mem_cons_self
      have hne {d : Char} (hd : isSpace d = false) : c ≠ d := by
        rintro rfl
        rw [hspace] at hd
        cases hd
      have hcut := Split.of_append_cons (hne (d := '|') (by decide)) (hne (d := '&') (by decide))
        [] (blank ++ (j.chars ++ rest))
      have hrest := ih fun d hd => hblank d (List.mem_cons_of_mem c hd)
      rw [List.nil_append] at hcut
      rw [List.cons_append, hcut]
      simp [Split.of, Split.append, hrest, (hne (d := '(') (by decide)).symm]

/-- An operator behind a text, with white space in front of it, puts no opening bracket into
the first clause and takes none away. -/
theorem mem_first_append (cs : List Char) (before : Blank) (j : Join) (rest : List Char) :
    '(' ∈ (Split.of (cs ++ (before.text ++ (j.chars ++ rest)))).first ↔
      '(' ∈ (Split.of cs).first := by
  fun_induction Split.of cs with
  | case1 => simpa [Split.first] using not_mem_first_blank before j rest
  | case2 cs ih => simp [Split.of, Split.first]
  | case3 cs ih => simp [Split.of, Split.first]
  | case4 c cs hany hall ih =>
      cases hopen : Join.opening? (c :: (cs ++ (before.text ++ (j.chars ++ rest)))) with
      | none => rw [List.cons_append, Split.of_cons hopen, Split.first_prepend, Split.first_prepend,
          List.mem_append, List.mem_append, ih]
      | some j' =>
          -- the last character of the text opens an operator together with the one behind it
          obtain ⟨more, hmore⟩ := Join.opening?_eq_some.1 hopen
          have hnil : cs = [] := by
            cases cs with
            | nil => rfl
            | cons d cs =>
                cases j'
                · cases hmore
                  exact (hany cs rfl rfl).elim
                · cases hmore
                  exact (hall cs rfl rfl).elim
          have hc : '(' ≠ c := by
            rintro rfl
            cases j' <;> cases hmore
          subst hnil
          rw [List.cons_append, hmore, Split.of_chars_append, Split.first_prepend]
          simp [Split.first, Split.of, hc]

namespace Written

/-- The first clause of an expression has no opening bracket exactly when the expression begins
with a comparison. -/
theorem not_mem_first_iff (e : Written) : '(' ∉ (Split.of e.text).first ↔ e.StartsPlain := by
  induction e with
  | comparison c =>
      rw [text, Split.of_eq_last c.noOperator]
      simp [Split.first, c.noOpening, StartsPlain]
  | call c =>
      have hcut := Split.of_append_cons (c := '(') (by decide) (by decide) c.function
        (c.arguments ++ [')'])
      rw [text, List.append_assoc, List.cons_append, hcut, Split.of_eq_last c.noOperator]
      simp [Split.append, StartsPlain]
  | group before e after ih =>
      rw [text, List.append_assoc, List.append_assoc, List.cons_append,
        Split.of_cons (by simp [Join.opening?])]
      simp [StartsPlain]
  | joined left before j after right ihl ihr => rw [text, mem_first_append, ihl, StartsPlain]

/-- Composing goes through the brackets around an expression exactly when the expression begins
with a comparison, and not with a group or a call. -/
theorem composed_group_iff (e : Written) :
    Clause.composed (String.ofList ('(' :: e.text ++ [')'])) =
        "(" ++ Clause.composed (String.ofList e.text) ++ ")" ↔ e.StartsPlain := by
  have hgroup : "(" ++ Clause.composed (String.ofList e.text) ++ ")" =
      String.ofList ('(' :: Clause.compose e.text ++ [')']) := by
    rw [Clause.composed, String.toList_ofList, List.cons_append, ← List.singleton_append,
      String.ofList_append, String.ofList_append]
    simp [String.append_assoc]
  rw [hgroup, Clause.composed, String.toList_ofList, String.ofList_inj, Clause.compose_group_iff,
    not_mem_first_iff]

/-- A single space. -/
def space : Blank := ⟨[' '], List.forall_mem_singleton.2 rfl⟩

/-- A call and a comparison behind it. -/
def foundOrOlder : Written :=
  .joined (.call ⟨"CONTAINS".toList, "name, \"lan\"".toList, by decide, by decide⟩)
    space .any space
    (.comparison ⟨"age > 40".toList, by decide, by decide, by decide, by decide, by decide,
      by decide⟩)

/-- In brackets the name of the called function is taken for the property. -/
theorem composed_grouped_call :
    Clause.composed (String.ofList foundOrOlder.text) =
        "CONTAINS(d.name, \"lan\") || d.age > 40" ∧
      Clause.composed (String.ofList ('(' :: foundOrOlder.text ++ [')'])) =
        "(d.CONTAINS(name, \"lan\") || d.age > 40)" ∧
      Clause.composed (String.ofList ('(' :: foundOrOlder.text ++ [')'])) ≠
        "(" ++ Clause.composed (String.ofList foundOrOlder.text) ++ ")" := by
  decide +kernel

end Written

end Expression

end DocQuery
