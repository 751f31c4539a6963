import DocQuery.Proofs.Brackets

/-!
# Comparing a property with a quoted text

The plainest condition that callers write is a `QuotedComparison`: a property, a comparison
operator and a text between quotes.  It is one clause, so composing it is qualifying it.

Qualifying looks for brackets and for white space in front of closing brackets, and knows no
quotes.  So the property is prefixed and the text kept exactly when the text has no opening
bracket and no white space directly in front of a closing one
(`composed_eq_prefixed_iff`).
-/

namespace DocQuery

/-- A text without the characters of operators has none. -/
theorem Join.AbsentFrom.of_not_mem {cs : List Char} (hany : '|' ∉ cs) (hall : '&' ∉ cs) :
    AbsentFrom cs := by
  induction cs with
  | nil => exact List.isChain_nil
  | cons c rest ih =>
      simp only [List.mem_cons, not_or] at hany hall
      exact AbsentFrom.around List.isChain_nil (Ne.symm hany.1) (Ne.symm hall.1)
        (ih hany.2 hall.2)

/-- The signs that stand in no name of a property, next to white space and full stops. -/
def propertySigns : List Char := ['(', ')', '|', '&', '=', '!', '<', '>', '"', '\\']

/-- A property named by a path: names with full stops between them. -/
structure DottedName where
  /-- The first name. -/
  first : String
  /-- The names behind it. -/
  further : List String := []
  isName : ∀ name ∈ first :: further,
    name ≠ "" ∧ ∀ c ∈ name.toList, isSpace c = false ∧ c ∉ propertySigns

namespace DottedName

/-- The text of a path. -/
def text (p : DottedName) : List Char :=
  p.first.toList ++ p.further.flatMap fun name => '.' :: name.toList

theorem text_ne_nil (p : DottedName) : p.text ≠ [] := by
  have hfirst := (p.isName p.first List.mem_cons_self).1
  exact List.append_ne_nil_of_left_ne_nil (by simpa using hfirst) _

/-- A path holds no white space and no sign. -/
theorem of_mem_text {p : DottedName} {c : Char} (h : c ∈ p.text) :
    isSpace c = false ∧ c ∉ propertySigns := by
  rcases List.mem_append.1 h with h | h
  · exact (p.isName p.first List.mem_cons_self).2 c h
  · obtain ⟨name, hname, hc⟩ := List.mem_flatMap.1 h
    rcases List.mem_cons.1 hc with rfl | hc
    · decide
    · exact (p.isName name (List.mem_cons_of_mem _ hname)).2 c hc

theorem solidStart_text (p : DottedName) : Text.SolidStart p.text :=
  fun _ hc => (of_mem_text (List.mem_of_mem_head? hc)).1

end DottedName

/-- How a property is compared with a text. -/
inductive Comparator where
  | equal | different | less | atMost | greater | atLeast
deriving DecidableEq, Repr

/-- The operator of a comparison. -/
def Comparator.chars : Comparator → List Char
  | equal => ['=', '=']
  | different => ['!', '=']
  | less => ['<']
  | atMost => ['<', '=']
  | greater => ['>']
  | atLeast => ['>', '=']

/-- A text that may stand between quotes: without quotes, backslashes and the operators that
conditions are cut at. -/
structure QuotedText where
  /-- The text. -/
  text : List Char
  noQuote : '"' ∉ text
  noBackslash : '\\' ∉ text
  noOperator : Join.AbsentFrom text

/-- A comparison of a property with a quoted text. -/
structure QuotedComparison where
  /-- The property. -/
  property : DottedName
  /-- How it is compared. -/
  comparator : Comparator
  /-- What it is compared with. -/
  value : QuotedText

namespace QuotedComparison

/-- What stands in front of the quoted text. -/
def front (c : QuotedComparison) : List Char :=
  c.property.text ++ ' ' :: c.comparator.chars ++ [' ', '"']

/-- The text of a comparison. -/
def text (c : QuotedComparison) : List Char := c.front ++ (c.value.text ++ ['"'])

theorem not_mem_front (c : QuotedComparison) {d : Char} (hd : d ∈ propertySigns)
    (hfront : d ∉ ['=', '!', '<', '>', '"']) : d ∉ c.front := by
  have hproperty : d ∉ c.property.text := fun hmem => (DottedName.of_mem_text hmem).2 hd
  have hspace : d ≠ ' ' := by
    rintro rfl
    revert hd
    decide
  simp only [List.mem_cons, List.not_mem_nil, or_false, not_or] at hfront
  cases hc : c.comparator <;> simp [front, hc, Comparator.chars, hproperty, hspace, hfront]

theorem solidStart_text (c : QuotedComparison) : Text.SolidStart c.text := by
  have hproperty := c.property.solidStart_text.append c.property.text_ne_nil
  simpa [text, front] using hproperty _

theorem solidEnd_text (c : QuotedComparison) : Text.SolidEnd c.text := by
  intro d hd
  simp only [text, ← List.append_assoc, List.getLast?_concat, Option.mem_def,
    Option.some.injEq] at hd
  subst hd
  decide

theorem mem_opener_iff (c : QuotedComparison) : '(' ∈ c.text ↔ '(' ∈ c.value.text := by
  have hfront : '(' ∉ c.front := c.not_mem_front (by decide) (by decide)
  simp [text, hfront]

/-- A gap can only be in the quoted text. -/
theorem noGap_iff (c : QuotedComparison) : Clause.NoGap c.text ↔ Clause.NoGap c.value.text := by
  have hfront : Clause.NoGap c.front :=
    Clause.noGap_of_not_mem (c.not_mem_front (by decide) (by decide))
  have hquote : Text.SolidEnd c.front := by
    intro d hd
    rw [front, List.getLast?_append_of_ne_nil _ (by simp)] at hd
    cases hd
    decide
  constructor
  · intro h
    have hbehind : Clause.NoGap (c.value.text ++ ['"']) := List.IsChain.right_of_append h
    exact List.IsChain.left_of_append hbehind
  · intro h
    refine hfront.append (List.IsChain.append h (List.isChain_singleton _) ?_) hquote
    intro _ _ d hd _
    cases hd
    decide

/-- A comparison is one clause. -/
theorem absentFrom_text (c : QuotedComparison) : Join.AbsentFrom c.text := by
  have hfront : Join.AbsentFrom c.front :=
    Join.AbsentFrom.of_not_mem (c.not_mem_front (by decide) (by decide))
      (c.not_mem_front (by decide) (by decide))
  have hvalue : Join.AbsentFrom (c.value.text ++ ['"']) :=
    c.value.noOperator.around (by decide) (by decide) List.isChain_nil
  refine List.IsChain.append hfront hvalue fun d hd e he j hj => ?_
  -- the quote in front of the text belongs to no operator
  rw [front, List.getLast?_append_of_ne_nil _ (by simp)] at hd
  cases hd
  cases j <;> simp at hj

/-- A comparison with a quoted text is one clause.  Its property is prefixed and all else kept
exactly when the text has no opening bracket and no white space in front of a closing one. -/
theorem composed_eq_prefixed_iff (c : QuotedComparison) :
    let s := String.ofList c.text
    Clause.composed s = Clause.qualified s ∧
      (Clause.qualified s = "d." ++ s ↔ '(' ∉ c.value.text ∧ Clause.NoGap c.value.text) := by
  intro s
  constructor
  · rw [Clause.composed, Clause.qualified, Split.compose_eq, String.toList_ofList,
      Split.of_eq_last c.absentFrom_text, Split.compose]
  · have hprefixed : "d." ++ s = String.ofList (Clause.qualifier ++ c.text) := by
      rw [String.ofList_append]
      rfl
    rw [hprefixed, Clause.qualified, String.toList_ofList, String.ofList_inj,
      Clause.qualify_eq_prefixed_iff c.solidStart_text c.solidEnd_text, c.mem_opener_iff,
      c.noGap_iff]

/-- A name with the country behind it, in brackets. -/
def lanceOfUS : QuotedComparison where
  property := ⟨"name", [], by simp [isSpace, propertySigns]⟩
  comparator := .equal
  value := ⟨"Lance (US)".toList, by decide, by decide, by decide⟩

/-- A name with a bracket at its end. -/
def bracketAtEnd : QuotedComparison where
  property := ⟨"team", ["name"], by simp [isSpace, propertySigns]⟩
  comparator := .different
  value := ⟨"a )".toList, by decide, by decide, by decide⟩

/-- The text is taken for a call or the end of a group. -/
theorem quoted_brackets_changed :
    Clause.qualified (String.ofList lanceOfUS.text) = "name == \"Lance (d.US)\"" ∧
      Clause.qualified (String.ofList lanceOfUS.text) ≠ "d." ++ String.ofList lanceOfUS.text ∧
      Clause.qualified (String.ofList bracketAtEnd.text) = "d.team.name != \"a)\"" ∧
      Clause.qualified (String.ofList bracketAtEnd.text) ≠
        "d." ++ String.ofList bracketAtEnd.text := by
  decide +kernel

end QuotedComparison

end DocQuery
