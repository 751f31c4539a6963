import DocQuery.Proofs.CriteriaMeaning
import DocQuery.Proofs.Grouping
import Mathlib.Combinatorics.Enumerative.DyckWord

/-!
# What composing keeps of a text

Composing cuts a text at its operators, trims the clauses, cuts white space out around
brackets, and writes single spaces around the operators.  None of this matters to what a
reader of the text goes by.

*Solid text.*  `Text.solid` is a text without its white space.  `Clause.Inserted n cs out` says
that `out` is `cs` with `n` qualifiers put into it and nothing else changed.  Qualifying a
clause puts one into its solid text (`Clause.inserted_qualify`), so composing puts in one more
than there are operators (`Split.inserted_compose`).

*Brackets.*  The brackets of a text are steps up and down.  Neither white space nor a qualifier
is one, so a composed text has the brackets of the text.  A text is `Text.Balanced` when they
are a Dyck word.  Dyck words can be put in a row and into brackets, so a balanced filter leaves
the condition of criteria balanced, whatever is searched for beside it
(`Clause.composed_keeps_text`).
-/

namespace DocQuery

namespace Text

/-! ## Solid text -/

/-- A text without its white space. -/
def solid (cs : List Char) : List Char := cs.filter fun c => !isSpace c

@[simp] theorem solid_nil : solid [] = [] := rfl

@[simp] theorem solid_append (as bs : List Char) : solid (as ++ bs) = solid as ++ solid bs :=
  List.filter_append as bs

theorem solid_cons {c : Char} (h : isSpace c = false) (cs : List Char) :
    solid (c :: cs) = c :: solid cs :=
  List.filter_cons_of_pos (by simp [h])

theorem solid_cons_space {c : Char} (h : isSpace c = true) (cs : List Char) :
    solid (c :: cs) = solid cs :=
  List.filter_cons_of_neg (by simp [h])

theorem solid_blank {cs : List Char} (h : ∀ c ∈ cs, isSpace c = true) : solid cs = [] := by
  rw [solid, List.filter_eq_nil_iff]
  intro c hc
  simp [h c hc]

theorem solid_trimStart (cs : List Char) : solid (trimStart cs) = solid cs := by
  have hblank : solid (cs.takeWhile isSpace) = [] :=
    solid_blank fun c hc => List.mem_takeWhile_imp hc
  conv_rhs => rw [← List.takeWhile_append_dropWhile (p := isSpace) (l := cs)]
  rw [solid_append, hblank, List.nil_append, trimStart]

theorem solid_trim (cs : List Char) : solid (trim cs) = solid cs := by
  obtain ⟨before, after, hbefore, hafter, hcs⟩ := trim_between cs
  conv_rhs => rw [hcs]
  rw [solid_append, solid_append, solid_blank hbefore, solid_blank hafter, List.nil_append,
    List.append_nil]

end Text

namespace Clause

open Text (solid)

theorem solid_tighten (cs : List Char) : solid (tighten cs) = solid cs := by
  induction cs with
  | nil => rfl
  | cons c rest ih =>
      by_cases hgap : isSpace c = true ∧ ∃ more, tighten rest = ')' :: more
      · obtain ⟨hspace, more, hmore⟩ := hgap
        rw [tighten_cons_space hspace hmore, ih, Text.solid_cons_space hspace]
      · rw [tighten_cons fun hspace more hmore => hgap ⟨hspace, more, hmore⟩]
        by_cases hspace : isSpace c = true
        · rw [Text.solid_cons_space hspace, Text.solid_cons_space hspace, ih]
        · rw [Bool.not_eq_true] at hspace
          rw [Text.solid_cons hspace, Text.solid_cons hspace, ih]

/-! ## Qualifiers that are put into a text -/

/-- The second text is the first with a number of qualifiers put into it. -/
inductive Inserted : Nat → List Char → List Char → Prop where
  /-- Nothing is put into the empty text. -/
  | nil : Inserted 0 [] []
  /-- A character stays. -/
  | keep (c : Char) {n : Nat} {cs out : List Char} :
      Inserted n cs out → Inserted n (c :: cs) (c :: out)
  /-- A qualifier is put in. -/
  | put {n : Nat} {cs out : List Char} :
      Inserted n cs out → Inserted (n + 1) cs (qualifier ++ out)

theorem Inserted.same (cs : List Char) : Inserted 0 cs cs := by
  induction cs with
  | nil => exact .nil
  | cons c cs ih => exact .keep c ih

theorem Inserted.append {m n : Nat} {as bs cs ds : List Char} (h : Inserted m as bs)
    (h' : Inserted n cs ds) : Inserted (n + m) (as ++ cs) (bs ++ ds) := by
  induction h with
  | nil => exact h'
  | keep c _ ih => exact .keep c ih
  | put _ ih => exact .put ih

/-- A text with a qualifier is not empty. -/
theorem Inserted.ne_nil {n : Nat} {cs out : List Char} (h : Inserted (n + 1) cs out) :
    out ≠ [] := by
  cases h with
  | keep c _ => exact List.cons_ne_nil _ _
  | put _ => exact List.cons_ne_nil _ _

/-- Qualifying puts one qualifier in. -/
theorem inserted_qualify (cs : List Char) : Inserted 1 (solid cs) (solid (qualify cs)) := by
  have hqualifier : solid qualifier = qualifier := by decide
  by_cases hopen : '(' ∈ cs
  · obtain ⟨as, bs, rfl, has⟩ := List.eq_append_cons_of_mem hopen
    rw [qualify_of_opener has, Text.solid_append, Text.solid_append,
      Text.solid_cons (by decide), Text.solid_cons (by decide), Text.solid_append, solid_tighten,
      solid_tighten, Text.solid_trimStart, Text.solid_trim, hqualifier]
    exact (Inserted.same (solid as)).append (.keep '(' (.put (.same (solid bs))))
  · rw [qualify_of_not_mem hopen, Text.solid_append, solid_tighten, Text.solid_trim, hqualifier]
    exact .put (.same (solid cs))

end Clause

open Text (solid)
open Clause (Inserted)

/-- Composing puts in one qualifier for each clause. -/
theorem Split.inserted_compose (s : Split) :
    Inserted (s.operators.length + 1) (solid s.text) (solid s.compose) := by
  induction s with
  | last clause => exact Clause.inserted_qualify clause
  | more clause j rest ih =>
      have hspace (cs : List Char) : solid (' ' :: cs) = solid cs :=
        Text.solid_cons_space (by decide) cs
      have hrest := (Inserted.same (solid j.chars)).append ih
      rw [text, compose, List.append_assoc, List.append_assoc, List.cons_append,
        Text.solid_append, Text.solid_append, Text.solid_append, hspace, Text.solid_append, hspace]
      exact (Clause.inserted_qualify clause).append hrest

theorem inserted_composed (s : String) :
    Inserted ((Split.of s.toList).operators.length + 1) (solid s.toList)
      (solid (Clause.composed s).toList) := by
  have h := (Split.of s.toList).inserted_compose
  rwa [Split.text_of, ← Split.compose_eq, ← String.toList_ofList (l := Clause.compose s.toList)]
    at h

theorem composed_ne_empty (s : String) : Clause.composed s ≠ "" := by
  intro hempty
  have h := inserted_composed s
  rw [hempty] at h
  exact h.ne_nil rfl

/-! ## Brackets -/

namespace Text

/-- The step of a bracket: up where it opens, down where it closes. -/
def bracketStep? : Char → Option DyckStep
  | '(' => some .U
  | ')' => some .D
  | _ => none

/-- The brackets of a text, in order. -/
def brackets (cs : List Char) : List DyckStep := cs.filterMap bracketStep?

/-- A text in which every bracket has its counterpart. -/
def Balanced (cs : List Char) : Prop := ∃ w : DyckWord, w.toList = brackets cs

@[simp] theorem brackets_nil : brackets [] = [] := rfl

@[simp] theorem brackets_append (as bs : List Char) :
    brackets (as ++ bs) = brackets as ++ brackets bs := List.filterMap_append

theorem bracketStep?_eq_none {c : Char} (hopen : c ≠ '(') (hclose : c ≠ ')') :
    bracketStep? c = none := by
  unfold bracketStep?
  split
  · exact absurd rfl hopen
  · exact absurd rfl hclose
  · rfl

theorem brackets_cons (c : Char) (cs : List Char) :
    brackets (c :: cs) = (bracketStep? c).toList ++ brackets cs := by
  rw [brackets, List.filterMap_cons]
  cases bracketStep? c with
  | none => rfl
  | some step => rfl

theorem brackets_eq_nil {cs : List Char} (hopen : '(' ∉ cs) (hclose : ')' ∉ cs) :
    brackets cs = [] := by
  refine List.filterMap_eq_nil_iff.2 fun c hc => bracketStep?_eq_none ?_ ?_
  · rintro rfl
    exact hopen hc
  · rintro rfl
    exact hclose hc

/-- White space is no bracket. -/
theorem brackets_solid (cs : List Char) : brackets (solid cs) = brackets cs := by
  induction cs with
  | nil => rfl
  | cons c cs ih =>
      by_cases hspace : isSpace c = true
      · have hnone : bracketStep? c = none := by
          apply bracketStep?_eq_none
          · rintro rfl
            cases hspace
          · rintro rfl
            cases hspace
        rw [solid_cons_space hspace, ih, brackets_cons, hnone]
        rfl
      · rw [Bool.not_eq_true] at hspace
        rw [solid_cons hspace, brackets_cons, brackets_cons, ih]

/-- A qualifier is none either. -/
theorem brackets_inserted {n : Nat} {cs out : List Char} (h : Inserted n cs out) :
    brackets out = brackets cs := by
  induction h with
  | nil => rfl
  | keep c _ ih => rw [brackets_cons, brackets_cons, ih]
  | put _ ih => exact ih

theorem Balanced.congr {cs ds : List Char} (h : Balanced cs) (hsame : brackets ds = brackets cs) :
    Balanced ds := by
  obtain ⟨w, hw⟩ := h
  exact ⟨w, hw.trans hsame.symm⟩

theorem balanced_of_not_mem {cs : List Char} (hopen : '(' ∉ cs) (hclose : ')' ∉ cs) :
    Balanced cs := ⟨0, (brackets_eq_nil hopen hclose).symm⟩

theorem Balanced.append {as bs : List Char} (ha : Balanced as) (hb : Balanced bs) :
    Balanced (as ++ bs) := by
  obtain ⟨v, hv⟩ := ha
  obtain ⟨w, hw⟩ := hb
  refine ⟨v + w, ?_⟩
  rw [brackets_append, ← hv, ← hw]
  rfl

theorem Balanced.enclosed {cs : List Char} (h : Balanced cs) : Balanced ('(' :: cs ++ [')']) := by
  obtain ⟨w, hw⟩ := h
  refine ⟨w.nest, ?_⟩
  rw [List.cons_append, ← List.singleton_append, brackets_append, brackets_append, ← hw]
  rfl

end Text

open Text (brackets Balanced)

theorem brackets_composed (s : String) :
    brackets (Clause.composed s).toList = brackets s.toList := by
  rw [← Text.brackets_solid, Text.brackets_inserted (inserted_composed s), Text.brackets_solid]

/-! ## Balanced conditions -/

/-- No name holds a bracket. -/
theorem brackets_of_isName {name : String} (h : IsName name) : brackets name.toList = [] := by
  have hnot {c : Char} (hc : isNameChar c = false) : c ∉ name.toList := by
    intro hmem
    rw [h.2 c hmem] at hc
    cases hc
  exact Text.brackets_eq_nil (hnot (by decide)) (hnot (by decide))

/-- A test has the brackets of a call or none. -/
theorem Test.balanced_text {t : Test} (h : t.Named) : Balanced t.text.toList := by
  have hname {name : String} (hmem : name ∈ t.parameters) : brackets name.toList = [] :=
    brackets_of_isName (h name hmem)
  have hnone : brackets t.text.toList = [] ∨ brackets t.text.toList = [.U, .D] := by
    cases t with
    | equal property value =>
        have hp : brackets property.toList = [] := hname (by simp [parameters])
        have hv : brackets value.toList = [] := hname (by simp [parameters])
        simp [text, Text.brackets_cons, Text.bracketStep?, hp, hv]
    | equalLower property value =>
        have hp : brackets property.toList = [] := hname (by simp [parameters])
        have hv : brackets value.toList = [] := hname (by simp [parameters])
        simp [text, Text.brackets_cons, Text.bracketStep?, hp, hv]
    | like property pattern =>
        have hp : brackets property.toList = [] := hname (by simp [parameters])
        have hq : brackets pattern.toList = [] := hname (by simp [parameters])
        simp [text, Text.brackets_cons, Text.bracketStep?, hp, hq]
    | isNull property =>
        have hp : brackets property.toList = [] := hname (by simp [parameters])
        simp [text, Text.brackets_cons, Text.bracketStep?, hp]
    | notNull property =>
        have hp : brackets property.toList = [] := hname (by simp [parameters])
        simp [text, Text.brackets_cons, Text.bracketStep?, hp]
    | keyIs key =>
        have hk : brackets key.toList = [] := hname (by simp [parameters])
        simp [text, Text.brackets_cons, Text.bracketStep?, hk]
    | keyIsNot key =>
        have hk : brackets key.toList = [] := hname (by simp [parameters])
        simp [text, Text.brackets_cons, Text.bracketStep?, hk]
  rcases hnone with hnone | hcall
  · exact ⟨0, hnone.symm⟩
  · exact ⟨DyckWord.nest 0, hcall.symm⟩

namespace Condition

theorem balanced_group {c : Condition} (h : Balanced c.text.toList) :
    Balanced (group c).text.toList := by
  have hspace : Balanced [' '] := Text.balanced_of_not_mem (by decide) (by decide)
  rw [toList_text_group]
  exact ((hspace.append h).append hspace).enclosed

theorem balanced_joined {parts : List Condition} (h : ∀ c ∈ parts, Balanced c.text.toList)
    (j : Join) : Balanced (joined j parts).text.toList := by
  have hbetween : Balanced (' ' :: j.chars ++ [' ']) := by
    cases j with
    | any => exact Text.balanced_of_not_mem (by decide) (by decide)
    | all => exact Text.balanced_of_not_mem (by decide) (by decide)
  rw [toList_text_joined]
  induction parts with
  | nil => exact Text.balanced_of_not_mem List.not_mem_nil List.not_mem_nil
  | cons c rest ih =>
      obtain ⟨hc, hrest⟩ := List.forall_mem_cons.1 h
      cases rest with
      | nil => simpa [Join.between] using hc
      | cons d rest =>
          have htext := (hc.append hbetween).append (ih hrest)
          rw [List.map_cons, List.map_cons, Join.between_cons_cons]
          simpa using htext

end Condition

theorem Search.balanced_testsOf (number : Nat) (kinds : List TermKind) :
    ∀ c ∈ testsOf number kinds, Balanced c.text.toList := by
  have hnamed := named_testsOf number kinds
  induction kinds generalizing number with
  | nil => exact fun c hc => absurd hc List.not_mem_nil
  | cons k rest ih =>
      obtain ⟨hk, hrest⟩ := List.forall_mem_cons.1 hnamed
      exact List.forall_mem_cons.2 ⟨Test.balanced_text hk, ih (number + 1) hrest⟩

theorem Search.balanced_compile? (s : Search) (binds : Fields) :
    ∀ c ∈ (s.compile? binds).1, Balanced c.text.toList := by
  intro c hc
  obtain ⟨-, hnone⟩ | ⟨-, -, hsome⟩ := s.compile?_cases binds
  · rw [hnone] at hc
    cases hc
  · rw [hsome] at hc
    cases hc
    exact Condition.balanced_joined (balanced_testsOf 1 s.kinds) s.join

namespace Criteria

theorem balanced_combine {j : Join} {f s : Option Condition}
    (hf : ∀ c ∈ f, Balanced c.text.toList) (hs : ∀ c ∈ s, Balanced c.text.toList) :
    ∀ c ∈ combine j f s, Balanced c.text.toList := by
  intro c hc
  cases f with
  | none =>
      cases s with
      | none => cases hc
      | some s =>
          cases hc
          exact Condition.balanced_group (hs s rfl)
  | some f =>
      cases s with
      | none =>
          cases hc
          exact Condition.balanced_group (hf f rfl)
      | some s =>
          cases hc
          refine Condition.balanced_group (Condition.balanced_joined ?_ j)
          exact List.forall_mem_cons.2 ⟨Condition.balanced_group (hf f rfl),
            List.forall_mem_singleton.2 (Condition.balanced_group (hs s rfl))⟩

theorem compileFilter_text {c : Criteria} {s : String} (h : c.filter = some (.text s))
    (binds : Fields) : c.compileFilter binds true =
      (.ok (if s = "" then none else some (.written (Clause.composed s))), binds) := by
  simp only [compileFilter, h, Filter.isGiven]
  by_cases hs : s = ""
  · simp [hs]
  · simp [hs, Filter.compile, Condition.text, composed_ne_empty s]

end Criteria

/-- A composed text is the text with one qualifier more than there are operators put into it,
next to white space.  So it has the same brackets.  When they are balanced, so are those of the
condition that criteria make of it, with or without a search. -/
theorem Clause.composed_keeps_text (s : String) :
    Inserted ((Split.of s.toList).operators.length + 1) (solid s.toList)
        (solid (composed s).toList) ∧
      brackets (composed s).toList = brackets s.toList ∧
      ∀ c : Criteria, c.filter = some (.text s) → Balanced s.toList → ∀ binds,
        Balanced (composed s).toList ∧
          ∃ e, (c.compile binds).1 = .ok e ∧
            e = Criteria.combine c.join (if s = "" then none else some (.written (composed s)))
              (c.compileSearch binds).1 ∧
            ∀ g ∈ e, Balanced g.text.toList := by
  refine ⟨inserted_composed s, brackets_composed s, fun c hc hbalanced binds => ?_⟩
  have hcomposed : Balanced (composed s).toList := hbalanced.congr (brackets_composed s)
  refine ⟨hcomposed, _, by rw [Criteria.compile, Criteria.compileFilter_text hc], rfl, ?_⟩
  refine Criteria.balanced_combine (fun f hf => ?_) fun g hg => ?_
  · by_cases hs : s = ""
    · rw [if_pos hs] at hf
      cases hf
    · rw [if_neg hs] at hf
      cases hf
      exact hcomposed
  · unfold Criteria.compileSearch at hg
    cases hsearch : c.search with
    | none =>
        rw [hsearch] at hg
        cases hg
    | some search =>
        rw [hsearch] at hg
        exact search.balanced_compile? binds g hg

/-- A call in a group in a group. -/
def nestedCall : String := "( age > 42 && ( team == 1|| LIKE( name, \"x\" ) ) )"

/-- The filter with that text, and a search beside it. -/
def nestedGroups : Criteria where
  filter := some (.text nestedCall)
  search := some Criteria.oneTerm

theorem nestedGroups_balanced :
    Balanced nestedCall.toList ∧
      ∃ e, (nestedGroups.compile []).1 = .ok e ∧ ∀ g ∈ e, Balanced g.text.toList := by
  have hbalanced : Balanced nestedCall.toList := ⟨.nest (.nest (.nest 0)), rfl⟩
  obtain ⟨-, e, he, -, hall⟩ :=
    (Clause.composed_keeps_text nestedCall).2.2 nestedGroups rfl hbalanced []
  exact ⟨hbalanced, e, he, hall⟩

end DocQuery
