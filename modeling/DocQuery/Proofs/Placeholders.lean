import DocQuery.Query.Parameter
import DocQuery.Query.Statement
import Mathlib.Data.List.TakeWhile

/-!
# The placeholders of a text

A placeholder is `@` and a name, which is as long as it can be.  With two signs in front
of it, the name that has to be bound starts with a sign itself.  `placeholders` reads
them off any text, from left to right.

Texts are put together from parts, and a placeholder must not run on from one part into
the next.  It does not where a part begins with a character that is no sign and may not
stand in a name (`Apart`).  So `mentions_append` takes a text apart at the spaces,
commas and brackets that all parts have around them.

`parameters` lists the parameters that a test, a condition or a statement names, read off
its structure.  Main result: these are the placeholders of its text, in order
(`Statement.placeholders_text`).
-/

namespace DocQuery

/-! ## Reading placeholders -/

/-- The placeholder that a sign opens in front of a text, where the character before the
sign is a sign or not. -/
def opened (doubled : Bool) (cs : List Char) : List String :=
  match cs.takeWhile isNameChar with
  | [] => []
  | name => [String.ofList (if doubled then '@' :: name else name)]

/-- The placeholders of a text behind a sign or another character. -/
def mentions : Bool → List Char → List String
  | _, [] => []
  | doubled, c :: rest =>
      if c = '@' then opened doubled rest ++ mentions true rest else mentions false rest

/-- The placeholders of a text. -/
def placeholders (s : String) : List String := mentions false s.toList

/-- A text that no placeholder runs on into. -/
def Apart (cs : List Char) : Prop := ∀ c ∈ cs.head?, c ≠ '@' ∧ isNameChar c = false

/-- A name that placeholders can have: some characters, all of them allowed. -/
def IsName (s : String) : Prop := s ≠ "" ∧ ∀ c ∈ s.toList, isNameChar c = true

instance (s : String) : Decidable (IsName s) :=
  @instDecidableAnd _ _ inferInstance (List.decidableBAll _ s.toList)

theorem apart_nil : Apart [] := by
  intro c hc
  cases hc

@[simp] theorem apart_cons {c : Char} {rest : List Char} :
    Apart (c :: rest) ↔ c ≠ '@' ∧ isNameChar c = false := by
  simp [Apart]

@[simp] theorem mentions_nil (doubled : Bool) : mentions doubled [] = [] := rfl

@[simp] theorem mentions_cons_of_ne {c : Char} (h : c ≠ '@') (doubled : Bool)
    (rest : List Char) : mentions doubled (c :: rest) = mentions false rest := by
  rw [mentions, if_neg h]

theorem mentions_of_not_mem {cs : List Char} (h : '@' ∉ cs) (doubled : Bool) :
    mentions doubled cs = [] := by
  induction cs generalizing doubled with
  | nil => rfl
  | cons c rest ih =>
      simp only [List.mem_cons, not_or] at h
      rw [mentions_cons_of_ne (Ne.symm h.1), ih h.2]

/-- What has no sign is skipped. -/
theorem mentions_skip {cs : List Char} (h : '@' ∉ cs) (rest : List Char) :
    mentions false (cs ++ rest) = mentions false rest := by
  induction cs with
  | nil => rfl
  | cons c cs ih =>
      simp only [List.mem_cons, not_or] at h
      rw [List.cons_append, mentions_cons_of_ne (Ne.symm h.1), ih h.2]

theorem Apart.mentions_eq {cs : List Char} (h : Apart cs) (doubled : Bool) :
    mentions doubled cs = mentions false cs := by
  cases cs with
  | nil => rfl
  | cons c rest =>
      rw [mentions_cons_of_ne (h c rfl).1, mentions_cons_of_ne (h c rfl).1]

theorem takeWhile_append_apart (cs : List Char) {rest : List Char} (h : Apart rest) :
    (cs ++ rest).takeWhile isNameChar = cs.takeWhile isNameChar := by
  have hrest : rest.takeWhile isNameChar = [] := by
    cases rest with
    | nil => rfl
    | cons c rest => rw [List.takeWhile_cons_of_neg (by simp [(h c rfl).2])]
  rw [List.takeWhile_append]
  split
  next hall =>
    rw [hrest, List.append_nil]
    exact ((List.takeWhile_prefix _).eq_of_length hall).symm
  next => rfl

/-- No placeholder runs on into what stands apart. -/
theorem mentions_append (cs : List Char) {rest : List Char} (h : Apart rest) (doubled : Bool) :
    mentions doubled (cs ++ rest) = mentions doubled cs ++ mentions false rest := by
  -- the flag changes from character to character
  induction cs generalizing doubled with
  | nil => exact h.mentions_eq doubled
  | cons c cs ih =>
      rw [List.cons_append, mentions, mentions]
      split
      · rw [opened, opened, takeWhile_append_apart cs h, ih, List.append_assoc]
      · exact ih false

theorem IsName.not_mem {name : String} (h : IsName name) : '@' ∉ name.toList := by
  intro hmem
  have hchar := h.2 '@' hmem
  revert hchar
  decide

/-- A sign and a name are a placeholder where the text stands apart behind them. -/
theorem mentions_sign {name : String} (hname : IsName name) {rest : List Char} (h : Apart rest) :
    mentions false ('@' :: (name.toList ++ rest)) = name :: mentions false rest := by
  have hrun : (name.toList ++ rest).takeWhile isNameChar = name.toList := by
    rw [takeWhile_append_apart _ h, List.takeWhile_eq_self_iff]
    exact hname.2
  have hopened : opened false (name.toList ++ rest) = [name] := by
    rw [opened, hrun]
    split
    next hnil => exact absurd (String.toList_eq_nil_iff.1 hnil) hname.1
    next => simp
  rw [mentions, if_pos rfl, hopened, mentions_append _ h, mentions_of_not_mem hname.not_mem]
  rfl

theorem mentions_sign_last {name : String} (hname : IsName name) :
    mentions false ('@' :: name.toList) = [name] := by
  simpa using mentions_sign hname apart_nil

/-! ## Names -/

theorem isNameChar_iff {c : Char} : isNameChar c = true ↔
    ('A' ≤ c ∧ c ≤ 'Z') ∨ ('a' ≤ c ∧ c ≤ 'z') ∨ ('0' ≤ c ∧ c ≤ '9') ∨ c = '_' := by
  have hchar : isNameChar c = (((decide ('A' ≤ c ∧ c ≤ 'Z') ||
      (decide ('a' ≤ c) && decide (c ≤ 'z'))) || (decide ('0' ≤ c) && decide (c ≤ '9'))) ||
        decide (c = '_')) := rfl
  simp only [hchar, Bool.or_eq_true, Bool.and_eq_true, decide_eq_true_eq, or_assoc]

theorem IsName.append {stem more : String} (h : IsName stem) (hmore : IsName more) :
    IsName (stem ++ more) := by
  refine ⟨by simp [h.1], fun c hc => ?_⟩
  rw [String.toList_append, List.mem_append] at hc
  exact hc.elim (h.2 c) (hmore.2 c)

theorem isDigit_of_mem_toString {number : Nat} {c : Char} (h : c ∈ (toString number).toList) :
    c.isDigit = true := by
  refine Nat.isDigit_of_mem_toDigits (b := 10) (n := number) (by decide) (by decide) ?_
  simpa using h

theorem isName_toString (number : Nat) : IsName (toString number) := by
  refine ⟨Nat.repr_ne_empty, fun c hc => ?_⟩
  simp [isNameChar, Char.isAlphanum, isDigit_of_mem_toString hc]

/-- The name made from a path is one, whatever the path is. -/
theorem isName_bindName (path : String) : IsName (bindName path) := by
  have hchars : ∀ c ∈ bindStem path.toList, isNameChar c = true := by
    intro c hc
    unfold bindStem at hc
    split at hc
    · obtain rfl := List.mem_singleton.1 hc
      decide
    next stem =>
      obtain ⟨d, -, rfl⟩ := List.mem_map.1 (List.dropWhile_subset _ hc)
      split
      next hname => exact hname
      next => decide
  have hne : bindStem path.toList ≠ [] := by
    unfold bindStem
    split
    · exact List.cons_ne_nil _ _
    next hstem => exact hstem
  constructor
  · intro h
    rw [bindName, ← String.toList_eq_nil_iff, String.toList_ofList] at h
    exact hne h
  · intro c hc
    rw [bindName, String.toList_ofList] at hc
    exact hchars c hc

/-! ## Tests -/

namespace Test

/-- The parameters that a test names, in the order of its text. -/
def parameters : Test → List String
  | equal property value | equalLower property value => [property, value]
  | like property pattern => [property, pattern]
  | isNull property | notNull property => [property]
  | keyIs key | keyIsNot key => [key]

/-- Whether all parameters of a test are names. -/
def Named (t : Test) : Prop := ∀ name ∈ t.parameters, IsName name

instance (t : Test) : Decidable t.Named :=
  inferInstanceAs (Decidable (∀ name ∈ t.parameters, IsName name))

theorem placeholders_text (t : Test) (h : t.Named) : placeholders t.text = t.parameters := by
  cases t with
  | equal property value =>
      have hp := h property (by simp [parameters])
      have hv := h value (by simp [parameters])
      simp [placeholders, text, parameters, mentions_sign hp, mentions_sign_last hv, isNameChar]
  | equalLower property value =>
      have hp := h property (by simp [parameters])
      have hv := h value (by simp [parameters])
      simp [placeholders, text, parameters, mentions_sign hp, mentions_sign_last hv, isNameChar]
  | like property pattern =>
      have hp := h property (by simp [parameters])
      have hq := h pattern (by simp [parameters])
      simp [placeholders, text, parameters, mentions_sign hp, mentions_sign hq, isNameChar]
  | isNull property =>
      have hp := h property (by simp [parameters])
      simp [placeholders, text, parameters, mentions_sign hp, isNameChar]
  | notNull property =>
      have hp := h property (by simp [parameters])
      simp [placeholders, text, parameters, mentions_sign hp, isNameChar]
  | keyIs key =>
      have hk := h key (by simp [parameters])
      simp [placeholders, text, parameters, mentions_sign_last hk]
  | keyIsNot key =>
      have hk := h key (by simp [parameters])
      simp [placeholders, text, parameters, mentions_sign_last hk]

end Test

/-! ## Conditions -/

namespace Condition

mutual

/-- The parameters that a condition names; those of a text are its placeholders. -/
def parameters : Condition → List String
  | test t => t.parameters
  | written s => placeholders s
  | joined _ parts => parametersOf parts
  | group c => parameters c
termination_by structural c => c

/-- The parameters that several conditions name. -/
def parametersOf : List Condition → List String
  | [] => []
  | c :: rest => parameters c ++ parametersOf rest
termination_by structural cs => cs

end

mutual

/-- Whether all parameters of the tests of a condition are names. -/
def Named : Condition → Prop
  | test t => t.Named
  | written _ => True
  | joined _ parts => AllNamed parts
  | group c => Named c
termination_by structural c => c

/-- Whether all parameters of the tests of several conditions are names. -/
def AllNamed : List Condition → Prop
  | [] => True
  | c :: rest => Named c ∧ AllNamed rest
termination_by structural cs => cs

end

theorem parametersOf_eq_flatMap (cs : List Condition) :
    parametersOf cs = cs.flatMap parameters := by
  induction cs with
  | nil => rfl
  | cons c rest ih => rw [parametersOf, ih, List.flatMap_cons]

theorem allNamed_iff {cs : List Condition} : AllNamed cs ↔ ∀ c ∈ cs, Named c := by
  induction cs with
  | nil => simp [AllNamed]
  | cons c rest ih => rw [AllNamed, ih, List.forall_mem_cons]

theorem mentions_operator (j : Join) (cs rest : List Char) :
    mentions false (cs ++ ((" " ++ j.operator ++ " ").toList ++ rest)) =
      mentions false cs ++ mentions false rest := by
  have hoperator : (" " ++ j.operator ++ " ").toList ++ rest =
      ' ' :: (j.operator.toList ++ ' ' :: rest) := by simp
  rw [hoperator, mentions_append _ (by simp [isNameChar])]
  cases j <;> simp [Join.operator]

mutual

/-- The placeholders of the text of a condition are the parameters that it names. -/
theorem placeholders_text : ∀ c : Condition, c.Named → placeholders c.text = c.parameters
  | test t, h => t.placeholders_text h
  | written _, _ => rfl
  | joined j parts, h => placeholders_texts j parts h
  | group c, h => by
      have hinner := placeholders_text c h
      have htext : (group c).text.toList = '(' :: ' ' :: (c.text.toList ++ [' ', ')']) := by
        simp [text]
      rw [placeholders, htext, mentions_cons_of_ne (by decide), mentions_cons_of_ne (by decide),
        mentions_append _ (by simp [isNameChar]), ← placeholders, hinner]
      simp [parameters]
termination_by structural c => c

/-- So it is for several conditions with an operator between them. -/
theorem placeholders_texts (j : Join) : ∀ cs : List Condition, AllNamed cs →
    placeholders ((" " ++ j.operator ++ " ").intercalate (texts cs)) = parametersOf cs
  | [], _ => rfl
  | [c], h => by
      have hc := placeholders_text c h.1
      simpa [texts, parametersOf] using hc
  | c :: d :: rest, h => by
      have hc := placeholders_text c h.1
      have hrest := placeholders_texts j (d :: rest) h.2
      rw [placeholders, texts, texts, String.intercalate_cons_cons, String.toList_append,
        String.toList_append, List.append_assoc, mentions_operator, ← texts, ← placeholders,
        ← placeholders, hc, hrest]
      rfl
termination_by structural cs => cs

end

end Condition

/-! ## Statements -/

/-- The parameters of a changed list. -/
def ListChange.parameters : ListChange → List String
  | push | append => ["property", "value", "unique"]
  | remove => ["property", "value"]

/-- The parameters of the parts of a path, numbered from a number on. -/
def fieldParameters (number depth : Nat) : List String :=
  (List.range' number depth).map fieldParameter

/-- The parameters that an action names. -/
def Action.parameters : Action → List String
  | documents | keys => []
  | update => ["data", "@collection"]
  | remove => ["@collection"]
  | patch => ["patch", "@collection", "property"]
  | changeList change depth =>
      fieldParameters 1 depth ++ change.parameters ++ ["@collection", "property"]

namespace Statement

/-- The parameters that a statement names. -/
def parameters (s : Statement) : List String :=
  "@collection" :: s.filters.flatMap Condition.parameters ++ s.action.parameters

/-- Whether a statement names parameters only where its structure does. -/
def Named (s : Statement) : Prop :=
  (∀ c ∈ s.filters, c.Named) ∧ ∀ k ∈ s.sort, '@' ∉ k.property.toList

end Statement

theorem placeholders_nestedText {value : String} {names : List String}
    (h : placeholders value = names) (number depth : Nat) :
    placeholders (nestedText value number depth) = fieldParameters number depth ++ names := by
  induction depth generalizing number with
  | zero => exact h
  | succ depth ih =>
      have hfield : IsName (fieldParameter number) :=
        (show IsName "field_" by decide).append (isName_toString number)
      have htext : (nestedText value number (depth + 1)).toList =
          ("\x7b [ ".toList ++ '@' :: ((fieldParameter number).toList ++ " ]: ".toList)) ++
            ((nestedText value (number + 1) depth).toList ++ " \x7d".toList) := by
        simp [nestedText]
      rw [placeholders, htext, List.append_assoc, mentions_skip (by decide), List.cons_append,
        List.append_assoc, mentions_sign hfield (by simp [isNameChar]), mentions_skip (by decide),
        mentions_append _ (by simp [isNameChar]), ← placeholders, ih]
      simp [fieldParameters, List.range'_succ]

theorem ListChange.placeholders_text (change : ListChange) :
    placeholders change.text = change.parameters := by
  cases change <;> decide

theorem Action.placeholders_text (a : Action) : placeholders a.text = a.parameters := by
  cases a with
  | documents => decide
  | keys => decide
  | update => decide
  | remove => decide
  | patch => decide
  | changeList change depth =>
      have hnested := placeholders_nestedText change.placeholders_text 1 depth
      have htext : (Action.changeList change depth).text =
          "UPDATE d WITH " ++ nestedText change.text 1 depth ++ " IN @@collection " ++
            newValueText := rfl
      have hend : mentions false (" IN @@collection ".toList ++ newValueText.toList) =
          ["@collection", "property"] := by decide
      rw [placeholders, htext, String.toList_append, String.toList_append, String.toList_append,
        List.append_assoc, List.append_assoc, mentions_skip (by decide),
        mentions_append _ (by simp [isNameChar]), ← placeholders, hnested, hend]
      rfl

namespace Statement

theorem mentions_filters {filters : List Condition} (h : ∀ c ∈ filters, c.Named)
    {rest : List Char} (hrest : Apart rest) :
    Apart ((String.join (filters.map filterText)).toList ++ rest) ∧
      mentions false ((String.join (filters.map filterText)).toList ++ rest) =
        filters.flatMap Condition.parameters ++ mentions false rest := by
  induction filters with
  | nil => exact ⟨hrest, rfl⟩
  | cons c filters ih =>
      obtain ⟨hapart, hmentions⟩ := ih fun d hd => h d (List.mem_cons_of_mem c hd)
      have htext : (String.join ((c :: filters).map filterText)).toList ++ rest =
          " FILTER ".toList ++ (c.text.toList ++
            ((String.join (filters.map filterText)).toList ++ rest)) := by
        simp [filterText]
      rw [htext]
      refine ⟨by simp [isNameChar], ?_⟩
      rw [mentions_skip (by decide), mentions_append _ hapart, ← placeholders,
        c.placeholders_text (h c List.mem_cons_self), hmentions, List.flatMap_cons,
        List.append_assoc]

theorem not_mem_sortText {k : SortKey} (h : '@' ∉ k.property.toList) : '@' ∉ k.text.toList := by
  obtain ⟨property, direction⟩ := k
  cases direction with
  | none => simpa [SortKey.text] using h
  | some direction => cases direction <;> simpa [SortKey.text, Direction.text] using h

theorem not_mem_pageText (p : Page) : '@' ∉ p.text.toList := by
  have hnumber (n : Nat) : '@' ∉ (toString n).toList := fun hc =>
    absurd (isDigit_of_mem_toString hc) (by decide)
  obtain ⟨skipped, taken⟩ := p
  cases skipped with
  | none => simpa [Page.text] using hnumber taken
  | some n =>
      have hboth := And.intro (hnumber n) (hnumber taken)
      simpa [Page.text] using hboth

/-- The order and the page that a statement writes. -/
def frame (s : Statement) : List Char :=
  ((s.sort.map SortKey.text).getD "").toList ++ ((s.page.map Page.text).getD "").toList

theorem not_mem_frame {s : Statement} (h : s.Named) : '@' ∉ s.frame := by
  rw [frame, List.mem_append, not_or]
  constructor
  · cases hsort : s.sort with
    | none => simp
    | some k => exact not_mem_sortText (h.2 k hsort)
  · cases s.page with
    | none => simp
    | some p => exact not_mem_pageText p

theorem apart_frame (s : Statement) (rest : List Char) : Apart (s.frame ++ ' ' :: rest) := by
  unfold frame
  cases s.sort with
  | some k => simp [SortKey.text, isNameChar]
  | none =>
      cases s.page with
      | none => simp [isNameChar]
      | some p => cases hp : p.skipped <;> simp [Page.text, hp, isNameChar]

theorem text_toList (s : Statement) :
    s.text.toList = "FOR d IN @@collection".toList ++
      ((String.join (s.filters.map filterText)).toList ++
        (s.frame ++ (" ".toList ++ s.action.text.toList))) := by
  have htext : s.text = "FOR d IN @@collection" ++ String.join (s.filters.map filterText) ++
      (s.sort.map SortKey.text).getD "" ++ (s.page.map Page.text).getD "" ++ " " ++
        s.action.text := rfl
  simp only [htext, frame, String.toList_append, List.append_assoc]

/-- The placeholders of the text of a statement are the parameters that it names. -/
theorem placeholders_text (s : Statement) (h : s.Named) : placeholders s.text = s.parameters := by
  have hcollection : mentions false "FOR d IN @@collection".toList = ["@collection"] := by decide
  have hspace : " ".toList ++ s.action.text.toList = ' ' :: s.action.text.toList := rfl
  obtain ⟨hapart, hfilters⟩ := mentions_filters h.1 (apart_frame s s.action.text.toList)
  rw [placeholders, s.text_toList, hspace, mentions_append _ hapart, hcollection, hfilters,
    mentions_skip (not_mem_frame h), mentions_cons_of_ne (by decide), ← placeholders,
    s.action.placeholders_text]
  rfl

end Statement

end DocQuery
