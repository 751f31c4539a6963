import DocQuery.Proofs.Resolution
import Mathlib

/-!
# Reading the parts of a statement

A statement is a row of parts, each of which begins with a keyword: where the documents
come from, filters, the order, the page, the action.  `parts` cuts a text in front of every
keyword that stands behind white space and outside of all brackets and quotations.  The
filters are the parts that begin with `FILTER`, without that word (`filtersOf`).

Everything about cutting follows from one equation: an `Unbroken` text in front of white
space and a keyword is a part, and the cutting goes on behind it (`parts_append`).  A text
that a keyword must not cut is `Sheltered`; tests and brackets are, and so is what an
operator joins of them.

Main result: the filters read off the text of a statement are the texts of its conditions
(`Statement.filtersOf_text`).  What follows them has no part in that, whatever it is.
-/

namespace DocQuery

/-! ## Cutting -/

/-- The words that begin a part of a statement. -/
def keywords : List String :=
  ["FOR", "FILTER", "SEARCH", "LET", "COLLECT", "WINDOW", "SORT", "LIMIT", "RETURN", "INSERT",
    "UPDATE", "REPLACE", "REMOVE", "UPSERT"]

/-- The word that a text begins with; the case of letters does not count. -/
def firstWord (cs : List Char) : String :=
  String.ofList ((cs.takeWhile isNameChar).map Char.toUpper)

/-- Whether a text begins with a keyword. -/
def Opens (cs : List Char) : Prop := firstWord cs ∈ keywords

instance (cs : List Char) : Decidable (Opens cs) := inferInstanceAs (Decidable (_ ∈ _))

/-- Puts a character in front of the first part. -/
def consPart (c : Char) : List (List Char) → List (List Char)
  | [] => [[c]]
  | part :: rest => (c :: part) :: rest

/-- Cuts a text at uncovered white space in front of a keyword.  A closing bracket that
closes nothing covers nothing. -/
def parts : Cover → List Char → List (List Char)
  | _, [] => [[]]
  | k, c :: rest =>
      if k = [] ∧ isSpace c = true ∧ Opens rest then [] :: parts [] rest
      else consPart c (parts ((k.step c).getD k) rest)

/-- The condition of a part that is a filter. -/
def filterOf? (part : List Char) : Option (List Char) :=
  if firstWord part = "FILTER" then some (Text.trim (part.dropWhile isNameChar)) else none

/-- The conditions of the filters of a statement. -/
def filtersOf (cs : List Char) : List (List Char) := (parts [] cs).filterMap filterOf?

/-- A text without uncovered white space in front of a keyword. -/
def Unbroken : Cover → List Char → Prop
  | _, [] => True
  | k, c :: rest =>
      ¬ (k = [] ∧ isSpace c = true ∧ Opens rest) ∧ Unbroken ((k.step c).getD k) rest

instance decidableUnbroken : (k : Cover) → (cs : List Char) → Decidable (Unbroken k cs)
  | _, [] => .isTrue trivial
  | k, c :: rest =>
      @instDecidableAnd _ _ inferInstance (decidableUnbroken ((k.step c).getD k) rest)

theorem opens_append {bs : List Char} (h : Apart bs) (as : List Char) :
    Opens (as ++ bs) ↔ Opens as := by
  rw [Opens, Opens, firstWord, firstWord, takeWhile_append_apart as h]

theorem not_opens_cons {c : Char} (h : isNameChar c = false) (rest : List Char) :
    ¬ Opens (c :: rest) := by
  rw [Opens, firstWord, List.takeWhile_cons_of_neg (by simp [h])]
  decide

theorem apart_cons_of_isSpace {c : Char} (h : isSpace c = true) (cs : List Char) :
    Apart (c :: cs) := apart_cons.2 (apart_of_isSpace h)

theorem parts_cons {k k' : Cover} {c : Char} {rest : List Char}
    (h : ¬ (k = [] ∧ isSpace c = true ∧ Opens rest)) (hstep : k.step c = some k') :
    parts k (c :: rest) = consPart c (parts k' rest) := by
  rw [parts, if_neg h, hstep, Option.getD_some]

/-- A text in front of white space and a keyword is a part. -/
theorem parts_append {k : Cover} {as : List Char} (h : Unbroken k as)
    (hrun : k.run as = some []) {c : Char} (hc : isSpace c = true) {bs : List Char}
    (hbs : Opens bs) : parts k (as ++ c :: bs) = as :: parts [] bs := by
  induction as generalizing k with
  | nil =>
      obtain rfl : k = [] := by simpa [Cover.run] using hrun
      rw [List.nil_append, parts, if_pos ⟨rfl, hc, hbs⟩]
  | cons d as ih =>
      obtain ⟨hwhole, hrest⟩ := h
      obtain ⟨k', hstep, hrun'⟩ := Option.bind_eq_some_iff.1 hrun
      have hsame := opens_append (apart_cons_of_isSpace hc bs) as
      rw [hstep, Option.getD_some] at hrest
      rw [List.cons_append, parts_cons (by rwa [hsame]) hstep, ih hrest hrun']
      rfl

/-! ## Unbroken texts -/

theorem Unbroken.append {k k' : Cover} {as bs : List Char} (h : Unbroken k as)
    (hrun : k.run as = some k') (hbs : Unbroken k' bs) (hapart : Apart bs) :
    Unbroken k (as ++ bs) := by
  induction as generalizing k with
  | nil =>
      obtain rfl : k = k' := by simpa [Cover.run] using hrun
      exact hbs
  | cons c as ih =>
      obtain ⟨hwhole, hrest⟩ := h
      obtain ⟨middle, hstep, hrun'⟩ := Option.bind_eq_some_iff.1 hrun
      rw [hstep, Option.getD_some] at hrest
      rw [List.cons_append, Unbroken, opens_append hapart as, hstep, Option.getD_some]
      exact ⟨hwhole, ih hrest hrun'⟩

/-- Where something is open nothing is cut. -/
theorem unbroken_covered {k k' base : Cover} {cs : List Char} (h : k.run cs = some k')
    (hbase : Cover.Bracketed base) : Unbroken (k ++ base) cs := by
  induction cs generalizing k with
  | nil => trivial
  | cons c rest ih =>
      obtain ⟨middle, hstep, hrest⟩ := Option.bind_eq_some_iff.1 h
      refine ⟨?_, ?_⟩
      · rintro ⟨hnil, -, -⟩
        obtain ⟨b, outside, rfl⟩ := hbase
        simp at hnil
      · rw [Cover.step_append hstep hbase, Option.getD_some]
        exact ih hrest

/-- Without white space nothing is cut. -/
theorem unbroken_of_solid {cs : List Char} (h : ∀ c ∈ cs, isSpace c = false) (k : Cover) :
    Unbroken k cs := by
  induction cs generalizing k with
  | nil => trivial
  | cons c rest ih =>
      obtain ⟨hc, hrest⟩ := List.forall_mem_cons.1 h
      refine ⟨?_, ih hrest _⟩
      rintro ⟨-, hspace, -⟩
      rw [hc] at hspace
      cases hspace

theorem unbroken_brackets {cs : List Char} (h : Cover.run [] cs = some []) :
    Unbroken [] ('(' :: cs ++ [')']) := by
  have hbase : Cover.Bracketed [.bracket .round] := ⟨.round, [], rfl⟩
  have hinner := unbroken_covered h hbase
  have hrun := Cover.run_above h hbase
  refine ⟨fun hspace => ?_, ?_⟩
  · have hnot := hspace.2.1
    revert hnot
    decide
  · exact hinner.append hrun (by decide) (by simp [isNameChar])

/-- A text that a statement can hold in one piece. -/
structure Sheltered (cs : List Char) : Prop where
  /-- No keyword cuts it. -/
  unbroken : Unbroken [] cs
  /-- All that it opens is closed. -/
  closed : Cover.run [] cs = some []
  /-- It is no keyword itself. -/
  not_opens : ¬ Opens cs
  /-- No white space is around it. -/
  trim_eq : Text.trim cs = cs
  /-- It is there. -/
  ne_nil : cs ≠ []

theorem Sheltered.of_atomic {cs : List Char} (h : Formula.Atomic cs) (hunbroken : Unbroken [] cs)
    (hopens : ¬ Opens cs) : Sheltered cs := by
  obtain ⟨s, hs, hlast⟩ := Option.map_eq_some_iff.1 h.operands
  refine ⟨hunbroken, Cover.run_of_outer hs, hopens, ?_, h.ne_nil⟩
  cases s with
  | more clause j rest => cases hlast
  | last clause =>
      have htext := Cover.text_outer hs
      rw [Split.text] at htext
      rw [Split.map, Split.last.injEq] at hlast
      rwa [htext] at hlast

/-! ## Tests and brackets are sheltered -/

/-- Something without white space is compared with a parameter. -/
theorem unbroken_compared {side : List Char} (hside : ∀ c ∈ side, isSpace c = false)
    (hrun : Cover.run [] side = some []) {value : String} (hvalue : IsName value)
    (operator : String) (hoperator : operator ∈ ["==", "!="]) :
    Unbroken [] (side ++ (' ' :: operator.toList ++ ' ' :: '@' :: value.toList)) := by
  have hsolid : ∀ c ∈ '@' :: value.toList, isSpace c = false :=
    List.forall_mem_cons.2 ⟨by decide, isSpace_eq_false hvalue⟩
  have hlast : Unbroken [] (' ' :: '@' :: value.toList) :=
    ⟨fun h => not_opens_cons (by decide) _ h.2.2, unbroken_of_solid hsolid _⟩
  refine (unbroken_of_solid hside []).append hrun ?_ (by simp [isNameChar])
  simp only [List.mem_cons, List.not_mem_nil, or_false] at hoperator
  obtain rfl | rfl := hoperator
  · have hequal : Unbroken [] " ==".toList := by decide
    exact hequal.append (by decide) hlast (by simp [isNameChar])
  · have hdiffer : Unbroken [] " !=".toList := by decide
    exact hdiffer.append (by decide) hlast (by simp [isNameChar])

theorem isSpace_of_all {cs : List Char} (h : (cs.all fun c => isSpace c = false) = true) :
    ∀ c ∈ cs, isSpace c = false := List.all_iff_forall_prop.1 h

theorem isSpace_append {as bs : List Char} (ha : ∀ c ∈ as, isSpace c = false)
    (hb : ∀ c ∈ bs, isSpace c = false) : ∀ c ∈ as ++ bs, isSpace c = false :=
  List.forall_mem_append.2 ⟨ha, hb⟩

/-- The property that a test names. -/
theorem unbroken_property {name : String} (h : IsName name) :
    (∀ c ∈ "d.@".toList ++ name.toList, isSpace c = false) ∧
      Cover.run [] ("d.@".toList ++ name.toList) = some [] :=
  ⟨isSpace_append (isSpace_of_all (by decide)) (isSpace_eq_false h), Cover.run_of_outer
    (Cover.outer_plain (Cover.plain_append (Cover.plain_of_all (by decide))
      (Cover.plain_of_isName h)))⟩

namespace Test

theorem not_opens_text (t : Test) : ¬ Opens t.text.toList := by
  have hd (rest : List Char) : ¬ Opens ("d".toList ++ '.' :: rest) :=
    (opens_append (by simp [isNameChar]) _).not.2 (by decide)
  have hlower (rest : List Char) : ¬ Opens ("LOWER".toList ++ '(' :: rest) :=
    (opens_append (by simp [isNameChar]) _).not.2 (by decide)
  have hlike (rest : List Char) : ¬ Opens ("LIKE".toList ++ '(' :: rest) :=
    (opens_append (by simp [isNameChar]) _).not.2 (by decide)
  cases t with
  | equal property value => simpa [text] using hd _
  | equalLower property value => simpa [text] using hlower _
  | like property pattern => simpa [text] using hlike _
  | isNull property => simpa [text] using hd _
  | notNull property => simpa [text] using hd _
  | keyIs key => simpa [text] using hd _
  | keyIsNot key => simpa [text] using hd _

theorem unbroken_text (t : Test) (h : t.Named) : Unbroken [] t.text.toList := by
  have hkey : ∀ c ∈ "d._key".toList, isSpace c = false := isSpace_of_all (by decide)
  have hd : ∀ c ∈ "d.@".toList, Cover.Plain c := Cover.plain_of_all (by decide)
  cases t with
  | equal property value =>
      obtain ⟨hside, hrun⟩ := unbroken_property (h property (by simp [parameters]))
      have hcompared := unbroken_compared hside hrun (h value (by simp [parameters])) "==" (by simp)
      simpa [text] using hcompared
  | equalLower property value =>
      have hp := h property (by simp [parameters])
      have hside : ∀ c ∈ "LOWER(d.@".toList ++ property.toList ++ [')'], isSpace c = false :=
        isSpace_append (isSpace_append (isSpace_of_all (by decide)) (isSpace_eq_false hp))
          (isSpace_of_all (by decide))
      have hinside : ∀ c ∈ "d.@".toList ++ property.toList, Cover.Plain c :=
        Cover.plain_append hd (Cover.plain_of_isName hp)
      have hcallee : ∀ c ∈ "LOWER".toList, Cover.Plain c := Cover.plain_of_all (by decide)
      have hrun := Cover.run_of_outer (Cover.outer_call hcallee hinside (List.forall_mem_nil _))
      have hcompared := unbroken_compared hside (by simpa using hrun)
        (h value (by simp [parameters])) "==" (by simp)
      simpa [text] using hcompared
  | like property pattern =>
      have hp := Cover.plain_of_isName (h property (by simp [parameters]))
      have hq := Cover.plain_of_isName (h pattern (by simp [parameters]))
      have hinside : ∀ c ∈ "d.@".toList ++ property.toList ++ ", @".toList ++ pattern.toList ++
          ", true".toList, Cover.Plain c :=
        Cover.plain_append (Cover.plain_append (Cover.plain_append (Cover.plain_append hd hp)
          (Cover.plain_of_all (by decide))) hq) (Cover.plain_of_all (by decide))
      have hcall : Unbroken [] ("LIKE".toList ++ _) :=
        Unbroken.append (by decide) (by decide)
          (unbroken_brackets (Cover.run_of_outer (Cover.outer_plain hinside)))
          (by simp [isNameChar])
      simpa [text] using hcall
  | isNull property =>
      obtain ⟨hside, hrun⟩ := unbroken_property (h property (by simp [parameters]))
      have hnull := (unbroken_of_solid hside []).append hrun
        (show Unbroken [] " == null".toList by decide) (by simp [isNameChar])
      simpa [text] using hnull
  | notNull property =>
      obtain ⟨hside, hrun⟩ := unbroken_property (h property (by simp [parameters]))
      have hnull := (unbroken_of_solid hside []).append hrun
        (show Unbroken [] " != null".toList by decide) (by simp [isNameChar])
      simpa [text] using hnull
  | keyIs key =>
      have hcompared := unbroken_compared hkey (by decide) (h key (by simp [parameters])) "=="
        (by simp)
      simpa [text] using hcompared
  | keyIsNot key =>
      have hcompared := unbroken_compared hkey (by decide) (h key (by simp [parameters])) "!="
        (by simp)
      simpa [text] using hcompared

end Test

/-- What a test or something in brackets is written as is sheltered. -/
theorem Condition.Piece.sheltered {c : Condition} : Piece c → Sheltered c.text.toList
  | .test (t := t) h => .of_atomic (t.atomic_text h) (t.unbroken_text h) t.not_opens_text
  | .group (c := c) h => by
      have hrun := Formula.run_of_wellFormed (Formula.wellFormed_spaced (truth_text c h).1)
      have houter := Cover.outer_brackets hrun
      have hoperands := Formula.operands_brackets hrun
      rw [Formula.operands, houter, Option.map_some, Option.some.injEq, Split.map,
        Split.last.injEq] at hoperands
      rw [toList_text_group]
      exact ⟨unbroken_brackets hrun, Cover.run_of_outer houter, not_opens_cons (by decide) _,
        hoperands, List.cons_ne_nil _ _⟩

/-! ## Operators -/

theorem Sheltered.append {as bs : List Char} (ha : Sheltered as) (hb : Sheltered bs) (j : Join) :
    Sheltered (as ++ ' ' :: j.chars ++ ' ' :: bs) := by
  have hspace : Unbroken [] (' ' :: bs) := ⟨fun h => hb.not_opens h.2.2, hb.unbroken⟩
  have hoperator : Unbroken [] (' ' :: j.chars) ∧ Cover.run [] (' ' :: j.chars) = some [] := by
    cases j <;> decide
  have happly (cs : List Char) : Apart (' ' :: cs) := apart_cons_of_isSpace (by decide) cs
  have hstart := Text.solidStart_trim as
  have hend := Text.solidEnd_trim bs
  rw [ha.trim_eq] at hstart
  rw [hb.trim_eq] at hend
  rw [List.append_assoc]
  refine ⟨?_, ?_, ?_, ?_, by simp [ha.ne_nil]⟩
  · exact ha.unbroken.append ha.closed
      (hoperator.1.append hoperator.2 hspace (happly bs)) (happly _)
  · rw [Cover.run_append, ha.closed, Option.bind_some, Cover.run_append, hoperator.2,
      Option.bind_some]
    exact hb.closed
  · rw [List.cons_append, opens_append (happly _)]
    exact ha.not_opens
  · refine Text.trim_eq_self (hstart.append ha.ne_nil _) ?_
    rw [List.append_cons, ← List.append_assoc]
    exact hend.append hb.ne_nil _

theorem Join.sheltered_between (j : Join) : ∀ {texts : List (List Char)}, texts ≠ [] →
    (∀ cs ∈ texts, Sheltered cs) → Sheltered (j.between texts)
  | [], hne, _ => absurd rfl hne
  | [cs], _, h => by
      have hsame : j.between [cs] = cs := List.intercalate_singleton
      rw [hsame]
      exact h cs List.mem_cons_self
  | cs :: ds :: rest, _, h => by
      obtain ⟨hcs, hrest⟩ := List.forall_mem_cons.1 h
      rw [between_cons_cons]
      exact hcs.append (sheltered_between j (List.cons_ne_nil ds rest) hrest) j

theorem Condition.sheltered_joined {parts : List Condition} (hne : parts ≠ [])
    (h : ∀ c ∈ parts, Piece c) (j : Join) : Sheltered (joined j parts).text.toList := by
  rw [toList_text_joined]
  refine j.sheltered_between (by simpa using hne) fun cs hcs => ?_
  obtain ⟨c, hc, rfl⟩ := List.mem_map.1 hcs
  exact (h c hc).sheltered

/-! ## Statements -/

theorem filterOf?_filter {cs : List Char} (h : Text.trim cs = cs) :
    filterOf? ("FILTER".toList ++ ' ' :: cs) = some cs := by
  have hspace : Apart (' ' :: cs) := apart_cons_of_isSpace (by decide) cs
  have hword : firstWord ("FILTER".toList ++ ' ' :: cs) = "FILTER" := by
    rw [firstWord, takeWhile_append_apart _ hspace]
    decide
  have hbehind : ("FILTER".toList ++ ' ' :: cs).dropWhile isNameChar = ' ' :: cs := by
    simp [isNameChar]
  rw [filterOf?, if_pos hword, hbehind, Text.trim_cons_space (by decide), h]

theorem filtersOf_cons_space {c : Char} (h : isSpace c = true) {cs : List Char} (hcs : Opens cs) :
    filtersOf (c :: cs) = filtersOf cs := by
  rw [filtersOf, parts, if_pos ⟨rfl, h, hcs⟩, List.filterMap_cons_none rfl, filtersOf]

namespace Statement

/-- What a statement writes behind its filters. -/
def ending (s : Statement) : List Char := s.frame ++ ' ' :: s.action.text.toList

theorem opens_keyword {keyword : String} (h : keyword ∈ keywords) (rest : List Char) :
    Opens (keyword.toList ++ ' ' :: rest) := by
  refine (opens_append (apart_cons_of_isSpace (by decide) rest) _).2 ?_
  revert keyword
  decide

theorem opens_of_prefix (keyword : String) (h : keyword ∈ keywords) {cs : List Char}
    (hcs : keyword.toList ++ [' '] <+: cs) : Opens cs := by
  obtain ⟨rest, rfl⟩ := hcs
  rw [← List.append_cons]
  exact opens_keyword h rest

theorem opens_action (a : Action) : Opens a.text.toList := by
  cases a with
  | documents => exact opens_of_prefix "RETURN" (by decide) (by decide)
  | keys => exact opens_of_prefix "RETURN" (by decide) (by decide)
  | update => exact opens_of_prefix "UPDATE" (by decide) (by decide)
  | remove => exact opens_of_prefix "REMOVE" (by decide) (by decide)
  | patch => exact opens_of_prefix "UPDATE" (by decide) (by decide)
  | changeList change depth =>
      have htext : (Action.changeList change depth).text =
          "UPDATE d WITH " ++ nestedText change.text 1 depth ++ " IN @@collection " ++
            newValueText := rfl
      have hstart : "UPDATE".toList ++ [' '] <+: "UPDATE d WITH ".toList := by decide
      rw [htext, String.toList_append, String.toList_append, String.toList_append,
        List.append_assoc, List.append_assoc]
      exact opens_of_prefix "UPDATE" (by decide) (hstart.trans (List.prefix_append _ _))

/-- Behind the filters comes white space and a keyword. -/
theorem ending_eq (s : Statement) : ∃ rest, s.ending = ' ' :: rest ∧ Opens rest := by
  have hsort (k : SortKey) :
      k.text.toList = ' ' :: ("SORT".toList ++ ' ' :: k.text.toList.drop 6) := by
    simp [SortKey.text]
  have hpage (p : Page) :
      p.text.toList = ' ' :: ("LIMIT".toList ++ ' ' :: p.text.toList.drop 7) := by
    cases hskipped : p.skipped <;> simp [Page.text, hskipped]
  unfold ending frame
  cases s.sort with
  | some k =>
      rw [Option.map_some, Option.getD_some, hsort]
      simp only [List.cons_append, List.append_assoc]
      exact ⟨_, rfl, opens_keyword (by decide) _⟩
  | none =>
      cases s.page with
      | some p =>
          rw [Option.map_some, Option.getD_some, hpage]
          simp only [Option.map_none, Option.getD_none, String.toList_empty, List.nil_append,
            List.cons_append, List.append_assoc]
          exact ⟨_, rfl, opens_keyword (by decide) _⟩
      | none => exact ⟨_, rfl, opens_action s.action⟩

theorem text_eq_ending (s : Statement) :
    s.text.toList = "FOR d IN @@collection".toList ++
      ((String.join (s.filters.map filterText)).toList ++ s.ending) := by
  rw [text_toList, ending]
  rfl

/-- The parts of a statement are where the documents come from, the filters, and what
the rest of the text holds. -/
theorem parts_filters {filters : List Condition} (h : ∀ c ∈ filters, Sheltered c.text.toList)
    {rest : List Char} (hrest : Opens rest) {first : List Char} (hfirst : Unbroken [] first)
    (hrun : Cover.run [] first = some []) :
    parts [] (first ++ ((String.join (filters.map filterText)).toList ++ ' ' :: rest)) =
      first :: filters.map (fun c => "FILTER".toList ++ ' ' :: c.text.toList) ++
        parts [] rest := by
  induction filters generalizing first with
  | nil => exact parts_append hfirst hrun (by decide) hrest
  | cons c filters ih =>
      obtain ⟨hc, hothers⟩ := List.forall_mem_cons.1 h
      have hkeyword (cs : List Char) : Opens ("FILTER".toList ++ ' ' :: cs) :=
        opens_keyword (by decide) cs
      have htext : (String.join ((c :: filters).map filterText)).toList ++ ' ' :: rest =
          ' ' :: ("FILTER".toList ++ ' ' :: c.text.toList ++
            ((String.join (filters.map filterText)).toList ++ ' ' :: rest)) := by
        simp [filterText]
      have hspace : Unbroken [] (' ' :: c.text.toList) :=
        ⟨fun hopens => hc.not_opens hopens.2.2, hc.unbroken⟩
      have hpart : Unbroken [] ("FILTER".toList ++ ' ' :: c.text.toList) :=
        Unbroken.append (by decide) (by decide) hspace (apart_cons_of_isSpace (by decide) _)
      have hclosed : Cover.run [] ("FILTER".toList ++ ' ' :: c.text.toList) = some [] := by
        rw [Cover.run_append, show Cover.run [] "FILTER".toList = some [] by decide,
          Option.bind_some]
        exact hc.closed
      rw [htext, parts_append hfirst hrun (by decide) ?_, ih hothers hpart hclosed]
      · rfl
      · rw [List.append_assoc]
        exact hkeyword _

/-- The filters of the text of a statement are the texts of its conditions, followed by
those that a caller writes into what comes behind them. -/
theorem filtersOf_text (s : Statement) (h : ∀ c ∈ s.filters, Sheltered c.text.toList) :
    filtersOf s.text.toList = s.filters.map (fun c => c.text.toList) ++ filtersOf s.ending := by
  obtain ⟨rest, hending, hopens⟩ := s.ending_eq
  have hstart : Unbroken [] "FOR d IN @@collection".toList := by decide
  have hparts := parts_filters h hopens hstart (by decide)
  have hfilters : (s.filters.map fun c => "FILTER".toList ++ ' ' :: c.text.toList).filterMap
      filterOf? = s.filters.map fun c => c.text.toList := by
    rw [List.filterMap_map, ← List.filterMap_eq_map]
    exact List.filterMap_congr fun c hc => filterOf?_filter (h c hc).trim_eq
  have hfirst : filterOf? "FOR d IN @@collection".toList = none := by decide
  rw [s.text_eq_ending, hending, filtersOf_cons_space (by decide) hopens, filtersOf, filtersOf,
    hparts, List.filterMap_append, List.filterMap_cons_none hfirst, hfilters]

end Statement

example : filtersOf "FOR d IN c FILTER ( a || b ) FILTER c SORT d.e RETURN d".toList =
    ["( a || b )".toList, "c".toList] := by cbv

/-! ## Order and page hold no filter -/

/-- A text without white space in front of the word `FILTER`. -/
def Filterless : List Char → Prop
  | [] => True
  | c :: rest => (isSpace c = true → firstWord rest ≠ "FILTER") ∧ Filterless rest

instance decidableFilterless : (cs : List Char) → Decidable (Filterless cs)
  | [] => .isTrue trivial
  | _ :: rest => @instDecidableAnd _ _ inferInstance (decidableFilterless rest)

theorem filterless_of_solid {cs : List Char} (h : ∀ c ∈ cs, isSpace c = false) :
    Filterless cs := by
  induction cs with
  | nil => trivial
  | cons c rest ih =>
      obtain ⟨hc, hrest⟩ := List.forall_mem_cons.1 h
      refine ⟨fun hspace => ?_, ih hrest⟩
      rw [hc] at hspace
      cases hspace

theorem Filterless.append {as bs : List Char} (ha : Filterless as) (hb : Filterless bs)
    (hapart : Apart bs) : Filterless (as ++ bs) := by
  induction as with
  | nil => exact hb
  | cons c as ih =>
      rw [List.cons_append, Filterless, firstWord, takeWhile_append_apart as hapart]
      exact ⟨ha.1, ih ha.2⟩

/-- Only the first part of a text without that word can be a filter. -/
theorem parts_of_filterless {k : Cover} {cs : List Char} (h : Filterless cs) :
    ∃ first rest, parts k cs = first :: rest ∧
      first.takeWhile isNameChar = cs.takeWhile isNameChar ∧ ∀ p ∈ rest, filterOf? p = none := by
  induction cs generalizing k with
  | nil => exact ⟨[], [], rfl, rfl, fun p hp => absurd hp List.not_mem_nil⟩
  | cons c cs ih =>
      rw [parts]
      split
      next hcut =>
        obtain ⟨first, rest, hparts, hword, hnone⟩ := ih (k := []) h.2
        refine ⟨[], parts [] cs, rfl, ?_, ?_⟩
        · rw [List.takeWhile_cons_of_neg (by simp [(apart_of_isSpace hcut.2.1).2])]
          rfl
        · rw [hparts]
          refine List.forall_mem_cons.2 ⟨?_, hnone⟩
          rw [filterOf?, firstWord, hword]
          exact if_neg (h.1 hcut.2.1)
      next =>
        obtain ⟨first, rest, hparts, hword, hnone⟩ := ih (k := (k.step c).getD k) h.2
        refine ⟨c :: first, rest, by rw [hparts]; rfl, ?_, hnone⟩
        rw [List.takeWhile_cons, List.takeWhile_cons, hword]

theorem filtersOf_of_filterless {cs : List Char} (h : Filterless cs)
    (hword : firstWord cs ≠ "FILTER") : filtersOf cs = [] := by
  obtain ⟨first, rest, hparts, hfirst, hnone⟩ := parts_of_filterless (k := []) h
  have hnot : filterOf? first = none := by
    rw [filterOf?, firstWord, hfirst]
    exact if_neg hword
  rw [filtersOf, hparts, List.filterMap_cons_none hnot, List.filterMap_eq_nil_iff]
  exact hnone

theorem toUpper_of_isDigit {c : Char} (h : c.isDigit = true) : c.toUpper = c := by
  simp only [Char.isDigit, Bool.and_eq_true, decide_eq_true_eq] at h
  rw [Char.toUpper, dif_neg]
  intro hlower
  exact absurd (UInt32.le_trans hlower.1 h.2) (by decide)

theorem firstWord_number (number : Nat) (rest : List Char) :
    firstWord ((toString number).toList ++ rest) ≠ "FILTER" := by
  obtain ⟨c, cs, hcs⟩ := List.exists_cons_of_ne_nil fun hnil =>
    (isName_toString number).1 (String.toList_eq_nil_iff.1 hnil)
  have hdigit : c.isDigit = true := isDigit_of_mem_toString (hcs ▸ List.mem_cons_self)
  have hname : isNameChar c = true := by simp [isNameChar, Char.isAlphanum, hdigit]
  intro hword
  have hfirst := congrArg (fun s => s.toList.head?) hword
  simp only [hcs, List.cons_append, firstWord, List.takeWhile_cons_of_pos hname, List.map_cons,
    String.toList_ofList, List.head?_cons, toUpper_of_isDigit hdigit] at hfirst
  obtain rfl : c = 'F' := Option.some.inj hfirst
  revert hdigit
  decide

theorem filterless_number (number : Nat) {rest : List Char} (h : Filterless rest)
    (hapart : Apart rest) : Filterless (' ' :: ((toString number).toList ++ rest)) :=
  ⟨fun _ => firstWord_number number rest,
    (filterless_of_solid (isSpace_eq_false (isName_toString number))).append h hapart⟩

namespace Statement

theorem filterless_page (p : Page) : Filterless p.text.toList := by
  have hword : Filterless " LIMIT".toList := by decide
  have hlast : Filterless (' ' :: ((toString p.taken).toList ++ [])) :=
    filterless_number p.taken trivial apart_nil
  cases hskipped : p.skipped with
  | none =>
      have hpage := hword.append hlast (apart_cons_of_isSpace (by decide) _)
      simpa [Page.text, hskipped] using hpage
  | some n =>
      have hcomma : Filterless (',' :: ' ' :: ((toString p.taken).toList ++ [])) :=
        ⟨fun h => absurd h (by decide), hlast⟩
      have hpage := hword.append (filterless_number n hcomma (by simp [isNameChar]))
        (apart_cons_of_isSpace (by decide) _)
      simpa [Page.text, hskipped] using hpage

theorem filterless_sort {k : SortKey} (h : ∀ c ∈ k.property.toList, isSpace c = false) :
    Filterless k.text.toList := by
  have hword : Filterless " SORT".toList := by decide
  have hd : firstWord ("d".toList ++ '.' :: k.property.toList) ≠ "FILTER" := by
    rw [firstWord, takeWhile_append_apart _ (by simp [isNameChar])]
    decide
  have hproperty : Filterless (' ' :: 'd' :: '.' :: k.property.toList) :=
    ⟨fun _ => hd, fun h => absurd h (by decide), fun h => absurd h (by decide),
      filterless_of_solid h⟩
  have hkey := hword.append hproperty (apart_cons_of_isSpace (by decide) _)
  cases hdirection : k.direction with
  | none => simpa [SortKey.text, hdirection] using hkey
  | some direction =>
      have hend : Filterless (' ' :: direction.text.toList) := by
        cases direction <;> decide
      have hsort := hkey.append hend (apart_cons_of_isSpace (by decide) _)
      simpa [SortKey.text, hdirection] using hsort

/-- What a lookup writes behind its filters holds no filter, as long as the sort key is
written without white space. -/
theorem filtersOf_ending {s : Statement} (hread : s.action.writes = false)
    (h : ∀ k ∈ s.sort, ∀ c ∈ k.property.toList, isSpace c = false) :
    filtersOf s.ending = [] := by
  have haction : Filterless (' ' :: s.action.text.toList) := by
    cases haction : s.action with
    | documents => decide
    | keys => decide
    | _ =>
        rw [haction] at hread
        cases hread
  have hspace (cs : List Char) : Apart (' ' :: cs) := apart_cons_of_isSpace (by decide) cs
  have hpage : Filterless (((s.page.map Page.text).getD "").toList ++
      ' ' :: s.action.text.toList) ∧ Apart (((s.page.map Page.text).getD "").toList ++
      ' ' :: s.action.text.toList) := by
    cases s.page with
    | none => exact ⟨haction, hspace _⟩
    | some p =>
        refine ⟨(filterless_page p).append haction (hspace _), ?_⟩
        cases hskipped : p.skipped <;> simp [Page.text, hskipped, isNameChar]
  have hending : Filterless s.ending := by
    rw [ending, frame, List.append_assoc]
    cases hsort : s.sort with
    | none => exact hpage.1
    | some k => exact (filterless_sort (h k hsort)).append hpage.1 hpage.2
  obtain ⟨rest, hrest, -⟩ := s.ending_eq
  refine filtersOf_of_filterless hending ?_
  rw [hrest, firstWord, List.takeWhile_cons_of_neg (by decide)]
  decide

end Statement

/-! ## What a query accepts -/

/-- Whether all filters of a query are true, with the bound values in the places of the
placeholders. -/
def Query.Accepts (q : Query) (I : List Slot → Prop) : Prop :=
  ∀ e ∈ filtersOf q.text.toList, Truth (fun cs => I (resolve q.binds.get? cs)) e

/-- Filters that can be read, and what they say together of a document. -/
structure Says (look : String → Option Value) (filters : List Condition)
    (P : (List Slot → Prop) → Prop) : Prop where
  /-- Each filter can be read. -/
  readable : ∀ c ∈ filters, c.Readable
  /-- No keyword cuts a filter. -/
  sheltered : ∀ c ∈ filters, Sheltered c.text.toList
  /-- They hold exactly when this is so. -/
  holds : ∀ I, (∀ c ∈ filters, c.Holds fun cs => I (resolve look cs)) ↔ P I

namespace Says

variable {look : String → Option Value}

theorem nil : Says look [] fun _ => True :=
  ⟨fun _ hc => absurd hc List.not_mem_nil, fun _ hc => absurd hc List.not_mem_nil, by simp⟩

theorem congr {cs : List Condition} {P Q : (List Slot → Prop) → Prop} (h : Says look cs P)
    (hsame : ∀ I, P I ↔ Q I) : Says look cs Q :=
  ⟨h.readable, h.sheltered, fun I => (h.holds I).trans (hsame I)⟩

theorem piece {c : Condition} (hc : c.Piece) {P : (List Slot → Prop) → Prop}
    (h : ∀ I, c.Holds (fun cs => I (resolve look cs)) ↔ P I) : Says look [c] P :=
  ⟨List.forall_mem_singleton.2 hc.readable, List.forall_mem_singleton.2 hc.sheltered,
    fun I => by rw [List.forall_mem_singleton, h]⟩

theorem joined {parts : List Condition} (hne : parts ≠ []) (hparts : ∀ c ∈ parts, c.Piece)
    {j : Join} {P : (List Slot → Prop) → Prop}
    (h : ∀ I, j.Combines (Condition.Holds fun cs => I (resolve look cs)) parts ↔ P I) :
    Says look [.joined j parts] P :=
  ⟨List.forall_mem_singleton.2 (Condition.readable_joined hne hparts j),
    List.forall_mem_singleton.2 (Condition.sheltered_joined hne hparts j),
    fun I => by rw [List.forall_mem_singleton, Condition.holds_joined, h]⟩

theorem append {cs ds : List Condition} {P Q : (List Slot → Prop) → Prop} (hc : Says look cs P)
    (hd : Says look ds Q) : Says look (cs ++ ds) fun I => P I ∧ Q I :=
  ⟨List.forall_mem_append.2 ⟨hc.readable, hd.readable⟩,
    List.forall_mem_append.2 ⟨hc.sheltered, hd.sheltered⟩,
    fun I => by rw [List.forall_mem_append, hc.holds, hd.holds]⟩

end Says

/-- A query accepts what the filters of its statement say. -/
theorem Statement.accepts_iff {s : Statement} {binds : Fields} {P : (List Slot → Prop) → Prop}
    (h : Says binds.get? s.filters P) (hending : filtersOf s.ending = []) :
    (∀ e ∈ filtersOf (s.query binds).text.toList, WellFormed e) ∧
      ∀ I, (s.query binds).Accepts I ↔ P I := by
  have hfilters : filtersOf (s.query binds).text.toList = s.filters.map fun c => c.text.toList := by
    rw [query, s.filtersOf_text h.sheltered, hending, List.append_nil]
  constructor
  · intro e he
    rw [hfilters] at he
    obtain ⟨c, hc, rfl⟩ := List.mem_map.1 he
    exact (c.truth_text (h.readable c hc)).1
  · intro I
    rw [Query.Accepts, hfilters, List.forall_mem_map, ← h.holds I]
    exact forall₂_congr fun c hc => (c.truth_text (h.readable c hc)).2 _

end DocQuery
