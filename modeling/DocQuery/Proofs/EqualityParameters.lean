import DocQuery.Proofs.ConflictMeaning
import DocQuery.Proofs.LookupMeaning

/-!
# Equalities and their parameters

Each named value of a list is written as an equality of two parameters, which are made from its
path and its number.  Paths are not kept apart by this: `a.b` and `a_b` have one stem, and a stem
may look like a parameter itself.  The parameters are kept apart all the same.

*Reading.*  An equality is three words of a text (`equality?`).  `equalities` reads all equalities
off a text, from left to right, whoever wrote them.  `Reads` says which ones a text begins with, no
matter what follows; spaces put such texts together (`Reads.append`).

*Keeping.*  A query keeps the equalities of a list of named values (`Query.KeepsEqualities`) if
every named value has two parameters that nobody else has, if these are bound to its path and to
the value that is compared, and if they are the ones in its equality.  Lookups by values do, and
checks of uniqueness (`Request.equalities_kept`).
-/

namespace DocQuery

/-! ## Reading equalities off a text -/

/-- The words of a text, between single spaces. -/
def words (cs : List Char) : List (List Char) := Text.splitOn ' ' cs

/-- The name in a word, between an opening and a closing. -/
def nameIn? (opening closing word : List Char) : Option String :=
  let name := (word.drop opening.length).takeWhile isNameChar
  if word = opening ++ name ++ closing ∧ name ≠ [] then some (String.ofList name) else none

/-- The equality that three words are. -/
def equality? (left sign right : List Char) : Option Test :=
  if sign = "==".toList then
    match nameIn? "@".toList [] right, nameIn? "d.@".toList [] left,
        nameIn? "LOWER(d.@".toList ")".toList left with
    | some value, some key, _ => some (.equal key value)
    | some value, none, some key => some (.equalLower key value)
    | _, _, _ => none
  else none

/-- The equalities among some words. -/
def equalitiesIn : List (List Char) → List Test
  | left :: sign :: right :: rest =>
      (equality? left sign right).toList ++ equalitiesIn (sign :: right :: rest)
  | _ => []

/-- The equalities of a text, in order. -/
def equalities (s : String) : List Test := equalitiesIn (words s.toList)

theorem words_append (cs ds : List Char) : words (cs ++ ' ' :: ds) = words cs ++ words ds :=
  Text.splitOn_append ' ' cs ds

theorem words_of_not_mem {cs : List Char} (h : ' ' ∉ cs) : words cs = [cs] :=
  Text.splitOn_of_not_mem h

theorem nameIn?_around {name : String} (h : IsName name) (opening : List Char)
    {closing : List Char} (hclosing : Apart closing) :
    nameIn? opening closing (opening ++ (name.toList ++ closing)) = some name := by
  have hrun : (name.toList ++ closing).takeWhile isNameChar = name.toList := by
    rw [takeWhile_append_apart _ hclosing, List.takeWhile_eq_self_iff]
    exact h.2
  have hne : name.toList ≠ [] := fun hnil => h.1 (String.toList_eq_nil_iff.1 hnil)
  have hname : ((opening ++ (name.toList ++ closing)).drop opening.length).takeWhile isNameChar =
      name.toList := by
    rw [List.drop_left, hrun]
  rw [nameIn?, hname, if_pos ⟨(List.append_assoc ..).symm, hne⟩, String.ofList_toList]

theorem nameIn?_eq_none {opening word : List Char} (h : ¬ opening <+: word)
    (closing : List Char) : nameIn? opening closing word = none := by
  rw [nameIn?, if_neg]
  rintro ⟨hword, -⟩
  apply h
  rw [hword, List.append_assoc]
  exact List.prefix_append _ _

/-- Whether a word can be the left side of an equality. -/
def IsLeft (word : List Char) : Prop := "d.@".toList <+: word ∨ "LOWER(d.@".toList <+: word

instance (word : List Char) : Decidable (IsLeft word) :=
  inferInstanceAs (Decidable (_ ∨ _))

theorem equality?_eq_none {left : List Char} (h : ¬ IsLeft left) (sign right : List Char) :
    equality? left sign right = none := by
  obtain ⟨hplain, hlower⟩ := not_or.1 h
  rw [equality?, nameIn?_eq_none hplain, nameIn?_eq_none hlower]
  split
  · cases nameIn? "@".toList [] right <;> rfl
  · rfl

/-- A word that is no left side is passed over. -/
theorem equalitiesIn_cons {word : List Char} (h : ¬ IsLeft word) (rest : List (List Char)) :
    equalitiesIn (word :: rest) = equalitiesIn rest := by
  cases rest with
  | nil => rfl
  | cons sign rest =>
      cases rest with
      | nil => rfl
      | cons right rest =>
          rw [equalitiesIn, equality?_eq_none h]
          rfl

/-! ## What a text begins with -/

/-- A text begins with some equalities and holds no others, whatever follows it. -/
def Reads (cs : List Char) (ts : List Test) : Prop :=
  ∀ rest, equalitiesIn (words cs ++ rest) = ts ++ equalitiesIn rest

namespace Reads

theorem append {cs ds : List Char} {ts us : List Test} (hc : Reads cs ts) (hd : Reads ds us) :
    Reads (cs ++ ' ' :: ds) (ts ++ us) := by
  intro rest
  rw [words_append, List.append_assoc, hc, hd, List.append_assoc]

/-- Words that are no left sides hold no equality. -/
theorem of_words {cs : List Char} (h : ∀ word ∈ words cs, ¬ IsLeft word) : Reads cs [] := by
  intro rest
  generalize words cs = listed at h
  induction listed with
  | nil => rfl
  | cons word others ih =>
      obtain ⟨hword, hothers⟩ := List.forall_mem_cons.1 h
      rw [List.cons_append, equalitiesIn_cons hword]
      exact ih hothers

theorem group {c : Condition} {ts : List Test} (h : Reads c.text.toList ts) :
    Reads (Condition.group c).text.toList ts := by
  have hopen : Reads ['('] [] := of_words (by decide)
  have hclose : Reads [')'] [] := of_words (by decide)
  have hgroup : (Condition.group c).text.toList =
      ['('] ++ ' ' :: (c.text.toList ++ ' ' :: [')']) := by
    rw [Condition.toList_text_group]
    simp
  rw [hgroup]
  simpa using hopen.append (h.append hclose)

/-- Conditions with an operator between them hold the equalities of all of them, in order. -/
theorem joined (j : Join) {cs : List Condition} {tss : List (List Test)}
    (h : List.Forall₂ (fun c ts => Reads c.text.toList ts) cs tss) (hne : cs ≠ []) :
    Reads (Condition.joined j cs).text.toList tss.flatten := by
  have hoperator : Reads j.chars [] := by
    apply of_words
    cases j <;> decide
  rw [Condition.toList_text_joined]
  induction h with
  | nil => exact absurd rfl hne
  | @cons c ts rest others hc hrest ih =>
      cases hrest with
      | nil =>
          have hone : j.between [c.text.toList] = c.text.toList := List.intercalate_singleton
          rw [List.map_cons, List.map_nil, hone, List.flatten_singleton]
          exact hc
      | cons hd hothers =>
          have hlater := ih (List.cons_ne_nil _ _)
          rw [List.map_cons] at hlater
          rw [List.map_cons, List.map_cons, Join.between_cons_cons, List.flatten_cons]
          simpa using (hc.append hoperator).append hlater

end Reads

/-- A text begins with some equalities; behind them there may be others. -/
def BeginsWith (cs : List Char) (ts : List Test) : Prop :=
  ∀ rest, ts <+: equalitiesIn (words (cs ++ ' ' :: rest))

theorem Reads.beginsWith {cs : List Char} {ts : List Test} (h : Reads cs ts) :
    BeginsWith cs ts := by
  intro rest
  rw [words_append, h]
  exact List.prefix_append _ _

namespace BeginsWith

/-- Whatever stands behind the equalities, the text begins with them. -/
theorem more {cs : List Char} {ts : List Test} (h : BeginsWith cs ts) (ds : List Char) :
    BeginsWith (cs ++ ' ' :: ds) ts := by
  intro rest
  rw [List.append_assoc, List.cons_append]
  exact h (ds ++ ' ' :: rest)

theorem behind {front cs : List Char} {ts : List Test} (hfront : Reads front [])
    (h : BeginsWith cs ts) : BeginsWith (front ++ ' ' :: cs) ts := by
  intro rest
  rw [List.append_assoc, List.cons_append, words_append, hfront]
  exact h rest

end BeginsWith

namespace Statement

theorem reads_filters {front : List Char} (hfront : Reads front []) {cs : List Condition}
    (h : ∀ c ∈ cs, Reads c.text.toList []) :
    Reads (front ++ (String.join (cs.map filterText)).toList) [] := by
  have hkeyword : Reads "FILTER".toList [] := .of_words (by decide)
  induction cs generalizing front with
  | nil => simpa using hfront
  | cons c cs ih =>
      obtain ⟨hc, hothers⟩ := List.forall_mem_cons.1 h
      have hnext := hfront.append (hkeyword.append hc)
      have htext : front ++ (String.join ((c :: cs).map filterText)).toList =
          (front ++ ' ' :: ("FILTER".toList ++ ' ' :: c.text.toList)) ++
            (String.join (cs.map filterText)).toList := by
        simp [filterText]
      rw [htext]
      exact ih hnext hothers

/-- The equalities of a statement are those of its first filter that has some, and what comes
behind them. -/
theorem prefix_equalities {s : Statement} {before after : List Condition} {c : Condition}
    {ts : List Test} (hfilters : s.filters = before ++ c :: after)
    (hbefore : ∀ d ∈ before, Reads d.text.toList []) (hc : BeginsWith c.text.toList ts) :
    ts <+: equalities s.text := by
  have hstart : Reads "FOR d IN @@collection".toList [] := .of_words (by decide)
  have hfront := reads_filters hstart hbefore
  have hkeyword : Reads "FILTER".toList [] := .of_words (by decide)
  obtain ⟨rest, hrest⟩ : ∃ rest,
      (String.join (after.map filterText)).toList ++ s.ending = ' ' :: rest := by
    cases after with
    | nil =>
        obtain ⟨rest, hrest, -⟩ := s.ending_eq
        exact ⟨rest, by simpa using hrest⟩
    | cons d after => exact ⟨_, by simp [filterText]; rfl⟩
  have htext : s.text.toList =
      ("FOR d IN @@collection".toList ++ (String.join (before.map filterText)).toList) ++
        ' ' :: ("FILTER".toList ++ ' ' :: c.text.toList) ++ ' ' :: rest := by
    rw [s.text_eq_ending, hfilters, ← hrest]
    simp [filterText]
  rw [equalities, htext]
  exact (hc.behind hkeyword).behind hfront rest

end Statement

/-! ## The equalities of named values -/

namespace NamedValue

/-- The parameters of named values, the two of each in a row. -/
def parametersFrom : Nat → List NamedValue → List String
  | _, [] => []
  | number, p :: rest =>
      (p.parameters number).1 :: (p.parameters number).2 :: parametersFrom (number + 1) rest

/-- The equality of the named value of a number; it is one of lower case if lower case is
compared. -/
def equality (ignoreCase : Bool) (number : Nat) (p : NamedValue) : Test :=
  if (p.lowerText? ignoreCase).isSome then
    .equalLower (p.parameters number).1 (p.parameters number).2
  else .equal (p.parameters number).1 (p.parameters number).2

/-- The equalities of named values, numbered from a number on. -/
def equalitiesFrom (ignoreCase : Bool) : Nat → List NamedValue → List Test
  | _, [] => []
  | number, p :: rest => p.equality ignoreCase number :: equalitiesFrom ignoreCase (number + 1) rest

theorem getElem?_equalitiesFrom (ignoreCase : Bool) (number : Nat) (ps : List NamedValue)
    (k : Nat) :
    (equalitiesFrom ignoreCase number ps)[k]? = ps[k]?.map (equality ignoreCase (number + k)) := by
  induction ps generalizing number k with
  | nil => rfl
  | cons p rest ih =>
      cases k with
      | zero => rfl
      | succ k =>
          rw [equalitiesFrom, List.getElem?_cons_succ, List.getElem?_cons_succ, ih,
            show number + 1 + k = number + (k + 1) by omega]

theorem equalitiesFrom_append (ignoreCase : Bool) (number : Nat) (ps qs : List NamedValue) :
    equalitiesFrom ignoreCase number (ps ++ qs) =
      equalitiesFrom ignoreCase number ps ++
        equalitiesFrom ignoreCase (number + ps.length) qs := by
  induction ps generalizing number with
  | nil => rfl
  | cons p rest ih =>
      rw [List.cons_append, equalitiesFrom, ih, equalitiesFrom, List.length_cons,
        List.cons_append, show number + 1 + rest.length = number + (rest.length + 1) by omega]

theorem names_bindingsFrom_eq (ignoreCase : Bool) (number : Nat) (ps : List NamedValue) :
    (bindingsFrom ignoreCase number ps).names = parametersFrom number ps := by
  induction ps generalizing number with
  | nil => rfl
  | cons p rest ih =>
      rw [bindingsFrom, Fields.names_append, ih]
      rfl

/-- Each named value binds its path and the value that is compared. -/
theorem mem_bindingsFrom {ignoreCase : Bool} {number k : Nat} {ps : List NamedValue}
    {p : NamedValue} (h : ps[k]? = some p) :
    ((p.parameters (number + k)).1, attributePath p.name) ∈ bindingsFrom ignoreCase number ps ∧
      ((p.parameters (number + k)).2, p.comparedValue ignoreCase) ∈
        bindingsFrom ignoreCase number ps := by
  induction ps generalizing number k with
  | nil => cases h
  | cons q rest ih =>
      cases k with
      | zero =>
          cases h
          simp [bindingsFrom, bindings]
      | succ k =>
          have hsum : number + (k + 1) = number + 1 + k := by omega
          obtain ⟨hkey, hvalue⟩ := ih h
          rw [hsum]
          exact ⟨List.mem_append_right _ hkey, List.mem_append_right _ hvalue⟩

theorem equality_eq (ignoreCase : Bool) (number : Nat) (p : NamedValue) :
    p.equality ignoreCase number = (p.form ignoreCase).test number := rfl

/-- Three words that are an equality are read as that equality. -/
theorem reads_words {left right : List Char} {t : Test} (hleft : ' ' ∉ left) (hright : ' ' ∉ right)
    (hother : ¬ IsLeft right) (h : equality? left "==".toList right = some t) :
    Reads (left ++ ' ' :: ("==".toList ++ ' ' :: right)) [t] := by
  intro rest
  rw [words_append, words_append, words_of_not_mem hleft, words_of_not_mem (by decide),
    words_of_not_mem hright]
  show (equality? left "==".toList right).toList ++
    equalitiesIn ("==".toList :: right :: rest) = [t] ++ equalitiesIn rest
  rw [h, equalitiesIn_cons (by decide), equalitiesIn_cons hother]
  rfl

/-- The text of an equality is read as that equality. -/
theorem reads_testOf (lowered : Bool) {key value : String} (hkey : IsName key)
    (hvalue : IsName value) :
    Reads (testOf lowered key value).text.toList [testOf lowered key value] := by
  have hspaceless {name : String} (h : IsName name) : ' ' ∉ name.toList := by
    intro hmem
    have hchar := h.2 ' ' hmem
    revert hchar
    decide
  have hright : nameIn? "@".toList [] ('@' :: value.toList) = some value := by
    simpa using nameIn?_around hvalue "@".toList apart_nil
  have hother : ¬ IsLeft ('@' :: value.toList) := by
    simp [IsLeft]
  cases lowered with
  | false =>
      have hleft : nameIn? "d.@".toList [] ("d.@".toList ++ key.toList) = some key := by
        simpa using nameIn?_around hkey "d.@".toList apart_nil
      have hread : Reads (("d.@".toList ++ key.toList) ++
          ' ' :: ("==".toList ++ ' ' :: ('@' :: value.toList))) [.equal key value] := by
        refine reads_words (by simp [hspaceless hkey]) (by simp [hspaceless hvalue]) hother ?_
        rw [equality?, if_pos rfl, hright, hleft]
      simpa [testOf, Test.text] using hread
  | true =>
      have hplain : nameIn? "d.@".toList [] ("LOWER(d.@".toList ++ (key.toList ++ [')'])) = none :=
        nameIn?_eq_none (by simp) _
      have hleft : nameIn? "LOWER(d.@".toList ")".toList
          ("LOWER(d.@".toList ++ (key.toList ++ [')'])) = some key :=
        nameIn?_around hkey "LOWER(d.@".toList (by simp [isNameChar])
      have hread : Reads (("LOWER(d.@".toList ++ (key.toList ++ [')'])) ++
          ' ' :: ("==".toList ++ ' ' :: ('@' :: value.toList))) [.equalLower key value] := by
        refine reads_words (by simp [hspaceless hkey]) (by simp [hspaceless hvalue]) hother ?_
        rw [equality?, if_pos rfl, hright, hplain, hleft]
      simpa [testOf, Test.text] using hread

theorem reads_equality (ignoreCase : Bool) (number : Nat) (p : NamedValue) :
    Reads (p.equality ignoreCase number).text.toList [p.equality ignoreCase number] := by
  have hstem := isName_bindName p.name
  have hkey := (hstem.append (show IsName "_key_" by decide)).append (isName_toString number)
  have hvalue := (hstem.append (show IsName "_val_" by decide)).append (isName_toString number)
  rw [equality_eq]
  exact reads_testOf _ hkey hvalue

/-- The tests of named values are read as their equalities. -/
theorem reads_formTests (ignoreCase : Bool) (number : Nat) (ps : List NamedValue) :
    List.Forall₂ (fun c ts => Reads (Condition.text c).toList ts)
      (formTests number (ps.map (form ignoreCase)))
      ((equalitiesFrom ignoreCase number ps).map ([·])) := by
  induction ps generalizing number with
  | nil => exact .nil
  | cons p rest ih => exact .cons (p.reads_equality ignoreCase number) (ih (number + 1))

theorem reads_joined (ignoreCase : Bool) (j : Join) (number : Nat) {ps : List NamedValue}
    (hne : ps ≠ []) :
    Reads (Condition.joined j (formTests number (ps.map (form ignoreCase)))).text.toList
      (equalitiesFrom ignoreCase number ps) := by
  have htests : formTests number (ps.map (form ignoreCase)) ≠ [] := by
    cases ps with
    | nil => exact absurd rfl hne
    | cons p rest => exact List.cons_ne_nil _ _
  have hread := Reads.joined j (reads_formTests ignoreCase number ps) htests
  have hflat := List.flatMap_singleton' (equalitiesFrom ignoreCase number ps)
  rwa [← List.flatMap_def, hflat] at hread

end NamedValue

namespace Constraint

/-- The equalities of the parts of a constraint, those of each in a list. -/
def equalitiesFrom (ignoreCase : Bool) : Nat → List Constraint → List (List Test)
  | _, [] => []
  | number, c :: rest =>
      NamedValue.equalitiesFrom ignoreCase number c.members ::
        equalitiesFrom ignoreCase (number + c.members.length) rest

theorem flatten_equalitiesFrom (ignoreCase : Bool) (number : Nat) (cs : List Constraint) :
    (equalitiesFrom ignoreCase number cs).flatten =
      NamedValue.equalitiesFrom ignoreCase number (cs.flatMap members) := by
  induction cs generalizing number with
  | nil => rfl
  | cons c rest ih =>
      rw [equalitiesFrom, List.flatten_cons, ih, List.flatMap_cons,
        NamedValue.equalitiesFrom_append]

/-- The branches of a constraint are read as the equalities of its parts. -/
theorem reads_branches (ignoreCase : Bool) (number : Nat) (cs : List Constraint) :
    List.Forall₂ (fun c ts => Reads (Condition.text c).toList ts)
      (branches number (cs.map (form ignoreCase))) (equalitiesFrom ignoreCase number cs) := by
  induction cs generalizing number with
  | nil => exact .nil
  | cons c rest ih =>
      rw [List.map_cons, branches, size_form]
      refine .cons ?_ (ih _)
      cases c with
      | single p => exact p.reads_equality ignoreCase number
      | composite k =>
          exact (NamedValue.reads_joined ignoreCase .all number (List.cons_ne_nil _ _)).group

end Constraint

/-! ## Queries that keep their equalities -/

/-- Each named value of a list has parameters of its own in a query, which are bound as it says
and stand in its equality. -/
structure Query.KeepsEqualities (q : Query) (ignoreCase : Bool) (ps : List NamedValue) : Prop where
  /-- No two parameters are the same. -/
  distinct : (NamedValue.parametersFrom 1 ps).Nodup
  /-- None is the one of the collection, of a key that is left out, or of a search. -/
  apart : ∀ name ∈ NamedValue.parametersFrom 1 ps,
    name ≠ Request.collectionParameter ∧ name ≠ Request.excludedParameter ∧
      ∀ n, name ≠ Search.propertyParameter n ∧ name ≠ Search.termParameter n
  /-- The two of a named value are bound to its path and to the value that is compared. -/
  bound : ∀ (k : Nat) (p : NamedValue), ps[k]? = some p →
    q.binds.get? (p.parameters (k + 1)).1 = some (attributePath p.name) ∧
      q.binds.get? (p.parameters (k + 1)).2 = some (p.comparedValue ignoreCase)
  /-- The equality that stands in its place in the text refers to these two. -/
  written : ∀ (k : Nat) (p : NamedValue), ps[k]? = some p →
    (equalities q.text)[k]? = some (p.equality ignoreCase (k + 1))

namespace Request

theorem endsWordlike_collectionParameter : EndsWordlike collectionParameter := by
  intro c hc
  cases hc
  rfl

/-- A query keeps equalities where their bindings are left and its text begins with them. -/
theorem keepsEqualities {q : Query} {ignoreCase : Bool} {ps : List NamedValue}
    (hbinds : Gives q.binds.get? (NamedValue.bindingsFrom ignoreCase 1 ps))
    (htext : NamedValue.equalitiesFrom ignoreCase 1 ps <+: equalities q.text) :
    q.KeepsEqualities ignoreCase ps where
  distinct := by
    rw [← NamedValue.names_bindingsFrom_eq ignoreCase]
    exact NamedValue.bindingsFrom_nodup ignoreCase 1 ps
  apart := by
    intro name hname
    rw [← NamedValue.names_bindingsFrom_eq ignoreCase] at hname
    obtain ⟨number, -, hnumber⟩ := NamedValue.numbered_of_mem hname
    exact ⟨hnumber.ne_of_endsWordlike endsWordlike_collectionParameter,
      hnumber.ne_of_endsWordlike endsWordlike_excludedParameter, fun _ => hnumber.ne_parameter⟩
  bound := by
    intro k p hp
    obtain ⟨hkey, hvalue⟩ := NamedValue.mem_bindingsFrom hp
    rw [Nat.add_comm k 1]
    exact ⟨hbinds _ hkey, hbinds _ hvalue⟩
  written := by
    intro k p hp
    have hone : (NamedValue.equalitiesFrom ignoreCase 1 ps)[k]? =
        some (p.equality ignoreCase (k + 1)) := by
      rw [NamedValue.getElem?_equalitiesFrom, hp, Nat.add_comm k 1]
      rfl
    obtain ⟨more, hmore⟩ := htext
    obtain ⟨hlength, -⟩ := List.getElem?_eq_some_iff.1 hone
    rw [← hmore, List.getElem?_append_left hlength, hone]

/-- The equalities stand in front of the condition of criteria. -/
theorem beginsWith_withCriteria {e : Condition} {ts : List Test} (h : Reads e.text.toList ts)
    (group : Option Condition) : BeginsWith (withCriteria e group).text.toList ts := by
  cases group with
  | none => exact h.beginsWith
  | some c =>
      have htext : (withCriteria e (some c)).text.toList =
          (Condition.group e).text.toList ++ ' ' :: (Join.all.chars ++ ' ' :: c.text.toList) := by
        rw [withCriteria, Condition.toList_text_joined, List.map_cons, List.map_cons,
          Join.between_cons_cons]
        simp [Join.between]
      rw [htext]
      exact h.group.beginsWith.more _

theorem byValues_keeps {collection : Value} {ps : List NamedValue} {join : Join}
    {options : Option FetchOptions} {criteria : Option Criteria} {q : Query}
    (hq : (byValues collection (.many ps) join options criteria).query = .ok q) :
    q.KeepsEqualities false ps := by
  obtain ⟨s, binds, hplan, rfl⟩ := query_eq_ok hq
  obtain ⟨c, hc, rfl⟩ := planOf_eq_ok hplan
  obtain ⟨e, middle, group, hequal, hcriteria, rfl⟩ := valuesCondition_cases hc
  obtain ⟨hne, rfl, rfl⟩ := Equalities.compile_ok hequal
  have hread := NamedValue.reads_joined false join 1 hne
  let c := withCriteria (Equalities.condition join (.many ps)) group
  have hfilters : (lookup [c] options).filters = [] ++ c :: [] := rfl
  refine keepsEqualities (gives_equalities hcriteria) ?_
  exact Statement.prefix_equalities hfilters (by simp) (beginsWith_withCriteria hread group)

theorem conflicts_keeps {u : Uniqueness} (h : u.constraints ≠ []) :
    ((conflictPlan u).1.query (conflictPlan u).2).KeepsEqualities u.caseInsensitive
      (u.constraints.flatMap Constraint.members) := by
  have hbinds := gives_branches u
  rw [Uniqueness.branchBinds, Constraint.bindingsFrom_eq] at hbinds
  refine keepsEqualities hbinds ?_
  obtain ⟨binds, hfilters⟩ := conflictPlan_filters u
  rw [List.append_assoc, List.singleton_append] at hfilters
  have hbranches : Constraint.branches 1 (u.constraints.map (Constraint.form u.caseInsensitive)) ≠
      [] := by
    cases hconstraints : u.constraints with
    | nil => exact absurd hconstraints h
    | cons c rest => exact List.cons_ne_nil _ _
  have hread := Reads.joined .any (Constraint.reads_branches u.caseInsensitive 1 u.constraints)
    hbranches
  rw [Constraint.flatten_equalitiesFrom] at hread
  refine Statement.prefix_equalities hfilters (fun d hd => ?_) hread.beginsWith
  unfold exclusion at hd
  split at hd
  next key _ =>
    rw [List.mem_singleton.1 hd]
    exact .of_words (by decide)
  next => cases hd

/-- No equality is lost: those of the named values that are looked for keep their parameters,
whatever criteria come with them, and so do those of all parts of a uniqueness constraint. -/
theorem equalities_kept :
    (∀ (collection : Value) (ps : List NamedValue) (join : Join) (options : Option FetchOptions)
        (criteria : Option Criteria),
      (∀ q, (byValues collection (.many ps) join options criteria).query = .ok q →
        q.KeepsEqualities false ps) ∧
      (ps ≠ [] → criteria = none →
        ∃ q, (byValues collection (.many ps) join options criteria).query = .ok q)) ∧
    ∀ (u : Uniqueness) (options : Option FetchOptions), u.constraints ≠ [] →
      ∃ q, (conflicts (some u) options).query = .ok q ∧
        q.KeepsEqualities u.caseInsensitive (u.constraints.flatMap Constraint.members) := by
  refine ⟨fun collection ps join options criteria => ⟨fun q hq => byValues_keeps hq, ?_⟩, ?_⟩
  · rintro hne rfl
    cases ps with
    | nil => exact absurd rfl hne
    | cons p rest => exact ⟨_, rfl⟩
  · intro u options h
    have husable : usable? (some u) = some u := by
      simp [usable?, Option.filter, h]
    refine ⟨_, ?_, conflicts_keeps h⟩
    rw [query, plan, husable]
    rfl

/-- Two paths of one stem, one that looks like a parameter, and one of them again. -/
def alike : List NamedValue :=
  [⟨"a.b", .int 1, true⟩, ⟨"a_b", .str "X", false⟩, ⟨"a_b_key_1", .int 3, true⟩,
    ⟨"a.b", .int 4, true⟩]

theorem alike_kept :
    (∃ q, (byValues (.str "people") (.many alike) .all none none).query = .ok q ∧
      q.KeepsEqualities false alike) ∧
    ∃ q, (conflicts (some { collection := "people", constraints := alike.map .single }) none).query =
        .ok q ∧ q.KeepsEqualities false alike := by
  obtain ⟨hlookup, hconflicts⟩ := equalities_kept
  obtain ⟨hkept, hexists⟩ := hlookup (.str "people") alike .all none none
  obtain ⟨q, hq⟩ := hexists (List.cons_ne_nil _ _) rfl
  exact ⟨⟨q, hq, hkept q hq⟩, hconflicts _ none (List.cons_ne_nil _ _)⟩

end Request

end DocQuery
