import DocQuery.Proofs.Formula
import DocQuery.Query.Condition

/-!
# What conditions mean

A condition has two meanings.  `Condition.Holds` is read off its structure: a test is an
atom, a joined condition combines its parts, brackets change nothing.  The other is what
its text means to a reader that never saw the structure (`Truth`).

Main result: both are the same for a `Readable` condition (`Condition.truth_text`).  Text
of callers has to be well-formed for that.  A join by `&&` has to be guarded as well:
where several parts stand beside each other, the text of each must be `Tight`, with no
uncovered `||` of its own, or `&&` would tear it apart.

*Brackets.*  A text in brackets is one operand, and it is true when the text inside them
is (`truth_brackets`).

*Operators.*  Texts with one operator between all of them mean what the operator says
(`truth_between`).

*Tests.*  The text of a test is an atom (`Test.atomic_text`).
-/

namespace DocQuery

namespace Formula

/-! ## Brackets -/

theorem run_of_wellFormed {cs : List Char} (h : WellFormed cs) : Cover.run [] cs = some [] := by
  obtain ⟨s, hs, -⟩ := wellFormed_iff.1 h
  obtain ⟨t, ht, -⟩ := Option.map_eq_some_iff.1 hs
  exact Cover.run_of_outer ht

theorem operands_brackets {cs : List Char} (h : Cover.run [] cs = some []) :
    operands ('(' :: cs ++ [')']) = some (.last ('(' :: cs ++ [')'])) := by
  have htrim : Text.trim ('(' :: cs ++ [')']) = '(' :: cs ++ [')'] := by
    apply Text.trim_eq_self
    · intro c hc
      cases hc
      decide
    · intro c hc
      rw [List.getLast?_concat] at hc
      cases hc
      decide
  rw [operands, Cover.outer_brackets h, Option.map_some, Split.map, htrim]

theorem operand_brackets {cs : List Char} (h : Cover.run [] cs = some []) :
    operand ('(' :: cs ++ [')']) = read cs := by
  have hlast : (cs ++ [')']).getLast? = some ')' := List.getLast?_concat
  have hinner : (cs ++ [')']).dropLast = cs := List.dropLast_concat
  have henclosed : enclosed? ('(' :: cs ++ [')']) = some cs := by
    rw [List.cons_append, enclosed?, hinner, if_pos ⟨hlast, h⟩]
  rw [operand, henclosed]

theorem isSome_operand_brackets {cs : List Char} (h : WellFormed cs) :
    ∀ clause ∈ (Split.last ('(' :: cs ++ [')'])).clauses, (operand clause).isSome = true := by
  intro clause hclause
  obtain rfl := List.mem_singleton.1 hclause
  rw [operand_brackets (run_of_wellFormed h)]
  exact h

theorem wellFormed_brackets {cs : List Char} (h : WellFormed cs) :
    WellFormed ('(' :: cs ++ [')']) :=
  wellFormed_iff.2 ⟨_, operands_brackets (run_of_wellFormed h), isSome_operand_brackets h⟩

theorem truth_brackets {cs : List Char} (h : WellFormed cs) (I : List Char → Prop) :
    Truth I ('(' :: cs ++ [')']) ↔ Truth I cs := by
  have hrun := run_of_wellFormed h
  rw [truth_iff (operands_brackets hrun) (isSome_operand_brackets h)]
  simp only [Split.alternatives, List.mem_singleton, exists_eq_left, forall_eq, OperandTruth,
    operand_brackets hrun]
  rfl

theorem read_spaced (cs : List Char) : read (' ' :: cs ++ [' ']) = read cs := by
  rw [List.cons_append, read_cons_space (by decide), read_append_space (by decide)]

theorem wellFormed_spaced {cs : List Char} (h : WellFormed cs) :
    WellFormed (' ' :: cs ++ [' ']) := by
  rwa [WellFormed, read_spaced]

/-! ## Atoms -/

/-- A text that is read as an atom. -/
structure Atomic (cs : List Char) : Prop where
  /-- It is one operand. -/
  operands : operands cs = some (.last cs)
  /-- It is not in brackets. -/
  bare : enclosed? cs = none
  /-- It is there. -/
  ne_nil : cs ≠ []

theorem Atomic.operand_eq {cs : List Char} (h : Atomic cs) : operand cs = some (.atom cs) := by
  rw [operand, h.bare, if_neg h.ne_nil]

theorem Atomic.isSome_operand {cs : List Char} (h : Atomic cs) :
    ∀ clause ∈ (Split.last cs).clauses, (operand clause).isSome = true := by
  intro clause hclause
  obtain rfl := List.mem_singleton.1 hclause
  rw [h.operand_eq]
  rfl

theorem Atomic.wellFormed {cs : List Char} (h : Atomic cs) : WellFormed cs :=
  wellFormed_iff.2 ⟨_, h.operands, h.isSome_operand⟩

theorem Atomic.truth {cs : List Char} (h : Atomic cs) (I : List Char → Prop) :
    Truth I cs ↔ I cs := by
  rw [truth_iff h.operands h.isSome_operand]
  simp [Split.alternatives, OperandTruth, h.operand_eq, Holds]

/-! ## Operators -/

/-- A text without an uncovered `||`. -/
def Tight (cs : List Char) : Prop := ∀ s ∈ operands cs, .any ∉ s.operators

instance (cs : List Char) : Decidable (Tight cs) := Option.decidableForallMem _

theorem tight_of_last {cs clause : List Char} (h : operands cs = some (.last clause)) :
    Tight cs := by
  intro s hs
  rw [h] at hs
  cases hs
  exact List.not_mem_nil

theorem operands_append_operator {as bs : List Char} {s t : Split} (hs : operands as = some s)
    (ht : operands bs = some t) (j : Join) :
    operands (as ++ ' ' :: j.chars ++ ' ' :: bs) = some (.followed j s t) := by
  obtain ⟨cut, hcut, rfl⟩ := Option.map_eq_some_iff.1 hs
  obtain ⟨other, hother, rfl⟩ := Option.map_eq_some_iff.1 ht
  rw [operands, Cover.outer_append_operator hcut, hother, Option.map_some, Option.map_some,
    Split.map_trim_append_more]

theorem tight_append {as bs : List Char} (ha : WellFormed as) (hb : WellFormed bs)
    (htight : Tight as) (htight' : Tight bs) :
    Tight (as ++ ' ' :: Join.all.chars ++ ' ' :: bs) := by
  obtain ⟨s, hs, -⟩ := wellFormed_iff.1 ha
  obtain ⟨t, ht, -⟩ := wellFormed_iff.1 hb
  intro u hu
  rw [operands_append_operator hs ht] at hu
  cases hu
  exact Split.any_not_mem_followed (htight s hs) (htight' t ht)

theorem wellFormed_append {as bs : List Char} (ha : WellFormed as) (hb : WellFormed bs)
    (j : Join) : WellFormed (as ++ ' ' :: j.chars ++ ' ' :: bs) := by
  obtain ⟨s, hs, hsome⟩ := wellFormed_iff.1 ha
  obtain ⟨t, ht, hsome'⟩ := wellFormed_iff.1 hb
  refine wellFormed_iff.2 ⟨_, operands_append_operator hs ht j, ?_⟩
  rw [Split.clauses_followed]
  exact List.forall_mem_append.2 ⟨hsome, hsome'⟩

/-- Two texts with an operator between them.  By `||` the alternatives of both are in a
row; by `&&` the only alternative of one is continued by that of the other. -/
theorem truth_append {as bs : List Char} (ha : WellFormed as) (hb : WellFormed bs) {j : Join}
    (htight : j = .all → Tight as ∧ Tight bs) (I : List Char → Prop) :
    Truth I (as ++ ' ' :: j.chars ++ ' ' :: bs) ↔ j.Both (Truth I as) (Truth I bs) := by
  obtain ⟨s, hs, hsome⟩ := wellFormed_iff.1 ha
  obtain ⟨t, ht, hsome'⟩ := wellFormed_iff.1 hb
  have hboth : ∀ clause ∈ (Split.followed j s t).clauses, (operand clause).isSome = true := by
    rw [Split.clauses_followed]
    exact List.forall_mem_append.2 ⟨hsome, hsome'⟩
  rw [truth_iff (operands_append_operator hs ht j) hboth, truth_iff hs hsome,
    truth_iff ht hsome']
  cases j with
  | any =>
      rw [Split.alternatives_followed_any]
      simp only [List.mem_append, or_and_right, exists_or]
      rfl
  | all =>
      obtain ⟨hone, hother⟩ := htight rfl
      have hfollowed := Split.any_not_mem_followed (hone s hs) (hother t ht)
      rw [Split.alternatives_eq_singleton hfollowed, Split.alternatives_eq_singleton (hone s hs),
        Split.alternatives_eq_singleton (hother t ht), Split.clauses_followed]
      simp only [List.mem_singleton, exists_eq_left, List.mem_append, or_imp, forall_and]
      rfl

end Formula

open Formula (Tight Atomic)

namespace Join

/-- Texts with an operator and spaces between them. -/
def between (j : Join) (texts : List (List Char)) : List Char :=
  (' ' :: j.chars ++ [' ']).intercalate texts

theorem between_cons_cons (j : Join) (cs ds : List Char) (rest : List (List Char)) :
    j.between (cs :: ds :: rest) = cs ++ ' ' :: j.chars ++ ' ' :: j.between (ds :: rest) := by
  rw [between, List.intercalate_cons_cons, ← between]
  simp

/-- Whether no text is torn apart when an operator stands between all of them. -/
def Guards (j : Join) (texts : List (List Char)) : Prop :=
  j = all → 1 < texts.length → ∀ cs ∈ texts, Tight cs

instance (j : Join) (texts : List (List Char)) : Decidable (j.Guards texts) :=
  inferInstanceAs (Decidable (_ → _ → ∀ cs ∈ texts, Tight cs))

theorem tight_between : ∀ {texts : List (List Char)}, texts ≠ [] →
    (∀ cs ∈ texts, WellFormed cs) → (∀ cs ∈ texts, Tight cs) →
      WellFormed (all.between texts) ∧ Tight (all.between texts)
  | [], hne, _, _ => absurd rfl hne
  | [cs], _, hw, ht => by
      have hsame : all.between [cs] = cs := List.intercalate_singleton
      rw [hsame]
      exact ⟨hw cs List.mem_cons_self, ht cs List.mem_cons_self⟩
  | cs :: ds :: rest, _, hw, ht => by
      obtain ⟨hcs, hrest⟩ := List.forall_mem_cons.1 hw
      obtain ⟨htight, htights⟩ := List.forall_mem_cons.1 ht
      obtain ⟨hwell, hlast⟩ := tight_between (List.cons_ne_nil ds rest) hrest htights
      rw [between_cons_cons]
      exact ⟨Formula.wellFormed_append hcs hwell all,
        Formula.tight_append hcs hwell htight hlast⟩

/-- Texts with one operator between all of them mean what the operator says. -/
theorem truth_between {j : Join} : ∀ {texts : List (List Char)}, texts ≠ [] →
    (∀ cs ∈ texts, WellFormed cs) → j.Guards texts → WellFormed (j.between texts) ∧
      ∀ I, Truth I (j.between texts) ↔ j.Combines (Truth I) texts
  | [], hne, _, _ => absurd rfl hne
  | [cs], _, hw, _ => by
      have hsame : j.between [cs] = cs := List.intercalate_singleton
      rw [hsame]
      exact ⟨hw cs List.mem_cons_self, fun I => (combines_singleton (Truth I) cs j).symm⟩
  | cs :: ds :: rest, _, hw, hguard => by
      obtain ⟨hcs, hrest⟩ := List.forall_mem_cons.1 hw
      have htight (hj : j = all) : ∀ es ∈ cs :: ds :: rest, Tight es := hguard hj (by simp)
      have hguards : j.Guards (ds :: rest) := fun hj _ es hes =>
        htight hj es (List.mem_cons_of_mem cs hes)
      obtain ⟨hwell, htruth⟩ := truth_between (List.cons_ne_nil ds rest) hrest hguards
      have hboth (hj : j = all) : Tight cs ∧ Tight (j.between (ds :: rest)) := by
        subst hj
        obtain ⟨hfirst, hothers⟩ := List.forall_mem_cons.1 (htight rfl)
        exact ⟨hfirst, (tight_between (List.cons_ne_nil ds rest) hrest hothers).2⟩
      rw [between_cons_cons]
      refine ⟨Formula.wellFormed_append hcs hwell j, fun I => ?_⟩
      rw [Formula.truth_append hcs hwell hboth, htruth, combines_cons _ cs]

end Join

/-! ## Tests -/

namespace Cover

theorem plain_of_isNameChar {c : Char} (h : isNameChar c = true) : Plain c :=
  plain_of_class (by decide) h

theorem plain_of_isName {name : String} (h : IsName name) : ∀ c ∈ name.toList, Plain c :=
  fun c hc => plain_of_isNameChar (h.2 c hc)

theorem plain_append {as bs : List Char} (ha : ∀ c ∈ as, Plain c) (hb : ∀ c ∈ bs, Plain c) :
    ∀ c ∈ as ++ bs, Plain c := List.forall_mem_append.2 ⟨ha, hb⟩

/-- A call, with text behind it. -/
theorem outer_call {callee inside behind : List Char} (hcallee : ∀ c ∈ callee, Plain c)
    (hinside : ∀ c ∈ inside, Plain c) (hbehind : ∀ c ∈ behind, Plain c) :
    outer [] (callee ++ ('(' :: inside ++ ')' :: behind)) =
      some (.last (callee ++ ('(' :: inside ++ ')' :: behind))) := by
  rw [outer_plain_append hcallee, outer_brackets_append (run_of_outer (outer_plain hinside)),
    outer_plain hbehind]
  simp [Split.prepend]

end Cover

theorem isSpace_eq_false {name : String} (h : IsName name) :
    ∀ c ∈ name.toList, isSpace c = false := by
  intro c hc
  by_contra hspace
  have hname := (apart_of_isSpace (Bool.not_eq_false _ ▸ hspace)).2
  rw [h.2 c hc] at hname
  cases hname

theorem Text.solidEnd_of_isName {name : String} (h : IsName name) : SolidEnd name.toList :=
  fun c hc => isSpace_eq_false h c (List.mem_of_getLast? hc)

theorem Formula.atomic_of_outer {cs : List Char} (h : Cover.outer [] cs = some (.last cs))
    {first : Char} (hfirst : cs.head? = some first) (hbare : first ≠ '(')
    (hstart : isSpace first = false) (hend : Text.SolidEnd cs) : Atomic cs := by
  obtain ⟨rest, rfl⟩ : ∃ rest, cs = first :: rest := List.head?_eq_some_iff.1 hfirst
  have hsolid : Text.SolidStart (first :: rest) := by
    intro c hc
    cases hc
    exact hstart
  refine ⟨?_, ?_, List.cons_ne_nil first rest⟩
  · rw [operands, h, Option.map_some, Split.map, Text.trim_eq_self hsolid hend]
  · unfold enclosed?
    split
    next heq => exact absurd (List.cons.inj heq).1 hbare
    next => rfl

theorem Formula.atomic_of_plain {cs : List Char} (h : ∀ c ∈ cs, Cover.Plain c) {first : Char}
    (hfirst : cs.head? = some first) (hstart : isSpace first = false) (hend : Text.SolidEnd cs) :
    Atomic cs := by
  have hplain : Cover.Plain first := h first (List.mem_of_mem_head? hfirst)
  have hbare : first ≠ '(' := by
    rintro rfl
    revert hplain
    decide
  exact atomic_of_outer (Cover.outer_plain h) hfirst hbare hstart hend

namespace Test

/-- The text of a test is an atom. -/
theorem atomic_text (t : Test) (h : t.Named) : Atomic t.text.toList := by
  have hplain {name : String} (hmem : name ∈ t.parameters) : ∀ c ∈ name.toList, Cover.Plain c :=
    Cover.plain_of_isName (h name hmem)
  have hend {name : String} (hmem : name ∈ t.parameters) (cs : List Char) :
      Text.SolidEnd (cs ++ name.toList) :=
    (Text.solidEnd_of_isName (h name hmem)).append
      (fun hnil => (h name hmem).1 (String.toList_eq_nil_iff.1 hnil)) cs
  have hd : ∀ c ∈ "d.@".toList, Cover.Plain c := Cover.plain_of_all (by decide)
  have hequal : ∀ c ∈ " == @".toList, Cover.Plain c := Cover.plain_of_all (by decide)
  cases t with
  | equal property value =>
      have hp : ∀ c ∈ property.toList, Cover.Plain c := hplain (by simp [parameters])
      have hv : ∀ c ∈ value.toList, Cover.Plain c := hplain (by simp [parameters])
      simp only [text, String.toList_append]
      exact Formula.atomic_of_plain
        (Cover.plain_append (Cover.plain_append (Cover.plain_append hd hp) hequal) hv)
        rfl (by decide) (hend (by simp [parameters]) _)
  | equalLower property value =>
      have hp : ∀ c ∈ property.toList, Cover.Plain c := hplain (by simp [parameters])
      have hv : ∀ c ∈ value.toList, Cover.Plain c := hplain (by simp [parameters])
      have hcallee : ∀ c ∈ "LOWER".toList, Cover.Plain c := Cover.plain_of_all (by decide)
      have htext : (equalLower property value).text.toList = "LOWER".toList ++
          ('(' :: ("d.@".toList ++ property.toList) ++
            ')' :: (" == @".toList ++ value.toList)) := by
        simp [text]
      have hsolid : Text.SolidEnd ("LOWER(d.@".toList ++ property.toList ++ ") == @".toList ++
          value.toList) := hend (by simp [parameters]) _
      rw [htext]
      refine Formula.atomic_of_outer (Cover.outer_call hcallee (Cover.plain_append hd hp)
        (Cover.plain_append hequal hv)) rfl (by decide) (by decide) ?_
      simpa using hsolid
  | like property pattern =>
      have hp : ∀ c ∈ property.toList, Cover.Plain c := hplain (by simp [parameters])
      have hq : ∀ c ∈ pattern.toList, Cover.Plain c := hplain (by simp [parameters])
      have hcallee : ∀ c ∈ "LIKE".toList, Cover.Plain c := Cover.plain_of_all (by decide)
      have hcomma : ∀ c ∈ ", @".toList, Cover.Plain c := Cover.plain_of_all (by decide)
      have htrue : ∀ c ∈ ", true".toList, Cover.Plain c := Cover.plain_of_all (by decide)
      have hinside : ∀ c ∈ "d.@".toList ++ property.toList ++ ", @".toList ++ pattern.toList ++
          ", true".toList, Cover.Plain c :=
        Cover.plain_append (Cover.plain_append (Cover.plain_append
          (Cover.plain_append hd hp) hcomma) hq) htrue
      have htext : (like property pattern).text.toList = "LIKE".toList ++
          ('(' :: ("d.@".toList ++ property.toList ++ ", @".toList ++ pattern.toList ++
            ", true".toList) ++ ')' :: []) := by
        simp [text]
      have hsolid : Text.SolidEnd ("LIKE".toList ++
          ('(' :: ("d.@".toList ++ property.toList ++ ", @".toList ++ pattern.toList ++
            ", true".toList) ++ [')'])) := by
        rw [← List.append_assoc]
        exact Text.SolidEnd.append (by decide) (List.cons_ne_nil _ _) _
      rw [htext]
      exact Formula.atomic_of_outer (Cover.outer_call hcallee hinside (List.forall_mem_nil _)) rfl
        (by decide) (by decide) hsolid
  | isNull property =>
      have hp : ∀ c ∈ property.toList, Cover.Plain c := hplain (by simp [parameters])
      have hnull : ∀ c ∈ " == null".toList, Cover.Plain c := Cover.plain_of_all (by decide)
      simp only [text, String.toList_append]
      exact Formula.atomic_of_plain (Cover.plain_append (Cover.plain_append hd hp) hnull)
        rfl (by decide) (Text.SolidEnd.append (by decide) (by decide) _)
  | notNull property =>
      have hp : ∀ c ∈ property.toList, Cover.Plain c := hplain (by simp [parameters])
      have hnull : ∀ c ∈ " != null".toList, Cover.Plain c := Cover.plain_of_all (by decide)
      simp only [text, String.toList_append]
      exact Formula.atomic_of_plain (Cover.plain_append (Cover.plain_append hd hp) hnull)
        rfl (by decide) (Text.SolidEnd.append (by decide) (by decide) _)
  | keyIs key =>
      have hk : ∀ c ∈ key.toList, Cover.Plain c := hplain (by simp [parameters])
      have hkey : ∀ c ∈ "d._key == @".toList, Cover.Plain c := Cover.plain_of_all (by decide)
      simp only [text, String.toList_append]
      exact Formula.atomic_of_plain (Cover.plain_append hkey hk) rfl (by decide)
        (hend (by simp [parameters]) _)
  | keyIsNot key =>
      have hk : ∀ c ∈ key.toList, Cover.Plain c := hplain (by simp [parameters])
      have hkey : ∀ c ∈ "d._key != @".toList, Cover.Plain c := Cover.plain_of_all (by decide)
      simp only [text, String.toList_append]
      exact Formula.atomic_of_plain (Cover.plain_append hkey hk) rfl (by decide)
        (hend (by simp [parameters]) _)

end Test

/-! ## Conditions -/

namespace Condition

mutual

/-- Whether a condition is true, read off its structure. -/
def Holds (I : List Char → Prop) : Condition → Prop
  | test t => I t.text.toList
  | written s => Truth I s.toList
  | joined j parts => HoldsJoined I j parts
  | group c => Holds I c
termination_by structural c => c

/-- Whether conditions with an operator between them are. -/
def HoldsJoined (I : List Char → Prop) : Join → List Condition → Prop
  | .any, [] => False
  | .all, [] => True
  | j, c :: rest => j.Both (Holds I c) (HoldsJoined I j rest)
termination_by structural _ cs => cs

end

mutual

/-- Whether the text of a condition can be read as the condition is meant. -/
def Readable : Condition → Prop
  | test t => t.Named
  | written s => WellFormed s.toList
  | joined j parts =>
      parts ≠ [] ∧ j.Guards (parts.map fun c => c.text.toList) ∧ AllReadable parts
  | group c => Readable c
termination_by structural c => c

/-- Whether the texts of several conditions can. -/
def AllReadable : List Condition → Prop
  | [] => True
  | c :: rest => Readable c ∧ AllReadable rest
termination_by structural cs => cs

end

theorem holds_joined (I : List Char → Prop) (j : Join) (parts : List Condition) :
    (joined j parts).Holds I ↔ j.Combines (Holds I) parts := by
  rw [Holds]
  induction parts with
  | nil => cases j <;> simp [HoldsJoined]
  | cons c rest ih => rw [HoldsJoined, ih, Join.combines_cons]

theorem allReadable_iff {cs : List Condition} : AllReadable cs ↔ ∀ c ∈ cs, Readable c := by
  induction cs with
  | nil => simp [AllReadable]
  | cons c rest ih => rw [AllReadable, ih, List.forall_mem_cons]

theorem toList_text_joined (j : Join) (parts : List Condition) :
    (joined j parts).text.toList = j.between (parts.map fun c => c.text.toList) := by
  rw [text, texts_eq_map]
  induction parts with
  | nil => rfl
  | cons c rest ih =>
      cases rest with
      | nil => simp [Join.between]
      | cons d rest =>
          rw [List.map_cons, List.map_cons, String.intercalate_cons_cons, ← List.map_cons,
            String.toList_append, String.toList_append, ih, List.map_cons, List.map_cons,
            List.map_cons, Join.between_cons_cons]
          simp [Join.chars]

theorem toList_text_group (c : Condition) :
    (group c).text.toList = '(' :: (' ' :: c.text.toList ++ [' ']) ++ [')'] := by
  simp [text]

mutual

/-- The text of a readable condition means what the condition means. -/
theorem truth_text : ∀ c : Condition, c.Readable →
    WellFormed c.text.toList ∧ ∀ I, Truth I c.text.toList ↔ c.Holds I
  | test t, h => by
      have hatomic := t.atomic_text h
      exact ⟨hatomic.wellFormed, hatomic.truth⟩
  | written _, h => ⟨h, fun _ => Iff.rfl⟩
  | joined j parts, h => by
      obtain ⟨hne, hguards, hparts⟩ := h
      have htexts := truth_texts parts hparts
      have hwell : ∀ cs ∈ parts.map fun c => c.text.toList, WellFormed cs := by
        intro cs hcs
        obtain ⟨c, hc, rfl⟩ := List.mem_map.1 hcs
        exact (htexts c hc).1
      have hbetween := Join.truth_between (by simpa using hne) hwell hguards
      rw [toList_text_joined]
      refine ⟨hbetween.1, fun I => ?_⟩
      rw [hbetween.2, Join.combines_map, holds_joined]
      exact Join.combines_congr (fun c hc => (htexts c hc).2 I) j
  | group c, h => by
      obtain ⟨hwell, htruth⟩ := truth_text c h
      have hspaced := Formula.wellFormed_spaced hwell
      rw [toList_text_group]
      refine ⟨Formula.wellFormed_brackets hspaced, fun I => ?_⟩
      rw [Formula.truth_brackets hspaced, Truth, Formula.read_spaced]
      exact htruth I
termination_by structural c => c

/-- So do the texts of several. -/
theorem truth_texts : ∀ cs : List Condition, AllReadable cs → ∀ c ∈ cs,
    WellFormed c.text.toList ∧ ∀ I, Truth I c.text.toList ↔ c.Holds I
  | [], _, _, hmem => absurd hmem List.not_mem_nil
  | c :: rest, h, d, hmem => by
      obtain hsame | hmem := List.mem_cons.1 hmem
      · rw [hsame]
        exact truth_text c h.1
      · exact truth_texts rest h.2 d hmem
termination_by structural cs => cs

end

/-! ## Pieces -/

/-- A condition that every operator keeps in one piece: a test, or something in brackets. -/
inductive Piece : Condition → Prop where
  | test {t : Test} (h : t.Named) : Piece (test t)
  | group {c : Condition} (h : c.Readable) : Piece (group c)

theorem Piece.readable {c : Condition} : Piece c → c.Readable
  | .test h => h
  | .group h => h

theorem Piece.tight {c : Condition} : Piece c → Tight c.text.toList
  | .test (t := t) h => Formula.tight_of_last (t.atomic_text h).operands
  | .group (c := c) h => by
      have hspaced := Formula.wellFormed_spaced (truth_text c h).1
      rw [toList_text_group]
      exact Formula.tight_of_last (Formula.operands_brackets (Formula.run_of_wellFormed hspaced))

/-- Pieces can be joined in any way. -/
theorem readable_joined {parts : List Condition} (hne : parts ≠ []) (h : ∀ c ∈ parts, Piece c)
    (j : Join) : (joined j parts).Readable := by
  refine ⟨hne, ?_, allReadable_iff.2 fun c hc => (h c hc).readable⟩
  intro _ _ cs hcs
  obtain ⟨c, hc, rfl⟩ := List.mem_map.1 hcs
  exact (h c hc).tight

end Condition

end DocQuery
