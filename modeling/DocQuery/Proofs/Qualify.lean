import DocQuery.Filter.Clause
import Mathlib.Data.List.Chain

/-!
# What qualifying does to a clause

`qualify` trims a clause, puts `d.` into it and closes the gaps in front of closing
brackets.  On a clause that needs neither of the two repairs only the `d.` is left.

* *Solid* ends: no white space at the start (`Text.SolidStart`) or at the end
  (`Text.SolidEnd`), so there is nothing to trim.
* *No gap*: no white space directly in front of a closing bracket (`Clause.NoGap`), so
  there is nothing to tighten.

For such a clause `qualify_of_no_bracket` and `qualify_of_bracket` say where the `d.`
goes.  White space around a clause never matters (`qualify_cons_space`,
`qualify_append_space`).
-/

namespace DocQuery

namespace Text

/-! ## Trimming -/

/-- A text that does not start with white space. -/
def SolidStart (cs : List Char) : Prop := ∀ c ∈ cs.head?, isSpace c = false

/-- A text that does not end with white space. -/
def SolidEnd (cs : List Char) : Prop := ∀ c ∈ cs.getLast?, isSpace c = false

instance (cs : List Char) : Decidable (SolidStart cs) :=
  Option.decidableForallMem cs.head?

instance (cs : List Char) : Decidable (SolidEnd cs) :=
  Option.decidableForallMem cs.getLast?

theorem SolidStart.append {as : List Char} (h : SolidStart as) (hne : as ≠ []) (bs : List Char) :
    SolidStart (as ++ bs) := by
  obtain ⟨c, rest, rfl⟩ := List.exists_cons_of_ne_nil hne
  exact h

theorem SolidStart.of_append {as bs : List Char} (ha : SolidStart as) (hb : SolidStart bs) :
    SolidStart (as ++ bs) := by
  by_cases hne : as = []
  · rwa [hne, List.nil_append]
  · exact ha.append hne bs

theorem SolidEnd.append {bs : List Char} (h : SolidEnd bs) (hne : bs ≠ []) (as : List Char) :
    SolidEnd (as ++ bs) := by
  intro c hc
  rw [List.getLast?_append_of_ne_nil as hne] at hc
  exact h c hc

theorem SolidEnd.of_append {as bs : List Char} (hb : SolidEnd bs) (ha : SolidEnd as) :
    SolidEnd (as ++ bs) := by
  by_cases hne : bs = []
  · rwa [hne, List.append_nil]
  · exact hb.append hne as

theorem SolidEnd.replicate {c : Char} (hc : isSpace c = false) (k : Nat) :
    SolidEnd (List.replicate k c) := by
  intro d hd
  rw [List.getLast?_replicate] at hd
  split at hd
  · cases hd
  · cases hd
    exact hc

theorem trimStart_eq_self {cs : List Char} (h : SolidStart cs) : trimStart cs = cs := by
  cases cs with
  | nil => rfl
  | cons c rest => rw [trimStart, List.dropWhile_cons_of_neg (by simp [h c rfl])]

theorem trimEnd_eq_self {cs : List Char} (h : SolidEnd cs) : trimEnd cs = cs := by
  have hr : SolidStart cs.reverse := by
    intro c hc
    rw [List.head?_reverse] at hc
    exact h c hc
  rw [trimEnd, ← trimStart, trimStart_eq_self hr, List.reverse_reverse]

theorem trim_eq_self {cs : List Char} (hs : SolidStart cs) (he : SolidEnd cs) : trim cs = cs := by
  rw [trim, trimStart_eq_self hs, trimEnd_eq_self he]

theorem trim_cons_space {c : Char} (h : isSpace c = true) (cs : List Char) :
    trim (c :: cs) = trim cs := by
  rw [trim, trimStart, List.dropWhile_cons_of_pos h]
  rfl

theorem trimEnd_append_space {c : Char} (h : isSpace c = true) (cs : List Char) :
    trimEnd (cs ++ [c]) = trimEnd cs := by
  rw [trimEnd, List.reverse_append, List.reverse_singleton, List.singleton_append,
    List.dropWhile_cons_of_pos h]
  rfl

theorem trim_append_space {c : Char} (h : isSpace c = true) (cs : List Char) :
    trim (cs ++ [c]) = trim cs := by
  rw [trim, trim, trimStart, trimStart, List.dropWhile_append]
  split
  next hnil =>
    rw [List.isEmpty_iff] at hnil
    rw [hnil, List.dropWhile_cons_of_pos h]
    rfl
  next => exact trimEnd_append_space h _

theorem solidStart_trimStart (cs : List Char) : SolidStart (trimStart cs) := by
  intro c hc
  have hdropped := List.head?_dropWhile_not isSpace cs
  rw [trimStart] at hc
  rw [hc] at hdropped
  simpa using hdropped

theorem solidEnd_trimEnd (cs : List Char) : SolidEnd (trimEnd cs) := by
  intro c hc
  rw [trimEnd, List.getLast?_reverse] at hc
  exact solidStart_trimStart cs.reverse c hc

theorem solidStart_trimEnd {cs : List Char} (h : SolidStart cs) : SolidStart (trimEnd cs) := by
  intro c hc
  have hprefix : trimEnd cs <+: cs := by
    have hsuffix := List.dropWhile_suffix (l := cs.reverse) isSpace
    rw [← List.reverse_prefix, List.reverse_reverse] at hsuffix
    exact hsuffix
  obtain ⟨after, hafter⟩ := hprefix
  refine h c ?_
  rw [← hafter, Option.mem_def, List.head?_append]
  rw [Option.mem_def] at hc
  rw [hc]
  rfl

theorem solidStart_trim (cs : List Char) : SolidStart (trim cs) :=
  solidStart_trimEnd (solidStart_trimStart cs)

theorem solidEnd_trim (cs : List Char) : SolidEnd (trim cs) := solidEnd_trimEnd (trimStart cs)

end Text

namespace Clause

/-! ## Tightening -/

/-- A text without white space directly in front of a closing bracket. -/
def NoGap (cs : List Char) : Prop := cs.IsChain fun a b => isSpace a = true → b ≠ ')'

instance (cs : List Char) : Decidable (NoGap cs) := inferInstanceAs (Decidable (cs.IsChain _))

theorem tighten_eq_self {cs : List Char} (h : NoGap cs) : tighten cs = cs := by
  induction cs with
  | nil => rfl
  | cons c rest ih =>
      obtain ⟨hhead, hrest⟩ := List.isChain_cons.1 h
      rw [tighten_cons, ih hrest]
      intro hspace more hmore
      rw [ih hrest] at hmore
      subst hmore
      exact hhead ')' rfl hspace rfl

/-- Gaps are only looked for where a closing bracket is. -/
theorem noGap_of_not_mem {cs : List Char} (h : ')' ∉ cs) : NoGap cs := by
  induction cs with
  | nil => exact List.isChain_nil
  | cons c rest ih =>
      simp only [List.mem_cons, not_or] at h
      refine List.isChain_cons.2 ⟨fun d hd _ he => h.2 ?_, ih h.2⟩
      exact he ▸ List.mem_of_mem_head? hd

theorem noGap_replicate (k : Nat) : NoGap (List.replicate k ')') := by
  induction k with
  | zero => exact List.isChain_nil
  | succ k ih =>
      refine List.isChain_cons.2 ⟨fun _ _ hspace => ?_, ih⟩
      simp [isSpace] at hspace

/-- Behind a solid end no gap opens. -/
theorem NoGap.append {as bs : List Char} (ha : NoGap as) (hb : NoGap bs)
    (hsolid : Text.SolidEnd as) : NoGap (as ++ bs) := by
  refine List.IsChain.append ha hb fun c hc _ _ hspace => ?_
  rw [hsolid c hc] at hspace
  cases hspace

/-! ## Qualifying -/

theorem qualify_cons_space {c : Char} (h : isSpace c = true) (cs : List Char) :
    qualify (c :: cs) = qualify cs := by
  rw [qualify, qualify, Text.trim_cons_space h]

theorem qualify_append_space {c : Char} (h : isSpace c = true) (cs : List Char) :
    qualify (cs ++ [c]) = qualify cs := by
  rw [qualify, qualify, Text.trim_append_space h]

/-- A clause without an opening bracket gets the qualifier in front. -/
theorem qualify_of_no_bracket {cs : List Char} (hs : Text.SolidStart cs) (he : Text.SolidEnd cs)
    (hopen : '(' ∉ cs) (hgap : NoGap cs) : qualify cs = qualifier ++ cs := by
  have htight : tighten (qualifier ++ cs) = qualifier ++ cs := by
    refine tighten_eq_self (NoGap.append (noGap_of_not_mem (by decide)) hgap ?_)
    intro c hc
    cases hc
    decide
  rw [qualify, Text.trim_eq_self hs he, if_neg (by simpa using hopen)]
  split
  · exact htight
  · rfl

/-- A clause with an opening bracket gets the qualifier behind the first one. -/
theorem qualify_of_bracket {as bs : List Char} (hopen : '(' ∉ as)
    (hs : Text.SolidStart (as ++ '(' :: bs)) (he : Text.SolidEnd (as ++ '(' :: bs))
    (hb : Text.SolidStart bs) (hgap : NoGap (as ++ '(' :: qualifier ++ bs)) :
    qualify (as ++ '(' :: bs) = as ++ '(' :: qualifier ++ bs := by
  have hnot : ∀ c ∈ as, decide (c ≠ '(') = true := by
    intro c hc
    simp only [decide_eq_true_eq]
    rintro rfl
    exact hopen hc
  have hbehind : qualifyBehindBracket (as ++ '(' :: bs) = as ++ '(' :: qualifier ++ bs := by
    rw [qualifyBehindBracket, List.dropWhile_append_of_pos hnot, List.takeWhile_append_of_pos hnot]
    simp [Text.trimStart_eq_self hb]
  rw [qualify, Text.trim_eq_self hs he, if_pos (by simp), hbehind, tighten_eq_self hgap]

/-! ## Solid ends

Whatever the clause was, its qualified form has nothing left to trim.
-/

theorem getLast?_tighten (cs : List Char) : (tighten cs).getLast? = cs.getLast? := by
  induction cs with
  | nil => rfl
  | cons c rest ih =>
      by_cases hgap : isSpace c = true ∧ ∃ more, tighten rest = ')' :: more
      · obtain ⟨hspace, more, hmore⟩ := hgap
        have hne : rest ≠ [] := by
          rintro rfl
          cases hmore
        rw [tighten_cons_space hspace hmore, ih, List.getLast?_cons_of_ne_nil hne]
      · rw [tighten_cons fun hspace more hmore => hgap ⟨hspace, more, hmore⟩, List.getLast?_cons,
          List.getLast?_cons, ih]

theorem solidStart_tighten {cs : List Char} (h : Text.SolidStart cs) :
    Text.SolidStart (tighten cs) := by
  cases cs with
  | nil => exact h
  | cons c rest =>
      have hsolid : isSpace c = false := h c rfl
      rw [tighten_cons fun hspace => by simp [hsolid] at hspace]
      exact h

theorem solidEnd_tighten {cs : List Char} (h : Text.SolidEnd cs) : Text.SolidEnd (tighten cs) := by
  intro c hc
  rw [getLast?_tighten] at hc
  exact h c hc

theorem solidEnd_qualifier : Text.SolidEnd qualifier := by
  intro c hc
  cases hc
  decide

/-- What an opening bracket opens in a text, and what stands in front of it. -/
theorem qualifyBehindBracket_cases (cs : List Char) :
    qualifyBehindBracket cs = cs ∨ ∃ before rest, cs = before ++ '(' :: rest ∧
      qualifyBehindBracket cs = before ++ '(' :: (qualifier ++ Text.trimStart rest) := by
  unfold qualifyBehindBracket
  split
  next bracket rest hdrop =>
    have hbracket : bracket = '(' := by
      have hhead := List.head?_dropWhile_not (fun c => decide (c ≠ '(')) cs
      rw [hdrop] at hhead
      simpa using hhead
    subst hbracket
    refine .inr ⟨cs.takeWhile (· ≠ '('), rest, ?_, ?_⟩
    · rw [← hdrop, List.takeWhile_append_dropWhile]
    · simp
  next => exact .inl rfl

theorem solidStart_qualifyBehindBracket {cs : List Char} (h : Text.SolidStart cs) :
    Text.SolidStart (qualifyBehindBracket cs) := by
  obtain hsame | ⟨before, rest, hcs, hqualified⟩ := qualifyBehindBracket_cases cs
  · rwa [hsame]
  · rw [hqualified]
    cases before with
    | nil =>
        intro c hc
        cases hc
        decide
    | cons d before =>
        rw [hcs] at h
        exact h

theorem solidEnd_qualifyBehindBracket {cs : List Char} (h : Text.SolidEnd cs) :
    Text.SolidEnd (qualifyBehindBracket cs) := by
  obtain hsame | ⟨before, rest, hcs, hqualified⟩ := qualifyBehindBracket_cases cs
  · rwa [hsame]
  · have htrimmed : Text.SolidEnd (Text.trimStart rest) := by
      intro c hc
      have hsuffix : Text.trimStart rest <:+ rest := List.dropWhile_suffix _
      obtain ⟨dropped, hdropped⟩ := hsuffix
      refine h c ?_
      rw [hcs, ← hdropped, List.getLast?_append_of_ne_nil _ (by simp), ← List.cons_append]
      have hne : Text.trimStart rest ≠ [] := by
        rintro hnil
        rw [hnil] at hc
        cases hc
      rwa [List.getLast?_append_of_ne_nil _ hne]
    rw [hqualified]
    have hopened := (htrimmed.of_append solidEnd_qualifier).append (by simp [qualifier]) ['(']
    exact Text.SolidEnd.append hopened (by simp) before

theorem solid_qualify (cs : List Char) :
    Text.SolidStart (qualify cs) ∧ Text.SolidEnd (qualify cs) := by
  have hstart : Text.SolidStart (Text.trim cs) := Text.solidStart_trim cs
  have hend : Text.SolidEnd (Text.trim cs) := Text.solidEnd_trim cs
  have hqualifier : Text.SolidStart (qualifier ++ Text.trim cs) := by
    intro c hc
    cases hc
    decide
  rw [qualify]
  split
  · exact ⟨solidStart_tighten (solidStart_qualifyBehindBracket hstart),
      solidEnd_tighten (solidEnd_qualifyBehindBracket hend)⟩
  · split
    · exact ⟨solidStart_tighten hqualifier, solidEnd_tighten (hend.of_append solidEnd_qualifier)⟩
    · exact ⟨hqualifier, hend.of_append solidEnd_qualifier⟩

theorem trim_qualify (cs : List Char) : Text.trim (qualify cs) = qualify cs :=
  Text.trim_eq_self (solid_qualify cs).1 (solid_qualify cs).2

end Clause

end DocQuery
