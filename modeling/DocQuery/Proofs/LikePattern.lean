import DocQuery.Text.LowerCase
import Mathlib.Data.Bool.AllAny
import Mathlib.Data.List.Forall2
import Mathlib.Data.List.Infix

/-!
# Patterns

A pattern is compared with a whole text, without regard to case.  It is read as a row of *signs*:
`%` stands for any text, `_` for any one character, and every other character for itself.  A
backslash stands for the character behind it, whatever that is.

Which characters differ in case only is left open.  A `Casing` says it; all that is asked of one is
that a character is alike to itself, and that the characters with a meaning in patterns have no
case.  `Casing.unicode` goes by lower-case forms.

*Wrapping.*  A text between two `%` is looked for inside another (`wrapped`).  When it is written
without a backslash, what fits is a stretch that the text itself fits as a pattern
(`fits_wrapped_iff`), so a text is always found where it stands literally (`fits_of_contains`).
It is found nowhere else exactly when it is written without any character that has a meaning
(`fits_eq_contains_iff`).  The *skeleton* of any other text, its shortest fitting text, does not
hold it: an escape, an escaped end or a `%` makes the skeleton shorter or different, and a `_` is
filled with a character of its own.
-/

namespace DocQuery

namespace Like

/-! ## Signs -/

/-- A sign of a pattern. -/
inductive Sign where
  /-- Any text, the empty one included. -/
  | anyText
  /-- Any one character. -/
  | anyChar
  /-- A character, in either case. -/
  | exactly (c : Char)
deriving DecidableEq, Repr

/-- The characters with a meaning in patterns. -/
def specials : List Char := ['%', '_', '\\']

/-- A text that is written without those characters. -/
def Literal (cs : List Char) : Prop := ∀ c ∈ cs, c ∉ specials

instance (cs : List Char) : Decidable (Literal cs) :=
  List.decidableBAll (fun c => c ∉ specials) cs

/-- The sign of a character that no backslash stands before. -/
def Sign.ofChar (c : Char) : Sign :=
  if c = '%' then anyText else if c = '_' then anyChar else exactly c

/-- The signs of a pattern.  A backslash at the end stands for itself. -/
def signs : List Char → List Sign
  | [] => []
  | '\\' :: c :: rest => .exactly c :: signs rest
  | c :: rest => .ofChar c :: signs rest

/-- A text to be looked for inside another. -/
def wrapped (cs : List Char) : List Char := '%' :: (cs ++ ['%'])

theorem signs_cons_of_ne {c : Char} (h : c ≠ '\\') (rest : List Char) :
    signs (c :: rest) = .ofChar c :: signs rest := by
  rw [signs]
  rintro d more rfl
  exact absurd rfl h

theorem signs_append {cs : List Char} (h : '\\' ∉ cs) (ds : List Char) :
    signs (cs ++ ds) = cs.map Sign.ofChar ++ signs ds := by
  induction cs with
  | nil => rfl
  | cons c cs ih =>
      simp only [List.mem_cons, not_or] at h
      rw [List.cons_append, signs_cons_of_ne (Ne.symm h.1), ih h.2, List.map_cons,
        List.cons_append]

theorem Sign.ofChar_of_not_special {c : Char} (h : c ∉ specials) : ofChar c = exactly c := by
  simp only [specials, List.mem_cons, not_or] at h
  rw [ofChar, if_neg h.1, if_neg h.2.1]

theorem Literal.not_mem_escape {cs : List Char} (h : Literal cs) : '\\' ∉ cs :=
  fun hmem => h _ hmem (by decide)

theorem Literal.map_ofChar {cs : List Char} (h : Literal cs) :
    cs.map Sign.ofChar = cs.map Sign.exactly :=
  List.map_congr_left fun c hc => Sign.ofChar_of_not_special (h c hc)

/-! ## Case -/

/-- Which characters differ in case only. -/
structure Casing where
  /-- Whether two characters are the same, apart from their case. -/
  alike : Char → Char → Bool
  alike_self (c : Char) : alike c c = true
  /-- The characters with a meaning in patterns have no case. -/
  caseless {c d : Char} : c ∈ specials → alike c d = true → d = c

namespace Casing

/-- No run of the table leads to a character with a meaning in patterns. -/
theorem not_shifted_to_special : ∀ c ∈ specials, ∀ run ∈ CaseTable.lowerRuns,
    run.has ((c.toNat : Int) - run.shift).toNat = false :=
  List.all_iff_forall_prop.1 (by decide +kernel)

theorem toNat_special_pos : ∀ c ∈ specials, 0 < c.toNat := List.all_iff_forall_prop.1 (by decide)

theorem lower_special : ∀ c ∈ specials, Text.lower [c] = [c] :=
  List.all_iff_forall_prop.1 (by decide +kernel)

theorem toNat_eq_of_ofNat {n : Nat} {c : Char} (h : Char.ofNat n = c) (hc : 0 < c.toNat) :
    n = c.toNat := by
  subst h
  by_cases hn : n.isValidChar
  · rw [Char.ofNat, dif_pos hn]
    rfl
  · rw [Char.ofNat, dif_neg hn] at hc
    exact absurd hc (by decide)

/-- A character with a meaning in patterns is the lower-case form of itself alone. -/
theorem eq_of_lowerChar {c d : Char} (hc : c ∈ specials) (h : Text.lowerChar d = [c]) : d = c := by
  have hpos := toNat_special_pos c hc
  unfold Text.lowerChar at h
  split at h
  next => cases h
  next =>
    split at h
    next run hrun =>
      have hcode : ((d.toNat : Int) + run.shift).toNat = c.toNat :=
        toNat_eq_of_ofNat (List.singleton_inj.1 h) hpos
      have hd : ((c.toNat : Int) - run.shift).toNat = d.toNat := by omega
      have hmissed := not_shifted_to_special c hc run (List.mem_of_find?_eq_some hrun)
      rw [hd, List.find?_some hrun] at hmissed
      cases hmissed
    next => exact List.singleton_inj.1 h

theorem eq_of_lower {c d : Char} (hc : c ∈ specials) (h : Text.lower [d] = [c]) : d = c := by
  by_cases hsigma : d = Text.capitalSigma
  · -- The sigma in capitals stands alone, so it becomes the small one.
    subst hsigma
    have hsmall : Text.lower [Text.capitalSigma] = [Text.smallSigma] := by decide +kernel
    rw [hsmall] at h
    obtain rfl := List.singleton_inj.1 h
    exact absurd hc (by decide)
  · rw [Text.lower, Text.lowerAfter, if_neg hsigma, Text.lowerAfter, List.append_nil] at h
    exact eq_of_lowerChar hc h

/-- Characters are alike when they have the same lower-case form. -/
def unicode : Casing where
  alike c d := decide (Text.lower [c] = Text.lower [d])
  alike_self _ := decide_eq_true rfl
  caseless {c _} hc h := eq_of_lower hc ((of_decide_eq_true h).symm.trans (lower_special c hc))

/-! ## Fitting -/

variable (k : Casing)

/-- Whether a text fits a row of signs. -/
def fits : List Sign → List Char → Bool
  | [], cs => cs.isEmpty
  | .anyText :: rest, cs => cs.tails.any fun back => fits rest back
  | .anyChar :: rest, cs => match cs with
    | [] => false
    | _ :: cs => fits rest cs
  | .exactly c :: rest, cs => match cs with
    | [] => false
    | d :: cs => k.alike c d && fits rest cs
termination_by structural ss => ss

/-- Whether a text matches a pattern. -/
def matchesPattern (text pattern : String) : Bool := k.fits (signs pattern.toList) text.toList

/-- Whether a text holds another, in any case. -/
def Contains (cs part : List Char) : Prop :=
  ∃ front middle back, cs = front ++ (middle ++ back) ∧
    List.Forall₂ (fun c d => k.alike c d = true) part middle

variable {k}

theorem fits_nil {cs : List Char} : k.fits [] cs = true ↔ cs = [] := List.isEmpty_iff

theorem fits_anyText {rest : List Sign} {cs : List Char} :
    k.fits (.anyText :: rest) cs = true ↔
      ∃ front back, cs = front ++ back ∧ k.fits rest back = true := by
  rw [fits, List.any_eq_true]
  constructor
  · rintro ⟨back, htail, hback⟩
    obtain ⟨front, hfront⟩ := (List.mem_tails _ _).1 htail
    exact ⟨front, back, hfront.symm, hback⟩
  · rintro ⟨front, back, rfl, hback⟩
    exact ⟨back, (List.mem_tails _ _).2 (List.suffix_append front back), hback⟩

theorem fits_anyChar {rest : List Sign} {cs : List Char} :
    k.fits (.anyChar :: rest) cs = true ↔ ∃ d back, cs = d :: back ∧ k.fits rest back = true := by
  cases cs <;> simp [fits]

theorem fits_exactly {c : Char} {rest : List Sign} {cs : List Char} :
    k.fits (.exactly c :: rest) cs = true ↔
      ∃ d back, cs = d :: back ∧ k.alike c d = true ∧ k.fits rest back = true := by
  cases cs <;> simp [fits]

/-- A row of signs is fitted stretch by stretch. -/
theorem fits_append {ss ts : List Sign} {cs : List Char} :
    k.fits (ss ++ ts) cs = true ↔
      ∃ front back, cs = front ++ back ∧ k.fits ss front = true ∧ k.fits ts back = true := by
  induction ss generalizing cs with
  | nil => simp [fits_nil]
  | cons s ss ih =>
      rw [List.cons_append]
      cases s with
      | anyText =>
          simp only [fits_anyText, ih]
          constructor
          · rintro ⟨skipped, _, rfl, front, back, rfl, hfront, hback⟩
            exact ⟨skipped ++ front, back, (List.append_assoc ..).symm,
              ⟨skipped, front, rfl, hfront⟩, hback⟩
          · rintro ⟨_, back, rfl, ⟨skipped, front, rfl, hfront⟩, hback⟩
            exact ⟨skipped, front ++ back, List.append_assoc .., front, back, rfl, hfront, hback⟩
      | anyChar =>
          simp only [fits_anyChar, ih]
          constructor
          · rintro ⟨d, _, rfl, front, back, rfl, hfront, hback⟩
            exact ⟨d :: front, back, rfl, ⟨d, front, rfl, hfront⟩, hback⟩
          · rintro ⟨_, back, rfl, ⟨d, front, rfl, hfront⟩, hback⟩
            exact ⟨d, front ++ back, rfl, front, back, rfl, hfront, hback⟩
      | exactly c =>
          simp only [fits_exactly, ih]
          constructor
          · rintro ⟨d, _, rfl, hd, front, back, rfl, hfront, hback⟩
            exact ⟨d :: front, back, rfl, ⟨d, front, rfl, hd, hfront⟩, hback⟩
          · rintro ⟨_, back, rfl, ⟨d, front, rfl, hd, hfront⟩, hback⟩
            exact ⟨d, front ++ back, rfl, hd, front, back, rfl, hfront, hback⟩

theorem fits_anyText_last {cs : List Char} : k.fits [.anyText] cs = true :=
  fits_anyText.2 ⟨cs, [], (List.append_nil cs).symm, fits_nil.2 rfl⟩

theorem fits_map_exactly {part cs : List Char} :
    k.fits (part.map .exactly) cs = true ↔
      List.Forall₂ (fun c d => k.alike c d = true) part cs := by
  induction part generalizing cs with
  | nil => simp [fits_nil]
  | cons c part ih =>
      rw [List.map_cons, fits_exactly, List.forall₂_cons_left_iff]
      simp only [ih]
      constructor
      · rintro ⟨d, back, rfl, hd, hback⟩
        exact ⟨d, back, hd, hback, rfl⟩
      · rintro ⟨d, back, hd, hback, rfl⟩
        exact ⟨d, back, rfl, hd, hback⟩

/-- Whatever its characters mean, a text fits itself in any case. -/
theorem fits_map_ofChar {part cs : List Char}
    (h : List.Forall₂ (fun c d => k.alike c d = true) part cs) :
    k.fits (part.map Sign.ofChar) cs = true := by
  induction h with
  | nil => exact fits_nil.2 rfl
  | @cons c d part cs hcd _ ih =>
      rw [List.map_cons, Sign.ofChar]
      split
      · exact fits_anyText.2 ⟨[d], cs, rfl, ih⟩
      · split
        · exact fits_anyChar.2 ⟨d, cs, rfl, ih⟩
        · exact fits_exactly.2 ⟨d, cs, rfl, hcd, ih⟩

/-! ## Looking for a text inside another -/

theorem signs_wrapped (part : List Char) :
    signs (wrapped part) = .anyText :: signs (part ++ ['%']) := signs_cons_of_ne (by decide) _

/-- What fits a wrapped text without backslashes has a stretch that fits the text. -/
theorem fits_wrapped_iff {part cs : List Char} (h : '\\' ∉ part) :
    k.fits (signs (wrapped part)) cs = true ↔
      ∃ front middle back, cs = front ++ (middle ++ back) ∧
        k.fits (part.map Sign.ofChar) middle = true := by
  have hend : signs ['%'] = [.anyText] := rfl
  rw [signs_wrapped, signs_append h, hend, fits_anyText]
  simp only [fits_append, fits_anyText_last, and_true]
  constructor
  · rintro ⟨front, _, rfl, middle, back, rfl, hmiddle⟩
    exact ⟨front, middle, back, rfl, hmiddle⟩
  · rintro ⟨front, middle, back, rfl, hmiddle⟩
    exact ⟨front, _, rfl, middle, back, rfl, hmiddle⟩

/-- A text without backslashes is found wherever it stands. -/
theorem fits_of_contains {part cs : List Char} (h : '\\' ∉ part) (hcs : k.Contains cs part) :
    k.fits (signs (wrapped part)) cs = true := by
  obtain ⟨front, middle, back, rfl, hmiddle⟩ := hcs
  exact (fits_wrapped_iff h).2 ⟨front, middle, back, rfl, fits_map_ofChar hmiddle⟩

theorem fits_iff_contains_of_literal {part cs : List Char} (h : Literal part) :
    k.fits (signs (wrapped part)) cs = true ↔ k.Contains cs part := by
  rw [fits_wrapped_iff h.not_mem_escape, h.map_ofChar]
  simp only [fits_map_exactly, Contains]

/-- A text that holds one at least as long is that text. -/
theorem forall₂_of_contains {part cs : List Char} (h : k.Contains cs part)
    (hlength : cs.length ≤ part.length) :
    List.Forall₂ (fun c d => k.alike c d = true) part cs := by
  obtain ⟨front, middle, back, rfl, hmiddle⟩ := h
  have hsame := hmiddle.length_eq
  simp only [List.length_append] at hlength
  obtain rfl : front = [] := List.length_eq_zero_iff.1 (by omega)
  obtain rfl : back = [] := List.length_eq_zero_iff.1 (by omega)
  rwa [List.nil_append, List.append_nil]

/-! ## The skeleton -/

end Casing

/-- The shortest text that fits a row of signs. -/
def shortest : List Sign → List Char
  | [] => []
  | .anyText :: rest => shortest rest
  | .anyChar :: rest => ' ' :: shortest rest
  | .exactly c :: rest => c :: shortest rest

namespace Casing

theorem fits_shortest (k : Casing) (ss : List Sign) : k.fits ss (shortest ss) = true := by
  induction ss with
  | nil => exact fits_nil.2 rfl
  | cons s ss ih =>
      cases s with
      | anyText => exact fits_anyText.2 ⟨[], _, rfl, ih⟩
      | anyChar => exact fits_anyChar.2 ⟨' ', _, rfl, ih⟩
      | exactly c => exact fits_exactly.2 ⟨c, _, rfl, k.alike_self c, ih⟩

/-- The shortest text that fits a wrapped text is no longer than that text, and stands for it
character by character only if no character has a meaning. -/
theorem shortest_signs (k : Casing) (part : List Char) :
    (shortest (signs (part ++ ['%']))).length ≤ part.length ∧
      (List.Forall₂ (fun c d => k.alike c d = true) part (shortest (signs (part ++ ['%']))) →
        Literal part) := by
  fun_induction signs part with
  | case1 => exact ⟨Nat.le_refl _, fun _ => List.forall_mem_nil _⟩
  | case2 c rest ih =>
      -- An escape takes two characters for one.
      have hshort : (shortest (signs (('\\' :: c :: rest) ++ ['%']))).length ≤ rest.length + 1 :=
        Nat.succ_le_succ ih.1
      refine ⟨by simp only [List.length_cons]; omega, fun h => ?_⟩
      have hsame := h.length_eq
      simp only [List.length_cons] at hsame
      omega
  | case3 c rest hother ih =>
      obtain ⟨hlength, hliteral⟩ := ih
      by_cases hescape : c = '\\'
      · -- A backslash at the end takes away the meaning of the `%` behind it.
        subst hescape
        obtain rfl : rest = [] := by
          cases rest with
          | nil => rfl
          | cons d more => exact (hother d more rfl rfl).elim
        have hpercent : shortest (signs (['\\'] ++ ['%'])) = ['%'] := rfl
        rw [hpercent]
        refine ⟨Nat.le_refl _, fun h => ?_⟩
        have halike := (List.forall₂_cons.1 h).1
        exact absurd (k.caseless (by decide) halike) (by decide)
      · rw [List.cons_append, signs_cons_of_ne hescape, Sign.ofChar]
        split
        next =>
          -- A `%` takes no character at all.
          refine ⟨Nat.le_succ_of_le hlength, fun h => ?_⟩
          have hsame := h.length_eq
          rw [List.length_cons, shortest] at hsame
          omega
        next hpercent =>
          split
          next hunderscore =>
            -- The character that fills a `_` is another one.
            subst hunderscore
            refine ⟨Nat.succ_le_succ hlength, fun h => ?_⟩
            have halike := (List.forall₂_cons.1 h).1
            exact absurd (k.caseless (by decide) halike) (by decide)
          next hunderscore =>
            refine ⟨Nat.succ_le_succ hlength, fun h => ?_⟩
            have hc : c ∉ specials := by simp [specials, hpercent, hunderscore, hescape]
            exact List.forall_mem_cons.2 ⟨hc, hliteral (List.forall₂_cons.1 h).2⟩

/-- A text is found exactly where it stands, whatever it is looked for in, if and only if none of
its characters has a meaning in patterns. -/
theorem fits_eq_contains_iff (k : Casing) (part : List Char) :
    (∀ cs, k.fits (signs (wrapped part)) cs = true ↔ k.Contains cs part) ↔ Literal part := by
  refine ⟨fun h => ?_, fun h cs => fits_iff_contains_of_literal h⟩
  obtain ⟨hlength, hliteral⟩ := k.shortest_signs part
  have hfits := k.fits_shortest (signs (wrapped part))
  rw [signs_wrapped, shortest, ← signs_wrapped] at hfits
  exact hliteral (forall₂_of_contains ((h _).1 hfits) hlength)

end Casing

end Like

end DocQuery
