import DocQuery.Text.LowerCase
import Mathlib.Data.List.Count
import Mathlib.Data.List.Infix

/-!
# Lower case, lengths and repetition

What lower-casing does to the length of a text, and what it does the second time.

*Length.*  One letter alone becomes longer, the capital i with a dot.  So a text grows by the number
of dotted letters in it (`length_lower`), whatever stands around its sigmas.  Two beginnings of one
text that have the same lower case are therefore the same beginning (`eq_of_lower_eq`), and texts
with the same lower case are of one length exactly when they hold as many dotted letters
(`length_eq_iff_of_lower_eq`).

*Again.*  The lower case of a text is settled: it holds no character that lower-casing would move
(`settled_of_mem_lower`), so lower-casing it changes nothing (`lower_lower`).  For the table this is
a matter of its runs two by two.  What a run leads to lies outside every run, or else between the
members of one that takes every second character (`Run.apart`).
-/

namespace DocQuery

/-! ## Runs of the table -/

namespace CaseTable

namespace Run

/-- The code point that a member of a run goes to. -/
def target (run : Run) (code : Nat) : Nat := (code + run.shift).toNat

/-- Whether the targets of a run lie outside another run, or between its members. -/
def apart (run other : Run) : Bool :=
  -- `Nat.blt` because this is evaluated for all pairs of runs.
  Nat.blt (run.target run.last) other.first || (Nat.blt other.last (run.target run.first) ||
    other.step == 2 && (run.step == 2 || run.first == run.last) &&
      (run.target run.first + other.first) % 2 == 1)

/-- Whether the targets of a run are characters, and not the dotted letter. -/
def sound (run : Run) : Bool :=
  decide (0 < run.first + run.shift) &&
    (Nat.blt (run.target run.last) 0x130 || Nat.blt 0x130 (run.target run.first)) &&
    (Nat.blt (run.target run.last) 0xd800 ||
      Nat.blt 0xdfff (run.target run.first) && Nat.blt (run.target run.last) 0x110000)

theorem has_iff {run : Run} {code : Nat} :
    run.has code = true ↔
      run.first ≤ code ∧ code ≤ run.last ∧ (code - run.first) % run.step = 0 := by
  simp [has, and_assoc]

variable {run other : Run} {code : Nat}

/-- A target of a run lies between the first and the last one. -/
theorem target_bounds (hsound : run.sound = true) (h : run.has code = true) :
    run.target code + run.first = run.target run.first + code ∧
      run.target run.first ≤ run.target code ∧
      run.target code ≤ run.target run.last := by
  obtain ⟨hfirst, hlast, -⟩ := has_iff.1 h
  simp only [sound, Bool.and_eq_true, decide_eq_true_eq] at hsound
  have hpos := hsound.1.1
  rw [target, target, target]
  omega

/-- What a run leads to is a character, and not the dotted letter. -/
theorem target_valid (hsound : run.sound = true) (h : run.has code = true) :
    (run.target code).isValidChar ∧ run.target code ≠ 0x130 := by
  obtain ⟨-, hlow, hhigh⟩ := target_bounds hsound h
  simp only [sound, Bool.and_eq_true, Bool.or_eq_true, Nat.blt_eq] at hsound
  obtain ⟨⟨-, hdotted⟩, hvalid⟩ := hsound
  refine ⟨?_, by omega⟩
  rw [Nat.isValidChar]
  omega

/-- What a run leads to is no member of a run that it lies apart from. -/
theorem not_has_target (hsound : run.sound = true) (hapart : run.apart other = true)
    (h : run.has code = true) : other.has (run.target code) = false := by
  obtain ⟨hdistance, hlow, hhigh⟩ := target_bounds hsound h
  obtain ⟨hfirst, hlast, hstep⟩ := has_iff.1 h
  rw [Bool.eq_false_iff, Ne, has_iff]
  rintro ⟨hfirst', hlast', hstep'⟩
  simp only [apart, Bool.or_eq_true, Nat.blt_eq, Bool.and_eq_true, beq_iff_eq] at hapart
  rcases hapart with hbelow | habove | ⟨⟨htwo, hrun⟩, hodd⟩
  · omega
  · omega
  · -- The targets all lie at an odd distance from the first member of the other run.
    rw [htwo] at hstep'
    rcases hrun with hrun | hrun
    · rw [hrun] at hstep
      omega
    · omega

end Run

theorem sound_of_mem : ∀ run ∈ lowerRuns, run.sound = true := by decide +kernel

theorem apart_of_mem {run other : Run} (hrun : run ∈ lowerRuns) (hother : other ∈ lowerRuns) :
    run.apart other = true := by
  have hall : (lowerRuns.all fun run => lowerRuns.all run.apart) = true := by decide +kernel
  exact List.all_eq_true.1 (List.all_eq_true.1 hall run hrun) other hother

end CaseTable

namespace Text

/-! ## Length -/

/-- The capital i with a dot. -/
def dottedCapital : Char := Char.ofNat 0x130

/-- The dot above a letter, as a character of its own. -/
def combiningDot : Char := Char.ofNat 0x307

/-- The number of dotted letters in a text. -/
def dots (cs : List Char) : Nat := cs.count dottedCapital

theorem toNat_eq_dotted {c : Char} : c.toNat = 0x130 ↔ c = dottedCapital := by
  rw [← Char.toNat_inj]
  rfl

theorem length_lowerChar (c : Char) :
    (lowerChar c).length = 1 + if c = dottedCapital then 1 else 0 := by
  rw [lowerChar]
  simp only [toNat_eq_dotted]
  split
  next => rfl
  next =>
    split
    next => rfl
    next => rfl

theorem length_lowerAfter (before cs : List Char) :
    (lowerAfter before cs).length = cs.length + dots cs := by
  induction cs generalizing before with
  | nil => rfl
  | cons c rest ih =>
      rw [lowerAfter, List.length_append, ih, dots, dots, List.count_cons, List.length_cons]
      split
      next hsigma =>
        subst hsigma
        have hdotted : (capitalSigma == dottedCapital) = false := by decide
        simp only [hdotted, List.length_singleton, Bool.false_eq_true, if_false]
        omega
      next =>
        rw [length_lowerChar]
        simp only [beq_iff_eq]
        omega

/-- A text grows by the number of dotted letters in it. -/
theorem length_lower (cs : List Char) : (lower cs).length = cs.length + dots cs :=
  length_lowerAfter [] cs

theorem lower_eq_nil {cs : List Char} : lower cs = [] ↔ cs = [] := by
  rw [← List.length_eq_zero_iff, length_lower, Nat.add_eq_zero_iff, List.length_eq_zero_iff]
  exact ⟨And.left, fun h => ⟨h, by rw [h]; rfl⟩⟩

section

variable {cs s t : List Char}

theorem length_eq_iff_of_lower_eq (h : lower s = lower t) :
    s.length = t.length ↔ dots s = dots t := by
  have hlength := congrArg List.length h
  rw [length_lower, length_lower] at hlength
  omega

theorem eq_of_prefix_of_lower_eq (hfront : s <+: t) (h : lower s = lower t) : s = t := by
  have hdots : dots s ≤ dots t := hfront.sublist.count_le _
  have hshort := hfront.length_le
  have hlength := congrArg List.length h
  rw [length_lower, length_lower] at hlength
  exact hfront.eq_of_length (by omega)

/-- Two beginnings of one text that have the same lower case are the same. -/
theorem eq_of_lower_eq (hs : s <+: cs) (ht : t <+: cs) (h : lower s = lower t) : s = t := by
  rcases List.prefix_or_prefix_of_prefix hs ht with hfront | hfront
  · exact eq_of_prefix_of_lower_eq hfront h
  · exact (eq_of_prefix_of_lower_eq hfront h.symm).symm

end

/-- A dotted letter leaves a combining dot behind. -/
theorem dot_mem_lowerAfter {cs : List Char} (before : List Char) (h : dottedCapital ∈ cs) :
    combiningDot ∈ lowerAfter before cs := by
  induction cs generalizing before with
  | nil => cases h
  | cons c rest ih =>
      rw [lowerAfter, List.mem_append]
      rcases List.mem_cons.1 h with rfl | hrest
      · have hchar : combiningDot ∈ lowerChar dottedCapital := by decide +kernel
        have hsigma : dottedCapital ≠ capitalSigma := by decide
        exact .inl (by rwa [if_neg hsigma])
      · exact .inr (ih _ hrest)

/-! ## Lower-casing again -/

/-- A character that lower-casing leaves where it is, whatever stands around it. -/
def Settled (c : Char) : Prop := c ≠ capitalSigma ∧ lowerChar c = [c]

instance (c : Char) : Decidable (Settled c) := inferInstanceAs (Decidable (_ ∧ _))

/-- A character outside every run is settled, but for the dotted letter. -/
theorem settled_of_not_has {c : Char} (hdotted : c.toNat ≠ 0x130)
    (h : ∀ run ∈ CaseTable.lowerRuns, run.has c.toNat = false) : Settled c := by
  constructor
  · rintro rfl
    have hhas : (CaseTable.lowerRuns.any fun run => run.has capitalSigma.toNat) = true := by
      decide +kernel
    obtain ⟨run, hrun, hmember⟩ := List.any_eq_true.1 hhas
    exact Bool.false_ne_true ((h run hrun).symm.trans hmember)
  · have hnone : CaseTable.lowerRuns.find? (fun run => run.has c.toNat) = none :=
      List.find?_eq_none.2 fun run hrun => Bool.eq_false_iff.1 (h run hrun)
    rw [lowerChar, if_neg hdotted, hnone]

theorem settled_target {run : CaseTable.Run} (hrun : run ∈ CaseTable.lowerRuns) {code : Nat}
    (h : run.has code = true) : Settled (Char.ofNat (run.target code)) := by
  have hsound := CaseTable.sound_of_mem run hrun
  obtain ⟨hvalid, hdotted⟩ := CaseTable.Run.target_valid hsound h
  have hcode : (Char.ofNat (run.target code)).toNat = run.target code := by
    rw [Char.ofNat, dif_pos hvalid]
    rfl
  refine settled_of_not_has (by rwa [hcode]) fun other hother => ?_
  rw [hcode]
  exact CaseTable.Run.not_has_target hsound (CaseTable.apart_of_mem hrun hother) h

theorem settled_of_mem_lowerChar {c d : Char} (hc : c ≠ capitalSigma) (hd : d ∈ lowerChar c) :
    Settled d := by
  rw [lowerChar] at hd
  split at hd
  next =>
    have hparts : Settled 'i' ∧ Settled combiningDot := by decide +kernel
    rcases List.mem_cons.1 hd with rfl | hd
    · exact hparts.1
    · obtain rfl := List.mem_singleton.1 hd
      exact hparts.2
  next hdotted =>
    split at hd
    next run hrun =>
      have hhas : run.has c.toNat = true := by simpa using List.find?_some hrun
      obtain rfl := List.mem_singleton.1 hd
      exact settled_target (List.mem_of_find?_eq_some hrun) hhas
    next hnone =>
      obtain rfl := List.mem_singleton.1 hd
      exact settled_of_not_has hdotted fun run hrun =>
        Bool.eq_false_iff.2 (List.find?_eq_none.1 hnone run hrun)

theorem settled_of_mem_lowerAfter {before cs : List Char} {d : Char}
    (hd : d ∈ lowerAfter before cs) : Settled d := by
  induction cs generalizing before with
  | nil => cases hd
  | cons c rest ih =>
      rw [lowerAfter, List.mem_append] at hd
      rcases hd with hd | hd
      · split at hd
        next =>
          have hsigmas : Settled finalSigma ∧ Settled smallSigma := by decide +kernel
          obtain rfl := List.mem_singleton.1 hd
          split
          next => exact hsigmas.1
          next => exact hsigmas.2
        next hsigma => exact settled_of_mem_lowerChar hsigma hd
      · exact ih hd

/-- Lower case holds settled characters only. -/
theorem settled_of_mem_lower {cs : List Char} : ∀ d ∈ lower cs, Settled d :=
  fun _ => settled_of_mem_lowerAfter

theorem lowerAfter_of_settled {cs : List Char} (before : List Char) (h : ∀ c ∈ cs, Settled c) :
    lowerAfter before cs = cs := by
  induction cs generalizing before with
  | nil => rfl
  | cons c rest ih =>
      obtain ⟨⟨hsigma, hchar⟩, hrest⟩ := List.forall_mem_cons.1 h
      rw [lowerAfter, if_neg hsigma, hchar, ih _ hrest, List.singleton_append]

/-- Lower-casing lower case changes nothing. -/
theorem lower_lower (cs : List Char) : lower (lower cs) = lower cs :=
  lowerAfter_of_settled [] settled_of_mem_lower

theorem dots_lower (cs : List Char) : dots (lower cs) = 0 := by
  refine List.count_eq_zero.2 fun hmem => ?_
  exact absurd (settled_of_mem_lower _ hmem) (by decide +kernel)

end Text

end DocQuery
