import DocQuery.Proofs.Split
import DocQuery.Proofs.WrittenText

/-!
# Brackets in a clause

Two equations say what qualifying makes of any clause.  Without an opening bracket the `d.`
goes in front (`qualify_of_not_mem`), and with one it goes behind the first
(`qualify_of_opener`); the rest is trimmed and tightened as it stands.

So the first opening bracket of a clause decides, whatever it stands for.  A clause that has
nothing to trim is prefixed and otherwise kept exactly when it has no opening bracket and no
gap in front of a closing one (`qualify_eq_prefixed_iff`).
-/

namespace DocQuery

namespace Text

/-! ## Trimming around a character -/

theorem trimEnd_cons {c : Char} (h : isSpace c = false) (cs : List Char) :
    trimEnd (c :: cs) = c :: trimEnd cs := by
  rw [trimEnd, trimEnd, List.reverse_cons, List.dropWhile_append]
  split
  next hnil =>
    rw [List.isEmpty_iff] at hnil
    rw [hnil, List.dropWhile_cons_of_neg (by simp [h])]
    rfl
  next => simp

theorem trimEnd_append {c : Char} (h : isSpace c = false) (as bs : List Char) :
    trimEnd (as ++ c :: bs) = as ++ c :: trimEnd bs := by
  have hkept : ((c :: bs).reverse.dropWhile isSpace).isEmpty = false := by
    have hcons := trimEnd_cons h bs
    rw [List.isEmpty_eq_false_iff, ← List.reverse_ne_nil_iff]
    exact fun hnil => by rw [trimEnd, hnil] at hcons; cases hcons
  rw [trimEnd, List.reverse_append, List.dropWhile_append, hkept, if_neg (by simp),
    List.reverse_append, List.reverse_reverse, ← trimEnd, trimEnd_cons h]

theorem trimStart_append {c : Char} (h : isSpace c = false) (as bs : List Char) :
    trimStart (as ++ c :: bs) = trimStart as ++ c :: bs := by
  rw [trimStart, trimStart, List.dropWhile_append, List.dropWhile_cons_of_neg (by simp [h])]
  split
  next hnil => rw [List.isEmpty_iff.1 hnil, List.nil_append]
  next => rfl

/-- Trimming at a character that is no white space goes on at both sides of it. -/
theorem trim_append {c : Char} (h : isSpace c = false) (as bs : List Char) :
    trim (as ++ c :: bs) = trimStart as ++ c :: trimEnd bs := by
  rw [trim, trimStart_append h, trimEnd_append h]

/-- What trimming at the end cuts off. -/
theorem exists_trimEnd (cs : List Char) :
    ∃ after, (∀ c ∈ after, isSpace c = true) ∧ cs = trimEnd cs ++ after := by
  refine ⟨(cs.reverse.takeWhile isSpace).reverse, fun c hc => ?_, ?_⟩
  · exact List.mem_takeWhile_imp (List.mem_reverse.1 hc)
  · rw [trimEnd, ← List.reverse_append, List.takeWhile_append_dropWhile, List.reverse_reverse]

theorem trimStart_blank {cs : List Char} (h : ∀ c ∈ cs, isSpace c = true) : trimStart cs = [] :=
  List.dropWhile_eq_nil_iff.2 h

/-- The two ends are trimmed in any order. -/
theorem trimStart_trimEnd (cs : List Char) : trimStart (trimEnd cs) = trim cs := by
  cases hstart : trimStart cs with
  | nil =>
      have hblank : ∀ c ∈ cs, isSpace c = true := List.dropWhile_eq_nil_iff.1 hstart
      obtain ⟨after, -, hcs⟩ := exists_trimEnd cs
      rw [trim, hstart, trimStart_blank fun c hc => hblank c (by rw [hcs]; simp [hc])]
      rfl
  | cons c rest =>
      have hsolid : isSpace c = false := solidStart_trimStart cs c (by rw [hstart]; rfl)
      have hcs : cs = cs.takeWhile isSpace ++ c :: rest := by
        rw [← hstart, trimStart, List.takeWhile_append_dropWhile]
      have hbefore : trimStart (cs.takeWhile isSpace) = [] :=
        trimStart_blank fun d hd => List.mem_takeWhile_imp hd
      have hend : trimEnd cs = cs.takeWhile isSpace ++ c :: trimEnd rest := by
        conv_lhs => rw [hcs]
        exact trimEnd_append hsolid _ _
      rw [trim, hstart, trimEnd_cons hsolid, hend, trimStart_append hsolid, hbefore,
        List.nil_append]

end Text

namespace Clause

/-! ## Tightening around a character -/

theorem tighten_eq_nil {cs : List Char} (h : tighten cs = []) : cs = [] := by
  have hlast := getLast?_tighten cs
  rw [h] at hlast
  exact List.getLast?_eq_none_iff.1 hlast.symm

/-- Tightening goes on apart at both sides of a character that is no white space, unless it
closes a gap. -/
theorem tighten_append {c : Char} (hspace : isSpace c = false) {as : List Char}
    (hclose : c = ')' → Text.SolidEnd as) (bs : List Char) :
    tighten (as ++ c :: bs) = tighten as ++ c :: tighten bs := by
  induction as with
  | nil => exact tighten_cons fun h => absurd h (by simp [hspace])
  | cons d rest ih =>
      have hrest : tighten (rest ++ c :: bs) = tighten rest ++ c :: tighten bs := by
        refine ih fun hc e he => hclose hc e ?_
        rw [Option.mem_def] at he ⊢
        rw [List.getLast?_cons, he]
        rfl
      by_cases hgap : isSpace d = true ∧ ∃ more, tighten rest = ')' :: more
      · obtain ⟨hd, more, hmore⟩ := hgap
        have hboth : tighten (rest ++ c :: bs) = ')' :: (more ++ c :: tighten bs) := by
          rw [hrest, hmore, List.cons_append]
        rw [List.cons_append, tighten_cons_space hd hboth, tighten_cons_space hd hmore, hrest]
      · have hleft : tighten (d :: rest) = d :: tighten rest :=
          tighten_cons fun hd more hmore => hgap ⟨hd, more, hmore⟩
        rw [List.cons_append, hleft, List.cons_append, ← hrest]
        refine tighten_cons fun hd more hmore => ?_
        rw [hrest] at hmore
        cases htight : tighten rest with
        | nil =>
            -- so the white space is the end of the text in front of the character
            rw [htight] at hmore
            have hsolid := hclose (List.cons.inj hmore).1 d (by rw [tighten_eq_nil htight]; rfl)
            rw [hsolid] at hd
            cases hd
        | cons e tight =>
            rw [htight] at hmore
            exact hgap ⟨hd, tight, by rw [htight, (List.cons.inj hmore).1]⟩

theorem tighten_prefixed (cs : List Char) :
    tighten (qualifier ++ cs) = qualifier ++ tighten cs := by
  have hdot : tighten (['d'] ++ '.' :: cs) = tighten ['d'] ++ '.' :: tighten cs :=
    tighten_append (by decide) (by simp) cs
  exact hdot

/-- What a text is tightened to behind some others goes by what it is tightened to alone. -/
theorem tighten_append_congr {xs ys : List Char} (h : tighten xs = tighten ys) (as : List Char) :
    tighten (as ++ xs) = tighten (as ++ ys) := by
  induction as with
  | nil => rwa [List.nil_append, List.nil_append]
  | cons c rest ih =>
      rw [List.cons_append, List.cons_append]
      by_cases hgap : isSpace c = true ∧ ∃ more, tighten (rest ++ xs) = ')' :: more
      · obtain ⟨hspace, more, hmore⟩ := hgap
        rw [tighten_cons_space hspace hmore, tighten_cons_space hspace (ih ▸ hmore), ih]
      · have hleft := tighten_cons fun hspace more hmore => hgap ⟨hspace, more, hmore⟩
        rw [ih] at hgap
        rw [hleft, tighten_cons fun hspace more hmore => hgap ⟨hspace, more, hmore⟩, ih]

theorem tighten_gap {blank : List Char} (h : ∀ c ∈ blank, isSpace c = true) (rest : List Char) :
    tighten (blank ++ ')' :: rest) = ')' :: tighten rest := by
  induction blank with
  | nil => exact tighten_cons fun hspace => absurd hspace (by decide)
  | cons c blank ih =>
      have hblank := ih fun d hd => h d (List.mem_cons_of_mem c hd)
      rw [List.cons_append, tighten_cons_space (h c List.mem_cons_self) hblank, hblank]

/-- A closing bracket behind a text closes the gap that trimming would cut off. -/
theorem tighten_trim_closer (cs : List Char) :
    tighten (Text.trim (cs ++ [')'])) = tighten (Text.trim cs) ++ [')'] := by
  have hclose : isSpace ')' = false := by decide
  obtain ⟨blank, hblank, hcs⟩ := Text.exists_trimEnd (Text.trimStart cs)
  have htrim : Text.trim (cs ++ [')']) = Text.trim cs ++ (blank ++ [')']) := by
    rw [Text.trim_append hclose, Text.trim, ← List.append_assoc, ← hcs]
    rfl
  have hgap : tighten (blank ++ [')']) = tighten [')'] := tighten_gap hblank []
  rw [htrim, tighten_append_congr hgap, tighten_append hclose fun _ => Text.solidEnd_trim cs]
  rfl

/-! ## What qualifying makes of a clause -/

/-- A clause without an opening bracket gets the qualifier in front. -/
theorem qualify_of_not_mem {cs : List Char} (h : '(' ∉ cs) :
    qualify cs = qualifier ++ tighten (Text.trim cs) := by
  have hopen : '(' ∉ Text.trim cs := fun hmem => h (Text.mem_trim hmem)
  rw [qualify, if_neg (by simpa using hopen)]
  split
  · exact tighten_prefixed _
  next hclose => rw [tighten_eq_self (noGap_of_not_mem (by simpa using hclose))]

/-- A clause with an opening bracket gets the qualifier behind the first one. -/
theorem qualify_of_opener {as : List Char} (h : '(' ∉ as) (bs : List Char) :
    qualify (as ++ '(' :: bs) =
      tighten (Text.trimStart as) ++ '(' :: (qualifier ++ tighten (Text.trim bs)) := by
  have hsolid : isSpace '(' = false := by decide
  have hnot : ∀ c ∈ Text.trimStart as, decide (c ≠ '(') = true := by
    intro c hc
    simp only [decide_eq_true_eq]
    rintro rfl
    exact h (List.dropWhile_subset _ hc)
  have hbehind : qualifyBehindBracket (Text.trimStart as ++ '(' :: Text.trimEnd bs) =
      Text.trimStart as ++ '(' :: (qualifier ++ Text.trim bs) := by
    rw [qualifyBehindBracket, List.dropWhile_append_of_pos hnot, List.takeWhile_append_of_pos hnot]
    simp [Text.trimStart_trimEnd]
  rw [qualify, Text.trim_append hsolid, if_pos (by simp), hbehind,
    tighten_append hsolid (by simp), tighten_prefixed]

theorem length_tighten_le (cs : List Char) : (tighten cs).length ≤ cs.length := by
  induction cs with
  | nil => exact Nat.le_refl 0
  | cons c rest ih =>
      by_cases hgap : isSpace c = true ∧ ∃ more, tighten rest = ')' :: more
      · obtain ⟨hspace, more, hmore⟩ := hgap
        rw [tighten_cons_space hspace hmore]
        exact Nat.le_succ_of_le ih
      · rw [tighten_cons fun hspace more hmore => hgap ⟨hspace, more, hmore⟩]
        exact Nat.succ_le_succ ih

/-- No qualifier comes to stand in front of a first opening bracket that had none. -/
theorem opener_ne_prefixed {as as' : List Char} (h : '(' ∉ as) (h' : '(' ∉ as')
    (hlength : as'.length ≤ as.length) (bs bs' : List Char) :
    as' ++ '(' :: bs' ≠ qualifier ++ (as ++ '(' :: bs) := by
  have hfront {cs : List Char} (hcs : '(' ∉ cs) (rest : List Char) :
      (cs ++ '(' :: rest).takeWhile (· ≠ '(') = cs := by
    have hnot : ∀ c ∈ cs, decide (c ≠ '(') = true := by
      intro c hc
      simp only [decide_eq_true_eq]
      rintro rfl
      exact hcs hc
    rw [List.takeWhile_append_of_pos hnot, List.takeWhile_cons_of_neg (by simp), List.append_nil]
  intro heq
  rw [← List.append_assoc] at heq
  have hsame := congrArg (List.takeWhile (· ≠ '(')) heq
  rw [hfront h', hfront (by simp [qualifier, h])] at hsame
  rw [hsame, List.length_append] at hlength
  exact absurd hlength (by simp [qualifier])

/-- What qualifying leaves has no gap. -/
theorem noGap_tighten (cs : List Char) : NoGap (tighten cs) := by
  induction cs with
  | nil => exact List.isChain_nil
  | cons c rest ih =>
      by_cases hgap : isSpace c = true ∧ ∃ more, tighten rest = ')' :: more
      · obtain ⟨hspace, more, hmore⟩ := hgap
        rwa [tighten_cons_space hspace hmore]
      · rw [tighten_cons fun hspace more hmore => hgap ⟨hspace, more, hmore⟩]
        refine List.isChain_cons.2 ⟨fun d hd hspace hclose => hgap ⟨hspace, ?_⟩, ih⟩
        obtain ⟨more, hmore⟩ := List.head?_eq_some_iff.1 hd
        exact ⟨more, by rw [hmore, hclose]⟩

theorem tighten_eq_self_iff {cs : List Char} : tighten cs = cs ↔ NoGap cs :=
  ⟨fun h => h ▸ noGap_tighten cs, tighten_eq_self⟩

/-- A clause that has nothing to trim is prefixed and otherwise kept exactly when it has no
opening bracket and no gap. -/
theorem qualify_eq_prefixed_iff {cs : List Char} (hs : Text.SolidStart cs)
    (he : Text.SolidEnd cs) : qualify cs = qualifier ++ cs ↔ '(' ∉ cs ∧ NoGap cs := by
  by_cases hopen : '(' ∈ cs
  · obtain ⟨as, bs, rfl, has⟩ := List.eq_append_cons_of_mem hopen
    simp only [hopen, not_true_eq_false, false_and, iff_false]
    rw [qualify_of_opener has]
    have hshort : (tighten (Text.trimStart as)).length ≤ as.length :=
      (length_tighten_le _).trans (List.dropWhile_suffix _).length_le
    refine opener_ne_prefixed has (fun hmem => has ?_) hshort _ _
    exact List.dropWhile_subset _ (mem_tighten hmem)
  · rw [qualify_of_not_mem hopen, Text.trim_eq_self hs he, List.append_cancel_left_eq,
      tighten_eq_self_iff]
    simp [hopen]

end Clause

end DocQuery
