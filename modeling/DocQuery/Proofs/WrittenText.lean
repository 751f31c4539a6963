import DocQuery.Filter.Compose
import DocQuery.Proofs.Placeholders

/-!
# Placeholders of written text

Text that a caller wrote reaches a query after some work on it.  A plain filter is
composed or trimmed, and a clause is qualified or trimmed; a prebuilt filter is only
trimmed.

* Qualifying and composing add no characters but those of `d.` and spaces
  (`mem_qualify`, `mem_compose`), so where the text has no sign, the outcome has none.
* Trimming loses and gains no placeholder, as no white space may stand in a name
  (`placeholders_trimmed`).
-/

namespace DocQuery

/-- White space is no sign and stands in no name. -/
theorem apart_of_isSpace {c : Char} (h : isSpace c = true) : c ≠ '@' ∧ isNameChar c = false := by
  constructor
  · rintro rfl
    revert h
    decide
  · by_contra hname
    have hchar := isNameChar_iff.1 (Bool.not_eq_false _ ▸ hname)
    simp only [Char.le_def, UInt32.le_iff_toNat_le] at hchar
    simp only [isSpace, Bool.or_eq_true, Bool.and_eq_true, decide_eq_true_eq, beq_iff_eq] at h
    have hval : c.val.toNat = c.toNat := rfl
    rcases hchar with hletter | hletter | hdigit | rfl
    · simp at hletter
      omega
    · simp at hletter
      omega
    · simp at hdigit
      omega
    · simp at h

/-! ## Trimming -/

/-- A text is what trimming leaves, between two stretches of white space. -/
theorem Text.trim_between (cs : List Char) :
    ∃ before after, (∀ c ∈ before, isSpace c = true) ∧ (∀ c ∈ after, isSpace c = true) ∧
      cs = before ++ (trim cs ++ after) := by
  refine ⟨cs.takeWhile isSpace, ((trimStart cs).reverse.takeWhile isSpace).reverse, ?_, ?_, ?_⟩
  · exact fun c hc => List.mem_takeWhile_imp hc
  · exact fun c hc => List.mem_takeWhile_imp (List.mem_reverse.1 hc)
  · have hend : trim cs ++ ((trimStart cs).reverse.takeWhile isSpace).reverse = trimStart cs := by
      rw [trim, trimEnd, ← List.reverse_append, List.takeWhile_append_dropWhile,
        List.reverse_reverse]
    rw [hend, trimStart, List.takeWhile_append_dropWhile]

theorem Text.mem_trim {c : Char} {cs : List Char} (h : c ∈ trim cs) : c ∈ cs := by
  obtain ⟨before, after, -, -, hcs⟩ := trim_between cs
  rw [hcs]
  exact List.mem_append_right before (List.mem_append_left after h)

/-- Trimming keeps the placeholders of a text. -/
theorem placeholders_trimmed (s : String) : placeholders (Text.trimmed s) = placeholders s := by
  obtain ⟨before, after, hbefore, hafter, hs⟩ := Text.trim_between s.toList
  have hnot {cs : List Char} (h : ∀ c ∈ cs, isSpace c = true) : '@' ∉ cs :=
    fun hc => (apart_of_isSpace (h '@' hc)).1 rfl
  have hapart : Apart after := fun c hc => apart_of_isSpace (hafter c (List.mem_of_mem_head? hc))
  have hright : placeholders s = mentions false (before ++ (Text.trim s.toList ++ after)) := by
    rw [placeholders, ← hs]
  rw [hright, mentions_skip (hnot hbefore), mentions_append _ hapart,
    mentions_of_not_mem (hnot hafter), List.append_nil, placeholders, Text.trimmed,
    String.toList_ofList]

/-! ## Qualifying and composing -/

namespace Clause

theorem mem_tighten {c : Char} {cs : List Char} (h : c ∈ tighten cs) : c ∈ cs := by
  induction cs with
  | nil => exact h
  | cons d rest ih =>
      by_cases hgap : isSpace d = true ∧ ∃ more, tighten rest = ')' :: more
      · obtain ⟨hspace, more, hmore⟩ := hgap
        rw [tighten_cons_space hspace hmore] at h
        exact List.mem_cons_of_mem d (ih h)
      · rw [tighten_cons fun hspace more hmore => hgap ⟨hspace, more, hmore⟩] at h
        rcases List.mem_cons.1 h with rfl | h
        · exact List.mem_cons_self
        · exact List.mem_cons_of_mem d (ih h)

theorem mem_qualifyBehindBracket {c : Char} {cs : List Char} (h : c ∈ qualifyBehindBracket cs) :
    c ∈ cs ∨ c ∈ qualifier := by
  unfold qualifyBehindBracket at h
  split at h
  next bracket rest hdrop =>
    have hsuffix : ∀ d ∈ bracket :: rest, d ∈ cs := by
      rw [← hdrop]
      exact fun d hd => List.dropWhile_subset _ hd
    simp only [List.mem_append, List.mem_cons] at h
    rcases h with ((h | h | h) | h)
    · exact .inl (List.takeWhile_subset _ h)
    · exact .inl (hsuffix c (h ▸ List.mem_cons_self))
    · exact .inr h
    · exact .inl (hsuffix c (List.mem_cons_of_mem bracket (List.dropWhile_subset _ h)))
  next => exact .inl h

/-- Qualifying adds nothing but the qualifier. -/
theorem mem_qualify {c : Char} {cs : List Char} (h : c ∈ qualify cs) : c ∈ cs ∨ c ∈ qualifier := by
  have htrim : c ∈ Text.trim cs ∨ c ∈ qualifier := by
    rw [qualify] at h
    split at h
    · exact mem_qualifyBehindBracket (mem_tighten h)
    · split at h
      · exact (List.mem_append.1 (mem_tighten h)).symm
      · exact (List.mem_append.1 h).symm
  exact htrim.imp_left Text.mem_trim

theorem mem_piecesFrom {c : Char} {cs : List Char} {cut : Nat} {found : List Located}
    {piece : List Char} (hpiece : piece ∈ piecesFrom cs cut found) (h : c ∈ piece) :
    c ∈ cs ∨ c ∈ qualifier := by
  induction found generalizing cut with
  | nil =>
      obtain rfl := List.mem_singleton.1 hpiece
      exact (mem_qualify h).imp_left fun h => List.mem_of_mem_drop h
  | cons located rest ih =>
      obtain ⟨index, operator⟩ := located
      rw [piecesFrom] at hpiece
      split at hpiece
      · exact ih hpiece
      · rcases List.mem_cons.1 hpiece with rfl | hpiece
        · exact (mem_qualify h).imp_left fun h =>
            List.mem_of_mem_take (List.mem_of_mem_drop h)
        · rcases List.mem_cons.1 hpiece with rfl | hpiece
          · exact .inl (List.mem_of_mem_drop (List.mem_of_mem_take h))
          · exact ih hpiece

/-- Composing adds nothing but qualifiers and spaces. -/
theorem mem_compose {c : Char} {cs : List Char} (h : c ∈ compose cs) :
    c ∈ cs ∨ c ∈ qualifier ∨ c = ' ' := by
  have hjoined (pieces : List (List Char)) (hc : c ∈ [' '].intercalate pieces) :
      c = ' ' ∨ ∃ piece ∈ pieces, c ∈ piece := by
    induction pieces with
    | nil => cases hc
    | cons piece rest ih =>
        cases rest with
        | nil => exact .inr ⟨piece, List.mem_cons_self, by simpa using hc⟩
        | cons next rest =>
            rw [List.intercalate_cons_cons, List.mem_append, List.mem_append] at hc
            rcases hc with (hc | hc) | hc
            · exact .inr ⟨piece, List.mem_cons_self, hc⟩
            · exact .inl (List.mem_singleton.1 hc)
            · exact (ih hc).imp_right fun ⟨p, hp, hc⟩ => ⟨p, List.mem_cons_of_mem piece hp, hc⟩
  rcases hjoined _ h with rfl | ⟨piece, hpiece, hc⟩
  · exact .inr (.inr rfl)
  · exact (mem_piecesFrom hpiece hc).imp_right .inl

end Clause

/-! ## Text without a sign -/

theorem placeholders_of_not_mem {s : String} (h : '@' ∉ s.toList) : placeholders s = [] :=
  mentions_of_not_mem h false

theorem placeholders_qualified {s : String} (h : '@' ∉ s.toList) :
    placeholders (Clause.qualified s) = [] := by
  refine placeholders_of_not_mem fun hc => ?_
  rw [Clause.qualified, String.toList_ofList] at hc
  rcases Clause.mem_qualify hc with hc | hc
  · exact h hc
  · revert hc
    decide

theorem placeholders_composed {s : String} (h : '@' ∉ s.toList) :
    placeholders (Clause.composed s) = [] := by
  refine placeholders_of_not_mem fun hc => ?_
  rw [Clause.composed, String.toList_ofList] at hc
  rcases Clause.mem_compose hc with hc | hc | hc
  · exact h hc
  · revert hc
    decide
  · revert hc
    decide

end DocQuery
