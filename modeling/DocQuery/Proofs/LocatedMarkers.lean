import DocQuery.Filter.Locate
import Mathlib.Data.List.FinRange
import Mathlib.Data.List.Sort
import Mathlib.Data.Prod.Lex

/-!
# What is located

An occurrence is told by where it begins and by which of the markers it is one: a *hit*.  Locating
several markers finds hits of them all and sorts them by position.

*One marker.*  The positions of a marker are the numbers at which the text, read as far as the
marker is long, compares equal to it (`mem_found`), each of them once and in ascending order
(`pairwise_found`).  Looking for the marker again from one past each occurrence comes by the same
positions, those of overlapping occurrences included (`locateOne_eq_searchFrom`); what the search
finds from a number on is what there is from that number on (`searchFrom_eq_filter`).

*Several markers.*  Sorting by position keeps the order of any part of a list that is in order
already (`filter_mergeSort`), so the hits at one position stay in the order of the markers
(`pairwise_sorted_position`).  The sorted hits therefore ascend, first by position and then by
marker.  A list that ascends is known by its members, and so the hits of one marker are what is
located of it alone (`filter_sorted`).  Both together make the sorted list a merge (`Merges`).
-/

namespace DocQuery

/-- The stretch of a text that begins at a position, as wide as given or up to the end. -/
def stretch (cs : List Char) (i width : Nat) : List Char := (cs.drop i).take width

theorem length_stretch (cs : List Char) (i width : Nat) :
    (stretch cs i width).length = min width (cs.length - i) := by
  rw [stretch, List.length_take, List.length_drop]

/-! ## One marker -/

section

variable {width : Nat} (test : List Char → Bool) (cs : List Char)

/-- The positions are the numbers up to the last stretch of full width that pass the test. -/
theorem positions_eq_map_filter (hwidth : 0 < width) (n : Nat) :
    positions width test n cs =
      ((List.range (cs.length + 1 - width)).filter fun i =>
        test (stretch cs i width)).map (n + ·) := by
  induction cs generalizing n with
  | nil =>
      have hnone : ([] : List Char).length + 1 - width = 0 := by
        rw [List.length_nil]
        omega
      rw [hnone]
      rfl
  | cons c rest ih =>
      have hlater : ((fun i => test (stretch (c :: rest) i width)) ∘ Nat.succ) =
          fun i => test (stretch rest i width) := rfl
      have hshift : ((n + ·) ∘ Nat.succ) = (n + 1 + ·) := by
        funext i
        simp only [Function.comp_apply]
        omega
      simp only [positions]
      rw [ih]
      by_cases hfit : width ≤ rest.length + 1
      · have hlength : ((c :: rest).take width).length = width := by
          rw [List.length_take, List.length_cons]
          omega
        have hrange : (c :: rest).length + 1 - width = (rest.length + 1 - width) + 1 := by
          rw [List.length_cons]
          omega
        rw [hrange, List.range_succ_eq_map, List.filter_cons, List.filter_map, hlater]
        simp only [hlength, decide_true, Bool.true_and, stretch, List.drop_zero]
        split
        next => rw [List.map_cons, List.map_map, hshift]; rfl
        next => rw [List.map_map, hshift]
      · have hlength : ((c :: rest).take width).length ≠ width := by
          rw [List.length_take, List.length_cons]
          omega
        have hnone : (c :: rest).length + 1 - width = 0 := by
          rw [List.length_cons]
          omega
        have hnone' : rest.length + 1 - width = 0 := by omega
        simp only [hlength, hnone, hnone', decide_false, Bool.false_and, Bool.false_eq_true,
          if_false, List.range_zero, List.filter_nil, List.map_nil]

theorem positions_eq_filter (hwidth : 0 < width) :
    positions width test 0 cs =
      (List.range (cs.length + 1 - width)).filter fun i => test (stretch cs i width) := by
  rw [positions_eq_map_filter test cs hwidth]
  simp

end

section

variable {ignoreCase : Bool} {text marker : List Char} {i : Nat}

/-- The positions at which a marker is located. -/
def found (ignoreCase : Bool) (text marker : List Char) : List Nat :=
  (locateOne ignoreCase text marker).map Prod.fst

theorem found_nil (ignoreCase : Bool) (text : List Char) : found ignoreCase text [] = [] := rfl

theorem found_eq_filter (h : marker ≠ []) :
    found ignoreCase text marker =
      (List.range (text.length + 1 - marker.length)).filter fun i =>
        compared ignoreCase (stretch text i marker.length) = compared ignoreCase marker := by
  rw [found, locateOne, List.isEmpty_eq_false_iff.2 h,
    ← positions_eq_filter (fun cs => compared ignoreCase cs = compared ignoreCase marker) text
      (List.length_pos_iff.2 h)]
  simp [List.map_map, Function.comp_def]

/-- What is located of one marker are its positions, with the marker as it was compared. -/
theorem locateOne_eq (ignoreCase : Bool) (text marker : List Char) :
    locateOne ignoreCase text marker =
      (found ignoreCase text marker).map fun i => (i, compared ignoreCase marker) := by
  rw [found, locateOne]
  split
  next => rfl
  next => simp [List.map_map, Function.comp_def]

/-- A marker is located where the text, read as far as the marker is long, compares equal. -/
theorem mem_found :
    i ∈ found ignoreCase text marker ↔
      marker ≠ [] ∧ i + marker.length ≤ text.length ∧
        compared ignoreCase (stretch text i marker.length) = compared ignoreCase marker := by
  by_cases h : marker = []
  · simp [h, found_nil]
  · have hpos := List.length_pos_iff.2 h
    rw [found_eq_filter h, List.mem_filter, List.mem_range, decide_eq_true_eq]
    refine ⟨fun ⟨hrange, hequal⟩ => ⟨h, by omega, hequal⟩, fun ⟨_, hfit, hequal⟩ => ⟨?_, hequal⟩⟩
    omega

theorem pairwise_found (ignoreCase : Bool) (text marker : List Char) :
    (found ignoreCase text marker).Pairwise (· < ·) := by
  by_cases h : marker = []
  · rw [h]
    exact .nil
  · rw [found_eq_filter h]
    exact List.pairwise_lt_range.filter _

/-- With regard to case a marker is located where it stands. -/
theorem mem_found_sensitive :
    i ∈ found false text marker ↔ marker ≠ [] ∧ stretch text i marker.length = marker := by
  rw [mem_found]
  refine ⟨fun ⟨h, _, hequal⟩ => ⟨h, hequal⟩, fun ⟨h, hequal⟩ => ⟨h, ?_, hequal⟩⟩
  have hlength := congrArg List.length hequal
  have hpos := List.length_pos_iff.2 h
  rw [length_stretch] at hlength
  omega

end

/-! ## Looking again -/

section

variable {text marker : List Char} {start i : Nat}

/-- The first position, from some number on, at which a marker stands in a text. -/
def nextFrom (marker text : List Char) (start : Nat) : Option Nat :=
  (List.range' start (text.length - start)).find? fun i => stretch text i marker.length = marker

theorem nextFrom_bounds (h : nextFrom marker text start = some i) :
    start ≤ i ∧ i < text.length := by
  have hmem := List.mem_range'_1.1 (List.mem_of_find?_eq_some h)
  omega

/-- The positions that are found by looking for a marker from some number on, and again from one
past each that is found. -/
def searchFrom (marker text : List Char) (start : Nat) : List Nat :=
  match h : nextFrom marker text start with
  | none => []
  | some i => i :: searchFrom marker text (i + 1)
termination_by text.length - start
decreasing_by
  have := nextFrom_bounds h
  omega

/-- A search from some number on finds all positions from there on. -/
theorem searchFrom_eq_filter (marker text : List Char) (start : Nat) :
    searchFrom marker text start =
      (List.range' start (text.length - start)).filter fun i =>
        stretch text i marker.length = marker := by
  fun_induction searchFrom with
  | case1 start hnone =>
      exact (List.filter_eq_nil_iff.2 (List.find?_eq_none.1 hnone)).symm
  | case2 start i hsome ih =>
      obtain ⟨hstart, hend⟩ := nextFrom_bounds hsome
      obtain ⟨hstands, -, hbefore⟩ := List.find?_range'_eq_some.1 hsome
      -- The numbers that were passed over, the position that is found and what is searched next.
      have hsplit : List.range' start (text.length - start) =
          List.range' start (i - start) ++ i :: List.range' (i + 1) (text.length - (i + 1)) := by
        refine List.range'_eq_append_iff.2 ⟨i - start, by omega, rfl, ?_⟩
        exact (List.range'_eq_cons_iff.2 ⟨by omega, by omega, by congr 1; omega⟩).symm
      have hpassed : ((List.range' start (i - start)).filter fun i =>
          stretch text i marker.length = marker) = [] := by
        refine List.filter_eq_nil_iff.2 fun j hj => ?_
        have hj := List.mem_range'_1.1 hj
        simpa using hbefore j (by omega) (by omega)
      rw [hsplit, List.filter_append, hpassed, List.nil_append, ih, List.filter_cons,
        if_pos hstands]

/-- Looking again from one past each occurrence finds what is located. -/
theorem locateOne_eq_searchFrom (h : marker ≠ []) :
    locateOne false text marker = (searchFrom marker text 0).map fun i => (i, marker) := by
  have hpositions : found false text marker = searchFrom marker text 0 := by
    rw [searchFrom_eq_filter]
    refine (pairwise_found false text marker).eq_of_mem_iff
      ((List.pairwise_lt_range' 1).filter _) fun i => ?_
    rw [mem_found_sensitive, List.mem_filter, List.mem_range'_1, decide_eq_true_eq]
    refine ⟨fun ⟨_, hstands⟩ => ⟨?_, hstands⟩, fun ⟨_, hstands⟩ => ⟨h, hstands⟩⟩
    -- Past the end there is no stretch but the empty one.
    have hlength := congrArg List.length hstands
    have hpos := List.length_pos_iff.2 h
    rw [length_stretch] at hlength
    omega
  rw [locateOne_eq, hpositions]
  rfl

end

/-! ## Sorting a part in order -/

/-- Sorting keeps the order of a part that is in order. -/
theorem filter_mergeSort {α : Type} {le : α → α → Bool}
    (trans : ∀ a b c, le a b = true → le b c = true → le a c = true)
    (total : ∀ a b, (le a b || le b a) = true) {l : List α} {p : α → Bool}
    (h : (l.filter p).Pairwise fun a b => le a b = true) :
    (l.mergeSort le).filter p = l.filter p := by
  have hkept := (List.sublist_mergeSort trans total h List.filter_sublist).filter p
  simp only [List.filter_filter, Bool.and_self] at hkept
  exact (hkept.eq_of_length ((List.mergeSort_perm l le).filter p).length_eq.symm).symm

/-! ## Several markers -/

/-- A hit: where an occurrence begins and the place of its marker among the markers. -/
abbrev Hit (markers : List String) := Nat × Fin markers.length

namespace Hit

variable {markers : List String} {ignoreCase : Bool} {text : String}

/-- What is located at a hit. -/
def occurrence (ignoreCase : Bool) (h : Hit markers) : Occurrence where
  index := h.1
  value := if ignoreCase then Text.lowered markers[h.2] else markers[h.2]

theorem occurrence_eq (ignoreCase : Bool) (h : Hit markers) :
    h.occurrence ignoreCase =
      Occurrence.ofLocated (h.1, compared ignoreCase markers[h.2].toList) := by
  cases ignoreCase with
  | false => simp [occurrence, Occurrence.ofLocated, compared]
  | true => rfl

/-- The hits of all markers, one marker after another. -/
def ofEach (ignoreCase : Bool) (markers : List String) (text : String) : List (Hit markers) :=
  (List.finRange markers.length).flatMap fun j =>
    (found ignoreCase text.toList markers[j].toList).map fun i => (i, j)

theorem mem_ofEach {i : Nat} {j : Fin markers.length} :
    (i, j) ∈ ofEach ignoreCase markers text ↔
      i ∈ found ignoreCase text.toList markers[j].toList := by
  simp [ofEach]

/-- One marker after another, and of each its positions in order. -/
theorem pairwise_ofEach (ignoreCase : Bool) (markers : List String) (text : String) :
    (ofEach ignoreCase markers text).Pairwise fun a b => a.2 < b.2 ∨ a.2 = b.2 ∧ a.1 < b.1 := by
  refine List.pairwise_flatMap.2 ⟨fun j _ => ?_, ?_⟩
  · exact List.pairwise_map.2 ((pairwise_found _ _ _).imp fun hlt => .inr ⟨rfl, hlt⟩)
  · refine (List.pairwise_lt_finRange _).imp fun hlt a ha b hb => .inl ?_
    obtain ⟨_, -, rfl⟩ := List.mem_map.1 ha
    obtain ⟨_, -, rfl⟩ := List.mem_map.1 hb
    exact hlt

/-- The hits of all markers, by position. -/
def sorted (ignoreCase : Bool) (markers : List String) (text : String) : List (Hit markers) :=
  (ofEach ignoreCase markers text).mergeSort fun a b => a.1 ≤ b.1

theorem mem_sorted {i : Nat} {j : Fin markers.length} :
    (i, j) ∈ sorted ignoreCase markers text ↔
      i ∈ found ignoreCase text.toList markers[j].toList := by
  rw [sorted, List.mem_mergeSort, mem_ofEach]

/-- The hits at one position stand in the order of their markers. -/
theorem pairwise_sorted_position (ignoreCase : Bool) (markers : List String) (text : String)
    (i : Nat) :
    ((sorted ignoreCase markers text).filter fun h => h.1 = i).Pairwise fun a b => a.2 < b.2 := by
  have hsame : ∀ h ∈ (ofEach ignoreCase markers text).filter fun h => h.1 = i, h.1 = i :=
    fun h hmem => of_decide_eq_true (List.mem_filter.1 hmem).2
  have hkept : (sorted ignoreCase markers text).filter (fun h => h.1 = i) =
      (ofEach ignoreCase markers text).filter fun h => h.1 = i := by
    refine filter_mergeSort (by simp; omega) (by simp; omega) ?_
    exact List.pairwise_of_forall_mem_list fun a ha b hb => by simp [hsame a ha, hsame b hb]
  rw [hkept]
  refine ((pairwise_ofEach ignoreCase markers text).filter _).imp_of_mem fun ha hb hab => ?_
  rcases hab with hlt | ⟨-, hlt⟩
  · exact hlt
  · exact absurd hlt (by rw [hsame _ ha, hsame _ hb]; exact Nat.lt_irrefl i)

theorem pairwise_sorted (ignoreCase : Bool) (markers : List String) (text : String) :
    (sorted ignoreCase markers text).Pairwise (Prod.Lex (· < ·) (· < ·)) := by
  have hpositions : (sorted ignoreCase markers text).Pairwise fun a b => a.1 ≤ b.1 := by
    have h := @List.pairwise_mergeSort (Hit markers) (fun a b => a.1 ≤ b.1)
      (by simp; omega) (by simp; omega) (ofEach ignoreCase markers text)
    simpa [sorted] using h
  refine List.pairwise_iff_forall_sublist.2 fun {a b} hsub => Prod.lex_def.2 ?_
  have hle := List.pairwise_iff_forall_sublist.1 hpositions hsub
  rcases Nat.lt_or_eq_of_le hle with hlt | heq
  · exact .inl hlt
  · have hpair : [a, b].Sublist ((sorted ignoreCase markers text).filter fun h => h.1 = b.1) := by
      simpa [heq] using hsub.filter fun h => h.1 = b.1
    exact .inr ⟨heq, List.pairwise_iff_forall_sublist.1
      (pairwise_sorted_position ignoreCase markers text b.1) hpair⟩

/-- The hits of one marker are at its positions. -/
theorem filter_sorted (ignoreCase : Bool) (text : String) (j : Fin markers.length) :
    (sorted ignoreCase markers text).filter (fun h => h.2 = j) =
      (found ignoreCase text.toList markers[j].toList).map fun i => (i, j) := by
  refine ((pairwise_sorted ignoreCase markers text).filter _).eq_of_mem_iff ?_ fun h => ?_
  · refine List.pairwise_map.2 ((pairwise_found _ _ _).imp fun hlt => ?_)
    exact Prod.Lex.left _ _ hlt
  · obtain ⟨i, j'⟩ := h
    rw [List.mem_filter, mem_sorted, decide_eq_true_eq, List.mem_map]
    constructor
    · rintro ⟨hfound, rfl⟩
      exact ⟨i, hfound, rfl⟩
    · rintro ⟨i', hfound, he⟩
      cases he
      exact ⟨hfound, rfl⟩

theorem locate_one (ignoreCase : Bool) (text : String) (j : Fin markers.length) :
    locate (.one markers[j]) text ignoreCase =
      ((found ignoreCase text.toList markers[j].toList).map fun i => (i, j)).map
        (occurrence ignoreCase) := by
  simp [locate, locateOne_eq, occurrence_eq]

theorem locate_many (ignoreCase : Bool) (markers : List String) (text : String) :
    locate (.many markers) text ignoreCase =
      (sorted ignoreCase markers text).map (occurrence ignoreCase) := by
  let entry (h : Hit markers) : Located := (h.1, compared ignoreCase markers[h.2].toList)
  have hentries : (ofEach ignoreCase markers text).map entry =
      (markers.map String.toList).flatMap (locateOne ignoreCase text.toList) := by
    conv_rhs => rw [← List.map_get_finRange markers]
    rw [ofEach, List.map_flatMap, List.map_map, List.flatMap_map]
    simp [locateOne_eq, entry, Function.comp_def]
  have hsorted : (sorted ignoreCase markers text).map entry =
      locateAll ignoreCase text.toList (markers.map String.toList) := by
    rw [sorted, locateAll, ← hentries]
    exact List.map_mergeSort fun _ _ _ _ => rfl
  have hoccurrence : occurrence ignoreCase = Occurrence.ofLocated ∘ entry :=
    funext (occurrence_eq ignoreCase)
  rw [locate, ← hsorted, hoccurrence, List.map_map]

end Hit

/-- Hits that are the merge of what is located of the markers one by one.  They are in the order of
their positions, and those at one position in the order of the markers, so that none is there twice.
The hits of one marker are what is located of it alone. -/
structure Merges (ignoreCase : Bool) (markers : List String) (text : String)
    (hits : List (Hit markers)) : Prop where
  ascending : hits.Pairwise (Prod.Lex (· < ·) (· < ·))
  each (j : Fin markers.length) :
    (hits.filter fun h => h.2 = j).map (Hit.occurrence ignoreCase) =
      locate (.one markers[j]) text ignoreCase
  all : locate (.many markers) text ignoreCase = hits.map (Hit.occurrence ignoreCase)

theorem Hit.merges_sorted (ignoreCase : Bool) (markers : List String) (text : String) :
    Merges ignoreCase markers text (sorted ignoreCase markers text) where
  ascending := pairwise_sorted ignoreCase markers text
  each j := by rw [filter_sorted, locate_one]
  all := locate_many ignoreCase markers text

/-- What is located of a list of markers is a merge of exactly the occurrences of each. -/
theorem locate_merges (markers : List String) (text : String) :
    (∃ hits, Merges false markers text hits ∧
      ∀ i j, (i, j) ∈ hits ↔
        markers[j] ≠ "" ∧ stretch text.toList i markers[j].length = markers[j].toList) ∧
    ∃ hits, Merges true markers text hits ∧
      ∀ i j, (i, j) ∈ hits ↔
        markers[j] ≠ "" ∧ i + markers[j].length ≤ text.length ∧
          Text.lower (stretch text.toList i markers[j].length) = Text.lower markers[j].toList := by
  have hnonempty : ∀ marker : String, marker.toList ≠ [] ↔ marker ≠ "" := fun marker => by simp
  refine ⟨⟨_, Hit.merges_sorted false markers text, fun i j => ?_⟩,
    ⟨_, Hit.merges_sorted true markers text, fun i j => ?_⟩⟩
  · rw [Hit.mem_sorted, mem_found_sensitive, String.length_toList, hnonempty]
  · rw [Hit.mem_sorted, mem_found, String.length_toList, String.length_toList, hnonempty]
    rfl

end DocQuery
