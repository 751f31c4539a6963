import DocQuery.Proofs.LocatedMarkers
import DocQuery.Proofs.LoweredText

/-!
# Markers in any case

Without regard to case, a stretch of a text counts for a marker when both have the same lower case
(`Alike`).  At each position at most one such stretch begins (`Alike.unique`), but it need not be as
long as the marker: a dotted letter in the one may be two characters in the other.

*Where a marker is located.*  Only stretches as long as the marker are compared.  Alike texts are of
one length exactly when they hold as many dotted letters.  So a marker is located where an alike
stretch begins that holds as many of them (`Alike.mem_found_iff`).

*Completeness.*  A position is thus reported as it should be unless the alike stretch there has more
or fewer dotted letters than the marker (`mem_found_iff_exists_alike_iff`).  A marker and the value
that is reported for it are alike to the same stretches, but the value has no dotted letters any
more.  If the marker has some, no stretch can have as many as both, and the two are located at the
same positions only when neither is located at all (`found_lower_eq_iff`).

A marker whose lower case holds no combining dot has no dotted letters, nor has any stretch alike to
it (`Alike.dots_eq_zero`).  Such a marker is located wherever it should be.
-/

namespace DocQuery

open Text (lower lowered dots)

/-! ## Alike stretches -/

/-- A stretch that begins at a position of a text and has the lower case of a marker. -/
structure Alike (text marker : List Char) (i : Nat) (s : List Char) : Prop where
  here : s <+: text.drop i
  lower_eq : lower s = lower marker

section

variable {text marker s t : List Char} {i : Nat}

/-- There is at most one alike stretch at a position. -/
theorem Alike.unique (hs : Alike text marker i s) (ht : Alike text marker i t) : s = t :=
  Text.eq_of_lower_eq hs.here ht.here (hs.lower_eq.trans ht.lower_eq.symm)

/-- A stretch is alike to the lower case of a marker exactly when it is alike to the marker. -/
theorem alike_lower : Alike text (lower marker) i s ↔ Alike text marker i s :=
  ⟨fun h => ⟨h.here, h.lower_eq.trans (Text.lower_lower marker)⟩,
    fun h => ⟨h.here, h.lower_eq.trans (Text.lower_lower marker).symm⟩⟩

/-- Where a marker is located, an alike stretch begins. -/
theorem exists_alike_of_mem_found (h : i ∈ found true text marker) :
    ∃ s, Alike text marker i s :=
  ⟨stretch text i marker.length, List.take_prefix _ _, (mem_found.1 h).2.2⟩

/-- A marker is located where an alike stretch begins just when the stretch holds as many dotted
letters. -/
theorem Alike.mem_found_iff (hs : Alike text marker i s) (h : marker ≠ []) :
    i ∈ found true text marker ↔ dots s = dots marker := by
  rw [← Text.length_eq_iff_of_lower_eq hs.lower_eq, mem_found]
  have hfit := hs.here.length_le
  rw [List.length_drop] at hfit
  constructor
  · rintro ⟨-, hend, hequal⟩
    have hstretch : s = stretch text i marker.length :=
      hs.unique ⟨List.take_prefix _ _, hequal⟩
    rw [hstretch, length_stretch]
    omega
  · intro hlength
    have hpos := List.length_pos_iff.2 h
    have hstretch : stretch text i marker.length = s := by
      rw [stretch, ← hlength]
      exact (List.prefix_iff_eq_take.1 hs.here).symm
    exact ⟨h, by omega, by rw [hstretch]; exact hs.lower_eq⟩

/-- The lower case of a marker is located where an alike stretch without dotted letters begins. -/
theorem Alike.mem_found_lower_iff (hs : Alike text marker i s) (h : marker ≠ []) :
    i ∈ found true text (lower marker) ↔ dots s = 0 := by
  rw [(alike_lower.2 hs).mem_found_iff (mt Text.lower_eq_nil.1 h), Text.dots_lower]

/-- A position where an alike stretch begins is missed just when the stretch has more or fewer
dotted letters than the marker. -/
theorem mem_found_iff_exists_alike_iff (h : marker ≠ []) :
    (i ∈ found true text marker ↔ ∃ s, Alike text marker i s) ↔
      ∀ s, Alike text marker i s → dots s = dots marker := by
  constructor
  · intro hcomplete s hs
    exact (hs.mem_found_iff h).1 (hcomplete.2 ⟨s, hs⟩)
  · intro hdots
    exact ⟨exists_alike_of_mem_found, fun ⟨s, hs⟩ => (hs.mem_found_iff h).2 (hdots s hs)⟩

/-- A marker and its lower case are located at the same positions when each alike stretch is one for
both or for neither. -/
theorem found_lower_eq_iff_forall (h : marker ≠ []) :
    found true text (lower marker) = found true text marker ↔
      ∀ i s, Alike text marker i s → (dots s = 0 ↔ dots s = dots marker) := by
  constructor
  · intro heq i s hs
    rw [← hs.mem_found_lower_iff h, ← hs.mem_found_iff h, heq]
  · intro hdots
    refine (pairwise_found _ _ _).eq_of_mem_iff (pairwise_found _ _ _) fun i => ?_
    by_cases hsome : ∃ s, Alike text marker i s
    · obtain ⟨s, hs⟩ := hsome
      rw [hs.mem_found_lower_iff h, hs.mem_found_iff h, hdots i s hs]
    · have hnone : i ∉ found true text (lower marker) := fun hmem =>
        hsome ((exists_alike_of_mem_found hmem).imp fun _ => alike_lower.1)
      exact iff_of_false hnone fun hmem => hsome (exists_alike_of_mem_found hmem)

/-- A marker and its lower case are located at the same positions exactly when the marker has no
dotted letters, or when neither is located at all. -/
theorem found_lower_eq_iff (h : marker ≠ []) :
    found true text (lower marker) = found true text marker ↔
      dots marker = 0 ∨ ∀ i s, Alike text marker i s → dots s ≠ 0 ∧ dots s ≠ dots marker := by
  rw [found_lower_eq_iff_forall h]
  by_cases hmarker : dots marker = 0
  · simp [hmarker]
  · rw [or_iff_right hmarker]
    refine forall₃_congr fun i s _ => ⟨fun hiff => ⟨fun hzero => ?_, fun hsame => ?_⟩,
      fun ⟨hzero, hsame⟩ => iff_of_false hzero hsame⟩
    · exact hmarker ((hiff.1 hzero).symm.trans hzero)
    · exact hmarker (hsame.symm.trans (hiff.2 hsame))

/-- No text alike to a marker without combining dots in its lower case has dotted letters. -/
theorem Alike.dots_eq_zero (hmarker : Text.combiningDot ∉ lower marker)
    (h : Alike text marker i s) : dots s = 0 := by
  refine List.count_eq_zero.2 fun hmem => hmarker ?_
  rw [← h.lower_eq]
  exact Text.dot_mem_lowerAfter [] hmem

end

/-! ## Reported positions -/

/-- The positions that are reported for a marker when case does not count. -/
def indexes (marker text : String) : List Int := (locate (.one marker) text).map Occurrence.index

theorem indexes_eq (marker text : String) :
    indexes marker text = (found true text.toList marker.toList).map Int.ofNat := by
  simp [indexes, locate, locateOne_eq, Function.comp_def, Occurrence.ofLocated]

theorem mem_indexes {marker text : String} {i : Nat} :
    (i : Int) ∈ indexes marker text ↔ i ∈ found true text.toList marker.toList := by
  rw [indexes_eq, List.mem_map]
  exact ⟨fun ⟨_, hfound, heq⟩ => Int.ofNat.inj heq ▸ hfound, fun hfound => ⟨i, hfound, rfl⟩⟩

section

variable {marker : String}

theorem mem_indexes_iff_exists_alike_iff (h : marker ≠ "") (text : String) (i : Nat) :
    ((i : Int) ∈ indexes marker text ↔ ∃ s, Alike text.toList marker.toList i s) ↔
      ∀ s, Alike text.toList marker.toList i s → dots s = dots marker.toList := by
  rw [mem_indexes]
  exact mem_found_iff_exists_alike_iff (by simpa using h)

theorem indexes_lowered_eq_iff (h : marker ≠ "") (text : String) :
    indexes (lowered marker) text = indexes marker text ↔
      dots marker.toList = 0 ∨ ∀ i s, Alike text.toList marker.toList i s →
        dots s ≠ 0 ∧ dots s ≠ dots marker.toList := by
  have hchars : marker.toList ≠ [] := by simpa using h
  rw [← found_lower_eq_iff hchars, indexes_eq, indexes_eq, lowered, String.toList_ofList]
  exact (List.map_injective_iff.2 fun _ _ => Int.ofNat.inj).eq_iff

/-- Completeness, exactly.  A position is reported just when an alike stretch begins there, if and
only if any such stretch has as many dotted letters as the marker.  The marker and the value that is
reported for it are located at the same positions if and only if the marker has no dotted letters,
or no alike stretch anywhere has as many as the value or the marker. -/
theorem indexes_complete_iff (h : marker ≠ "") (text : String) :
    (∀ i : Nat, ((i : Int) ∈ indexes marker text ↔ ∃ s, Alike text.toList marker.toList i s) ↔
      ∀ s, Alike text.toList marker.toList i s → dots s = dots marker.toList) ∧
    (indexes (lowered marker) text = indexes marker text ↔
      dots marker.toList = 0 ∨ ∀ i s, Alike text.toList marker.toList i s →
        dots s ≠ 0 ∧ dots s ≠ dots marker.toList) :=
  ⟨mem_indexes_iff_exists_alike_iff h text, indexes_lowered_eq_iff h text⟩

end

/-- A part of a city's name is located behind the dotted letter that the name begins with. -/
theorem stanbul_located :
    let text := "city == \"\u0130stanbul\" && age > 5"
    "STANBUL" ≠ "" ∧
      (∀ i : Nat, (i : Int) ∈ indexes "STANBUL" text ↔
        ∃ s, Alike text.toList "STANBUL".toList i s) ∧
      indexes (lowered "STANBUL") text = indexes "STANBUL" text := by
  intro text
  have hmarker : "STANBUL" ≠ "" := by decide
  have hdot : Text.combiningDot ∉ lower "STANBUL".toList := by decide +kernel
  have hdots : dots "STANBUL".toList = 0 := by decide +kernel
  obtain ⟨hcomplete, hsame⟩ := indexes_complete_iff hmarker text
  exact ⟨hmarker, fun i => (hcomplete i).2 fun s hs => (hs.dots_eq_zero hdot).trans hdots.symm,
    hsame.2 (.inl hdots)⟩

/-- The dotted letter is not located where an i with a combining dot stands, though that has the
same lower case.  It is located in itself, but the value that is reported for it is not. -/
theorem dotted_letter_missed :
    indexes "\u0130" "i\u0307" = [] ∧
      Alike "i\u0307".toList "\u0130".toList 0 "i\u0307".toList ∧
      indexes "\u0130" "\u0130" = [0] ∧ indexes (lowered "\u0130") "\u0130" = [] := by
  refine ⟨by decide +kernel, ⟨List.prefix_rfl, by decide +kernel⟩, by decide +kernel,
    by decide +kernel⟩

end DocQuery
