/-!
# Splitting at a character

`splitOn` cuts a text at every occurrence of a character.  There is always one
more part than there are occurrences, so the empty text has one part, the empty
one.
-/

namespace DocQuery

namespace Text

/-- The parts of a text between occurrences of a character. -/
def splitOn (mark : Char) : List Char → List (List Char)
  | [] => [[]]
  | c :: rest =>
      if c = mark then [] :: splitOn mark rest
      else match splitOn mark rest with
        | [] => [[c]]
        | part :: parts => (c :: part) :: parts

/-- The parts of a string between occurrences of a character. -/
def split (mark : Char) (s : String) : List String :=
  (splitOn mark s.toList).map String.ofList

theorem splitOn_ne_nil (mark : Char) (cs : List Char) : splitOn mark cs ≠ [] := by
  cases cs with
  | nil => simp [splitOn]
  | cons c rest =>
      unfold splitOn
      split
      · simp
      · cases splitOn mark rest <;> simp

theorem splitOn_of_not_mem {mark : Char} {cs : List Char} (h : mark ∉ cs) :
    splitOn mark cs = [cs] := by
  induction cs with
  | nil => rfl
  | cons c rest ih =>
      rw [List.mem_cons, not_or] at h
      rw [splitOn, if_neg (Ne.symm h.1), ih h.2]

/-- What stands before the mark and what stands behind it are split apart. -/
theorem splitOn_append (mark : Char) (cs ds : List Char) :
    splitOn mark (cs ++ mark :: ds) = splitOn mark cs ++ splitOn mark ds := by
  induction cs with
  | nil => simp [splitOn]
  | cons c rest ih =>
      by_cases hc : c = mark
      · simp [splitOn, hc, ih]
      · cases h : splitOn mark rest with
        | nil => exact absurd h (splitOn_ne_nil mark rest)
        | cons part parts => simp [splitOn, hc, ih, h]

example : split ',' "a,,b" = ["a", "", "b"] := by decide
example : split ',' "" = [""] := by decide

end Text

end DocQuery
