import DocQuery.Filter.Compose
import DocQuery.Join
import DocQuery.Proofs.Qualify
import Mathlib.Data.List.Chain

/-!
# Splitting a condition at its operators

`Split.of` reads a text once from left to right.  Where it meets `||` or `&&` it takes
the two characters as an operator, otherwise it takes one character into the current
clause.  So a text with `n` operators has `n + 1` clauses.

`compose` works in another way.  It locates all occurrences of both operators, sorts
them by position and skips those that overlap an earlier one.  The two agree:

* `locateAll_operators`: what is located and sorted is the list of marks, the positions
  at which an operator opens, in ascending order.
* `piecesFrom_marks`: walking over the marks with a cut position visits the clauses of
  the split.
* `compose_eq`: a composed text is its split with every clause qualified.

The laws of the second half follow from `compose_eq`.  A character that belongs to no
operator cuts a text into halves that split alone (`of_append_cons`), and two conditions
with an operator and spaces between them compose apart (`compose_append_operator`).
-/

namespace DocQuery

namespace Join

/-- The characters of an operator. -/
def chars (j : Join) : List Char := j.operator.toList

@[simp] theorem chars_any : chars any = ['|', '|'] := rfl

@[simp] theorem chars_all : chars all = ['&', '&'] := rfl

/-- The operator that opens a text. -/
def opening? : List Char → Option Join
  | '|' :: '|' :: _ => some any
  | '&' :: '&' :: _ => some all
  | _ => none

theorem opening?_eq_some {cs : List Char} {j : Join} :
    opening? cs = some j ↔ ∃ rest, cs = j.chars ++ rest := by
  constructor
  · intro h
    unfold opening? at h
    split at h
    next rest => cases h; exact ⟨rest, rfl⟩
    next rest => cases h; exact ⟨rest, rfl⟩
    next => cases h
  · rintro ⟨rest, rfl⟩
    cases j <;> rfl

theorem opening?_cons_cons (c d : Char) (rest : List Char) :
    opening? (c :: d :: rest) = opening? [c, d] := by
  unfold opening?
  split
  next he => cases he; rfl
  next he => cases he; rfl
  next hany hall =>
    split
    next he => cases he; exact (hany rest rfl).elim
    next he => cases he; exact (hall rest rfl).elim
    next => rfl

theorem opening?_eq_none {c : Char} {rest : List Char}
    (h : ∀ d ∈ rest.head?, ∀ j : Join, [c, d] ≠ j.chars) : opening? (c :: rest) = none := by
  cases rest with
  | nil => simp [opening?]
  | cons d rest =>
      rw [opening?_cons_cons, Option.eq_none_iff_forall_ne_some]
      intro j hj
      obtain ⟨more, hmore⟩ := opening?_eq_some.1 hj
      exact h d rfl j (by cases j <;> simp_all)

instance {P : Join → Prop} [DecidablePred P] : Decidable (∀ j, P j) :=
  decidable_of_iff (P any ∧ P all) ⟨fun h j => by cases j; exacts [h.1, h.2], fun h => ⟨h _, h _⟩⟩

/-- A text in which no two neighbours are an operator. -/
def AbsentFrom (cs : List Char) : Prop := cs.IsChain fun a b => ∀ j : Join, [a, b] ≠ j.chars

instance (cs : List Char) : Decidable (AbsentFrom cs) :=
  inferInstanceAs (Decidable (cs.IsChain _))

/-- No operator arises around a character that belongs to none. -/
theorem AbsentFrom.around {as bs : List Char} (ha : AbsentFrom as) {c : Char} (hany : c ≠ '|')
    (hall : c ≠ '&') (hb : AbsentFrom bs) : AbsentFrom (as ++ c :: bs) := by
  refine List.IsChain.append ha (List.isChain_cons.2 ⟨fun d _ j hj => ?_, hb⟩)
    fun d _ e he j hj => ?_
  · cases j
    · exact hany (by simp_all)
    · exact hall (by simp_all)
  · cases he
    cases j
    · exact hany (by simp_all)
    · exact hall (by simp_all)

end Join

/-- A text cut at operators. -/
inductive Split where
  /-- The last clause. -/
  | last (clause : List Char)
  /-- A clause, the operator behind it and what follows. -/
  | more (clause : List Char) (j : Join) (rest : Split)
deriving DecidableEq, Repr

namespace Split

/-! ## Cutting and writing -/

/-- Puts characters in front of the first clause. -/
def prepend (cs : List Char) : Split → Split
  | last clause => last (cs ++ clause)
  | more clause j rest => more (cs ++ clause) j rest

/-- Cuts a text at its operators, from left to right. -/
def of : List Char → Split
  | [] => last []
  | '|' :: '|' :: rest => more [] .any (of rest)
  | '&' :: '&' :: rest => more [] .all (of rest)
  | c :: rest => (of rest).prepend [c]

/-- The qualified clauses and the operators between them. -/
def pieces : Split → List (List Char)
  | last clause => [Clause.qualify clause]
  | more clause j rest => Clause.qualify clause :: j.chars :: rest.pieces

/-- The text of qualified clauses with single spaces around the operators. -/
def compose : Split → List Char
  | last clause => Clause.qualify clause
  | more clause j rest => Clause.qualify clause ++ ' ' :: j.chars ++ ' ' :: rest.compose

@[simp] theorem prepend_nil (s : Split) : s.prepend [] = s := by cases s <;> rfl

@[simp] theorem prepend_prepend (as bs : List Char) (s : Split) :
    (s.prepend bs).prepend as = s.prepend (as ++ bs) := by
  cases s <;> simp [prepend]

theorem of_chars_append (j : Join) (rest : List Char) :
    of (j.chars ++ rest) = more [] j (of rest) := by
  cases j <;> rfl

theorem of_cons {c : Char} {rest : List Char} (h : Join.opening? (c :: rest) = none) :
    of (c :: rest) = (of rest).prepend [c] := by
  unfold Join.opening? at h
  split at h
  next => cases h
  next => cases h
  next hany hall =>
    rw [of]
    · intro more hc hr; subst hc hr; exact hany _ rfl
    · intro more hc hr; subst hc hr; exact hall _ rfl

theorem intercalate_pieces (s : Split) : [' '].intercalate s.pieces = s.compose := by
  induction s with
  | last clause => simp [pieces, compose]
  | more clause j rest ih =>
      have hp : rest.pieces ≠ [] := by cases rest <;> simp [pieces]
      obtain ⟨p, ps, hps⟩ := List.exists_cons_of_ne_nil hp
      rw [hps] at ih
      rw [pieces, compose, hps, List.intercalate_cons_cons, List.intercalate_cons_cons, ih]
      simp

/-- Two splits in a row, where the last clause of the first runs on. -/
def append : Split → Split → Split
  | last clause, t => t.prepend clause
  | more clause j rest, t => more clause j (rest.append t)

theorem append_prepend (cs : List Char) (s t : Split) :
    (s.append t).prepend cs = (s.prepend cs).append t := by
  cases s with
  | last clause => rw [append, prepend_prepend]; rfl
  | more clause j rest => rfl

/-- A character that belongs to no operator cuts a text into halves that split alone. -/
theorem of_append_cons {c : Char} (hany : c ≠ '|') (hall : c ≠ '&') (a b : List Char) :
    of (a ++ c :: b) = (of a).append ((of b).prepend [c]) := by
  fun_induction of a with
  | case1 =>
      have hopen : Join.opening? (c :: b) = none := by simp [Join.opening?, hany, hall]
      rw [List.nil_append, of_cons hopen, append, prepend_nil]
  | case2 rest ih => rw [append, ← ih]; rfl
  | case3 rest ih => rw [append, ← ih]; rfl
  | case4 d rest hbar hand ih =>
      have hopen : Join.opening? (d :: (rest ++ c :: b)) = none := by
        refine Join.opening?_eq_none fun e he j hj => ?_
        cases rest with
        | nil =>
            cases he
            cases j
            · exact hany (by simp_all)
            · exact hall (by simp_all)
        | cons e' rest =>
            cases he
            cases j
            · exact hbar rest (by simp_all) (by simp_all)
            · exact hand rest (by simp_all) (by simp_all)
      rw [List.cons_append, of_cons hopen, ih, append_prepend]

/-- A text without an operator is one clause. -/
theorem of_eq_last {cs : List Char} (h : Join.AbsentFrom cs) : of cs = last cs := by
  induction cs with
  | nil => rfl
  | cons c rest ih =>
      obtain ⟨hhead, hrest⟩ := List.isChain_cons.1 h
      rw [of_cons (Join.opening?_eq_none hhead), ih hrest]
      rfl

/-! ## Marks -/

/-- The positions at which an operator opens, counted from a number, with the operators
there. -/
def marks : Nat → List Char → List Located
  | _, [] => []
  | n, c :: rest =>
      match Join.opening? (c :: rest) with
      | some j => (n, j.chars) :: marks (n + 1) rest
      | none => marks (n + 1) rest

/-- The occurrences of one operator, counted from a number. -/
def occurrences (j : Join) (n : Nat) (cs : List Char) : List Located :=
  (positions 2 (fun stretch => stretch = j.chars) n cs).map fun i => (i, j.chars)

theorem occurrences_cons (j : Join) (n : Nat) (c : Char) (rest : List Char) :
    occurrences j n (c :: rest) =
      if Join.opening? (c :: rest) = some j then (n, j.chars) :: occurrences j (n + 1) rest
      else occurrences j (n + 1) rest := by
  have hstretch : (((c :: rest).take 2).length = 2 ∧ (c :: rest).take 2 = j.chars) ↔
      Join.opening? (c :: rest) = some j := by
    rw [Join.opening?_eq_some]
    constructor
    · rintro ⟨-, h⟩
      exact ⟨(c :: rest).drop 2, by rw [← h, List.take_append_drop]⟩
    · rintro ⟨more, h⟩
      rw [h]
      cases j <;> simp
  simp only [occurrences, positions, Bool.and_eq_true, decide_eq_true_eq, hstretch]
  split
  · rfl
  · rfl

theorem le_of_mem_marks {m : Located} :
    ∀ {n : Nat} {cs : List Char}, m ∈ marks n cs → n ≤ m.1
  | _, [], h => by cases h
  | n, c :: rest, h => by
      rw [marks] at h
      split at h
      · rcases List.mem_cons.1 h with rfl | h
        · exact Nat.le_refl n
        · exact Nat.le_of_succ_le (le_of_mem_marks h)
      · exact Nat.le_of_succ_le (le_of_mem_marks h)

theorem marks_pairwise : ∀ (n : Nat) (cs : List Char), (marks n cs).Pairwise fun a b => a.1 < b.1
  | _, [] => List.Pairwise.nil
  | n, c :: rest => by
      rw [marks]
      split
      · exact List.Pairwise.cons (fun m hm => le_of_mem_marks hm) (marks_pairwise (n + 1) rest)
      · exact marks_pairwise (n + 1) rest

/-- The occurrences of both operators are the marks, up to order. -/
theorem occurrences_perm : ∀ (n : Nat) (cs : List Char),
    (occurrences .any n cs ++ occurrences .all n cs).Perm (marks n cs)
  | _, [] => List.Perm.nil
  | n, c :: rest => by
      have ih := occurrences_perm (n + 1) rest
      rw [occurrences_cons, occurrences_cons, marks]
      cases Join.opening? (c :: rest) with
      | none => simpa using ih
      | some j =>
          cases j with
          | any => simpa using ih
          | all => simpa using List.perm_middle.trans (ih.cons _)

/-- What is located of the operators are the marks, in ascending order. -/
theorem locateAll_operators (cs : List Char) :
    locateAll false cs Clause.operators = marks 0 cs := by
  have hfound : Clause.operators.flatMap (locateOne false cs) =
      occurrences .any 0 cs ++ occurrences .all 0 cs := by
    simp only [Clause.operators, List.flatMap_cons, List.flatMap_nil, List.append_nil]
    rfl
  have hperm : (locateAll false cs Clause.operators).Perm (marks 0 cs) := by
    rw [locateAll, hfound]
    exact (List.mergeSort_perm _ _).trans (occurrences_perm 0 cs)
  have hsorted : (locateAll false cs Clause.operators).Pairwise fun a b => a.1 ≤ b.1 := by
    have h := @List.pairwise_mergeSort Located (fun a b => a.1 ≤ b.1)
      (by simp; omega) (by simp; omega) (Clause.operators.flatMap (locateOne false cs))
    simpa [locateAll] using h
  refine hperm.eq_of_pairwise ?_ hsorted ((marks_pairwise 0 cs).imp Nat.le_of_lt)
  -- marks strictly ascend, so two of them at one position are one
  have hsame : ∀ a ∈ marks 0 cs, ∀ b ∈ marks 0 cs, a.1 = b.1 → a = b := by
    intro a ha b hb
    refine List.Pairwise.forall_of_forall_of_flip (R := fun a b : Located => a.1 = b.1 → a = b)
      (fun _ _ _ => rfl) ?_ ?_ ha hb
    · exact (marks_pairwise 0 cs).imp fun hlt he => absurd he (Nat.ne_of_lt hlt)
    · exact (marks_pairwise 0 cs).imp fun hlt he => absurd he.symm (Nat.ne_of_lt hlt)
  intro a b ha hb hab hba
  exact hsame a (hperm.mem_iff.1 ha) b hb (Nat.le_antisymm hab hba)

/-! ## Walking over the marks -/

open Clause (piecesFrom qualify)

/-- A mark in front of the cut position is skipped. -/
theorem piecesFrom_skip (cs : List Char) {n cut : Nat} (h : n < cut) (c : Char)
    (rest : List Char) :
    piecesFrom cs cut (marks n (c :: rest)) = piecesFrom cs cut (marks (n + 1) rest) := by
  rw [marks]
  split
  · rw [piecesFrom, if_pos h]
  · rfl

/-- At an operator the clause in front of it ends, and the walk goes on behind it. -/
theorem piecesFrom_operator (j : Join) (before rest : List Char) {cut : Nat}
    (h : cut ≤ before.length) :
    piecesFrom (before ++ (j.chars ++ rest)) cut (marks before.length (j.chars ++ rest)) =
      qualify (before.drop cut) :: j.chars ::
        piecesFrom ((before ++ j.chars) ++ rest) (before ++ j.chars).length
          (marks (before ++ j.chars).length rest) := by
  obtain ⟨c, d, hcd⟩ : ∃ c d, j.chars = [c, d] := by cases j <;> exact ⟨_, _, rfl⟩
  have hopen : Join.opening? (c :: d :: rest) = some j :=
    Join.opening?_eq_some.2 ⟨rest, by rw [hcd]; rfl⟩
  have hmarks : marks before.length (j.chars ++ rest) =
      (before.length, j.chars) :: marks (before.length + 1) (d :: rest) := by
    rw [hcd, List.cons_append, List.cons_append, List.nil_append, marks, hopen]
    simp [hcd]
  have hskip := piecesFrom_skip (before ++ (j.chars ++ rest))
    (show before.length + 1 < before.length + 2 by omega) d rest
  rw [hmarks, piecesFrom, if_neg (Nat.not_lt.2 h), List.take_left, List.drop_left, List.take_left,
    List.append_assoc, List.length_append]
  simpa [hcd] using hskip

/-- Walking over the marks of what stands behind `before` gives the pieces of its
split, where the first clause starts in `before`, at the cut position. -/
theorem piecesFrom_marks (before cs : List Char) (cut : Nat) (h : cut ≤ before.length) :
    piecesFrom (before ++ cs) cut (marks before.length cs) =
      ((of cs).prepend (before.drop cut)).pieces := by
  -- along the scan, which moves what it has read over to `before`
  fun_induction of cs generalizing before cut with
  | case1 => simp [marks, piecesFrom, prepend, pieces]
  | case2 rest ih =>
      have hstep := piecesFrom_operator .any before rest h
      rw [ih (before ++ Join.chars .any) _ (Nat.le_refl _), List.drop_length, prepend_nil] at hstep
      simpa [prepend, pieces] using hstep
  | case3 rest ih =>
      have hstep := piecesFrom_operator .all before rest h
      rw [ih (before ++ Join.chars .all) _ (Nat.le_refl _), List.drop_length, prepend_nil] at hstep
      simpa [prepend, pieces] using hstep
  | case4 c rest hany hall ih =>
      have hopen : Join.opening? (c :: rest) = none := by
        unfold Join.opening?
        split
        next more he => cases he; exact (hany more rfl rfl).elim
        next more he => cases he; exact (hall more rfl rfl).elim
        next => rfl
      have hstep := ih (before ++ [c]) cut (by simp; omega)
      rw [List.append_assoc, List.length_append] at hstep
      rw [marks, hopen, prepend_prepend, ← List.drop_append_of_le_length h]
      exact hstep

theorem pieces_of (cs : List Char) : Clause.pieces cs = (of cs).pieces := by
  rw [Clause.pieces, locateAll_operators]
  simpa using piecesFrom_marks [] cs 0 (Nat.zero_le _)

/-- A composed text is its split with every clause qualified. -/
theorem compose_eq (cs : List Char) : Clause.compose cs = (of cs).compose := by
  rw [Clause.compose, pieces_of, intercalate_pieces]

/-! ## Composing apart -/

/-- White space in front of a text does not matter. -/
theorem compose_prepend_space (s : Split) : (s.prepend [' ']).compose = s.compose := by
  have hspace : isSpace ' ' = true := by decide
  cases s with
  | last clause => exact Clause.qualify_cons_space hspace clause
  | more clause j rest =>
      rw [prepend, compose, compose, List.singleton_append, Clause.qualify_cons_space hspace]

/-- Two splits with an operator and spaces between them compose apart. -/
theorem compose_append_more (s t : Split) (j : Join) :
    (s.append (more [' '] j (t.prepend [' ']))).compose =
      s.compose ++ ' ' :: j.chars ++ ' ' :: t.compose := by
  induction s with
  | last clause =>
      rw [append, prepend, compose, compose, compose_prepend_space,
        Clause.qualify_append_space (by decide)]
  | more clause j' rest ih =>
      rw [append, compose, compose, ih]
      simp

/-- An operator with spaces around it cuts a text. -/
theorem of_append_operator (as bs : List Char) (j : Join) :
    of (as ++ ' ' :: j.chars ++ ' ' :: bs) =
      (of as).append (more [' '] j ((of bs).prepend [' '])) := by
  have hb : of (' ' :: bs) = (of bs).prepend [' '] := of_cons (by simp [Join.opening?])
  rw [List.append_assoc, List.cons_append, of_append_cons (by decide) (by decide),
    of_chars_append, hb]
  rfl

end Split

/-- Two conditions with an operator and spaces between them compose apart. -/
theorem Clause.compose_append_operator (as bs : List Char) (j : Join) :
    compose (as ++ ' ' :: j.chars ++ ' ' :: bs) =
      compose as ++ ' ' :: j.chars ++ ' ' :: compose bs := by
  rw [Split.compose_eq, Split.compose_eq, Split.compose_eq, Split.of_append_operator,
    Split.compose_append_more]

end DocQuery
