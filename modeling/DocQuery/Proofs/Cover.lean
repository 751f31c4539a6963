import DocQuery.Proofs.SplitComposed
import Mathlib.Data.Bool.AllAny

/-!
# Brackets and quotation marks in a text

An operator inside brackets or quotation marks does not cut a condition.  The *cover* of
a position is the list of what is open there, the innermost first.  `Cover.step` moves
over one character:

* behind a backslash in a quotation any character is taken as it is;
* in a quotation only its own mark and the backslash count;
* elsewhere an opening character is put on the list, and a closing bracket has to close
  the innermost open one.

`Cover.outer` cuts a text at the operators that nothing covers, and gives nothing where a
bracket or a quotation is left open or a bracket is closed that is not open.

*Below a bracket.*  A text that can be read on its own is read in the same way below an
open bracket, and there all of it is covered (`outer_covered`).

*In a row.*  Two texts with an operator and spaces between them are cut apart
(`outer_append_operator`).
-/

namespace DocQuery

/-- A kind of brackets. -/
inductive Bracket where
  | round
  | square
  | curly
deriving DecidableEq, Repr

/-- A kind of quotation marks. -/
inductive Quote where
  | double
  | single
  | grave
  | acute
deriving DecidableEq, Repr

/-- The mark at both ends of a quotation. -/
def Quote.mark : Quote → Char
  | double => '"'
  | single => '\x27'
  | grave => '\x60'
  | acute => '\u00b4'

/-- What can be open: brackets, or a quotation, in which a backslash may stand in front of
the position. -/
inductive Delimiter where
  | bracket (b : Bracket)
  | quote (q : Quote) (escaped : Bool)
deriving DecidableEq, Repr

/-- What a character opens. -/
def Delimiter.opened? : Char → Option Delimiter
  | '(' => some (.bracket .round)
  | '[' => some (.bracket .square)
  | '\x7b' => some (.bracket .curly)
  | '"' => some (.quote .double false)
  | '\x27' => some (.quote .single false)
  | '\x60' => some (.quote .grave false)
  | '\u00b4' => some (.quote .acute false)
  | _ => none

/-- The brackets that a character closes. -/
def Bracket.closed? : Char → Option Bracket
  | ')' => some round
  | ']' => some square
  | '\x7d' => some curly
  | _ => none

/-- What is open at a position, the innermost first. -/
abbrev Cover := List Delimiter

namespace Cover

open Delimiter (opened?)
open DocQuery.Bracket (closed?)

/-- The cover behind a character outside of quotations. -/
def stepPlain (k : Cover) (c : Char) : Option Cover :=
  match opened? c, closed? c with
  | some d, _ => some (d :: k)
  | none, some b => if k.head? = some (.bracket b) then some k.tail else none
  | none, none => some k

/-- The cover behind a character. -/
def step : Cover → Char → Option Cover
  | .quote q true :: k, _ => some (.quote q false :: k)
  | .quote q false :: k, c =>
      some (if c = q.mark then k else .quote q (decide (c = '\\')) :: k)
  | k, c => stepPlain k c

/-- The cover behind a text. -/
def run : Cover → List Char → Option Cover
  | k, [] => some k
  | k, c :: rest => (step k c).bind fun k => run k rest

/-- Cuts a text at its uncovered operators. -/
def outer : Cover → List Char → Option Split
  | [], [] => some (.last [])
  | _ :: _, [] => none
  | [], '|' :: '|' :: rest => (outer [] rest).map (.more [] .any)
  | [], '&' :: '&' :: rest => (outer [] rest).map (.more [] .all)
  | k, c :: rest => (step k c).bind fun k => (outer k rest).map (Split.prepend [c])

/-- A cover whose innermost part is a bracket. -/
def Bracketed (k : Cover) : Prop := ∃ b outside, k = .bracket b :: outside

/-! ## Steps -/

theorem step_bracketed {k : Cover} (h : Bracketed k) (c : Char) : step k c = stepPlain k c := by
  obtain ⟨b, outside, rfl⟩ := h
  rfl

/-- A step that needs nothing below the cover is the same above open brackets. -/
theorem step_append {k k' base : Cover} {c : Char} (h : step k c = some k')
    (hbase : Bracketed base) : step (k ++ base) c = some (k' ++ base) := by
  cases k with
  | nil =>
      rw [List.nil_append, step_bracketed hbase]
      simp only [step, stepPlain] at h ⊢
      split at h
      next => cases h; rfl
      next => cases h
      next => cases h; rfl
  | cons d outside =>
      cases d with
      | bracket b =>
          simp only [List.cons_append, step, stepPlain] at h ⊢
          split at h
          next => cases h; rfl
          next =>
            split at h
            next hclosed =>
              cases h
              rw [if_pos (by simpa using hclosed)]
              rfl
            next => cases h
          next => cases h; rfl
      | quote q escaped =>
          cases escaped with
          | true => cases h; rfl
          | false =>
              simp only [List.cons_append, step] at h ⊢
              cases h
              split
              · rfl
              · rfl

/-- A character that opens and closes nothing. -/
def Inert (c : Char) : Prop := opened? c = none ∧ closed? c = none

instance (c : Char) : Decidable (Inert c) := inferInstanceAs (Decidable (_ ∧ _))

theorem step_inert {c : Char} (h : Inert c) {k : Cover} (hk : k = [] ∨ Bracketed k) :
    step k c = some k := by
  have hplain : stepPlain k c = some k := by rw [stepPlain, h.1, h.2]
  obtain rfl | hk := hk
  · exact hplain
  · rw [step_bracketed hk, hplain]

/-- A character outside of all operators, brackets and quotations. -/
def Plain (c : Char) : Prop := Inert c ∧ c ≠ '|' ∧ c ≠ '&'

instance (c : Char) : Decidable (Plain c) := inferInstanceAs (Decidable (_ ∧ _))

/-- The characters that are not plain. -/
def special : List Char :=
  ['(', '[', '\x7b', '"', '\x27', '\x60', '\u00b4', ')', ']', '\x7d', '|', '&']

theorem plain_of_not_mem {c : Char} (h : c ∉ special) : Plain c := by
  simp only [special, List.mem_cons, List.not_mem_nil, or_false, not_or] at h
  refine ⟨⟨?_, ?_⟩, by simp [h]⟩
  · unfold opened?
    split <;> simp_all
  · unfold closed?
    split <;> simp_all

/-- A class of characters without special ones has plain ones only. -/
theorem plain_of_class {p : Char → Bool} (hp : (special.all fun c => !p c) = true) {c : Char}
    (hc : p c = true) : Plain c := by
  refine plain_of_not_mem fun hmem => ?_
  have hnot := List.all_eq_true.1 hp c hmem
  rw [hc] at hnot
  cases hnot

theorem plain_of_isSpace {c : Char} (h : isSpace c = true) : Plain c :=
  plain_of_class (by decide) h

theorem ne_mark_of_isSpace {c : Char} (h : isSpace c = true) (q : Quote) : c ≠ q.mark := by
  rintro rfl
  have hnone := (plain_of_isSpace h).1.1
  cases q <;> cases hnone

/-- White space closes nothing. -/
theorem eq_nil_of_step_space {k : Cover} {c : Char} (hc : isSpace c = true)
    (h : step k c = some []) : k = [] := by
  cases k with
  | nil => rfl
  | cons d outside =>
      cases d with
      | bracket b =>
          have hsame := step_inert (plain_of_isSpace hc).1 (.inr ⟨b, outside, rfl⟩)
          rw [hsame] at h
          cases h
      | quote q escaped =>
          cases escaped with
          | true => cases h
          | false =>
              simp only [step, if_neg (ne_mark_of_isSpace hc q)] at h
              cases h

/-! ## Texts -/

theorem run_append (k : Cover) (as bs : List Char) :
    run k (as ++ bs) = (run k as).bind fun k => run k bs := by
  induction as generalizing k with
  | nil => rfl
  | cons c as ih =>
      simp only [List.cons_append, run, Option.bind_assoc]
      exact congrArg _ (funext fun k => ih k)

theorem run_above {k k' base : Cover} {cs : List Char} (h : run k cs = some k')
    (hbase : Bracketed base) : run (k ++ base) cs = some (k' ++ base) := by
  induction cs generalizing k with
  | nil =>
      cases h
      rfl
  | cons c rest ih =>
      obtain ⟨middle, hstep, hrest⟩ := Option.bind_eq_some_iff.1 h
      rw [run, step_append hstep hbase, Option.bind_some, ih hrest]

/-- The step of `outer` where no uncovered operator opens. -/
theorem outer_cons {k : Cover} {c : Char} {rest : List Char}
    (h : k = [] → Join.opening? (c :: rest) = none) :
    outer k (c :: rest) = (step k c).bind fun k => (outer k rest).map (Split.prepend [c]) := by
  rw [outer]
  · rintro more rfl rfl rfl
    exact absurd (h rfl) (by simp [Join.opening?])
  · rintro more rfl rfl rfl
    exact absurd (h rfl) (by simp [Join.opening?])

theorem outer_operator (j : Join) (rest : List Char) :
    outer [] (j.chars ++ rest) = (outer [] rest).map (.more [] j) := by
  cases j <;> rfl

/-- A text can be cut exactly when all that it opens is closed. -/
theorem outer_isSome_iff {k : Cover} {cs : List Char} :
    (outer k cs).isSome = true ↔ run k cs = some [] := by
  fun_induction outer k cs with
  | case1 => simp [run]
  | case2 => simp [run]
  | case3 rest ih => simpa [run, step, stepPlain, opened?, closed?] using ih
  | case4 rest ih => simpa [run, step, stepPlain, opened?, closed?] using ih
  | case5 k c rest _ _ ih =>
      rw [run]
      cases hstep : step k c with
      | none => simp
      | some k' => simpa [hstep] using ih k'

theorem run_of_outer {k : Cover} {cs : List Char} {s : Split} (h : outer k cs = some s) :
    run k cs = some [] := outer_isSome_iff.1 (by rw [h]; rfl)

theorem exists_outer {k : Cover} {cs : List Char} (h : run k cs = some []) :
    ∃ s, outer k cs = some s := Option.isSome_iff_exists.1 (outer_isSome_iff.2 h)

theorem map_prepend_nil (o : Option Split) : o.map (Split.prepend []) = o := by
  cases o with
  | none => rfl
  | some s => exact congrArg some s.prepend_nil

/-- Below an open bracket a text is covered from end to end. -/
theorem outer_covered {k k' base : Cover} {cs : List Char} (h : run k cs = some k')
    (hbase : Bracketed base) (rest : List Char) :
    outer (k ++ base) (cs ++ rest) = (outer (k' ++ base) rest).map (Split.prepend cs) := by
  induction cs generalizing k with
  | nil =>
      cases h
      exact (map_prepend_nil _).symm
  | cons c cs ih =>
      obtain ⟨middle, hstep, hrest⟩ := Option.bind_eq_some_iff.1 h
      have hne : k ++ base ≠ [] := by
        obtain ⟨b, outside, rfl⟩ := hbase
        simp
      rw [List.cons_append, outer_cons fun hnil => absurd hnil hne, step_append hstep hbase,
        Option.bind_some, ih hrest, Option.map_map]
      congr 1
      funext s
      exact Split.prepend_prepend [c] cs s

/-- A text is cut alone in front of a character that belongs to no operator. -/
theorem outer_append_cons {k : Cover} {as : List Char} {s : Split} (h : outer k as = some s)
    {c : Char} (hany : c ≠ '|') (hall : c ≠ '&') (bs : List Char) :
    outer k (as ++ c :: bs) = (outer [] (c :: bs)).map s.append := by
  fun_induction outer k as generalizing s with
  | case1 =>
      cases h
      exact (map_prepend_nil _).symm
  | case2 => cases h
  | case3 rest ih =>
      obtain ⟨t, ht, rfl⟩ := Option.map_eq_some_iff.1 h
      have hcut := outer_operator .any (rest ++ c :: bs)
      rw [ih ht, Option.map_map] at hcut
      exact hcut
  | case4 rest ih =>
      obtain ⟨t, ht, rfl⟩ := Option.map_eq_some_iff.1 h
      have hcut := outer_operator .all (rest ++ c :: bs)
      rw [ih ht, Option.map_map] at hcut
      exact hcut
  | case5 k d rest hbar hand ih =>
      obtain ⟨k', hstep, hrest⟩ := Option.bind_eq_some_iff.1 h
      obtain ⟨t, ht, rfl⟩ := Option.map_eq_some_iff.1 hrest
      have hopen : k = [] → Join.opening? (d :: (rest ++ c :: bs)) = none := by
        intro hk
        refine Join.opening?_eq_none fun e he j hj => ?_
        cases rest with
        | nil =>
            cases he
            cases j
            · exact hany (by simp_all)
            · exact hall (by simp_all)
        | cons e' rest =>
            cases he
            cases j
            · exact hbar rest hk (by simp_all) (by simp_all)
            · exact hand rest hk (by simp_all) (by simp_all)
      rw [List.cons_append, outer_cons hopen, hstep, Option.bind_some, ih k' ht, Option.map_map]
      congr 1
      funext u
      exact Split.append_prepend [d] t u

/-! ## Plain text -/

theorem plain_of_all {cs : List Char} (h : (cs.all fun c => Plain c) = true) :
    ∀ c ∈ cs, Plain c := List.all_iff_forall_prop.1 h

theorem outer_plain_append {cs : List Char} (h : ∀ c ∈ cs, Plain c) (rest : List Char) :
    outer [] (cs ++ rest) = (outer [] rest).map (Split.prepend cs) := by
  induction cs with
  | nil => exact (map_prepend_nil _).symm
  | cons c cs ih =>
      obtain ⟨⟨hinert, hany, hall⟩, hcs⟩ := List.forall_mem_cons.1 h
      have hopen : Join.opening? (c :: (cs ++ rest)) = none :=
        Join.opening?_eq_none fun d _ j hj => by cases j <;> simp_all
      rw [List.cons_append, outer_cons fun _ => hopen, step_inert hinert (.inl rfl),
        Option.bind_some, ih hcs, Option.map_map]
      exact congrArg (Option.map · (outer [] rest)) (funext (Split.prepend_prepend [c] cs))

theorem outer_plain {cs : List Char} (h : ∀ c ∈ cs, Plain c) :
    outer [] cs = some (.last cs) := by
  have hcut := outer_plain_append h []
  simpa [outer, Split.prepend] using hcut

theorem outer_cons_space {c : Char} (h : isSpace c = true) (cs : List Char) :
    outer [] (c :: cs) = (outer [] cs).map (Split.prepend [c]) :=
  outer_plain_append (List.forall_mem_singleton.2 (plain_of_isSpace h)) cs

theorem outer_append_space {cs : List Char} {s : Split} (h : outer [] cs = some s) {c : Char}
    (hc : isSpace c = true) : outer [] (cs ++ [c]) = some (s.append (.last [c])) := by
  obtain ⟨-, hany, hall⟩ := plain_of_isSpace hc
  rw [outer_append_cons h hany hall, outer_cons_space hc]
  rfl

/-- Two texts with an operator and spaces between them are cut apart. -/
theorem outer_append_operator {as : List Char} {s : Split} (h : outer [] as = some s) (j : Join)
    (bs : List Char) :
    outer [] (as ++ ' ' :: j.chars ++ ' ' :: bs) =
      (outer [] bs).map fun t => s.append (.more [' '] j (t.prepend [' '])) := by
  have hspace : isSpace ' ' = true := by decide
  rw [List.append_assoc, List.cons_append, outer_append_cons h (by decide) (by decide),
    outer_cons_space hspace, outer_operator, outer_cons_space hspace]
  cases outer [] bs <;> rfl

/-! ## Brackets -/

/-- A text in brackets is passed over. -/
theorem outer_brackets_append {cs : List Char} (h : run [] cs = some []) (rest : List Char) :
    outer [] ('(' :: cs ++ ')' :: rest) =
      (outer [] rest).map (Split.prepend ('(' :: cs ++ [')'])) := by
  have hbase : Bracketed [.bracket .round] := ⟨.round, [], rfl⟩
  have hopen : Join.opening? ('(' :: (cs ++ ')' :: rest)) = none :=
    Join.opening?_eq_none fun d _ j hj => by cases j <;> simp at hj
  have hinner := outer_covered h hbase (')' :: rest)
  have hclose : outer [.bracket .round] (')' :: rest) =
      (outer [] rest).map (Split.prepend [')']) := rfl
  rw [List.nil_append, hclose] at hinner
  rw [List.cons_append, outer_cons fun _ => hopen]
  simp only [step, stepPlain, opened?, Option.bind_some, hinner, Option.map_map]
  congr 1
  funext s
  simp only [Function.comp_apply, Split.prepend_prepend]
  rfl

/-- A text in brackets is one clause. -/
theorem outer_brackets {cs : List Char} (h : run [] cs = some []) :
    outer [] ('(' :: cs ++ [')']) = some (.last ('(' :: cs ++ [')'])) := by
  rw [outer_brackets_append h]
  simp [outer, Split.prepend]

end Cover

end DocQuery
