import DocQuery.Proofs.Cover
import DocQuery.Proofs.WrittenText

/-!
# Reading a condition as a formula

`Formula.read` is the reading of condition text that a database has, as far as operators
and brackets go.  It does not know how the text was made.

* Uncovered operators cut the text into operands.  Between two `||` stands one
  alternative, so `&&` binds tighter (`Split.alternatives`).
* An operand in brackets from end to end is read as the text inside them.  Any other is
  an atom, such as a comparison or a call, and is taken as it is.
* A text with an operand missing, or with brackets that do not fit, is not well-formed.

An interpretation says which atoms are true of a document, and `Truth` which texts are.
Two laws take a text apart without its formula: it is well-formed when its operands are
(`wellFormed_iff`), and true when all operands of some alternative are (`truth_iff`).
-/

namespace DocQuery

namespace Join

/-- Any or all of some things have a property. -/
def Combines {α : Type} (P : α → Prop) (xs : List α) : Join → Prop
  | any => ∃ x ∈ xs, P x
  | all => ∀ x ∈ xs, P x

/-- One of two things holds, or both do. -/
def Both (p q : Prop) : Join → Prop
  | any => p ∨ q
  | all => p ∧ q

@[simp] theorem combines_any_nil {α : Type} (P : α → Prop) : ¬ any.Combines P [] := by
  simp [Combines]

@[simp] theorem combines_all_nil {α : Type} (P : α → Prop) : all.Combines P [] := by
  simp [Combines]

theorem combines_cons {α : Type} (P : α → Prop) (x : α) (xs : List α) (j : Join) :
    j.Combines P (x :: xs) ↔ j.Both (P x) (j.Combines P xs) := by
  cases j <;> simp [Combines, Both]

theorem combines_append {α : Type} (P : α → Prop) (xs ys : List α) (j : Join) :
    j.Combines P (xs ++ ys) ↔ j.Both (j.Combines P xs) (j.Combines P ys) := by
  cases j with
  | any => simp [Combines, Both, or_and_right, exists_or]
  | all => simp [Combines, Both, or_imp, forall_and]

theorem combines_singleton {α : Type} (P : α → Prop) (x : α) (j : Join) :
    j.Combines P [x] ↔ P x := by
  cases j <;> simp [Combines]

theorem combines_congr {α : Type} {P Q : α → Prop} {xs : List α} (h : ∀ x ∈ xs, (P x ↔ Q x))
    (j : Join) : j.Combines P xs ↔ j.Combines Q xs := by
  cases j with
  | any => exact exists_congr fun x => and_congr_right (h x)
  | all => exact forall₂_congr h

theorem combines_map {α β : Type} (P : β → Prop) (f : α → β) (xs : List α) (j : Join) :
    j.Combines P (xs.map f) ↔ j.Combines (fun x => P (f x)) xs := by
  cases j <;> simp [Combines]

end Join

namespace Split

/-- The clauses between two `||`, for each stretch from one to the next. -/
def alternatives : Split → List (List (List Char))
  | last clause => [[clause]]
  | more clause .any rest => [clause] :: rest.alternatives
  | more clause .all rest =>
      match rest.alternatives with
      | first :: others => (clause :: first) :: others
      | [] => [[clause]]

/-- Two splits with an operator between them. -/
def followed (j : Join) : Split → Split → Split
  | last clause, t => more clause j t
  | more clause j' rest, t => more clause j' (followed j rest t)

theorem alternatives_ne_nil (s : Split) : s.alternatives ≠ [] := by
  cases s with
  | last clause => exact List.cons_ne_nil _ _
  | more clause j rest =>
      cases j with
      | any => exact List.cons_ne_nil _ _
      | all =>
          rw [alternatives]
          split <;> exact List.cons_ne_nil _ _

theorem mem_clauses_iff {s : Split} {clause : List Char} :
    clause ∈ s.clauses ↔ ∃ alternative ∈ s.alternatives, clause ∈ alternative := by
  induction s with
  | last other => simp [clauses, alternatives]
  | more other j rest ih =>
      cases j with
      | any => simp [clauses, alternatives, ih]
      | all =>
          rw [clauses, alternatives, List.mem_cons, ih]
          cases rest.alternatives with
          | nil => simp
          | cons first others => simp [or_assoc]

theorem clauses_followed (j : Join) (s t : Split) :
    (followed j s t).clauses = s.clauses ++ t.clauses := by
  induction s with
  | last clause => rfl
  | more clause j' rest ih => rw [followed, clauses, ih, clauses, List.cons_append]

theorem operators_followed (j : Join) (s t : Split) :
    (followed j s t).operators = s.operators ++ j :: t.operators := by
  induction s with
  | last clause => rfl
  | more clause j' rest ih => rw [followed, operators, ih, operators, List.cons_append]

theorem any_not_mem_followed {s t : Split} (hs : .any ∉ s.operators) (ht : .any ∉ t.operators) :
    .any ∉ (followed .all s t).operators := by
  rw [operators_followed, List.mem_append, List.mem_cons]
  rintro (h | h | h)
  · exact hs h
  · cases h
  · exact ht h

theorem alternatives_followed_any (s t : Split) :
    (followed .any s t).alternatives = s.alternatives ++ t.alternatives := by
  induction s with
  | last clause => rfl
  | more clause j rest ih =>
      cases j with
      | any => rw [followed, alternatives, ih, alternatives, List.cons_append]
      | all =>
          rw [followed, alternatives, ih, alternatives]
          cases hrest : rest.alternatives with
          | nil => exact absurd hrest rest.alternatives_ne_nil
          | cons first others => rfl

/-- Where no `||` cuts, there is one alternative. -/
theorem alternatives_eq_singleton {s : Split} (h : .any ∉ s.operators) :
    s.alternatives = [s.clauses] := by
  induction s with
  | last clause => rfl
  | more clause j rest ih =>
      simp only [operators, List.mem_cons, not_or] at h
      cases j with
      | any => exact absurd rfl h.1
      | all => simp only [alternatives, ih h.2, clauses]

theorem map_trim_append_last {c : Char} (h : isSpace c = true) (s : Split) :
    (s.append (last [c])).map Text.trim = s.map Text.trim := by
  induction s with
  | last clause => exact congrArg last (Text.trim_append_space h clause)
  | more clause j rest ih => exact congrArg (more (Text.trim clause) j) ih

/-- Trimming the clauses undoes the spaces around an operator. -/
theorem map_trim_append_more (s t : Split) (j : Join) :
    (s.append (more [' '] j (t.prepend [' ']))).map Text.trim =
      followed j (s.map Text.trim) (t.map Text.trim) := by
  induction s with
  | last clause =>
      have htrim : Text.trim (clause ++ [' ']) = Text.trim clause :=
        Text.trim_append_space (by decide) clause
      rw [append, prepend, map, map, followed, htrim, map_trim_prepend_space (by decide)]
  | more clause j' rest ih =>
      rw [append, map, ih]
      rfl

/-- No clause is longer than the text. -/
theorem length_le_of_mem_clauses {s : Split} {clause : List Char} (h : clause ∈ s.clauses) :
    clause.length ≤ s.text.length := by
  induction s with
  | last other =>
      obtain rfl := List.mem_singleton.1 h
      exact Nat.le_refl _
  | more other j rest ih =>
      rw [text, List.length_append, List.length_append]
      obtain rfl | h := List.mem_cons.1 h
      · omega
      · have hrest := ih h
        omega

end Split

theorem Cover.text_outer {k : Cover} {cs : List Char} {s : Split} (h : outer k cs = some s) :
    s.text = cs := by
  fun_induction outer k cs generalizing s with
  | case1 =>
      cases h
      rfl
  | case2 => cases h
  | case3 rest ih =>
      obtain ⟨t, ht, rfl⟩ := Option.map_eq_some_iff.1 h
      simp [Split.text, ih ht]
  | case4 rest ih =>
      obtain ⟨t, ht, rfl⟩ := Option.map_eq_some_iff.1 h
      simp [Split.text, ih ht]
  | case5 k c rest _ _ ih =>
      obtain ⟨k', -, hrest⟩ := Option.bind_eq_some_iff.1 h
      obtain ⟨t, ht, rfl⟩ := Option.map_eq_some_iff.1 hrest
      rw [Split.text_prepend, ih k' ht, List.singleton_append]

theorem Text.length_trim_le (cs : List Char) : (trim cs).length ≤ cs.length := by
  have hstart : (trimStart cs).length ≤ cs.length := (List.dropWhile_suffix _).length_le
  have hend : (trim cs).length ≤ (trimStart cs).length := by
    rw [trim, trimEnd, List.length_reverse]
    exact (List.dropWhile_suffix _).length_le.trans (List.length_reverse).le
  omega

/-! ## Formulas -/

/-- A condition as it is read. -/
inductive Formula where
  /-- A comparison, a call or anything else without an uncovered operator. -/
  | atom (text : List Char)
  /-- Several formulas with an operator between them. -/
  | joined (j : Join) (parts : List Formula)
deriving Repr

namespace Formula

mutual

/-- Whether a formula is true when an interpretation says which atoms are. -/
def Holds (I : List Char → Prop) : Formula → Prop
  | atom text => I text
  | joined j parts => HoldsJoined I j parts
termination_by structural f => f

/-- Whether formulas with an operator between them are. -/
def HoldsJoined (I : List Char → Prop) : Join → List Formula → Prop
  | .any, [] => False
  | .all, [] => True
  | j, f :: rest => j.Both (Holds I f) (HoldsJoined I j rest)
termination_by structural _ fs => fs

end

theorem holds_joined (I : List Char → Prop) (j : Join) (parts : List Formula) :
    (joined j parts).Holds I ↔ j.Combines (Holds I) parts := by
  rw [Holds]
  induction parts with
  | nil => cases j <;> simp [HoldsJoined]
  | cons f rest ih => rw [HoldsJoined, ih, Join.combines_cons]

/-! ## Reading -/

/-- The operands of a text and the operators between them. -/
def operands (cs : List Char) : Option Split := (Cover.outer [] cs).map (Split.map Text.trim)

/-- What stands inside when a text is in brackets from end to end. -/
def enclosed? : List Char → Option (List Char)
  | '(' :: rest =>
      if rest.getLast? = some ')' ∧ Cover.run [] rest.dropLast = some [] then some rest.dropLast
      else none
  | _ => none

theorem length_lt_of_enclosed? {cs inner : List Char} (h : enclosed? cs = some inner) :
    inner.length < cs.length := by
  unfold enclosed? at h
  split at h
  next rest =>
    split at h
    · cases h
      rw [List.length_dropLast, List.length_cons]
      omega
    · cases h
  next => cases h

theorem length_le_of_mem_alternatives {cs : List Char} {s : Split} (h : operands cs = some s)
    {alternative : List (List Char)} (ha : alternative ∈ s.alternatives) {clause : List Char}
    (hc : clause ∈ alternative) : clause.length ≤ cs.length := by
  obtain ⟨t, ht, rfl⟩ := Option.map_eq_some_iff.1 h
  have hclause : clause ∈ (t.map Text.trim).clauses :=
    Split.mem_clauses_iff.2 ⟨alternative, ha, hc⟩
  rw [Split.clauses_map] at hclause
  obtain ⟨untrimmed, huntrimmed, rfl⟩ := List.mem_map.1 hclause
  have hlength := Split.length_le_of_mem_clauses huntrimmed
  rw [Cover.text_outer ht] at hlength
  exact (Text.length_trim_le untrimmed).trans hlength

/-- Reads a text. -/
def read (cs : List Char) : Option Formula :=
  match _hs : operands cs with
  | none => none
  | some s => do
      let parts ← s.alternatives.attach.mapM fun (alternative : {x // x ∈ s.alternatives}) => do
        let operands ← alternative.1.attach.mapM fun (clause : {x // x ∈ alternative.1}) =>
          match _he : enclosed? clause.1 with
          | some inner => read inner
          | none => if clause.1 = [] then none else some (.atom clause.1)
        return joined .all operands
      return joined .any parts
termination_by cs.length
decreasing_by
  have hinner := length_lt_of_enclosed? _he
  have hclause := length_le_of_mem_alternatives _hs alternative.2 clause.2
  omega

/-- Reads an operand. -/
def operand (clause : List Char) : Option Formula :=
  match enclosed? clause with
  | some inner => read inner
  | none => if clause = [] then none else some (.atom clause)

/-- Reads the operands of an alternative. -/
def alternative (clauses : List (List Char)) : Option Formula :=
  (clauses.mapM operand).map (joined .all)

theorem read_eq (cs : List Char) :
    read cs = (operands cs).bind fun s =>
      (s.alternatives.mapM alternative).map (joined .any) := by
  have hoperand (clause : List Char) :
      (match _he : enclosed? clause with
        | some inner => read inner
        | none => if clause = [] then none else some (.atom clause)) = operand clause := by
    unfold operand
    split
    next he => rw [he]
    next he => rw [he]
  have halternative : alternative = fun clauses => do
      let operands ← clauses.mapM operand
      return joined .all operands := by
    funext clauses
    rw [alternative]
    cases clauses.mapM operand <;> rfl
  rw [read]
  split
  next hs =>
    rw [hs]
    rfl
  next s hs =>
    rw [hs, Option.bind_some, halternative]
    simp only [hoperand, List.mapM_subtype, List.unattach_attach, Option.map_eq_bind]
    rfl

-- `&&` binds tighter than `||`
example : read "a || b && c".toList = some (.joined .any [.joined .all [.atom ['a']],
    .joined .all [.atom ['b'], .atom ['c']]]) := by cbv

/-! ## White space around a text -/

theorem operands_cons_space {c : Char} (h : isSpace c = true) (cs : List Char) :
    operands (c :: cs) = operands cs := by
  rw [operands, Cover.outer_cons_space h, Option.map_map, operands]
  exact congrArg (Option.map · (Cover.outer [] cs)) (funext (Split.map_trim_prepend_space h))

theorem operands_append_space {c : Char} (h : isSpace c = true) (cs : List Char) :
    operands (cs ++ [c]) = operands cs := by
  rw [operands, operands]
  cases hcs : Cover.outer [] cs with
  | some s =>
      rw [Cover.outer_append_space hcs h, Option.map_some, Split.map_trim_append_last h]
      rfl
  | none =>
      cases hspace : Cover.outer [] (cs ++ [c]) with
      | none => rfl
      | some s =>
          -- white space closes nothing, so all was closed before it
          have hrun := Cover.run_of_outer hspace
          rw [Cover.run_append] at hrun
          obtain ⟨k, hk, hstep⟩ := Option.bind_eq_some_iff.1 hrun
          have hnil : k = [] := by
            refine Cover.eq_nil_of_step_space h ?_
            simpa [Cover.run] using hstep
          obtain ⟨t, ht⟩ := Cover.exists_outer (hnil ▸ hk)
          rw [hcs] at ht
          cases ht

theorem operands_trim (cs : List Char) : operands (Text.trim cs) = operands cs := by
  obtain ⟨before, after, hbefore, hafter, hcs⟩ := Text.trim_between cs
  have hfront (xs : List Char) : operands (before ++ xs) = operands xs := by
    clear hcs
    induction before with
    | nil => rfl
    | cons c before ih =>
        obtain ⟨hc, hbefore⟩ := List.forall_mem_cons.1 hbefore
        rw [List.cons_append, operands_cons_space hc, ih hbefore]
  have hback (xs : List Char) : operands (xs ++ after) = operands xs := by
    clear hcs
    induction after generalizing xs with
    | nil => rw [List.append_nil]
    | cons c after ih =>
        obtain ⟨hc, hafter⟩ := List.forall_mem_cons.1 hafter
        rw [List.append_cons, ih hafter, operands_append_space hc]
  exact (congrArg operands hcs |>.trans ((hfront _).trans (hback _))).symm

theorem read_congr {as bs : List Char} (h : operands as = operands bs) : read as = read bs := by
  rw [read_eq, h, ← read_eq]

theorem read_trim (cs : List Char) : read (Text.trim cs) = read cs := read_congr (operands_trim cs)

theorem read_cons_space {c : Char} (h : isSpace c = true) (cs : List Char) :
    read (c :: cs) = read cs := read_congr (operands_cons_space h cs)

theorem read_append_space {c : Char} (h : isSpace c = true) (cs : List Char) :
    read (cs ++ [c]) = read cs := read_congr (operands_append_space h cs)

/-! ## What the operands of a text mean -/

theorem isSome_mapM {α β : Type} {f : α → Option β} {xs : List α} :
    (xs.mapM f).isSome = true ↔ ∀ x ∈ xs, (f x).isSome = true := by
  induction xs with
  | nil => simp
  | cons x xs ih =>
      rw [List.mapM_cons, List.forall_mem_cons, ← ih]
      cases f x with
      | none => simp
      | some y => cases xs.mapM f <;> simp

theorem combines_of_mapM {α β : Type} {f : α → Option β} (P : β → Prop) {xs : List α}
    {ys : List β} (h : xs.mapM f = some ys) (j : Join) :
    j.Combines P ys ↔ j.Combines (fun x => ∃ y ∈ f x, P y) xs := by
  induction xs generalizing ys with
  | nil =>
      cases h
      cases j <;> simp [Join.Combines]
  | cons x xs ih =>
      rw [List.mapM_cons] at h
      obtain ⟨y, hy, hrest⟩ := Option.bind_eq_some_iff.1 h
      obtain ⟨zs, hzs, hcons⟩ := Option.bind_eq_some_iff.1 hrest
      cases hcons
      have hx : (∃ z ∈ f x, P z) ↔ P y := by simp [hy]
      rw [Join.combines_cons, Join.combines_cons, hx, ih hzs]

end Formula

/-- A text that can be read. -/
def WellFormed (cs : List Char) : Prop := (Formula.read cs).isSome = true

instance (cs : List Char) : Decidable (WellFormed cs) :=
  inferInstanceAs (Decidable (_ = true))

/-- Whether a text is true when an interpretation says which atoms are. -/
def Truth (I : List Char → Prop) (cs : List Char) : Prop := ∃ f ∈ Formula.read cs, f.Holds I

namespace Formula

/-- Whether an operand is true. -/
def OperandTruth (I : List Char → Prop) (clause : List Char) : Prop :=
  ∃ f ∈ operand clause, f.Holds I

/-- A text is well-formed when its operands are. -/
theorem wellFormed_iff {cs : List Char} : WellFormed cs ↔
    ∃ s, operands cs = some s ∧ ∀ clause ∈ s.clauses, (operand clause).isSome = true := by
  rw [WellFormed, read_eq]
  cases operands cs with
  | none => simp
  | some s =>
      simp only [Option.bind_some, Option.isSome_map, isSome_mapM, alternative,
        Split.mem_clauses_iff, Option.some.injEq, exists_eq_left']
      constructor
      · rintro h clause ⟨a, ha, hclause⟩
        exact h a ha clause hclause
      · exact fun h a ha clause hclause => h clause ⟨a, ha, hclause⟩

/-- A text is true when all operands of an alternative are. -/
theorem truth_iff {cs : List Char} {s : Split} (hs : operands cs = some s)
    (hw : ∀ clause ∈ s.clauses, (operand clause).isSome = true) (I : List Char → Prop) :
    Truth I cs ↔ ∃ a ∈ s.alternatives, ∀ clause ∈ a, OperandTruth I clause := by
  have hread : ∀ a ∈ s.alternatives, ∃ fs, a.mapM operand = some fs := fun a ha =>
    Option.isSome_iff_exists.1 <| isSome_mapM.2 fun clause hclause =>
      hw clause (Split.mem_clauses_iff.2 ⟨a, ha, hclause⟩)
  have halternatives : (s.alternatives.mapM alternative).isSome = true := by
    refine isSome_mapM.2 fun a ha => ?_
    obtain ⟨fs, hfs⟩ := hread a ha
    rw [alternative, hfs]
    rfl
  obtain ⟨parts, hparts⟩ := Option.isSome_iff_exists.1 halternatives
  have hone (a : List (List Char)) (ha : a ∈ s.alternatives) :
      (∃ f ∈ alternative a, f.Holds I) ↔ ∀ clause ∈ a, OperandTruth I clause := by
    obtain ⟨fs, hfs⟩ := hread a ha
    have hall := combines_of_mapM (Holds I) hfs .all
    simp only [alternative, hfs, Option.map_some, Option.mem_def, Option.some.injEq,
      exists_eq_left', holds_joined, hall]
    rfl
  have htruth : Truth I cs ↔ Join.any.Combines (Holds I) parts := by
    rw [Truth, read_eq, hs, Option.bind_some, hparts]
    simp [holds_joined]
  rw [htruth, combines_of_mapM (Holds I) hparts]
  exact Join.combines_congr hone .any

end Formula

end DocQuery
