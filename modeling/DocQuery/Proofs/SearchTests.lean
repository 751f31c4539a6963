import DocQuery.Filter.Compile
import DocQuery.Proofs.Fields
import Std.Data.String.ToNat

/-!
# What a search tests and binds

Compiling a search walks over its pairs and threads the parameters through.  Here the
walk is taken apart into two lists that do not depend on each other or on what was bound
before.

* The *tests* depend on the kinds of the terms alone: whether a term asks for null, for
  not null, or is looked for in the property (`testsFrom_eq`).
* The *bindings* are merged into what was bound before.  The pair with number `k` binds
  `search_prop_k` to its property, and `search_term_k` to the pattern of a term that is
  looked for.  No name is bound twice (`bindings_nodup`), so a lookup finds exactly what
  some pair binds (`get?_bindings`).
-/

namespace DocQuery

namespace Search

/-! ## Kinds of terms -/

/-- What a term asks of a property. -/
inductive TermKind where
  /-- To be null. -/
  | null
  /-- Not to be null. -/
  | notNull
  /-- To hold the term. -/
  | inside
deriving DecidableEq, Repr

/-- The kind of a term. -/
def kind (term : String) : TermKind :=
  if term = "null" ∨ term = "NULL" then .null
  else if term = "!null" ∨ term = "!NULL" then .notNull
  else .inside

/-- The test of a pair with a number. -/
def testOf (number : Nat) : TermKind → Test
  | .null => .isNull (propertyParameter number)
  | .notNull => .notNull (propertyParameter number)
  | .inside => .like (propertyParameter number) (termParameter number)

/-- The tests of terms, numbered from a number on. -/
def testsOf : Nat → List TermKind → List Condition
  | _, [] => []
  | number, k :: rest => .test (testOf number k) :: testsOf (number + 1) rest

/-- The kinds of the terms of all pairs. -/
def kinds (s : Search) : List TermKind := s.pairs.map fun pair => kind pair.2

/-! ## Bindings -/

/-- What a pair with a number binds. -/
def bindingsOf (number : Nat) (property term : String) : Fields :=
  (propertyParameter number, attributePath property) ::
    if kind term = .inside then [(termParameter number, .str (pattern term))] else []

/-- What pairs bind, numbered from a number on. -/
def bindingsFrom : Nat → List (String × String) → Fields
  | _, [] => []
  | number, (property, term) :: rest =>
      bindingsOf number property term ++ bindingsFrom (number + 1) rest

/-- What a search binds. -/
def bindings (s : Search) : Fields := bindingsFrom 1 s.pairs

theorem test_eq (number : Nat) (property term : String) (binds : Fields) :
    test number property term binds =
      (testOf number (kind term), binds.merge (bindingsOf number property term)) := by
  unfold test kind bindingsOf kind
  split
  · rfl
  · split
    · rfl
    · rfl

theorem testsFrom_eq (number : Nat) (pairs : List (String × String)) (binds : Fields) :
    testsFrom number pairs binds =
      (testsOf number (pairs.map fun pair => kind pair.2),
        binds.merge (bindingsFrom number pairs)) := by
  induction pairs generalizing number binds with
  | nil => rfl
  | cons pair rest ih =>
      obtain ⟨property, term⟩ := pair
      simp only [testsFrom, test_eq, ih, bindingsFrom, Fields.merge_append]
      rfl

theorem tests_eq (s : Search) (binds : Fields) :
    s.tests binds = (testsOf 1 s.kinds, binds.merge s.bindings) := testsFrom_eq 1 s.pairs binds

theorem compile?_snd (s : Search) (binds : Fields) :
    (s.compile? binds).2 = binds.merge s.bindings := by
  rw [compile?, tests_eq]

/-! ## Distinct names -/

theorem propertyParameter_inj {i j : Nat} (h : propertyParameter i = propertyParameter j) :
    i = j := Nat.repr_injective (String.append_right_inj _ |>.1 h)

theorem termParameter_inj {i j : Nat} (h : termParameter i = termParameter j) : i = j :=
  Nat.repr_injective (String.append_right_inj _ |>.1 h)

theorem propertyParameter_ne_termParameter (i j : Nat) :
    propertyParameter i ≠ termParameter j := by
  intro h
  have hlist := congrArg (fun s => s.toList[7]?) h
  simp [propertyParameter, termParameter] at hlist

/-- Whether the pair with a number binds a name to a value. -/
def Binds (number : Nat) (property term name : String) (v : Value) : Prop :=
  (name = propertyParameter number ∧ v = attributePath property) ∨
    (kind term = .inside ∧ name = termParameter number ∧ v = .str (pattern term))

theorem mem_bindingsOf {number : Nat} {property term name : String} {v : Value} :
    (name, v) ∈ bindingsOf number property term ↔ Binds number property term name v := by
  rw [bindingsOf, List.mem_cons, Prod.mk.injEq, Binds]
  by_cases h : kind term = .inside
  · simp [h]
  · simp [h]

/-- What is bound by pairs numbered from `number` on is bound by one of them. -/
theorem mem_bindingsFrom {number : Nat} {pairs : List (String × String)} {name : String}
    {v : Value} :
    (name, v) ∈ bindingsFrom number pairs ↔ ∃ k property term,
      pairs[k]? = some (property, term) ∧ Binds (number + k) property term name v := by
  induction pairs generalizing number with
  | nil => simp [bindingsFrom]
  | cons pair rest ih =>
      obtain ⟨property, term⟩ := pair
      rw [bindingsFrom, List.mem_append, mem_bindingsOf, ih]
      constructor
      · rintro (h | ⟨k, p, t, hk, h⟩)
        · exact ⟨0, property, term, rfl, h⟩
        · exact ⟨k + 1, p, t, hk, by rwa [Nat.add_assoc, Nat.add_comm 1] at h⟩
      · rintro ⟨k, p, t, hk, h⟩
        cases k with
        | zero =>
            cases hk
            exact .inl h
        | succ k => exact .inr ⟨k, p, t, hk, by rwa [Nat.add_assoc, Nat.add_comm 1]⟩

/-- The number of a bound name can be read off it. -/
theorem Binds.number_eq {i j : Nat} {p q t u name : String} {v w : Value}
    (h : Binds i p t name v) (h' : Binds j q u name w) : i = j := by
  rcases h with ⟨hname, -⟩ | ⟨-, hname, -⟩ <;> rcases h' with ⟨hname', -⟩ | ⟨-, hname', -⟩
  · exact propertyParameter_inj (hname.symm.trans hname')
  · exact absurd (hname.symm.trans hname') (propertyParameter_ne_termParameter i j)
  · exact absurd (hname'.symm.trans hname) (propertyParameter_ne_termParameter j i)
  · exact termParameter_inj (hname.symm.trans hname')

theorem bindingsOf_nodup (number : Nat) (property term : String) :
    (bindingsOf number property term).names.Nodup := by
  rw [bindingsOf]
  split
  · simpa using propertyParameter_ne_termParameter number number
  · simp

/-- No name is bound twice. -/
theorem bindingsFrom_nodup (number : Nat) (pairs : List (String × String)) :
    (bindingsFrom number pairs).names.Nodup := by
  induction pairs generalizing number with
  | nil => exact List.nodup_nil
  | cons pair rest ih =>
      obtain ⟨property, term⟩ := pair
      rw [bindingsFrom, Fields.names_append, List.nodup_append]
      refine ⟨bindingsOf_nodup number property term, ih (number + 1), ?_⟩
      -- names of later pairs have greater numbers
      intro name hfirst _ hlater hsame
      subst hsame
      obtain ⟨⟨_, v⟩, hv, rfl⟩ := List.mem_map.1 hfirst
      obtain ⟨⟨other, w⟩, hw, hname⟩ := List.mem_map.1 hlater
      obtain rfl : other = _ := hname
      obtain ⟨k, p, t, -, hbinds⟩ := mem_bindingsFrom.1 hw
      have hnumber := (mem_bindingsOf.1 hv).number_eq hbinds
      omega

theorem bindings_nodup (s : Search) : s.bindings.names.Nodup := bindingsFrom_nodup 1 s.pairs

theorem nodup_of_option (search : Option Search) :
    ((search.map bindings).getD []).names.Nodup := by
  cases search with
  | none => exact List.nodup_nil
  | some s => exact s.bindings_nodup

/-- A search binds a name to a value exactly when one of its pairs does. -/
theorem get?_bindings {s : Search} {name : String} {v : Value} :
    s.bindings.get? name = some v ↔ ∃ k property term,
      s.pairs[k]? = some (property, term) ∧ Binds (k + 1) property term name v := by
  rw [Fields.get?_eq_some_iff s.bindings_nodup, bindings, mem_bindingsFrom]
  simp only [Nat.add_comm 1]

end Search

end DocQuery
