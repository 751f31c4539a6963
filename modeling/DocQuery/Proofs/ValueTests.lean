import DocQuery.Proofs.Fields
import DocQuery.Query.Request

/-!
# What named values test and bind

Like the pairs of a search, named values are walked over while the parameters are
threaded through.  The walk falls apart into the tests, which depend on the *forms* of
the named values alone, and the bindings, which are merged into what was bound before.

* The form of a named value is the stem of its parameters and whether lower case is
  compared (`NamedValue.Form`).  Neither its path nor its value is in it.
* The form of a part of a constraint is the form of its named value, or those of all
  members of a composite key (`Constraint.Form`).

`testsFrom_eq` and `branchesFrom_eq` take the two walks apart.
-/

namespace DocQuery

namespace NamedValue

/-! ## Forms -/

/-- What the test of a named value depends on. -/
structure Form where
  /-- The stem of its parameters. -/
  stem : String
  /-- Whether lower case is compared. -/
  lowered : Bool
deriving DecidableEq, Repr

/-- The form of a named value. -/
def form (ignoreCase : Bool) (p : NamedValue) : Form :=
  ⟨bindName p.name, (p.lowerText? ignoreCase).isSome⟩

/-- The test that compares lower case or not. -/
def testOf (lowered : Bool) (key value : String) : Test :=
  if lowered then .equalLower key value else .equal key value

/-- The parameter of the property of the named value of a number. -/
def Form.keyParameter (f : Form) (number : Nat) : String := f.stem ++ "_key_" ++ toString number

/-- The parameter of the value of the named value of a number. -/
def Form.valueParameter (f : Form) (number : Nat) : String := f.stem ++ "_val_" ++ toString number

/-- The test of the named value of a number. -/
def Form.test (f : Form) (number : Nat) : Test :=
  testOf f.lowered (f.keyParameter number) (f.valueParameter number)

/-- The tests of forms, numbered from a number on. -/
def formTests : Nat → List Form → List Condition
  | _, [] => []
  | number, f :: rest => .test (f.test number) :: formTests (number + 1) rest

/-! ## Bindings -/

/-- The value that is compared. -/
def comparedValue (ignoreCase : Bool) (p : NamedValue) : Value :=
  match p.lowerText? ignoreCase with
  | some s => .str (Text.lowered s)
  | none => p.value

/-- What a named value binds under two names. -/
def bindings (ignoreCase : Bool) (p : NamedValue) (key value : String) : Fields :=
  [(key, attributePath p.name), (value, p.comparedValue ignoreCase)]

/-- What named values bind, numbered from a number on. -/
def bindingsFrom (ignoreCase : Bool) : Nat → List NamedValue → Fields
  | _, [] => []
  | number, p :: rest =>
      p.bindings ignoreCase (p.parameters number).1 (p.parameters number).2 ++
        bindingsFrom ignoreCase (number + 1) rest

theorem test_eq (p : NamedValue) (key value : String) (binds : Fields) (ignoreCase : Bool) :
    p.test key value binds ignoreCase = (testOf (p.form ignoreCase).lowered key value,
      binds.merge (p.bindings ignoreCase key value)) := by
  unfold test bindings comparedValue form testOf
  cases p.lowerText? ignoreCase with
  | none => rfl
  | some s => rfl

theorem testsFrom_eq (ignoreCase : Bool) (number : Nat) (ps : List NamedValue) (binds : Fields) :
    testsFrom ignoreCase number ps binds = (formTests number (ps.map (form ignoreCase)),
      binds.merge (bindingsFrom ignoreCase number ps)) := by
  induction ps generalizing number binds with
  | nil => rfl
  | cons p rest ih =>
      simp only [testsFrom, test_eq, ih, bindingsFrom, Fields.merge_append]
      rfl

end NamedValue

/-! ## Parts of a constraint -/

namespace Constraint

/-- What the branch of a part depends on. -/
inductive Form where
  /-- The form of a single value. -/
  | single (f : NamedValue.Form)
  /-- The forms of the members of a composite key. -/
  | composite (fs : List NamedValue.Form)
deriving DecidableEq, Repr

/-- The form of a part. -/
def form (ignoreCase : Bool) : Constraint → Form
  | single p => .single (p.form ignoreCase)
  | composite k => .composite (k.members.map (NamedValue.form ignoreCase))

/-- How many named values a part of a form has. -/
def Form.size : Form → Nat
  | single _ => 1
  | composite fs => fs.length

/-- The branch of a part whose named values are numbered from a number on. -/
def Form.branch (number : Nat) : Form → Condition
  | single f => .test (f.test number)
  | composite fs => .group (.joined .all (NamedValue.formTests number fs))

/-- The branches of parts, numbered from a number on. -/
def branches : Nat → List Form → List Condition
  | _, [] => []
  | number, f :: rest => f.branch number :: branches (number + f.size) rest

/-- What parts bind, numbered from a number on. -/
def bindingsFrom (ignoreCase : Bool) : Nat → List Constraint → Fields
  | _, [] => []
  | number, c :: rest =>
      NamedValue.bindingsFrom ignoreCase number c.members ++
        bindingsFrom ignoreCase (number + c.members.length) rest

theorem size_form (ignoreCase : Bool) (c : Constraint) :
    (c.form ignoreCase).size = c.members.length := by
  cases c with
  | single p => rfl
  | composite k => exact List.length_map _

theorem branchesFrom_eq (ignoreCase : Bool) (number : Nat) (cs : List Constraint)
    (binds : Fields) :
    Request.branchesFrom ignoreCase number cs binds = (branches number (cs.map (form ignoreCase)),
      binds.merge (bindingsFrom ignoreCase number cs)) := by
  induction cs generalizing number binds with
  | nil => rfl
  | cons c rest ih =>
      simp only [Request.branchesFrom, NamedValue.testsFrom_eq, ih, bindingsFrom,
        Fields.merge_append, List.map_cons, branches, size_form]
      cases c with
      | single p => rfl
      | composite k => rfl

end Constraint

end DocQuery
