import DocQuery.Join
import DocQuery.NamedValue
import DocQuery.Query.Parameter
import DocQuery.Text.LowerCase

/-!
# Conditions

A condition is built from tests of the document `d`, each naming its property and
its value by parameters, and from text written by callers.  Conditions are joined
by one operator and grouped in brackets.

`text` writes a condition.  `NamedValue.test` is the test that a property has a
value: two texts are compared in lower case when their case does not count.
-/

namespace DocQuery

/-- A test of the document. -/
inductive Test where
  /-- The property is the value. -/
  | equal (property value : String)
  /-- The lower case of the property is the value. -/
  | equalLower (property value : String)
  /-- The property matches the pattern, without regard to case. -/
  | like (property pattern : String)
  /-- The property is null. -/
  | isNull (property : String)
  /-- The property is not null. -/
  | notNull (property : String)
  /-- The document has the key. -/
  | keyIs (key : String)
  /-- The document has another key. -/
  | keyIsNot (key : String)
deriving DecidableEq, Repr

namespace Test

/-- The text of a test. -/
def text : Test → String
  | equal property value => "d.@" ++ property ++ " == @" ++ value
  | equalLower property value => "LOWER(d.@" ++ property ++ ") == @" ++ value
  | like property pattern => "LIKE(d.@" ++ property ++ ", @" ++ pattern ++ ", true)"
  | isNull property => "d.@" ++ property ++ " == null"
  | notNull property => "d.@" ++ property ++ " != null"
  | keyIs key => "d._key == @" ++ key
  | keyIsNot key => "d._key != @" ++ key

end Test

/-- A condition. -/
inductive Condition where
  /-- A test. -/
  | test (t : Test)
  /-- Text written by a caller. -/
  | written (s : String)
  /-- Several conditions with an operator between them. -/
  | joined (j : Join) (parts : List Condition)
  /-- A condition in brackets. -/
  | group (c : Condition)
deriving Repr, Inhabited

namespace Condition

mutual

/-- The text of a condition. -/
def text : Condition → String
  | test t => t.text
  | written s => s
  | joined j parts => (" " ++ j.operator ++ " ").intercalate (texts parts)
  | group c => "( " ++ text c ++ " )"
termination_by structural c => c

/-- The texts of several conditions. -/
def texts : List Condition → List String
  | [] => []
  | c :: rest => text c :: texts rest
termination_by structural cs => cs

end

theorem texts_eq_map (parts : List Condition) : texts parts = parts.map text := by
  induction parts with
  | nil => rfl
  | cons c rest ih => simp [texts, ih]

end Condition

namespace NamedValue

/-- The text to compare with in lower case, when the value is a text and its case
does not count. -/
def lowerText? (p : NamedValue) (ignoreCase : Bool) : Option String :=
  if ignoreCase || !p.caseSensitive then p.value.text? else none

/-- The test that the property has the value, and the parameters it needs. -/
def test (p : NamedValue) (key value : String) (binds : Fields) (ignoreCase : Bool := false) :
    Test × Fields :=
  let binds := binds.set key (attributePath p.name)
  match p.lowerText? ignoreCase with
  | some s => (.equalLower key value, binds.set value (.str (Text.lowered s)))
  | none => (.equal key value, binds.set value p.value)

/-- The parameters of the property and the value of the named value of a number. -/
def parameters (p : NamedValue) (number : Nat) : String × String :=
  let stem := bindName p.name
  (stem ++ "_key_" ++ toString number, stem ++ "_val_" ++ toString number)

/-- The tests of several named values, numbered from a number on. -/
def testsFrom (ignoreCase : Bool) : Nat → List NamedValue → Fields → List Condition × Fields
  | _, [], binds => ([], binds)
  | number, p :: rest, binds =>
      let (key, value) := p.parameters number
      let (t, binds) := p.test key value binds ignoreCase
      let (tests, binds) := testsFrom ignoreCase (number + 1) rest binds
      (.test t :: tests, binds)

end NamedValue

end DocQuery
