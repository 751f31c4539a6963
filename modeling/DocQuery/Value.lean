import DocQuery.Number.Double
import DocQuery.Text.Split

/-!
# Values and documents

A `Value` is what documents hold and parameters are bound to: null, a truth
value, a whole number of any size, a double, a text, a list or an object.  An
object is a list of fields in the order in which they were set.

`Fields` is the view of that order as a dictionary.

* `get?` finds the first entry of a name.
* `set` puts a value under a name: in its place when the name is there, at the
  end when it is not.
* `merge` sets every entry of the second dictionary in the first.

Two notions of a value are used throughout.  `isTrue` says which values count as
true: all but null, `false`, zero and what is empty.  `same` is equality: truth
values count as the numbers 0 and 1, numbers are compared by what they are worth,
and the order of an object's fields does not matter.  What a list or an object holds
is taken for equal to itself without a comparison: `alike` is how items, fields and
the keys of a dictionary are compared.  The two differ at `nan` alone, which is not
the same as itself and yet alike to itself.
-/

namespace DocQuery

/-- A value of a document or of a bound parameter. -/
inductive Value where
  /-- The absent value. -/
  | null
  /-- A truth value. -/
  | bool (b : Bool)
  /-- A whole number. -/
  | int (n : Int)
  /-- A double. -/
  | float (x : Double)
  /-- A text. -/
  | str (s : String)
  /-- A list. -/
  | list (items : List Value)
  /-- An object, its fields in order. -/
  | object (fields : List (String × Value))
deriving Inhabited, Repr

/-- The fields of an object, in order. -/
abbrev Fields := List (String × Value)

namespace Fields

/-! ## Fields as a dictionary -/

/-- The value under a name. -/
def get? : Fields → String → Option Value
  | [], _ => none
  | (key, value) :: rest, name => if key = name then some value else get? rest name

/-- The value under a name, or null. -/
def getD (fields : Fields) (name : String) : Value := (fields.get? name).getD .null

/-- Whether a name is there. -/
def has (fields : Fields) (name : String) : Bool := (fields.get? name).isSome

/-- The names, in order. -/
def names (fields : Fields) : List String := fields.map Prod.fst

/-- Puts a value under a name. -/
def set : Fields → String → Value → Fields
  | [], name, value => [(name, value)]
  | (key, old) :: rest, name, value =>
      if key = name then (key, value) :: rest else (key, old) :: set rest name value

/-- Sets every entry of the second dictionary in the first. -/
def merge (fields more : Fields) : Fields :=
  more.foldl (fun acc entry => acc.set entry.1 entry.2) fields

/-- Sets the value only where the name is not there. -/
def setDefault (fields : Fields) (name : String) (value : Value) : Fields :=
  if fields.has name then fields else fields.set name value

@[simp] theorem get?_nil (name : String) : get? [] name = none := rfl

theorem get?_set (fields : Fields) (name other : String) (value : Value) :
    (fields.set name value).get? other =
      if name = other then some value else fields.get? other := by
  induction fields with
  | nil => simp [set, get?]
  | cons entry rest ih =>
      obtain ⟨key, old⟩ := entry
      by_cases hk : key = name
      · subst hk
        by_cases ho : key = other <;> simp [set, get?, ho]
      · by_cases ho : key = other
        · subst ho
          simp [set, get?, hk, Ne.symm hk]
        · simp [set, get?, hk, ho, ih]

theorem get?_set_self (fields : Fields) (name : String) (value : Value) :
    (fields.set name value).get? name = some value := by simp [get?_set]

theorem get?_set_of_ne (fields : Fields) {name other : String} (h : name ≠ other) (value : Value) :
    (fields.set name value).get? other = fields.get? other := by simp [get?_set, h]

end Fields

namespace Value

/-! ## Kinds of values -/

/-- The fields of an object. -/
def fields? : Value → Option Fields
  | .object fields => some fields
  | _ => none

/-- The items of a list. -/
def items? : Value → Option (List Value)
  | .list items => some items
  | _ => none

/-- The text of a text. -/
def text? : Value → Option String
  | .str s => some s
  | _ => none

/-- Whether the value is an object. -/
def isObject (v : Value) : Bool := v.fields?.isSome

/-- Whether the value is a list. -/
def isList (v : Value) : Bool := v.items?.isSome

/-- Whether the value is a truth value. -/
def isBool : Value → Bool
  | .bool _ => true
  | _ => false

/-- Whether the value is null. -/
def isNull : Value → Bool
  | .null => true
  | _ => false

/-- The name of a value's kind in messages. -/
def kindName : Value → String
  | .null => "NoneType"
  | .bool _ => "bool"
  | .int _ => "int"
  | .float _ => "float"
  | .str _ => "str"
  | .list _ => "list"
  | .object _ => "dict"

/-- Whether the value counts as true. -/
def isTrue : Value → Bool
  | .null => false
  | .bool b => b
  | .int n => n != 0
  | .float x => !x.isZero
  | .str s => s != ""
  | .list items => !items.isEmpty
  | .object fields => !fields.isEmpty

/-- A text, or null for none. -/
def ofText? : Option String → Value
  | none => .null
  | some s => .str s

/-- A list of texts. -/
def ofTexts (texts : List String) : Value := .list (texts.map .str)

/-! ## Equality -/

/-- What a value is worth as a number. -/
inductive Worth where
  /-- A whole number. -/
  | whole (n : Int)
  /-- A double. -/
  | double (x : Double)

/-- The worth of numbers and truth values. -/
def worth? : Value → Option Worth
  | .bool b => some (.whole (if b then 1 else 0))
  | .int n => some (.whole n)
  | .float x => some (.double x)
  | _ => none

/-- Equality of worth. -/
def Worth.same : Worth → Worth → Bool
  | .whole a, .whole b => a == b
  | .whole a, .double y => y.toInt? == some a
  | .double x, .whole b => x.toInt? == some b
  | .double x, .double y => x.same y

/-- Equality of a number with a value. -/
def sameWorth (v w : Value) : Bool :=
  match v.worth?, w.worth? with
  | some a, some b => a.same b
  | _, _ => false

/-- Whether two values are `nan` and one object. -/
def oneNan : Value → Value → Bool
  | .float x, .float y => x.oneNan y
  | _, _ => false

mutual

/-- Equality of values. -/
def same : Value → Value → Bool
  | .null, w => w.isNull
  | .bool b, w => sameWorth (.bool b) w
  | .int n, w => sameWorth (.int n) w
  | .float x, w => sameWorth (.float x) w
  | .str s, w => w.text? == some s
  | .list items, .list others => sameItems items others
  | .list _, _ => false
  | .object fields, .object others => fields.length == others.length && sameFields fields others
  | .object _, _ => false
termination_by structural v => v

/-- Whether the items of two lists are alike, one by one. -/
def sameItems : List Value → List Value → Bool
  | [], [] => true
  | v :: vs, w :: ws => (oneNan v w || same v w) && sameItems vs ws
  | _, _ => false
termination_by structural vs => vs

/-- Whether every field is found with a value that is alike. -/
def sameFields : List (String × Value) → List (String × Value) → Bool
  | [], _ => true
  | (name, v) :: rest, others =>
      (match Fields.get? others name with
        | some w => oneNan v w || same v w
        | none => false) && sameFields rest others
termination_by structural vs => vs

end

/-- Equality of what is held: one object is equal to itself, and all else is compared. -/
def alike (v w : Value) : Bool := oneNan v w || same v w

@[simp] theorem same_str_self (s : String) : (Value.str s).same (.str s) = true := by
  simp [same, text?]

@[simp] theorem alike_str_self (s : String) : (Value.str s).alike (.str s) = true := by
  simp [alike]

/-! ## Reading along a path -/

/-- The parts of a text between full stops, empty parts included. -/
def pathParts (path : String) : List String := Text.split '.' path

/-- The value reached by following field names; null where a name is missing or
what is reached is no object. -/
def follow : Value → List String → Value
  | v, [] => v
  | .object fields, part :: rest => (Fields.getD fields part).follow rest
  | _, _ :: _ => .null

/-- The value at a dotted path. -/
def atPath (v : Value) (path : String) : Value := v.follow (pathParts path)

example : (Value.int 1).same (.bool true) := by decide
example : (Value.list [.int 1]).same (.list [.float (Double.ofRatio false 1 1)]) := by
  decide +kernel
example :
    (Value.object [("a", .int 1), ("b", .null)]).same (.object [("b", .null), ("a", .int 1)]) := by
  decide
example : (Value.list [.float (.nan 0)]).same (.list [.float (.nan 0)]) := by decide
example : (Value.list [.float (.nan 0)]).same (.list [.float (.nan 1)]) = false := by decide
example : (Value.str "").isTrue = false := by decide
example : pathParts "a..b" = ["a", "", "b"] := by decide
example : (Value.object [("a", .object [("b", .int 2)])]).atPath "a.b" = .int 2 := by rfl

end Value

end DocQuery
