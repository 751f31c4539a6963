import DocQuery.Shown

/-!
# Values used as what they are not

Values arrive from callers and from the server with no promise about their kind.
A `Misuse` says that one of them was used as what it is not: a number as a list, a
list as an object, and so on.

`Value.listed`, `lookup`, `named`, `spread`, `fieldName`, `asPath`, `asLetters`,
`asText`, `asLimit` and `asFields` are the uses that can fail.
-/

namespace DocQuery

/-- How a value was misused. -/
inductive Misuse where
  /-- An option of a query that is taken already. -/
  | takenOption (name : String)
  /-- A value of some kind has no fields to spread. -/
  | notAnObject (kind : String)
  /-- A value of some kind has no items. -/
  | noItems (kind : String)
  /-- A value of some kind has no fields to read. -/
  | noFields (kind : String)
  /-- A value of some kind has no fields to look up. -/
  | noLookup (kind : String)
  /-- A value of some kind is no name. -/
  | noName (kind : String)
  /-- A value of some kind is no path to be split. -/
  | noPath (kind : String)
  /-- A value of some kind has no letters. -/
  | noLetters (kind : String)
  /-- A value of some kind is no text. -/
  | notText (kind : String)
  /-- A value of some kind has no length. -/
  | noLength (kind : String)
  /-- A value of some kind is no limit of a length. -/
  | noLimit (kind : String)
  /-- A value of some kind holds nothing that could be a full stop. -/
  | noMembers (kind : String)
  /-- An item that should be a pair, of some number, is no list. -/
  | noPair (index : Nat)
  /-- An item that should be a pair, of some number, has another length. -/
  | pairLength (index length : Nat)
deriving DecidableEq, Repr

namespace Misuse

/-- The wording. -/
def message : Misuse → String
  | takenOption name => "the option " ++ Text.quoted name ++ " is taken already"
  | notAnObject kind => "'" ++ kind ++ "' object is not a mapping"
  | noItems kind => "'" ++ kind ++ "' object is not iterable"
  | noFields "str" => "string indices must be integers, not 'str'"
  | noFields "list" => "list indices must be integers or slices, not str"
  | noFields kind => "'" ++ kind ++ "' object is not subscriptable"
  | noLookup kind => "'" ++ kind ++ "' object has no attribute 'get'"
  | noName kind => "unhashable type: '" ++ kind ++ "'"
  | noPath kind => "'" ++ kind ++ "' object has no attribute 'split'"
  | noLetters kind => "'" ++ kind ++ "' object has no attribute 'lower'"
  | notText kind => "expected string or bytes-like object, got '" ++ kind ++ "'"
  | noLength kind => "object of type '" ++ kind ++ "' has no len()"
  | noLimit kind => "'>' not supported between instances of 'int' and '" ++ kind ++ "'"
  | noMembers kind => "argument of type '" ++ kind ++ "' is not iterable"
  | noPair index =>
      "cannot convert dictionary update sequence element #" ++ toString index ++ " to a sequence"
  | pairLength index length =>
      "dictionary update sequence element #" ++ toString index ++ " has length " ++ toString length
        ++ "; 2 is required"

end Misuse

namespace Value

/-- The items of what a value lists: the items of a list, the characters of a text,
the names of an object. -/
def listed : Value → Except Misuse (List Value)
  | .list items => .ok items
  | .str s => .ok (s.toList.map fun c => .str (String.ofList [c]))
  | .object fields => .ok (fields.map fun entry => .str entry.1)
  | v => .error (.noItems v.kindName)

/-- The fields of a value in which one is looked up. -/
def lookup : Value → Except Misuse Fields
  | .object fields => .ok fields
  | v => .error (.noLookup v.kindName)

/-- The fields of a value that are read by name. -/
def named : Value → Except Misuse Fields
  | .object fields => .ok fields
  | v => .error (.noFields v.kindName)

/-- The fields of a value that are spread over others. -/
def spread : Value → Except Misuse Fields
  | .object fields => .ok fields
  | v => .error (.notAnObject v.kindName)

/-- The name that a value is as the name of a field: a text itself, and any other
value that holds no further ones as messages show it. -/
def fieldName : Value → Except Misuse String
  | .list _ => .error (.noName "list")
  | .object _ => .error (.noName "dict")
  | v => .ok v.inText

/-- The path that a value is. -/
def asPath : Value → Except Misuse String
  | .str s => .ok s
  | v => .error (.noPath v.kindName)

/-- The text that a value is, letter by letter. -/
def asLetters : Value → Except Misuse String
  | .str s => .ok s
  | v => .error (.noLetters v.kindName)

/-- The text that a value is. -/
def asText : Value → Except Misuse String
  | .str s => .ok s
  | v => .error (.notText v.kindName)

/-- The limit that a value is; truth values count as numbers. -/
def asLimit : Value → Except Misuse Int
  | .int n => .ok n
  | .bool b => .ok (if b then 1 else 0)
  | v => .error (.noLimit v.kindName)

/-! ## Pairs as fields -/

/-- The field that an item of some number is, when it lists a name and a value. -/
def pair (index : Nat) (v : Value) : Except Misuse (String × Value) :=
  match v.listed with
  | .error _ => .error (.noPair index)
  | .ok [name, value] => name.fieldName.map fun name => (name, value)
  | .ok items => .error (.pairLength index items.length)

/-- Sets the fields that items are, counted from a number. -/
def setPairs : Nat → List Value → Fields → Except Misuse Fields
  | _, [], fields => .ok fields
  | index, v :: rest, fields =>
      match v.pair index with
      | .error m => .error m
      | .ok (name, value) => setPairs (index + 1) rest (fields.set name value)

/-- The fields of an object, or those that the pairs of a list are. -/
def asFields : Value → Except Misuse Fields
  | .object fields => .ok fields
  | v => match v.listed with
    | .ok items => setPairs 0 items []
    | .error m => .error m

example : (Value.list [.list [.str "a", .int 1], .str "bc"]).asFields =
    .ok [("a", .int 1), ("b", .str "c")] := by rfl
example : (Value.str "a").asFields = .error (.pairLength 0 1) := by rfl

end Value

end DocQuery
