import DocQuery.Number.Shortest
import DocQuery.Text.Quoted
import DocQuery.Value

/-!
# Values shown in messages

Messages show values in *literal form*: texts between quotes, `None`, `True` and
`False`, numbers in decimal, lists in brackets and objects in braces.

A record shown in a message may hold a choice among fixed names, which has a form
of its own, `<Kind.NAME: 'TEXT'>`.  `Shown` is a value with such choices.  `plain`
forgets them: a choice is then its text.  A record is shown as an object, or in a
form that names its kind.

`shortened` keeps messages short: a text over a hundred characters keeps its two
halves, and a list over ten items is replaced by a note of how many there are.
`Value.shortenedTo` does it for any two limits.
-/

namespace DocQuery

/-! ## Literal form -/

namespace Value

/-- The literal form of a value that holds no other value. -/
def scalarLiteral : Value → String
  | .bool true => "True"
  | .bool false => "False"
  | .int n => toString n
  | .float x => x.text
  | .str s => Text.quoted s
  | _ => "None"

mutual

/-- The literal form of a value. -/
def literal : Value → String
  | .list items => "[" ++ ", ".intercalate (literalItems items) ++ "]"
  | .object fields => "\x7b" ++ ", ".intercalate (literalFields fields) ++ "\x7d"
  | v => scalarLiteral v
termination_by structural v => v

/-- The literal forms of the items of a list. -/
def literalItems : List Value → List String
  | [] => []
  | v :: rest => literal v :: literalItems rest
termination_by structural vs => vs

/-- The literal forms of the fields of an object. -/
def literalFields : List (String × Value) → List String
  | [] => []
  | (name, v) :: rest => (Text.quoted name ++ ": " ++ literal v) :: literalFields rest
termination_by structural vs => vs

end

/-- A value in running text: a text is itself, anything else its literal form. -/
def inText : Value → String
  | .str s => s
  | v => v.literal

/-! ## Short values -/

/-- A text with its middle left out when it is longer than a limit. -/
def shortenText (limit : Int) (cs : List Char) : List Char :=
  if (cs.length : Int) > limit then
    let half := (max (limit / 2) 1).toNat
    cs.take half ++ ['.', '.', '.'] ++ cs.drop (cs.length - half)
  else cs

/-- The note that stands for a long list. -/
def listNote (size : Nat) (kind : String) : Value :=
  .str ("[<" ++ toString size ++ " " ++ kind ++ " elements>]")

mutual

/-- A value with long texts and long lists shortened. -/
def shortenedTo (textLimit listLimit : Int) : Value → Value
  | .str s => .str (String.ofList (shortenText textLimit s.toList))
  | .list items => match items with
    | [] => .list []
    | first :: rest =>
        if ((rest.length + 1 : Nat) : Int) > listLimit then
          listNote (rest.length + 1) first.kindName
        else .list (shortenedItems textLimit listLimit (first :: rest))
  | .object fields => .object (shortenedFields textLimit listLimit fields)
  | v => v
termination_by structural v => v

/-- The items of a list, shortened. -/
def shortenedItems (textLimit listLimit : Int) : List Value → List Value
  | [] => []
  | v :: rest => shortenedTo textLimit listLimit v :: shortenedItems textLimit listLimit rest
termination_by structural vs => vs

/-- The fields of an object, shortened. -/
def shortenedFields (textLimit listLimit : Int) : List (String × Value) → List (String × Value)
  | [] => []
  | (name, v) :: rest =>
      (name, shortenedTo textLimit listLimit v) :: shortenedFields textLimit listLimit rest
termination_by structural vs => vs

end

mutual

/-- Whether an empty list is found outside all other lists. -/
def hasEmptyList : Value → Bool
  | .list items => items.isEmpty
  | .object fields => hasEmptyListField fields
  | _ => false
termination_by structural v => v

/-- Whether an empty list is found in some field. -/
def hasEmptyListField : List (String × Value) → Bool
  | [] => false
  | (_, v) :: rest => hasEmptyList v || hasEmptyListField rest
termination_by structural vs => vs

end

/-- A value shortened to any two limits.  A negative limit makes every list too
long, and then an empty one has no first item for its note. -/
def shorten? (textLimit listLimit : Int) (v : Value) : Option Value :=
  if listLimit < 0 && v.hasEmptyList then none else some (v.shortenedTo textLimit listLimit)

/-- The longest text that messages show whole. -/
def textLimit : Int := 100

/-- The longest list that messages show whole. -/
def listLimit : Int := 10

/-- A value shortened for messages. -/
def shortened (v : Value) : Value := v.shortenedTo textLimit listLimit

end Value

/-! ## Records with choices -/

/-- A value that may hold choices among fixed names. -/
inductive Shown where
  /-- A value. -/
  | value (v : Value)
  /-- A choice: its kind, its name and its text. -/
  | choice (kind name text : String)
  /-- A list. -/
  | list (items : List Shown)
  /-- A record, its fields in order. -/
  | record (fields : List (String × Shown))
  /-- A record of some kind in a form of its own. -/
  | constructed (kind form : String)
deriving Inhabited

namespace Shown

/-- Null, or what is shown. -/
def ofOption {α : Type} (f : α → Shown) : Option α → Shown
  | none => .value .null
  | some a => f a

/-- The name of the kind of what is shown. -/
def kindName : Shown → String
  | .value v => v.kindName
  | .choice kind _ _ => kind
  | .list _ => "list"
  | .record _ => "dict"
  | .constructed kind _ => kind

/-- The fields of a record, in order. -/
def fields : Shown → List (String × Shown)
  | .value (.object fields) => fields.map fun entry => (entry.1, .value entry.2)
  | .record fields => fields
  | _ => []

mutual

/-- The value without its choices. -/
def plain : Shown → Value
  | .value v => v
  | .choice _ _ text => .str text
  | .list items => .list (plainItems items)
  | .record fields => .object (plainFields fields)
  | .constructed _ form => .str form
termination_by structural s => s

/-- The items of a list without their choices. -/
def plainItems : List Shown → List Value
  | [] => []
  | s :: rest => plain s :: plainItems rest
termination_by structural ss => ss

/-- The fields of a record without their choices. -/
def plainFields : List (String × Shown) → Fields
  | [] => []
  | (name, s) :: rest => (name, plain s) :: plainFields rest
termination_by structural ss => ss

end

mutual

/-- The literal form of what is shown. -/
def literal : Shown → String
  | .value v => v.literal
  | .choice kind name text => "<" ++ kind ++ "." ++ name ++ ": " ++ Text.quoted text ++ ">"
  | .list items => "[" ++ ", ".intercalate (literalItems items) ++ "]"
  | .record fields => "\x7b" ++ ", ".intercalate (literalFields fields) ++ "\x7d"
  | .constructed _ form => form
termination_by structural s => s

/-- The literal forms of the items of a list. -/
def literalItems : List Shown → List String
  | [] => []
  | s :: rest => literal s :: literalItems rest
termination_by structural ss => ss

/-- The literal forms of the fields of a record. -/
def literalFields : List (String × Shown) → List String
  | [] => []
  | (name, s) :: rest => (Text.quoted name ++ ": " ++ literal s) :: literalFields rest
termination_by structural ss => ss

end

/-- What is shown in running text. -/
def inText : Shown → String
  | .value v => v.inText
  | s => s.literal

mutual

/-- What is shown, shortened for messages. -/
def shortened : Shown → Shown
  | .value v => .value v.shortened
  | .choice kind name text => .choice kind name text
  | .list items => match items with
    | [] => .list []
    | first :: rest =>
        if ((rest.length + 1 : Nat) : Int) > Value.listLimit then
          .value (Value.listNote (rest.length + 1) first.kindName)
        else .list (shortenedItems (first :: rest))
  | .record fields => .record (shortenedFields fields)
  | .constructed kind form => .constructed kind form
termination_by structural s => s

/-- The items of a list, shortened. -/
def shortenedItems : List Shown → List Shown
  | [] => []
  | s :: rest => shortened s :: shortenedItems rest
termination_by structural ss => ss

/-- The fields of a record, shortened. -/
def shortenedFields : List (String × Shown) → List (String × Shown)
  | [] => []
  | (name, s) :: rest => (name, shortened s) :: shortenedFields rest
termination_by structural ss => ss

end

end Shown

example : (Value.list [.str "a", .null, .bool true]).literal = "['a', None, True]" := by
  decide +kernel
example : (Value.str "abcdef").shortenedTo 4 10 = .str "ab...ef" := by rfl
example : (Shown.choice "Colour" "RED" "red").literal = "<Colour.RED: 'red'>" := by decide +kernel

end DocQuery
