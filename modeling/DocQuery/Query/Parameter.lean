import DocQuery.Misuse

/-!
# Names and paths of parameters

A parameter's name is made from a property's path: every character other than an
ASCII letter, a digit or an underscore becomes an underscore, underscores at the
front are cut off, and `p` stands for nothing left.

A property's path is bound as one name, or as the list of its parts when it has
full stops; empty parts do not count.
-/

namespace DocQuery

/-- Whether a character may stand in a parameter's name. -/
def isNameChar (c : Char) : Bool := c.isAlphanum || c = '_'

/-- The characters of a parameter's name made from a path. -/
def bindStem (cs : List Char) : List Char :=
  match (cs.map fun c => if isNameChar c then c else '_').dropWhile (· = '_') with
  | [] => ['p']
  | stem => stem

/-- A parameter's name made from a path. -/
def bindName (path : String) : String := String.ofList (bindStem path.toList)

/-- The parts of a path that are not empty. -/
def segments (path : String) : List String := (Value.pathParts path).filter (· ≠ "")

/-- What a path is bound as. -/
def attributePath (path : String) : Value :=
  if path.toList.contains '.' then .ofTexts (segments path) else .str path

/-- What is bound for a value given as a path.  A value that holds others is bound as
it is, as long as none of them is a full stop. -/
def boundPath : Value → Except Misuse Value
  | .str path => .ok (attributePath path)
  | .list items =>
      if items.any (Value.alike (.str ".")) then .error (.noPath "list") else .ok (.list items)
  | .object fields =>
      if Fields.has fields "." then .error (.noPath "dict") else .ok (.object fields)
  | v => .error (.noMembers v.kindName)

/-- The path to a list that is changed: it is looked at for full stops first. -/
def listPath (v : Value) : Except Misuse String := (boundPath v).bind fun _ => v.asPath

example : bindName "_address.city" = "address_city" := by decide +kernel
example : bindName "é" = "p" := by decide +kernel
example : attributePath ".a..b" = .list [.str "a", .str "b"] := by rfl

end DocQuery
