import DocQuery.Schema.Check
import DocQuery.Schema.Whole

/-!
# Reading texts, truth values and whole numbers

Three kinds of fields are read with some tolerance.

* text: texts only.
* truth value: also the numbers 0 and 1 and twelve words, in any letter case.  A
  number too large for a machine word is not even taken for an attempt at one.
* whole number: also truth values, doubles without a fraction that fit a machine
  word, and texts that write a whole number.

`count` is a whole number that is not negative.  `textOrTexts` reads a text or a
list of texts.  `choice` reads one of a few texts.
-/

namespace DocQuery

namespace Schema

/-! ## Texts -/

/-- Reads a text. -/
def text : Value → Checked String
  | .str s => .ok s
  | _ => .issue .notText

/-- Reads anything. -/
def anything (v : Value) : Checked Value := .ok v

/-- Reads an object. -/
def fieldsOf : Value → Checked Fields
  | .object fields => .ok fields
  | _ => .issue .notObject

/-- Reads one of a few texts. -/
def choice {α : Type} (ofText? : String → Option α) (v : Value) : Checked α :=
  match v.text?.bind ofText? with
  | some a => .ok a
  | none => .issue .notChoice

/-! ## Truth values -/

/-- The words for true and for false, in lower case. -/
def truthWords : List (String × Bool) := [
  ("0", false), ("off", false), ("f", false), ("false", false), ("n", false), ("no", false),
  ("1", true), ("on", true), ("t", true), ("true", true), ("y", true), ("yes", true)]

/-- The truth value that a word writes. -/
def truthOfWord? (word : String) : Option Bool := truthWords.lookup (word.map Char.toLower)

/-- The truth value that a whole number writes. -/
def truthOfWhole? (n : Int) : Option Bool :=
  if n = 0 then some false else if n = 1 then some true else none

/-- The outcome of reading a truth value that may not be one. -/
def truthOr : Option Bool → Checked Bool
  | some b => .ok b
  | none => .issue .unreadTruth

/-- Reads a truth value. -/
def truth : Value → Checked Bool
  | .bool b => .ok b
  | .int n => if fitsWord n then truthOr (truthOfWhole? n) else .issue .notTruth
  | .float x => match wholeOfDouble x with
    | .ok n => truthOr (truthOfWhole? n)
    | .error _ => .issue .notTruth
  | .str s => truthOr (truthOfWord? s)
  | _ => .issue .notTruth

/-! ## Whole numbers -/

/-- The issue of a whole number that is not read. -/
def wholeIssue : WholeFault → IssueKind
  | .unwritten => .unreadWhole
  | .fraction => .fraction
  | .notFinite => .notFinite
  | .tooLarge => .tooLarge

/-- The outcome of reading a whole number that may not be one. -/
def wholeOr : Except WholeFault Int → Checked Int
  | .ok n => .ok n
  | .error fault => .issue (wholeIssue fault)

/-- Reads a whole number. -/
def whole : Value → Checked Int
  | .bool b => .ok (if b then 1 else 0)
  | .int n => .ok n
  | .float x => wholeOr (wholeOfDouble x)
  | .str s => wholeOr (wholeOfText s)
  | _ => .issue .notWhole

/-- The count that a whole number is. -/
def countOfWhole (n : Int) : Checked Nat := if n < 0 then .issue .negative else .ok n.toNat

/-- Reads a whole number that is not negative. -/
def count (v : Value) : Checked Nat := (whole v).andThen countOfWhole

end Schema

/-! ## A text or a list of texts -/

/-- One text or a list of them. -/
inductive Texts where
  /-- One text. -/
  | one (s : String)
  /-- A list of texts. -/
  | many (texts : List String)
deriving DecidableEq, Repr

namespace Texts

/-- The texts. -/
def toList : Texts → List String
  | one s => [s]
  | many texts => texts

/-- Whether there is no text, or one without characters. -/
def isEmpty : Texts → Bool
  | one s => s == ""
  | many texts => texts.isEmpty

/-- The texts as a value. -/
def toValue : Texts → Value
  | one s => .str s
  | many texts => .ofTexts texts

/-- Reads a text or a list of texts. -/
def read (v : Value) : Schema.Checked Texts :=
  (one <$> (Schema.text v).under (.key "str")).or
    (many <$> (Schema.each Schema.text v).under (.key "list[str]"))

end Texts

example : Schema.truth (.str "YES") = .ok true := by decide +kernel
example : Schema.whole (.str " +1_000.00\n") = .ok 1000 := by decide +kernel
example : Schema.whole (.str "1__0") = .issue .unreadWhole := by decide +kernel

end DocQuery
