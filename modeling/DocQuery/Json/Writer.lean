import DocQuery.Number.Shortest
import DocQuery.Text.Quoted
import DocQuery.Value

/-!
# Writing JSON

`write` puts a value on one line, with a space after each comma and colon.
`writeIndented` gives every item and every field a line of its own, two spaces
deeper than what holds it; an empty list or object is its two brackets.

Both write ASCII only: a character outside it is `\u` and four hexadecimal
digits, or two such codes for a character above the first plane.  The stand-in of
half a surrogate pair is the one code of the half.  Infinity and
`nan` are written by name.
-/

namespace DocQuery

namespace Json

/-! ## Texts and numbers -/

/-- The code of a character, as a surrogate pair above the first plane. -/
def codeUnits (c : Char) : List Char :=
  let unit (n : Nat) : List Char := '\\' :: 'u' :: Text.hex 4 n
  if c.toNat < 0x10000 then unit c.toNat
  else match Text.half? c with
    | some n => unit n
    | none =>
        let offset := c.toNat - 0x10000
        unit (0xd800 + offset / 0x400) ++ unit (0xdc00 + offset % 0x400)

/-- A character of a JSON text. -/
def escapedChar (c : Char) : List Char :=
  if c = '"' ∨ c = '\\' then ['\\', c]
  else if c = '\n' then ['\\', 'n']
  else if c = '\r' then ['\\', 'r']
  else if c = '\t' then ['\\', 't']
  else if c = '\x0c' then ['\\', 'f']
  else if c = '\x08' then ['\\', 'b']
  else if 32 ≤ c.toNat ∧ c.toNat < 127 then [c]
  else codeUnits c

/-- A JSON text. -/
def writeText (s : String) : String :=
  String.ofList ('"' :: s.toList.flatMap escapedChar ++ ['"'])

/-- The style of numbers in JSON. -/
def numberStyle : Double.NumberStyle :=
  { Double.plainStyle with infinity := "Infinity", notANumber := "NaN" }

/-- A value that holds no other value. -/
def writeScalar : Value → String
  | .bool true => "true"
  | .bool false => "false"
  | .int n => toString n
  | .float x => x.textIn numberStyle
  | .str s => writeText s
  | _ => "null"

/-! ## One line -/

mutual

/-- A value on one line. -/
def write : Value → String
  | .list items => "[" ++ ", ".intercalate (writeItems items) ++ "]"
  | .object fields => "\x7b" ++ ", ".intercalate (writeFields fields) ++ "\x7d"
  | v => writeScalar v
termination_by structural v => v

/-- The items of a list, each on one line. -/
def writeItems : List Value → List String
  | [] => []
  | v :: rest => write v :: writeItems rest
termination_by structural vs => vs

/-- The fields of an object, each on one line. -/
def writeFields : List (String × Value) → List String
  | [] => []
  | (name, v) :: rest => (writeText name ++ ": " ++ write v) :: writeFields rest
termination_by structural vs => vs

end

/-! ## Indented -/

/-- A line break and the indentation of a depth. -/
def lineBreak (depth : Nat) : String := String.ofList ('\n' :: List.replicate (2 * depth) ' ')

/-- Lines between brackets, or the brackets alone when there is no line. -/
def bracketed (opening closing : String) (depth : Nat) (lines : List String) : String :=
  if lines.isEmpty then opening ++ closing
  else
    opening ++ lineBreak (depth + 1) ++ ("," ++ lineBreak (depth + 1)).intercalate lines
      ++ lineBreak depth ++ closing

mutual

/-- A value at a depth, its parts on lines of their own. -/
def writeAt (depth : Nat) : Value → String
  | .list items => bracketed "[" "]" depth (writeItemsAt (depth + 1) items)
  | .object fields => bracketed "\x7b" "\x7d" depth (writeFieldsAt (depth + 1) fields)
  | v => writeScalar v
termination_by structural v => v

/-- The items of a list at a depth. -/
def writeItemsAt (depth : Nat) : List Value → List String
  | [] => []
  | v :: rest => writeAt depth v :: writeItemsAt depth rest
termination_by structural vs => vs

/-- The fields of an object at a depth. -/
def writeFieldsAt (depth : Nat) : List (String × Value) → List String
  | [] => []
  | (name, v) :: rest => (writeText name ++ ": " ++ writeAt depth v) :: writeFieldsAt depth rest
termination_by structural vs => vs

end

/-- A value over several lines. -/
def writeIndented (v : Value) : String := writeAt 0 v

example : write (.list [.int 1, .object [("a", .null)]]) = "[1, \x7b\"a\": null\x7d]" := by
  decide +kernel

end Json

end DocQuery
