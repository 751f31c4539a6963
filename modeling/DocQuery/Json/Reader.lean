import DocQuery.Text.Digit
import DocQuery.Text.Surrogate
import DocQuery.Value

/-!
# Reading JSON

`read` takes a text to the value it writes.

* Space, tab, line feed and carriage return may stand between the parts.
* A number without fraction and exponent is a whole number of any size up to
  `maxIntegerDigits` digits; any other number is the nearest double.
* `NaN`, `Infinity` and `-Infinity` are numbers.
* A name that is repeated in an object keeps its first place and its last value.
* A code of half a surrogate pair that stands alone is read as its stand-in.
* Lists and objects are nested at most `maxDepth` deep.

A text that cannot be read gives the first fault and the place where it lies.
The place of a fault is found from the number of characters left to read there,
so the readers carry no position.  Each of them returns a rest that is shorter
than what it was given, and that is why reading ends.
-/

namespace DocQuery

namespace Json

/-! ## Faults -/

/-- What is wrong with a text. -/
inductive Fault where
  /-- No value begins here. -/
  | noValue
  /-- No field name begins here. -/
  | noName
  /-- The colon after a field name is missing. -/
  | noColon
  /-- The comma after an item or a field is missing. -/
  | noComma
  /-- Something follows the value. -/
  | extraData
  /-- A text has no end. -/
  | unterminated
  /-- A control character stands in a text. -/
  | controlCharacter
  /-- A backslash is followed by an unknown letter. -/
  | badEscape
  /-- A code has too few hexadecimal digits. -/
  | badCode
  /-- The text begins with a byte-order mark. -/
  | byteOrderMark
  /-- A whole number has too many digits. -/
  | longInteger (digits : Nat)
  /-- A list is nested too deep. -/
  | deepList
  /-- An object is nested too deep. -/
  | deepObject
deriving DecidableEq, Repr

/-- The largest number of digits of a whole number. -/
def maxIntegerDigits : Nat := 4300

/-- How deep lists and objects may be nested. -/
def maxDepth : Nat := 985

/-- What a fault is called. -/
def Fault.message : Fault → String
  | .noValue => "Expecting value"
  | .noName => "Expecting property name enclosed in double quotes"
  | .noColon => "Expecting ':' delimiter"
  | .noComma => "Expecting ',' delimiter"
  | .extraData => "Extra data"
  | .unterminated => "Unterminated string starting at"
  | .controlCharacter => "Invalid control character at"
  | .badEscape => "Invalid \\escape"
  | .badCode => "Invalid \\uXXXX escape"
  | .byteOrderMark => "Unexpected UTF-8 BOM (decode using utf-8-sig)"
  | .longInteger digits =>
      "Exceeds the limit (" ++ toString maxIntegerDigits
        ++ " digits) for integer string conversion: value has " ++ toString digits
        ++ " digits; use sys.set_int_max_str_digits() to increase the limit"
  | .deepList =>
      "maximum recursion depth exceeded while decoding a JSON array from a unicode string"
  | .deepObject =>
      "maximum recursion depth exceeded while decoding a JSON object from a unicode string"

/-- A fault and the number of characters left where it lies. -/
structure Stop where
  /-- The fault. -/
  fault : Fault
  /-- The characters left to read. -/
  left : Nat
deriving DecidableEq, Repr

/-- A fault of a whole text. -/
structure ReadError where
  /-- The fault. -/
  fault : Fault
  /-- The characters before it. -/
  position : Nat
  /-- Its line, counted from one. -/
  line : Nat
  /-- Its column, counted from one. -/
  column : Nat
deriving DecidableEq, Repr

/-- Whether the fault is one of the text's form; what is too long or too deep is well formed as
far as it was read. -/
def ReadError.isMalformed (e : ReadError) : Bool :=
  match e.fault with
  | .longInteger _ | .deepList | .deepObject => false
  | _ => true

/-- A fault and its place. -/
def ReadError.message (e : ReadError) : String :=
  if e.isMalformed then
    e.fault.message ++ ": line " ++ toString e.line ++ " column " ++ toString e.column
      ++ " (char " ++ toString e.position ++ ")"
  else e.fault.message

/-- A fault at a position of a text. -/
def ReadError.inText (text : List Char) (fault : Fault) (position : Nat) : ReadError :=
  let before := text.take position
  ⟨fault, position, before.count '\n' + 1, (before.reverse.takeWhile (· ≠ '\n')).length + 1⟩

/-- What reading from `cs` gives: a result and a shorter rest. -/
structure Parsed (α : Type) (cs : List Char) where
  /-- The result. -/
  result : α
  /-- What is left to read. -/
  rest : List Char
  /-- Something was read. -/
  shorter : rest.length < cs.length

/-! ## White space -/

/-- The white space of JSON. -/
def isBlankChar (c : Char) : Bool := c = ' ' || c = '\t' || c = '\n' || c = '\r'

/-- Passes over white space. -/
def skip (cs : List Char) : List Char := cs.dropWhile isBlankChar

theorem length_dropWhile_le (p : Char → Bool) (cs : List Char) :
    (cs.dropWhile p).length ≤ cs.length := (List.dropWhile_sublist p).length_le

theorem length_skip_le (cs : List Char) : (skip cs).length ≤ cs.length := length_dropWhile_le _ cs

/-! ## Texts -/

/-- The value of a hexadecimal digit. -/
def hexValue? (c : Char) : Option Nat :=
  if isAsciiDigit c then some (c.toNat - '0'.toNat)
  else if 'a' ≤ c ∧ c ≤ 'f' then some (c.toNat - 'a'.toNat + 10)
  else if 'A' ≤ c ∧ c ≤ 'F' then some (c.toNat - 'A'.toNat + 10)
  else none

/-- The value of four hexadecimal digits. -/
def code? (a b c d : Char) : Option Nat := do
  let a ← hexValue? a
  let b ← hexValue? b
  let c ← hexValue? c
  let d ← hexValue? d
  return ((a * 16 + b) * 16 + c) * 16 + d

/-- The character that a letter after a backslash stands for. -/
def escaped? : Char → Option Char
  | '"' => some '"'
  | '\\' => some '\\'
  | '/' => some '/'
  | 'b' => some '\x08'
  | 'f' => some '\x0c'
  | 'n' => some '\n'
  | 'r' => some '\r'
  | 't' => some '\t'
  | _ => none

/-- Puts a character before a text that was read from a shorter rest. -/
def Parsed.push {inner outer : List Char} (c : Char) (p : Parsed (List Char) inner)
    (h : inner.length ≤ outer.length) : Parsed (List Char) outer :=
  ⟨c :: p.result, p.rest, Nat.lt_of_lt_of_le p.shorter h⟩

/-- The second half of a surrogate pair at the start of `cs`, and how far it
reaches: nothing when no further code stands there, a fault when it is no code. -/
def lowHalf? (cs : List Char) : Except Stop (Option Nat) :=
  match cs with
  | '\\' :: 'u' :: a :: b :: c :: d :: _ :: _ =>
      match code? a b c d with
      | none => .error ⟨.badCode, cs.length - 1⟩
      | some low => .ok (if Text.isLowHalf low then some low else none)
  | _ => .ok none

/-- Reads a text behind its opening quote.  `opening` is the number of characters
left at that quote. -/
def readText (opening : Nat) (cs : List Char) : Except Stop (Parsed (List Char) cs) :=
  match cs with
  | [] => .error ⟨.unterminated, opening⟩
  | '"' :: rest => .ok ⟨[], rest, by simp⟩
  | ['\\'] => .error ⟨.unterminated, opening⟩
  | '\\' :: 'u' :: a :: b :: c :: d :: next :: more =>
      match code? a b c d with
      | none => .error ⟨.badCode, more.length + 6⟩
      | some code =>
          match if Text.isHighHalf code then lowHalf? (next :: more) else .ok none with
          | .error stop => .error stop
          | .ok none =>
              match readText opening (next :: more) with
              | .error stop => .error stop
              | .ok p => .ok (p.push (Text.charOfCode code) (by simp))
          | .ok (some low) =>
              match readText opening ((next :: more).drop 6) with
              | .error stop => .error stop
              | .ok p => .ok (p.push (Text.charOfPair code low) (by simp; omega))
  | '\\' :: 'u' :: rest => .error ⟨.badCode, rest.length + 1⟩
  | '\\' :: letter :: rest =>
      match escaped? letter with
      | none => .error ⟨.badEscape, rest.length + 2⟩
      | some c =>
          match readText opening rest with
          | .error stop => .error stop
          | .ok p => .ok (p.push c (by simp; omega))
  | c :: rest =>
      if c.toNat < 32 then .error ⟨.controlCharacter, rest.length + 1⟩
      else
        match readText opening rest with
        | .error stop => .error stop
        | .ok p => .ok (p.push c (by simp))
termination_by cs.length

/-! ## Numbers -/

/-- The exponent after `e` or `E`, with the rest; nothing when no digit follows. -/
def readExponent (cs : List Char) : Option (Parsed Int cs) :=
  match cs with
  | [] => none
  | mark :: rest =>
      if mark = 'e' ∨ mark = 'E' then
        let (negative, digitsFrom) : Bool × { r : List Char // r.length ≤ rest.length } :=
          match rest with
          | '-' :: r => (true, ⟨r, by simp⟩)
          | '+' :: r => (false, ⟨r, by simp⟩)
          | r => (false, ⟨r, Nat.le_refl _⟩)
        let digits := digitsFrom.1.takeWhile isAsciiDigit
        if digits.isEmpty then none
        else
          let size := numberOfDigits (digits.map asciiDigitValue)
          some ⟨if negative then -(size : Int) else size, digitsFrom.1.dropWhile isAsciiDigit, by
            have h := length_dropWhile_le isAsciiDigit digitsFrom.1
            have h' := digitsFrom.2
            simp only [List.length_cons]
            omega⟩
      else none

/-- The digits after a point, with the rest; nothing when no digit follows. -/
def readFraction (cs : List Char) : Option (Parsed (List Char) cs) :=
  match cs with
  | '.' :: rest =>
      let digits := rest.takeWhile isAsciiDigit
      if digits.isEmpty then none
      else some ⟨digits, rest.dropWhile isAsciiDigit, by
        have h := length_dropWhile_le isAsciiDigit rest
        simp only [List.length_cons]
        omega⟩
  | _ => none

/-- The digits of a whole number, with the rest: a zero alone or digits that do
not begin with zero. -/
def readWhole (cs : List Char) : Option (Parsed (List Char) cs) :=
  match cs with
  | [] => none
  | first :: rest =>
      if first = '0' then some ⟨['0'], rest, by simp⟩
      else if isAsciiDigit first then
        some ⟨first :: rest.takeWhile isAsciiDigit, rest.dropWhile isAsciiDigit, by
          have h := length_dropWhile_le isAsciiDigit rest
          simp only [List.length_cons]
          omega⟩
      else none

/-- The number written by a sign, whole digits, fraction digits and an exponent. -/
def double (negative : Bool) (whole fraction : List Char) (exponent : Int) : Value :=
  let digits := numberOfDigits ((whole ++ fraction).map asciiDigitValue)
  .float (Double.ofDecimal negative digits (exponent - (fraction.length : Int)))

/-- The whole number written by a sign and digits. -/
def integer (negative : Bool) (digits : List Char) : Value :=
  let size := numberOfDigits (digits.map asciiDigitValue)
  .int (if negative then -(size : Int) else size)

/-- Reads a number behind its sign. -/
def readUnsigned (negative : Bool) (cs : List Char) : Except Stop (Parsed Value cs) :=
  match readWhole cs with
  | none => .error ⟨.noValue, cs.length + negative.toNat⟩
  | some whole =>
      match readFraction whole.rest with
      | some fraction =>
          match readExponent fraction.rest with
          | some exponent =>
              .ok ⟨double negative whole.result fraction.result exponent.result, exponent.rest,
                Nat.lt_trans exponent.shorter (Nat.lt_trans fraction.shorter whole.shorter)⟩
          | none =>
              .ok ⟨double negative whole.result fraction.result 0, fraction.rest,
                Nat.lt_trans fraction.shorter whole.shorter⟩
      | none =>
          match readExponent whole.rest with
          | some exponent =>
              .ok ⟨double negative whole.result [] exponent.result, exponent.rest,
                Nat.lt_trans exponent.shorter whole.shorter⟩
          | none =>
              if whole.result.length ≤ maxIntegerDigits then
                .ok ⟨integer negative whole.result, whole.rest, whole.shorter⟩
              else .error ⟨.longInteger whole.result.length, cs.length⟩

/-! ## Names of values -/

/-- The values that have a name.  Every `nan` that is read is one object. -/
def namedValues : List (List Char × Value) := [
  ("null".toList, .null),
  ("true".toList, .bool true),
  ("false".toList, .bool false),
  ("NaN".toList, .float (.nan 0)),
  ("Infinity".toList, .float (.infinite false)),
  ("-Infinity".toList, .float (.infinite true))]

/-- Reads a named value. -/
def readNamed (cs : List Char) : List (List Char × Value) → Option (Parsed Value cs)
  | [] => none
  | (name, v) :: others =>
      if h : 0 < name.length ∧ name.isPrefixOf cs = true then
        some ⟨v, cs.drop name.length, by
          have hp := (List.isPrefixOf_iff_prefix.1 h.2).length_le
          rw [List.length_drop]
          omega⟩
      else readNamed cs others

/-- Reads a named value or a number. -/
def readAtom (cs : List Char) : Except Stop (Parsed Value cs) :=
  match readNamed cs namedValues with
  | some p => .ok p
  | none =>
      match cs with
      | '-' :: rest =>
          match readUnsigned true rest with
          | .error stop => .error stop
          | .ok p => .ok ⟨p.result, p.rest, Nat.lt_succ_of_lt p.shorter⟩
      | rest => readUnsigned false rest

/-! ## Values -/

mutual

/-- Reads a value in which lists and objects are nested at most `depth` deep. -/
def readValue (depth : Nat) (cs : List Char) : Except Stop (Parsed Value cs) :=
  match cs, depth with
  | '"' :: rest, _ =>
      match readText (rest.length + 1) rest with
      | .error stop => .error stop
      | .ok p => .ok ⟨.str (String.ofList p.result), p.rest, Nat.lt_succ_of_lt p.shorter⟩
  | '[' :: rest, 0 => .error ⟨.deepList, rest.length + 1⟩
  | '[' :: rest, depth + 1 =>
      match hs : skip rest with
      | ']' :: after => .ok ⟨.list [], after, by
          have h := length_skip_le rest
          rw [hs] at h
          simp only [List.length_cons] at h ⊢
          omega⟩
      | start =>
          have hle : start.length ≤ rest.length := hs ▸ length_skip_le rest
          match readItems depth start with
          | .error stop => .error stop
          | .ok p => .ok ⟨.list p.result, p.rest,
              Nat.lt_succ_of_lt (Nat.lt_of_lt_of_le p.shorter hle)⟩
  | '{' :: rest, 0 => .error ⟨.deepObject, rest.length + 1⟩
  | '{' :: rest, depth + 1 =>
      match hs : skip rest with
      | '}' :: after => .ok ⟨.object [], after, by
          have h := length_skip_le rest
          rw [hs] at h
          simp only [List.length_cons] at h ⊢
          omega⟩
      | start =>
          have hle : start.length ≤ rest.length := hs ▸ length_skip_le rest
          match readFields depth [] start with
          | .error stop => .error stop
          | .ok p => .ok ⟨.object p.result, p.rest,
              Nat.lt_succ_of_lt (Nat.lt_of_lt_of_le p.shorter hle)⟩
  | rest, _ => readAtom rest
termination_by (cs.length, 0)

/-- Reads the items of a list up to its closing bracket. -/
def readItems (depth : Nat) (cs : List Char) : Except Stop (Parsed (List Value) cs) :=
  match readValue depth cs with
  | .error stop => .error stop
  | .ok item =>
      match hs : skip item.rest with
      | ']' :: after => .ok ⟨[item.result], after, by
          have h := length_skip_le item.rest
          have h' := item.shorter
          rw [hs] at h
          simp only [List.length_cons] at h
          omega⟩
      | ',' :: more =>
          have hlt : (skip more).length < cs.length := by
            have h := length_skip_le item.rest
            have h' := item.shorter
            have h'' := length_skip_le more
            rw [hs] at h
            simp only [List.length_cons] at h
            omega
          match readItems depth (skip more) with
          | .error stop => .error stop
          | .ok p => .ok ⟨item.result :: p.result, p.rest, Nat.lt_trans p.shorter hlt⟩
      | other => .error ⟨.noComma, other.length⟩
termination_by (cs.length, 1)

/-- Reads the fields of an object up to its closing brace, after those in `known`. -/
def readFields (depth : Nat) (known : Fields) (cs : List Char) : Except Stop (Parsed Fields cs) :=
  match cs with
  | '"' :: rest =>
      match readText (rest.length + 1) rest with
      | .error stop => .error stop
      | .ok name =>
          match hn : skip name.rest with
          | ':' :: afterColon =>
              have hv : (skip afterColon).length < rest.length + 1 := by
                have h := length_skip_le name.rest
                have h' := name.shorter
                have h'' := length_skip_le afterColon
                rw [hn] at h
                simp only [List.length_cons] at h
                omega
              match readValue depth (skip afterColon) with
              | .error stop => .error stop
              | .ok field =>
                  let fields := known.set (String.ofList name.result) field.result
                  match hs : skip field.rest with
                  | '}' :: after => .ok ⟨fields, after, by
                      have h := length_skip_le field.rest
                      have h' := field.shorter
                      rw [hs] at h
                      simp only [List.length_cons] at h ⊢
                      omega⟩
                  | ',' :: more =>
                      have hlt : (skip more).length < rest.length + 1 := by
                        have h := length_skip_le field.rest
                        have h' := field.shorter
                        have h'' := length_skip_le more
                        rw [hs] at h
                        simp only [List.length_cons] at h
                        omega
                      match readFields depth fields (skip more) with
                      | .error stop => .error stop
                      | .ok p => .ok ⟨p.result, p.rest, Nat.lt_trans p.shorter hlt⟩
                  | other => .error ⟨.noComma, other.length⟩
          | other => .error ⟨.noColon, other.length⟩
  | other => .error ⟨.noName, other.length⟩
termination_by (cs.length, 0)

end

/-- The byte-order mark. -/
def byteOrderMark : Char := Char.ofNat 0xfeff

/-- Reads a whole text given as characters. -/
def readChars (text : List Char) : Except ReadError Value :=
  let fail (stop : Stop) : Except ReadError Value :=
    .error (ReadError.inText text stop.fault (text.length - stop.left))
  if text.head? = some byteOrderMark then .error (ReadError.inText text .byteOrderMark 0)
  else
    match readValue maxDepth (skip text) with
    | .error stop => fail stop
    | .ok p =>
        match skip p.rest with
        | [] => .ok p.result
        | extra => fail ⟨.extraData, extra.length⟩

/-- Reads a whole text. -/
def read (text : String) : Except ReadError Value := readChars text.toList

end Json

end DocQuery
