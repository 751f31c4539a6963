import DocQuery.Number.Double
import DocQuery.Text.Digit
import DocQuery.Text.Space

/-!
# Whole numbers written as texts

`wholeOfText` reads the whole number that a text writes.  The text is first brought
into a plain form, and then read as a sign and digits.

* spaces: white space around the number is cut off.
* plus: a plus in front is cut off, unless a minus follows it.
* zeros: of zeros in front, and underscores between and behind them, nothing stays
  when a digit or a minus follows, and the last one otherwise.  Anything but a digit
  or a minus in front is refused.
* point: a full stop is cut off together with the zeros behind it, when there is at
  least one and nothing but zeros.
* underscores: they are cut out when none is at an end or next to another.

A plain form with too many characters is refused on its own ground, so that the
reading takes bounded time.

`wholeOfDouble` is the whole number that a double is, if it fits a machine word.
-/

namespace DocQuery

/-- Why a whole number is not read. -/
inductive WholeFault where
  /-- It is not written as one. -/
  | unwritten
  /-- It has a fraction. -/
  | fraction
  /-- It is no finite number. -/
  | notFinite
  /-- It is too large. -/
  | tooLarge
deriving DecidableEq, Repr

namespace Written

/-! ## The plain form -/

/-- Whether a character may begin what stays behind zeros: a digit or a minus. -/
def beginsNumber (c : Char) : Bool := isAsciiDigit c || c = '-'

/-- Drops further zeros and underscores behind a dropped character. -/
def dropZerosAfter (last : Char) : List Char → Option (List Char)
  | [] => some [last]
  | c :: rest =>
      if c = '0' ∨ c = '_' then dropZerosAfter c rest
      else if beginsNumber c then some (c :: rest)
      else if c = '.' then some (last :: c :: rest)
      else none

/-- Drops the zeros in front. -/
def dropZeros : List Char → Option (List Char)
  | [] => none
  | c :: rest =>
      if c = '0' then dropZerosAfter c rest
      else if beginsNumber c then some (c :: rest)
      else none

/-- Drops a plus in front; there is no plain form when a minus follows. -/
def dropPlus : List Char → Option (List Char)
  | '+' :: '-' :: _ => none
  | '+' :: rest => some rest
  | cs => some cs

/-- Drops a full stop and the zeros behind it. -/
def dropZeroFraction (cs : List Char) : List Char :=
  match cs.dropWhile (· ≠ '.') with
  | _ :: zeros =>
      if !zeros.isEmpty && zeros.all (· = '0') then cs.takeWhile (· ≠ '.') else cs
  | [] => cs

/-- Whether two underscores are next to each other. -/
def hasDoubleUnderscore : List Char → Bool
  | '_' :: '_' :: _ => true
  | _ :: rest => hasDoubleUnderscore rest
  | [] => false

/-- Cuts out underscores that all stand alone inside. -/
def dropUnderscores (cs : List Char) : List Char :=
  if cs.head? = some '_' || cs.getLast? = some '_' || hasDoubleUnderscore cs then cs
  else cs.filter (· ≠ '_')

/-- The plain form of a written number. -/
def plain (cs : List Char) : Option (List Char) :=
  ((dropPlus (Text.trimNumber cs)).bind dropZeros).map fun cs =>
    dropUnderscores (dropZeroFraction cs)

/-! ## Reading -/

/-- The most characters that a plain form may have. -/
def maxLength : Nat := 4300

/-- A plain form without its sign: whether there is a minus, and the rest. -/
def splitMinus : List Char → Bool × List Char
  | '-' :: rest => (true, rest)
  | cs => (false, cs)

/-- The whole number of a plain form. -/
def read (cs : List Char) : Except WholeFault Int :=
  let (negative, rest) := splitMinus cs
  let digits := rest.takeWhile isAsciiDigit
  if digits.length + (if negative then 1 else 0) > maxLength then .error .tooLarge
  else if digits.isEmpty || digits.length < rest.length then .error .unwritten
  else
    let magnitude : Int := numberOfDigits (digits.map asciiDigitValue)
    .ok (if negative then -magnitude else magnitude)

end Written

/-- The whole number that a text writes. -/
def wholeOfText (s : String) : Except WholeFault Int :=
  match Written.plain s.toList with
  | some cs => Written.read cs
  | none => .error .unwritten

/-! ## Doubles -/

/-- What the magnitude of a whole number in a machine word does not exceed. -/
def wordBound : Int := 9223372036854775808

/-- Whether a whole number fits a signed machine word. -/
def fitsWord (n : Int) : Bool := decide (-wordBound ≤ n) && decide (n < wordBound)

/-- The whole number that a double is, strictly between the bounds of a word. -/
def wholeOfDouble (x : Double) : Except WholeFault Int :=
  match x with
  | .finite .. => match x.toInt? with
    | some n => if -wordBound < n ∧ n < wordBound then .ok n else .error .tooLarge
    | none => .error .fraction
  | _ => .error .notFinite

example : Written.plain [' ', '+', '0', '_', '0', '7', '.', '0'] = some ['7'] := by decide
example : Written.plain ['0', '-', '7'] = some ['-', '7'] := by decide
example : Written.plain ['1', '_', '0', '.'] = some ['1', '0', '.'] := by decide
example : Written.read ['-', '0', '1'] = .ok (-1) := by rfl
example : Written.read ['1', '0', '.'] = .error .unwritten := by rfl

end DocQuery
