import DocQuery.Number.Double

/-!
# The shortest decimal of a number

A finite number is written with the fewest decimal digits that read back as the
same number.  The search goes through the decimal grids from the coarsest to the
finest.  On each grid it tries the two neighbours of the number.  The first grid
with a neighbour that reads back wins; of two such neighbours the nearer wins,
and a tie goes to the one with an even last digit.  Seventeen digits always suffice.

`NumberStyle` holds the choices of the written form.  `Double.text` uses one
style for the whole library: a decimal exponent from -4 to 15 is written without
an exponent, a whole number keeps `.0`, and an exponent has a sign and at least
two digits.
-/

namespace DocQuery

/-- Decimal digits and the power of ten of the last one: `digits · 10 ^ exponent`. -/
structure Decimal where
  /-- The digits as a whole number. -/
  digits : Nat
  /-- The power of ten of the last digit. -/
  exponent : Int
deriving DecidableEq, Repr

namespace Decimal

/-- Drops the zeros at the end of the digits; `fuel` bounds how many. -/
def dropZeros : Nat → Decimal → Decimal
  | 0, d => d
  | fuel + 1, d =>
      if d.digits ≠ 0 ∧ d.digits % 10 = 0 then dropZeros fuel ⟨d.digits / 10, d.exponent + 1⟩ else d

/-- The power of ten of the first digit. -/
def magnitude (d : Decimal) : Int := d.exponent + (Double.digitCount d.digits : Int) - 1

end Decimal

namespace Double

/-- `mantissa · 2 ^ exponent` as a quotient. -/
def binaryRatio (mantissa : Nat) (exponent : Int) : Nat × Nat :=
  let power := Nat.pow 2 exponent.natAbs
  if exponent < 0 then (mantissa, power) else (mantissa * power, 1)

/-- `num / den` divided by `10 ^ exponent`, as numerator and denominator. -/
def overPowerOfTen (num den : Nat) (exponent : Int) : Nat × Nat :=
  let power := Nat.pow 10 exponent.natAbs
  if exponent < 0 then (num * power, den) else (num, den * power)

/-- The least power of ten above the quotient, searched upward from an
estimate that is too low by a few steps at most. -/
def powerAbove (num den : Nat) : Int :=
  let bitDifference : Int := (num.log2 : Int) - (den.log2 : Int) - 1
  let estimate : Int := bitDifference * 30103 / 100000
  let tries : List Int := (List.range 6).map fun (step : Nat) => estimate - 1 + (step : Int)
  (tries.find? fun power => let (n, d) := overPowerOfTen num den power; n < d).getD (estimate + 5)

/-- The neighbour of `num / den` with `count` digits that reads back as `target`. -/
def onGrid? (target : Double) (num den : Nat) (power : Int) (count : Nat) : Option Decimal :=
  let exponent := power - (count : Int)
  let (n, d) := overPowerOfTen num den exponent
  let below := n / d
  let readsBack (digits : Nat) : Bool := ofDecimal false digits exponent == target
  let lower := readsBack below
  let upper := readsBack (below + 1)
  let lowerIsNearer := 2 * (n % d) < d || (2 * (n % d) == d && below % 2 == 0)
  if lower && (!upper || lowerIsNearer) then some ⟨below, exponent⟩
  else if upper then some ⟨below + 1, exponent⟩
  else none

/-- The shortest decimal of a positive number `mantissa · 2 ^ exponent`. -/
def shortest (mantissa : Nat) (exponent : Int) : Decimal :=
  let target : Double := .finite false mantissa exponent
  let (num, den) := binaryRatio mantissa exponent
  let power := powerAbove num den
  let found := (List.range 17).findSome? fun count => onGrid? target num den power (count + 1)
  (found.getD ⟨mantissa, exponent⟩).dropZeros 20

/-! ## The written form -/

/-- The choices of a number's written form. -/
structure NumberStyle where
  /-- The smallest power of ten of a first digit written without an exponent. -/
  lowest : Int
  /-- The largest power of ten of a first digit written without an exponent. -/
  highest : Int
  /-- What a whole number ends in. -/
  wholeEnd : String
  /-- The mark before an exponent. -/
  mark : String
  /-- The least number of digits of an exponent. -/
  exponentWidth : Nat
  /-- The text of infinity. -/
  infinity : String
  /-- The text of `nan`. -/
  notANumber : String

/-- The style of log records and of JSON texts, but for the names of infinity and `nan`. -/
def plainStyle : NumberStyle := ⟨-4, 15, ".0", "e", 2, "inf", "nan"⟩

/-- The digits filled up with zeros on the left. -/
def padded (width n : Nat) : List Char :=
  let digits := Nat.toDigits 10 n
  List.replicate (width - digits.length) '0' ++ digits

/-- A decimal without an exponent. -/
def positional (style : NumberStyle) (d : Decimal) : String :=
  let digits := Nat.toDigits 10 d.digits
  if 0 ≤ d.exponent then
    String.ofList (digits ++ List.replicate d.exponent.natAbs '0') ++ style.wholeEnd
  else
    let places := d.exponent.natAbs
    if places < digits.length then
      String.ofList (digits.take (digits.length - places)) ++ "."
        ++ String.ofList (digits.drop (digits.length - places))
    else "0." ++ String.ofList (List.replicate (places - digits.length) '0' ++ digits)

/-- A decimal with an exponent. -/
def scientific (style : NumberStyle) (d : Decimal) : String :=
  let digits := Nat.toDigits 10 d.digits
  let lead := String.ofList (digits.take 1)
  let rest := digits.drop 1
  let fraction := if rest.isEmpty then "" else "." ++ String.ofList rest
  let sign := if d.magnitude < 0 then "-" else "+"
  lead ++ fraction ++ style.mark ++ sign
    ++ String.ofList (padded style.exponentWidth d.magnitude.natAbs)

/-- The number in a given style. -/
def textIn (style : NumberStyle) : Double → String
  | .nan _ => style.notANumber
  | .infinite negative => (if negative then "-" else "") ++ style.infinity
  | .finite negative mantissa exponent =>
      let sign := if negative then "-" else ""
      if mantissa = 0 then sign ++ "0" ++ style.wholeEnd
      else
        let d := shortest mantissa exponent
        if style.lowest ≤ d.magnitude ∧ d.magnitude ≤ style.highest then sign ++ positional style d
        else sign ++ scientific style d

/-- The number as log records show it. -/
def text (x : Double) : String := x.textIn plainStyle

end Double

end DocQuery
