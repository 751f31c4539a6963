/-!
# Double-precision numbers

A `Double` is a number of the 64-bit binary format, held exactly: a sign, a
whole mantissa and a power of two.  Every finite number has one form.

* normal: the mantissa has 53 bits.
* small: the exponent is `minExponent` and the mantissa has fewer bits.

`nan` equals nothing, itself included.  What holds it is compared object by object
before it is compared by equality, so a `nan` also says which object it is.

`ofRatio` gives the number nearest to a quotient of naturals, a tie going to the
even mantissa.  `ofDecimal` reads a decimal through it.  All arithmetic is on
`Nat` and `Int`, so nothing here depends on the machine.
-/

namespace DocQuery

/-- A number of the 64-bit binary format. -/
inductive Double where
  /-- `± mantissa · 2 ^ exponent`. -/
  | finite (negative : Bool) (mantissa : Nat) (exponent : Int)
  /-- A number too large for the format. -/
  | infinite (negative : Bool)
  /-- The value that is no number, as one of the objects that are such a value. -/
  | nan (object : Nat)
deriving DecidableEq, Inhabited, Repr

namespace Double

/-- The number of bits of a mantissa. -/
def bits : Nat := 53

/-- The smallest exponent of a finite number. -/
def minExponent : Int := -1074

/-- The largest exponent of a finite number. -/
def maxExponent : Int := 971

/-- Zero with a sign. -/
def zero (negative : Bool) : Double := .finite negative 0 minExponent

/-! ## Rounding -/

/-- The whole number nearest to `num / den`, a tie going to the even one. -/
def roundQuotient (num den : Nat) : Nat :=
  let floor := num / den
  let rest := 2 * (num % den)
  if rest < den then floor
  else if den < rest then floor + 1
  else if floor % 2 = 0 then floor else floor + 1

/-- `num / den` divided by `2 ^ exponent`, as numerator and denominator. -/
def scaled (num den : Nat) (exponent : Int) : Nat × Nat :=
  let power := Nat.pow 2 exponent.natAbs
  if exponent < 0 then (num * power, den) else (num, den * power)

/-- The exponent at which the quotient has a mantissa of the full width, or the smallest one. -/
def exponentFor (num den : Nat) : Int :=
  let estimate : Int := (num.log2 : Int) - (den.log2 : Int) - (bits : Int)
  let (n, d) := scaled num den estimate
  max minExponent (if n / d < Nat.pow 2 bits then estimate else estimate + 1)

/-- The number nearest to `num / den`, a tie going to the even mantissa. -/
def ofRatio (negative : Bool) (num den : Nat) : Double :=
  if num = 0 then zero negative
  else
    let exponent := exponentFor num den
    let (n, d) := scaled num den exponent
    let mantissa := roundQuotient n d
    let (mantissa, exponent) :=
      if mantissa = Nat.pow 2 bits then (Nat.pow 2 (bits - 1), exponent + 1)
      else (mantissa, exponent)
    if exponent > maxExponent then .infinite negative else .finite negative mantissa exponent

/-- The number of decimal digits of a natural; zero has one. -/
def digitCount (n : Nat) : Nat := (Nat.toDigits 10 n).length

/-- `digits · 10 ^ exponent` as a quotient. -/
def decimalRatio (digits : Nat) (exponent : Int) : Nat × Nat :=
  let power := Nat.pow 10 exponent.natAbs
  if exponent < 0 then (digits, power) else (digits * power, 1)

/-- The number nearest to `digits · 10 ^ exponent`.  A decimal far outside the
format's range is decided by its magnitude alone. -/
def ofDecimal (negative : Bool) (digits : Nat) (exponent : Int) : Double :=
  let magnitude : Int := (digitCount digits : Int) + exponent
  if digits = 0 then zero negative
  else if magnitude > 310 then .infinite negative
  else if magnitude < -330 then zero negative
  else
    let (num, den) := decimalRatio digits exponent
    ofRatio negative num den

/-! ## Reading a number -/

/-- Whether the number is zero, of either sign. -/
def isZero : Double → Bool
  | .finite _ mantissa _ => mantissa == 0
  | _ => false

/-- The whole number that a finite number without a fraction is. -/
def toInt? : Double → Option Int
  | .finite negative mantissa exponent =>
      let signed (n : Nat) : Int := if negative then -(n : Int) else n
      let power := Nat.pow 2 exponent.natAbs
      if exponent < 0 then
        if mantissa % power = 0 then some (signed (mantissa / power)) else none
      else some (signed (mantissa * power))
  | _ => none

/-- Equality of numbers: the two zeros are equal, and `nan` equals nothing. -/
def same : Double → Double → Bool
  | .nan _, _ => false
  | _, .nan _ => false
  | a, b => (a.isZero && b.isZero) || decide (a = b)

/-- Whether two numbers are `nan` and one object. -/
def oneNan : Double → Double → Bool
  | .nan a, .nan b => a == b
  | _, _ => false

example : ofDecimal false 1 0 = .finite false (2 ^ 52) (-52) := by decide +kernel
example : ofDecimal false 5 (-324) = .finite false 1 (-1074) := by decide +kernel
example : ofDecimal false 1 400 = .infinite false := by decide +kernel
example : (ofDecimal true 25 (-1)).toInt? = none := by decide +kernel
example : (ofDecimal true 250 (-1)).toInt? = some (-25) := by decide +kernel

end Double

end DocQuery
