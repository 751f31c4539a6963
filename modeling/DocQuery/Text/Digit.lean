/-!
# Decimal digits

The ten ASCII digits, their values, and the number that a run of them writes.
-/

namespace DocQuery

/-- Whether a character is one of the ten ASCII digits. -/
def isAsciiDigit (c : Char) : Bool := decide ('0'.toNat ≤ c.toNat) && decide (c.toNat ≤ '9'.toNat)

/-- The number that a list of digits writes, most significant first. -/
def numberOfDigits (digits : List Nat) : Nat := digits.foldl (fun acc digit => 10 * acc + digit) 0

/-- The value of an ASCII digit; zero for any other character. -/
def asciiDigitValue (c : Char) : Nat := if isAsciiDigit c then c.toNat - '0'.toNat else 0

example : asciiDigitValue '7' = 7 := by decide
example : numberOfDigits [1, 0, 2] = 102 := by decide

end DocQuery
