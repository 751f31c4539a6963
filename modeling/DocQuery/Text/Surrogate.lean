/-!
# Halves of surrogate pairs

In written form, a character above the first plane may be a pair of codes, each of
which is half a surrogate pair.  A half that stands alone is no character.  A text
that is told to hold one holds a stand-in instead: the character of plane 13, where
no characters are assigned, whose code ends in the same four hexadecimal digits.
Whoever writes the text writes the half again.
-/

namespace DocQuery

namespace Text

/-- Whether a code is the first half of a surrogate pair. -/
def isHighHalf (n : Nat) : Bool := 0xd800 ≤ n && n ≤ 0xdbff

/-- Whether a code is the second half of a surrogate pair. -/
def isLowHalf (n : Nat) : Bool := 0xdc00 ≤ n && n ≤ 0xdfff

/-- Where the stand-ins are: the first code of plane 13. -/
def standInPlane : Nat := 0xd0000

/-- The character of a code that is no half; the stand-in of a half. -/
def charOfCode (n : Nat) : Char :=
  if isHighHalf n || isLowHalf n then Char.ofNat (standInPlane + n) else Char.ofNat n

/-- The character of a surrogate pair. -/
def charOfPair (high low : Nat) : Char :=
  Char.ofNat (0x10000 + (high - 0xd800) * 0x400 + (low - 0xdc00))

/-- The half that a character stands in for. -/
def half? (c : Char) : Option Nat :=
  let n := c.toNat - standInPlane
  if standInPlane ≤ c.toNat && (isHighHalf n || isLowHalf n) then some n else none

example : half? (charOfCode 0xd83d) = some 0xd83d := by decide +kernel
example : half? (charOfCode 0x3c3) = none := by decide +kernel
example : charOfPair 0xd83d 0xde00 = '😀' := by decide +kernel

end Text

end DocQuery
