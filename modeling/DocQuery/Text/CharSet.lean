/-!
# Sets of characters

A set of characters is given by the code points at which membership changes, in
ascending order.  The first is the first member, the second the first character
after it that is no member, and so on.  A character belongs to the set exactly
when an odd number of changes lie at or below it.
-/

namespace DocQuery

/-- A set of characters. -/
structure CharSet where
  /-- The code points at which membership changes, ascending. -/
  changes : List Nat

namespace CharSet

/-- Whether an odd number of leading entries are at or below `code`. -/
def oddBelow (code : Nat) : List Nat → Bool
  | [] => false
  | change :: rest => if change ≤ code then !oddBelow code rest else false

/-- Whether a character belongs to the set. -/
def mem (set : CharSet) (c : Char) : Bool := oddBelow c.toNat set.changes

example : (⟨[65, 91]⟩ : CharSet).mem 'Z' = true := by decide
example : (⟨[65, 91]⟩ : CharSet).mem '[' = false := by decide

end CharSet

end DocQuery
