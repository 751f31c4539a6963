import DocQuery.Filter.Clause
import DocQuery.Filter.Locate

/-!
# Composing a condition

A condition written by a caller may join several with the operators `||` and
`&&`.  `compose` cuts it at the operators, qualifies each part, and joins the
parts and operators with single spaces.

An operator is any occurrence of `||` or `&&` that does not overlap an earlier
operator, so `|||` is one operator and a bar.
-/

namespace DocQuery

namespace Clause

/-- The operators. -/
def operators : List (List Char) := [['|', '|'], ['&', '&']]

/-- The parts of a text between occurrences and the occurrences themselves, from
a position on; an occurrence that begins before it is skipped. -/
def piecesFrom (cs : List Char) : Nat → List Located → List (List Char)
  | cut, [] => [qualify (cs.drop cut)]
  | cut, (index, operator) :: rest =>
      if index < cut then piecesFrom cs cut rest
      else
        qualify ((cs.take index).drop cut) :: (cs.drop index).take operator.length
          :: piecesFrom cs (index + operator.length) rest

/-- The qualified parts of a condition with its operators between them. -/
def pieces (cs : List Char) : List (List Char) := piecesFrom cs 0 (locateAll false cs operators)

/-- Qualifies every part of a condition. -/
def compose (cs : List Char) : List Char := [' '].intercalate (pieces cs)

/-- Qualifies every part of a condition given as a string. -/
def composed (s : String) : String := String.ofList (compose s.toList)

end Clause

end DocQuery
