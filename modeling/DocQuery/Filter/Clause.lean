import DocQuery.Text.Space

/-!
# Qualifying a condition

A condition written by a caller names properties plainly, such as `age > 40`.  In
a query the property belongs to the document `d`, so `qualify` writes `d.` in
front of it.

* A condition without brackets gets it in front.
* In one with an opening bracket, such as a call or the first half of a group, it
  goes behind the first bracket, and white space there is cut out.
* In one with only a closing bracket, the second half of a group, it goes in
  front.

White space before closing brackets is cut out wherever there are brackets, and
white space around the condition always.
-/

namespace DocQuery

namespace Clause

/-- What goes in front of a property. -/
def qualifier : List Char := ['d', '.']

/-- Cuts out white space before closing brackets. -/
def tighten : List Char → List Char
  | [] => []
  | c :: rest =>
      match isSpace c, tighten rest with
      | true, ')' :: more => ')' :: more
      | _, tight => c :: tight

/-- White space in front of a closing bracket is cut out. -/
theorem tighten_cons_space {c : Char} (h : isSpace c = true) {rest more : List Char}
    (hrest : tighten rest = ')' :: more) : tighten (c :: rest) = tighten rest := by
  change (match isSpace c, tighten rest with
    | true, ')' :: more => ')' :: more
    | _, tight => c :: tight) = tighten rest
  rw [h, hrest]
  rfl

/-- All else stays. -/
theorem tighten_cons {c : Char} {rest : List Char}
    (h : isSpace c = true → ∀ more, tighten rest ≠ ')' :: more) :
    tighten (c :: rest) = c :: tighten rest := by
  change (match isSpace c, tighten rest with
    | true, ')' :: more => ')' :: more
    | _, tight => c :: tight) = c :: tighten rest
  split
  next more hspace hmore => exact absurd hmore (h hspace more)
  next => rfl

/-- Puts the qualifier behind the first opening bracket, in place of the white
space there. -/
def qualifyBehindBracket (cs : List Char) : List Char :=
  match cs.dropWhile (· ≠ '(') with
  | bracket :: rest =>
      cs.takeWhile (· ≠ '(') ++ bracket :: qualifier ++ Text.trimStart rest
  | [] => cs

/-- Qualifies the property of a condition. -/
def qualify (clause : List Char) : List Char :=
  let cs := Text.trim clause
  if cs.contains '(' then tighten (qualifyBehindBracket cs)
  else if cs.contains ')' then tighten (qualifier ++ cs)
  else qualifier ++ cs

/-- Qualifies the property of a condition given as a string. -/
def qualified (clause : String) : String := String.ofList (qualify clause.toList)

example : qualified " age > 40 " = "d.age > 40" := by decide +kernel
example : qualified "LIKE( name, \"x\" )" = "LIKE(d.name, \"x\")" := by decide +kernel
example : qualified "age == 42 )" = "d.age == 42)" := by decide +kernel

end Clause

end DocQuery
