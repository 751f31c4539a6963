import DocQuery.Schema.Scalar
import DocQuery.Shown

/-!
# Joining conditions

Several conditions hold together when *any* of them holds or when *all* of them
hold.  A `Join` is the choice between the two; its operator is `||` or `&&`.
-/

namespace DocQuery

/-- How several conditions are put together. -/
inductive Join where
  /-- One of them has to hold. -/
  | any
  /-- All of them have to hold. -/
  | all
deriving DecidableEq, Repr, Inhabited

namespace Join

/-- The operator between two conditions. -/
def operator : Join → String
  | any => "||"
  | all => "&&"

/-- The written choice. -/
def text : Join → String
  | any => "ANY"
  | all => "ALL"

/-- The choice that a text writes. -/
def ofText? : String → Option Join
  | "ANY" => some any
  | "ALL" => some all
  | _ => none

@[simp] theorem ofText?_text (j : Join) : ofText? j.text = some j := by cases j <;> rfl

/-- The choice as messages show it. -/
def shown (j : Join) : Shown := .choice "MatchType" j.text j.text

/-- Reads a choice. -/
def read : Value → Schema.Checked Join := Schema.choice ofText?

/-- Reads a choice that is any by default. -/
def readField (fields : Fields) : Schema.Checked Join := Schema.optional read fields "match" any

@[simp] theorem plain_shown (j : Join) : j.shown.plain = .str j.text := rfl

@[simp] theorem read_text (j : Join) : read (.str j.text) = .ok j := by cases j <;> rfl

end Join

end DocQuery
