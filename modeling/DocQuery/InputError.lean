import DocQuery.Shown

/-!
# Unusable input

The reasons for which an operation refuses what it is given, and their wording.
-/

namespace DocQuery

/-- Why an operation refuses its input. -/
inductive InputError where
  /-- A list of conditions is empty. -/
  | noClauses
  /-- A list of named values is empty. -/
  | noNamedValues
  /-- A uniqueness constraint has no parts. -/
  | noConstraints
  /-- A value of some kind is no filter. -/
  | notAFilter (kind : String)
  /-- A prebuilt filter binds names that are bound already. -/
  | boundTwice (names : List String)
  /-- No criteria are given. -/
  | noCriteria
  /-- A field that should hold a list holds something else. -/
  | notAList (action : String)
  /-- An object cannot be told apart from those in the list. -/
  | noDistinction
  /-- An object is in the list already. -/
  | duplicate
  /-- What is added to a list of objects is none. -/
  | notAnObject
  /-- An object has another identity than the one asked for. -/
  | otherIdentity
  /-- An edge lacks an end. -/
  | looseEdge
  /-- No structure is given. -/
  | noStructure
deriving DecidableEq, Repr

namespace InputError

/-- The wording. -/
def message : InputError → String
  | noClauses => "No filters specified"
  | noNamedValues => "No property values specified"
  | noConstraints => "No constraints specified"
  | notAFilter kind => "Invalid input received for filter conversion: " ++ kind
  | boundTwice names =>
      "Filter bind variables clash with the query's own: " ++ (Value.ofTexts names).literal
  | noCriteria => "No criteria supplied"
  | notAList action =>
      "Cannot " ++ action ++ " an existing field that is not already of type array"
  | noDistinction =>
      "The array object must be unique, no 'unique_object_field' was provided, "
        ++ "or the array object is missing that field"
  | duplicate => "The array object being added is not unique"
  | notAnObject => "Array value is not an object"
  | otherIdentity => "Specified ID does not match the one provided in the object instance"
  | looseEdge => "Cannot create edge relation without relational keys"
  | noStructure => "No DB structure specified"

end InputError

end DocQuery
