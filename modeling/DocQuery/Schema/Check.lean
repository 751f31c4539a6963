import DocQuery.Value

/-!
# Checked input

Records are read from values.  A reading of a value gives the record, or *all*
issues found in the value: each has a kind and the path at which it was found.

* `Checked α` is the outcome.  Combining two outcomes keeps the issues of both,
  in order, so it is an applicative functor and not a monad.
* `under` puts a step in front of the path of every issue.
* `required`, `optional` and `nullable` read one field of an object.
* `each` reads every item of a list.
-/

namespace DocQuery

namespace Schema

/-! ## Issues -/

/-- One step of a path into a value. -/
inductive Step where
  /-- A field, or a member of a union. -/
  | key (name : String)
  /-- An item of a list. -/
  | index (n : Nat)
deriving DecidableEq, Repr

/-- What is wrong with a value. -/
inductive IssueKind where
  /-- A required field is not there. -/
  | missing
  /-- Not a text. -/
  | notText
  /-- A text without characters. -/
  | emptyText
  /-- A property name that is blank. -/
  | blankName
  /-- Not readable as a truth value, of a kind that never is. -/
  | notTruth
  /-- A text or a number that is no truth value. -/
  | unreadTruth
  /-- Not readable as a whole number, of a kind that never is. -/
  | notWhole
  /-- A text that is no whole number. -/
  | unreadWhole
  /-- A number with a fraction. -/
  | fraction
  /-- A number that is not finite. -/
  | notFinite
  /-- A number that is too large to be read. -/
  | tooLarge
  /-- A number below zero. -/
  | negative
  /-- Not a list. -/
  | notList
  /-- Not an object. -/
  | notObject
  /-- Not an object, for a record. -/
  | notRecord
  /-- Not an object, for a record chosen by its tag. -/
  | noFields
  /-- A list without items. -/
  | noItems
  /-- Not one of the listed choices. -/
  | notChoice
  /-- Not the tag of the record. -/
  | wrongTag
  /-- A record chosen by its tag has none. -/
  | noTag
  /-- A record chosen by its tag has one that names no record. -/
  | unknownTag
deriving DecidableEq, Repr

/-- The wording of an issue that a rule of this library finds; the other kinds
speak for themselves. -/
def IssueKind.message? : IssueKind → Option String
  | .blankName => some "Value error, name must be a non-empty property path"
  | _ => none

/-- What is wrong and where. -/
structure Issue where
  /-- What is wrong. -/
  kind : IssueKind
  /-- Where it is. -/
  path : List Step
deriving DecidableEq, Repr

/-! ## Outcomes -/

/-- A record, or the issues of the value it was read from. -/
inductive Checked (α : Type) where
  /-- The record. -/
  | ok (a : α)
  /-- The issues, in order. -/
  | bad (issues : List Issue)
deriving DecidableEq, Repr

namespace Checked

/-- An outcome with one issue, found at the value itself. -/
def issue {α : Type} (kind : IssueKind) : Checked α := .bad [⟨kind, []⟩]

/-- Applies a function to the record. -/
def map {α β : Type} (f : α → β) : Checked α → Checked β
  | .ok a => .ok (f a)
  | .bad issues => .bad issues

/-- Applies the function of one outcome to the record of another, keeping the
issues of both. -/
def seq {α β : Type} : Checked (α → β) → Checked α → Checked β
  | .ok f, .ok a => .ok (f a)
  | .ok _, .bad issues => .bad issues
  | .bad issues, .ok _ => .bad issues
  | .bad issues, .bad more => .bad (issues ++ more)

instance : Functor Checked where
  map := map

instance : Applicative Checked where
  pure := .ok
  seq f a := f.seq (a ())

/-- Reads on from a record. -/
def andThen {α β : Type} (c : Checked α) (f : α → Checked β) : Checked β :=
  match c with
  | .ok a => f a
  | .bad issues => .bad issues

/-- Puts a step in front of the path of every issue. -/
def under {α : Type} (step : Step) : Checked α → Checked α
  | .ok a => .ok a
  | .bad issues => .bad (issues.map fun i => { i with path := step :: i.path })

/-- The first outcome with a record, or the issues of both. -/
def or {α : Type} : Checked α → Checked α → Checked α
  | .ok a, _ => .ok a
  | .bad _, .ok a => .ok a
  | .bad issues, .bad more => .bad (issues ++ more)

@[simp] theorem map_ok {α β : Type} (f : α → β) (a : α) : f <$> (Checked.ok a) = .ok (f a) := rfl

@[simp] theorem seq_ok {α β : Type} (f : α → β) (a : α) :
    (Checked.ok f) <*> (Checked.ok a) = .ok (f a) := rfl

@[simp] theorem under_ok {α : Type} (step : Step) (a : α) : (Checked.ok a).under step = .ok a := rfl

theorem map_eq_ok {α β : Type} {f : α → β} {c : Checked α} {b : β} (h : f <$> c = .ok b) :
    ∃ a, c = .ok a ∧ f a = b := by
  cases c with
  | ok a => exact ⟨a, rfl, by injection h⟩
  | bad issues => cases h

theorem seq_eq_ok {α β : Type} {f : Checked (α → β)} {c : Checked α} {b : β}
    (h : f <*> c = .ok b) : ∃ g a, f = .ok g ∧ c = .ok a ∧ g a = b := by
  cases f with
  | ok g => cases c with
    | ok a => exact ⟨g, a, rfl, rfl, by injection h⟩
    | bad issues => cases h
  | bad issues => cases c <;> cases h

theorem under_eq_ok {α : Type} {step : Step} {c : Checked α} {a : α} (h : c.under step = .ok a) :
    c = .ok a := by
  cases c with
  | ok b => exact h
  | bad issues => cases h

end Checked

/-! ## Fields and items -/

/-- Reads a field that has to be there. -/
def required {α : Type} (read : Value → Checked α) (fields : Fields) (name : String) : Checked α :=
  match fields.get? name with
  | some v => (read v).under (.key name)
  | none => (Checked.issue .missing).under (.key name)

/-- Reads a field that has a value when it is not there. -/
def optional {α : Type} (read : Value → Checked α) (fields : Fields) (name : String) (absent : α) :
    Checked α :=
  match fields.get? name with
  | some v => (read v).under (.key name)
  | none => .ok absent

/-- Reads a value that may be null. -/
def nullable {α : Type} (read : Value → Checked α) : Value → Checked (Option α)
  | .null => .ok none
  | v => some <$> read v

/-- Reads a field that may be null or not there. -/
def nullableField {α : Type} (read : Value → Checked α) (fields : Fields) (name : String) :
    Checked (Option α) :=
  optional (nullable read) fields name none

/-- Reads every item, counting from a number. -/
def eachFrom {α : Type} (read : Value → Checked α) : Nat → List Value → Checked (List α)
  | _, [] => .ok []
  | n, v :: rest => List.cons <$> (read v).under (.index n) <*> eachFrom read (n + 1) rest

/-- Reads every item of a list. -/
def each {α : Type} (read : Value → Checked α) : Value → Checked (List α)
  | .list items => eachFrom read 0 items
  | _ => .issue .notList

/-- Reads a record from the fields of an object. -/
def record {α : Type} (read : Fields → Checked α) : Value → Checked α
  | .object fields => read fields
  | _ => .issue .notRecord

end Schema

end DocQuery
