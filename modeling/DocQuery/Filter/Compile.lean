import DocQuery.Filter.Basic
import DocQuery.Filter.Compose
import DocQuery.InputError
import DocQuery.Query.Condition

/-!
# Compiling filters

Filters, searches and criteria become conditions, and bind the parameters that
those conditions name.

* A search tests every property with every term, properties first.  The pairs are
  numbered from one.  The terms `null` and `!null` test whether the property is
  there; any other term is looked for inside it.
* A filter text is composed, or only cut of the white space around it.  Clauses
  are joined.  A prebuilt filter adds its own parameters, none of which may be
  bound already.
* Criteria put what is there of both in brackets.

The parameters after a refusal are those before it.
-/

namespace DocQuery

/-- The outcome of compiling, and the parameters bound then. -/
abbrev Compiled (α : Type) := Except InputError α × Fields

/-! ## Searches -/

namespace Search

/-- Every property with every term. -/
def pairs (s : Search) : List (String × String) :=
  s.propertyList.flatMap fun property => s.termList.map fun term => (property, term)

/-- The parameter of the property of a pair. -/
def propertyParameter (number : Nat) : String := "search_prop_" ++ toString number

/-- The parameter of the term of a pair. -/
def termParameter (number : Nat) : String := "search_term_" ++ toString number

/-- The pattern that a term is bound as. -/
def pattern (term : String) : String := "%" ++ term ++ "%"

/-- The test of a pair, and the parameters it needs. -/
def test (number : Nat) (property term : String) (binds : Fields) : Test × Fields :=
  let name := propertyParameter number
  let binds := binds.set name (attributePath property)
  if term = "null" ∨ term = "NULL" then (.isNull name, binds)
  else if term = "!null" ∨ term = "!NULL" then (.notNull name, binds)
  else
    let termName := termParameter number
    (.like name termName, binds.set termName (.str (pattern term)))

/-- The tests of pairs, numbered from a number on. -/
def testsFrom : Nat → List (String × String) → Fields → List Condition × Fields
  | _, [], binds => ([], binds)
  | number, (property, term) :: rest, binds =>
      let (t, binds) := test number property term binds
      let (tests, binds) := testsFrom (number + 1) rest binds
      (.test t :: tests, binds)

/-- The tests of all pairs. -/
def tests (s : Search) (binds : Fields) : List Condition × Fields := testsFrom 1 s.pairs binds

/-- The condition of a search. -/
def compile (s : Search) (binds : Fields) : Condition × Fields :=
  let (tests, binds) := s.tests binds
  (.joined s.join tests, binds)

/-- The condition of a search that has a pair. -/
def compile? (s : Search) (binds : Fields) : Option Condition × Fields :=
  let (tests, binds) := s.tests binds
  (if tests.isEmpty then none else some (.joined s.join tests), binds)

end Search

/-! ## Filters -/

namespace ClauseList

/-- One of the conditions, qualified if they are. -/
def clause (l : ClauseList) (s : String) : Condition :=
  .written (if l.qualify then Clause.qualified s else Text.trimmed s)

/-- The joined condition; there has to be one. -/
def compile (l : ClauseList) : Except InputError Condition :=
  if l.clauses.isEmpty then .error .noClauses
  else .ok (.joined l.join (l.clauses.map l.clause))

end ClauseList

namespace Filter

/-- The names that are bound in both, in the order of their characters. -/
def boundInBoth (own binds : Fields) : List String :=
  (own.names.filter binds.has).mergeSort fun a b => decide (a ≤ b)

/-- The condition of a filter. -/
def compile (f : Filter) (binds : Fields) (qualify : Bool := true) : Compiled Condition :=
  match f with
  | text s => (.ok (.written (if qualify then Clause.composed s else Text.trimmed s)), binds)
  | clauses l => (l.compile, binds)
  | prebuilt q =>
      let twice := boundInBoth q.binds binds
      if twice.isEmpty then (.ok (.written (Text.trimmed q.text)), binds.merge q.binds)
      else (.error (.boundTwice twice), binds)

end Filter

namespace FilterInput

/-- The condition of what is handed in as a filter. -/
def compile (f : FilterInput) (binds : Fields) (qualify : Bool := true) : Compiled Condition :=
  match f with
  | filter f => f.compile binds qualify
  | input => (.error (.notAFilter input.kindName), binds)

end FilterInput

/-! ## Criteria -/

namespace Criteria

/-- The condition of the filter, if one is given and its text is not empty. -/
def compileFilter (c : Criteria) (binds : Fields) (qualify : Bool) :
    Compiled (Option Condition) :=
  match c.filter with
  | none => (.ok none, binds)
  | some f =>
      if f.isGiven then
        match f.compile binds qualify with
        | (.ok e, binds) => (.ok (if e.text = "" then none else some e), binds)
        | (.error e, binds) => (.error e, binds)
      else (.ok none, binds)

/-- The condition of the search, if one is given and has a pair. -/
def compileSearch (c : Criteria) (binds : Fields) : Option Condition × Fields :=
  match c.search with
  | none => (none, binds)
  | some s => s.compile? binds

/-- The condition of what is there of a filter and a search. -/
def combine (join : Join) : Option Condition → Option Condition → Option Condition
  | some f, some s => some (.group (.joined join [.group f, .group s]))
  | some f, none => some (.group f)
  | none, some s => some (.group s)
  | none, none => none

/-- The condition of criteria. -/
def compile (c : Criteria) (binds : Fields) (qualify : Bool := true) :
    Compiled (Option Condition) :=
  match c.compileFilter binds qualify with
  | (.error e, binds) => (.error e, binds)
  | (.ok f, binds) =>
      let (s, binds) := c.compileSearch binds
      (.ok (combine c.join f s), binds)

end Criteria

end DocQuery
