import DocQuery.Options
import DocQuery.Query.Basic
import DocQuery.Query.Condition

/-!
# Statements

A statement runs over the documents `d` of a collection.  Each of its filters is
a condition that the documents have to satisfy, so several filters hold together.
Then the documents are sorted and cut to a page, and the action says what becomes
of them.

`text` writes a statement: `FOR d IN @@collection`, the filters, the order, the
page, the action.
-/

namespace DocQuery

/-! ## Order and page -/

/-- A direction of sorting. -/
inductive Direction where
  /-- Small before large. -/
  | ascending
  /-- Large before small. -/
  | descending
deriving DecidableEq, Repr

/-- The order of documents: by a property, in a direction if one is named. -/
structure SortKey where
  /-- The property. -/
  property : String
  /-- The direction. -/
  direction : Option Direction
deriving DecidableEq, Repr

/-- A page: how many documents are skipped, and how many are taken at most. -/
structure Page where
  /-- How many are skipped. -/
  skipped : Option Nat
  /-- How many are taken. -/
  taken : Nat
deriving DecidableEq, Repr

/-- The direction that a word names. -/
def Direction.ofText? (word : String) : Option Direction :=
  match Text.lowered word with
  | "ascending" | "asc" => some .ascending
  | "descending" | "desc" => some .descending
  | _ => none

/-- The text of a direction. -/
def Direction.text : Direction → String
  | ascending => "ASC"
  | descending => "DESC"

/-- The text of an order. -/
def SortKey.text (k : SortKey) : String :=
  " SORT d." ++ k.property ++ match k.direction with
    | some direction => " " ++ direction.text
    | none => ""

/-- The text of a page. -/
def Page.text (p : Page) : String :=
  match p.skipped with
  | some n => " LIMIT " ++ toString n ++ ", " ++ toString p.taken
  | none => " LIMIT " ++ toString p.taken

/-! ## Actions -/

/-- A change of a list held in a property. -/
inductive ListChange where
  /-- A value is added. -/
  | push
  /-- The values of a list are added. -/
  | append
  /-- A value is removed wherever it occurs. -/
  | remove
deriving DecidableEq, Repr

/-- The changed list. -/
def ListChange.text : ListChange → String
  | push => "PUSH(d.@property, @value, @unique)"
  | append => "APPEND(d.@property, @value, @unique)"
  | remove => "REMOVE_VALUE(d.@property, @value)"

/-- The parameter of a part of a path, counted from one. -/
def fieldParameter (number : Nat) : String := "field_" ++ toString number

/-- An object that holds a value at the end of a path of some more parts. -/
def nestedText (value : String) : Nat → Nat → String
  | _, 0 => value
  | number, more + 1 =>
      "\x7b [ @" ++ fieldParameter number ++ " ]: " ++ nestedText value (number + 1) more ++ " \x7d"

/-- What becomes of the documents. -/
inductive Action where
  /-- They are returned. -/
  | documents
  /-- Their keys are returned. -/
  | keys
  /-- They are updated with bound data. -/
  | update
  /-- They are removed. -/
  | remove
  /-- They are updated with a bound patch, in which null removes a field. -/
  | patch
  /-- A list that they hold is changed at the end of a path of some parts. -/
  | changeList (change : ListChange) (depth : Nat)
deriving DecidableEq, Repr

/-- What an update returns: keys and new values. -/
def newValueText : String := "RETURN \x7b _key: NEW._key, value: NEW.@property \x7d"

/-- The text of an action. -/
def Action.text : Action → String
  | documents => "RETURN d"
  | keys => "RETURN d._key"
  | update => "UPDATE d WITH @data IN @@collection RETURN \x7b _key: NEW._key \x7d"
  | remove => "REMOVE d IN @@collection RETURN \x7b _key: OLD._key \x7d"
  | patch =>
      "UPDATE d WITH @patch IN @@collection OPTIONS \x7b keepNull: false \x7d " ++ newValueText
  | changeList change depth =>
      "UPDATE d WITH " ++ nestedText change.text 1 depth ++ " IN @@collection " ++ newValueText

/-- Whether an action changes documents. -/
def Action.writes : Action → Bool
  | documents | keys => false
  | _ => true

/-! ## Statements -/

/-- A statement over the documents of a collection. -/
structure Statement where
  /-- The conditions that documents have to satisfy. -/
  filters : List Condition := []
  /-- Their order. -/
  sort : Option SortKey := none
  /-- The page they are cut to. -/
  page : Option Page := none
  /-- What becomes of them. -/
  action : Action := .documents
deriving Repr

namespace Statement

/-- The text of a filter. -/
def filterText (c : Condition) : String := " FILTER " ++ c.text

/-- The text of a statement. -/
def text (s : Statement) : String :=
  "FOR d IN @@collection" ++ String.join (s.filters.map filterText)
    ++ (s.sort.map SortKey.text).getD "" ++ (s.page.map Page.text).getD "" ++ " " ++ s.action.text

/-- The query of a statement. -/
def query (s : Statement) (binds : Fields) : Query := ⟨s.text, binds⟩

end Statement

namespace FetchOptions

/-- The order that options ask for. -/
def sort? (o : FetchOptions) : Option SortKey :=
  match o.sortBy with
  | none | some "" => none
  | some property => some ⟨property, o.sortOrder.bind Direction.ofText?⟩

/-- The page that options ask for: a limit of zero asks for none, and an offset of
zero skips nothing. -/
def page? (o : FetchOptions) : Option Page :=
  match o.limit with
  | none | some 0 => none
  | some taken => some ⟨o.offset.filter (· ≠ 0), taken⟩

end FetchOptions

example : (nestedText "x" 1 2) = "\x7b [ @field_1 ]: \x7b [ @field_2 ]: x \x7d \x7d" := by
  decide +kernel

end DocQuery
