import DocQuery.Misuse
import DocQuery.Options

/-!
# Trimming documents

Trimming drops fields of a document, or keeps only some.  The options are tried in
this order.

* Fields to keep: the document has those of them that it had, in the order in
  which they are listed.
* Fields to drop: the document loses them.  Then, if that is asked for, it loses
  its private fields, whose names start with an underscore; the key, the handle
  and the revision stay.

What is no object is not changed.
-/

namespace DocQuery

namespace Trim

/-! ## Objects -/

/-- The private fields that stay. -/
def metaFields : List String := ["_key", "_id", "_rev"]

/-- Whether a field is private. -/
def isPrivate (name : String) : Bool := name.toList.head? = some '_'

/-- Drops the private fields that are not listed. -/
def dropPrivate (kept : List String) (fields : Fields) : Fields :=
  fields.filter fun entry => !isPrivate entry.1 || kept.contains entry.1

/-- Drops the listed fields. -/
def drop (names : List String) (fields : Fields) : Fields :=
  fields.filter fun entry => !names.contains entry.1

/-- Keeps the listed fields, in the order in which they are listed. -/
def keep (names : List String) (fields : Fields) : Fields :=
  names.foldl
    (fun kept name => match fields.get? name with
      | some v => kept.set name v
      | none => kept)
    []

/-- The names of an option that lists some. -/
def names? (texts : Option Texts) : Option (List String) :=
  (texts.filter fun t => !t.isEmpty).map Texts.toList

/-- Trims the fields of a document. -/
def fields (o : TrimOptions) (document : Fields) : Fields :=
  match names? o.kept with
  | some names => keep names document
  | none =>
      let rest := match names? o.omitted with
        | some names => drop names document
        | none => document
      if o.stripPrivate then dropPrivate metaFields rest else rest

/-! ## Documents -/

/-- Trims a document. -/
def document (o : Option TrimOptions) : Value → Value
  | .object document => match o with
    | some o => .object (fields o document)
    | none => .object document
  | v => v

/-- Trims the documents of a list. -/
def documents (o : Option TrimOptions) (vs : List Value) : List Value := vs.map (document o)

/-! ## Names and documents given as values -/

/-- The name that an item is, if it is a text; a list or an object cannot be one. -/
def nameOf : Value → Except Misuse (Option String)
  | .str s => .ok (some s)
  | .list _ => .error (.noName "list")
  | .object _ => .error (.noName "dict")
  | _ => .ok none

/-- The names among the items that a value lists; a value that counts as false lists
none. -/
def listedNames (v : Value) : Except Misuse (List String) :=
  if v.isTrue then do
    let items ← v.listed
    let names ← items.mapM nameOf
    return names.filterMap id
  else .ok []

/-- The names that a value lists, a text being one name. -/
def namesIn : Value → Except Misuse (List String)
  | .str s => .ok [s]
  | v => listedNames v

/-- Changes the fields of an object by the names that a value lists, if it counts as
true. -/
def byNames (change : List String → Fields → Fields) (document names : Value) :
    Except Misuse Value :=
  match document with
  | .object fields =>
      if names.isTrue then (namesIn names).map fun names => .object (change names fields)
      else .ok document
  | v => .ok v

/-- Drops the private fields of an object that a value does not list. -/
def withoutPrivate (document kept : Value) : Except Misuse Value :=
  match document with
  | .object fields => (listedNames kept).map fun names => .object (dropPrivate names fields)
  | v => .ok v

/-- Trims the items that a value lists, if it counts as true. -/
def listedDocuments (o : Option TrimOptions) (v : Value) : Except Misuse Value :=
  if v.isTrue then v.listed.map fun items => .list (documents o items) else .ok v

end Trim

end DocQuery
