import DocQuery.Database.Documents

/-!
# Lists in documents

A document may hold lists, at the ends of paths.  Values are added to and removed
from them, and objects in them are changed by identity: the value of a field that
tells them apart.

* Only a list, or nothing at all, may be at the path; anything else is refused.
* An object may have to be unique.  It then has to have the field that tells
  objects apart, with a value that counts as true and that no object of the list
  has.
* An object is matched by a value that its field has and that is not null.
* The field is named by a text.  Any other value names a field that no object has,
  and a list or an object cannot even be looked up in one.

Every operation reads the document first.
-/

namespace DocQuery

namespace Database

/-! ## Reading the list -/

/-- What is read before a list is changed. -/
structure StoredList where
  /-- The key of the document. -/
  key : Value
  /-- The path of the list in it. -/
  path : String
  /-- The items, if there is a list. -/
  items? : Option (List Value)
deriving Repr

namespace StoredList

/-- The items, none when there is no list. -/
def items (l : StoredList) : List Value := l.items?.getD []

end StoredList

/-- The list at a path: nothing counts as none, and what is no list is refused. -/
def listAt (action : String) (document : Value) (path : String) :
    Except InputError (Option (List Value)) :=
  match document.atPath path with
  | .null => .ok none
  | .list items => .ok (some items)
  | _ => .error (.notAList action)

/-- Reads the key of a document and the list at a path. -/
def readList (db : Database) (collection : Value) (selector : Selector) (property : Value)
    (action : String) : Session StoredList := do
  let document ← readExisting db collection selector
  let path ← Session.ofUse property.asPath
  let items? ← Session.ofExcept ((listAt action document path).mapError Failure.input)
  let key ← Session.ofExcept (keyOf document)
  return { key, path, items? }

/-- What is done to a list, in words. -/
def addAction : String := "add array value to"

/-- What is done to a list, in words. -/
def removeAction : String := "remove array value from"

/-- What is done to a list, in words. -/
def updateAction : String := "update array value from"

/-! ## Identity -/

/-- Whether an item is an object whose field is not null and equals a value. -/
def hasIdentity (field : String) (identity : Value) (item : Value) : Bool :=
  match item with
  | .object fields =>
      !(Fields.getD fields field).isNull && (Fields.getD fields field).same identity
  | _ => false

/-- The name of the field by which the objects of a list are told apart, if a value
names one. -/
def identifyingField (items : List Value) (field : Value) : Except Misuse (Option String) :=
  match field with
  | .str name => .ok (some name)
  | v => if items.any Value.isObject then v.fieldName.map fun _ => none else .ok none

/-- Why an object may not be added to a list in which a field tells objects apart. -/
def fieldError? (field : String) (items : List Value) (object : Fields) : Option InputError :=
  let marker := object.getD field
  if field = "" || !marker.isTrue then some .noDistinction
  else if items.any fun item => match item with
      | .object fields => (Fields.getD fields field).same marker
      | _ => false
    then some .duplicate
  else none

/-- Why an object may not be added to a list in which it has to be unique. -/
def uniquenessFailure? (field : Value) (items : List Value) (object : Fields) : Option Failure :=
  match field with
  | .str field => (fieldError? field items object).map .input
  | v => match v.fieldName with
    | .error m => some (if v.isTrue then .misuse m else .input .noDistinction)
    | .ok _ => some (.input .noDistinction)

/-! ## Adding and removing values -/

/-- Adds a value, or the values of a list.  Objects are told apart by a field, other
values by the server. -/
def addToList (db : Database) (collection : Value) (selector : Selector) (property value : Value)
    (allowDuplicates : Bool) (field : Value) : Session Value := do
  let stored ← readList db collection selector property addAction
  let failure? := match value with
    | .object object =>
        if allowDuplicates then none else uniquenessFailure? field stored.items object
    | _ => none
  match failure? with
  | some e => Session.fail e
  | none =>
      let unique := !value.isObject && !allowDuplicates
      return .list (← rowsOf (.addToList collection stored.key stored.path value (.bool unique)))

/-- Removes a value; there is nothing to do when the list is empty. -/
def removeFromList (db : Database) (collection : Value) (selector : Selector)
    (property value : Value) : Session Value := do
  let stored ← readList db collection selector property removeAction
  if stored.items.isEmpty then return .null
  else return .list (← rowsOf (.removeFromList collection stored.key stored.path value))

/-! ## Objects -/

/-- Adds an object, which has to be unique if a field to tell objects apart is
given. -/
def addObject (db : Database) (collection : Value) (selector : Selector)
    (property value field : Value) : Session Value :=
  if value.isObject then addToList db collection selector property value field.isNull field
  else Session.fail (.input .notAnObject)

/-- Removes the objects with an identity; nothing is written when there is none. -/
def removeObject (db : Database) (collection : Value) (selector : Selector)
    (property field identity : Value) : Session Value := do
  let stored ← readList db collection selector property removeAction
  match ← Session.ofUse (identifyingField stored.items field) with
  | none => return .null
  | some name =>
      if stored.items.any (hasIdentity name identity) then
        setProperty db collection (.value stored.key) property
          (.list (stored.items.filter fun item => !hasIdentity name identity item))
      else return .null

/-- The new fields with their identity completed. -/
def completed (field : String) (identity : Value) (updated : Fields) : Fields :=
  if (updated.getD field).isTrue then updated else updated.set field identity

/-- An item with the new fields set in it or standing in its place. -/
def changeItem (mode : ElementUpdate) (updated : Fields) : Value → Value
  | .object fields => match mode with
    | .merge => .object (Fields.merge fields updated)
    | .replace => .object updated
  | v => v

/-- Adds new fields as an object to a list that has no object with the identity,
under a field that a text names. -/
def addMissing (db : Database) (collection : Value) (stored : StoredList) (field : String)
    (identity : Value) (updated : Fields) (allowDuplicates : Bool) : Session Value :=
  if (updated.getD field).same identity then
    addObject db collection (.value stored.key) (.str stored.path) (.object updated)
      (if allowDuplicates then .null else .str field)
  else Session.fail (.input .otherIdentity)

/-- Adds new fields as an object to a list in which no field tells objects apart.  The
identity stands under the value's name; it has to count as true where duplicates are
not allowed. -/
def addUnnamed (db : Database) (collection : Value) (stored : StoredList) (field identity : Value)
    (name : String) (updated : Fields) (allowDuplicates : Bool) : Session Value :=
  let object := Value.object (updated.set name identity)
  if !identity.same identity then Session.fail (.input .otherIdentity)
  else if allowDuplicates || field.isNull || (field.isTrue && identity.isTrue) then
    addObject db collection (.value stored.key) (.str stored.path) object .null
  else
    addObject db collection (.value stored.key) (.str stored.path) object (.str "")

/-- Changes the objects with an identity.  When there is none, the new fields may be
added as an object, which has to have that identity. -/
def updateObject (db : Database) (collection : Value) (selector : Selector)
    (property field identity updated : Value) (mode : ElementUpdate)
    (addIfMissing allowDuplicates : Bool) : Session Value := do
  let stored ← readList db collection selector property updateAction
  let updated ← Session.ofUse updated.asFields
  match field with
  | .str name =>
      let updated := completed name identity updated
      if stored.items.any (hasIdentity name identity) then
        setProperty db collection (.value stored.key) property
          (.list (stored.items.map fun item =>
            if hasIdentity name identity item then changeItem mode updated item else item))
      else if addIfMissing then
        addMissing db collection stored name identity updated allowDuplicates
      else return .null
  | v =>
      let name ← Session.ofUse v.fieldName
      if addIfMissing then
        addUnnamed db collection stored v identity name updated allowDuplicates
      else return .null

end Database

end DocQuery
