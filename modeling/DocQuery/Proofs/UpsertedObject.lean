import DocQuery.Proofs.ListEdits
import DocQuery.Proofs.PropertyPatch
import DocQuery.Proofs.ValueCopies

/-!
# Objects that are updated or added

An update of the objects of an identity may add the new fields as an object where there is none.
What is known of the new fields here is that they lack the field of the identity, so that they
are completed with it.

*Found.*  If an object of the list has the identity, the list is set with that object changed, and
the object bears the identity as before (`bears_changeItem`).

*Added.*  If there is none, no object of the list is like the new one (`fieldError?_of_missing`),
and all that may speak against it is the identity itself.  It is compared with what the new fields
were completed with, which is the identity, and only `nan` is not the same as itself: a list that
holds `nan` is.  And it has to count as true unless duplicates are allowed, since the check of
uniqueness takes an identity that counts as false for one that is missing.

So the update succeeds, and leaves an object of the identity, exactly where one was found or the
identity may be added (`upsert_outcome`).
-/

namespace DocQuery

open Request Session

namespace Database

open SharedDocument

/-! ## Objects of an identity -/

/-- An item that is an object with a value in a field. -/
def Bears (field : String) (identity item : Value) : Prop :=
  ∃ fields : Fields, item = .object fields ∧ fields.getD field = identity

/-- An item that is an object with something in a field that equals a value. -/
def Matches (field : String) (identity item : Value) : Prop :=
  ∃ fields : Fields, item = .object fields ∧ fields.getD field ≠ .null ∧
    (fields.getD field).same identity = true

theorem hasIdentity_iff {field : String} {identity item : Value} :
    hasIdentity field identity item = true ↔ Matches field identity item := by
  cases item with
  | object fields =>
      have hnull : (!(Fields.getD fields field).isNull) = true ↔
          Fields.getD fields field ≠ .null := by
        cases Fields.getD fields field <;> simp [Value.isNull]
      rw [hasIdentity, Bool.and_eq_true, hnull]
      constructor
      · exact fun h => ⟨fields, rfl, h.1, h.2⟩
      · rintro ⟨_, ⟨⟩, hfield, hsame⟩
        exact ⟨hfield, hsame⟩
  | _ => exact iff_of_false Bool.false_ne_true (by rintro ⟨_, ⟨⟩, -⟩)

instance (field : String) (identity item : Value) : Decidable (Matches field identity item) :=
  decidable_of_iff _ hasIdentity_iff

theorem any_hasIdentity_iff {field : String} {identity : Value} {items : List Value} :
    items.any (hasIdentity field identity) = true ↔
      ∃ item ∈ items, Matches field identity item := by
  simp only [List.any_eq_true, hasIdentity_iff]

theorem any_hasIdentity_eq_false_iff {field : String} {identity : Value} {items : List Value} :
    items.any (hasIdentity field identity) = false ↔
      ∀ item ∈ items, ¬ Matches field identity item := by
  rw [Bool.eq_false_iff, Ne, any_hasIdentity_iff]
  simp only [not_exists, not_and]

/-- A document with a list at a path, in which an object has a value in a field. -/
def HoldsObject (path field : String) (identity document : Value) : Prop :=
  ∃ items, document.atPath path = .list items ∧ ∃ item ∈ items, Bears field identity item

/-- Whether an object of an identity may be added to a list that has none. -/
def Addable (field : String) (identity : Value) (allowDuplicates : Bool) : Prop :=
  identity.isNan = false ∧
    (allowDuplicates = true ∨ (field ≠ "" ∧ identity.isTrue = true))

/-- What comes of a run that updates the objects of an identity or adds one, on a condition: it
returns and leaves an object of the identity, or is refused and leaves the document as it was. -/
structure Upserts (path field : String) (identity document : Value) (condition : Prop)
    (r : Run Value Value) : Prop where
  /-- It returns rows, and an object of the identity is there. -/
  returns : condition →
    (∃ rows, r.result = .ok (.list rows)) ∧ HoldsObject path field identity r.state
  /-- It is refused for the identity. -/
  refuses : ¬ condition →
    r.result = .error (.input (if identity.isNan then .otherIdentity else .noDistinction)) ∧
      r.state = document

section

variable {field : String} {identity : Value} {updated : Fields}

theorem completed_of_absent (h : updated.get? field = none) (identity : Value) :
    completed field identity updated = updated.set field identity := by
  have hnull : updated.getD field = .null := by rw [Fields.getD, h, Option.getD_none]
  rw [completed, hnull]
  rfl

theorem getD_set_self (fields : Fields) (field : String) (identity : Value) :
    (fields.set field identity).getD field = identity := by
  rw [Fields.getD, Fields.get?_set_self, Option.getD_some]

/-- An object that is changed bears the identity, whether its other fields are kept or not. -/
theorem bears_changeItem (h : updated.get? field = none) (mode : ElementUpdate) {item : Value}
    (hitem : hasIdentity field identity item = true) :
    Bears field identity (changeItem mode (updated.set field identity) item) := by
  cases item with
  | object fields =>
      cases mode with
      | merge =>
          refine ⟨_, rfl, ?_⟩
          rw [Fields.set_of_not_mem (Fields.get?_eq_none_iff.1 h), Fields.merge_append]
          exact getD_set_self _ _ _
      | replace => exact ⟨_, rfl, getD_set_self _ _ _⟩
  | _ => cases hitem

/-- Where none of an identity is in a list, no object of the list is like a new one. -/
theorem fieldError?_of_missing {items : List Value} (hnull : identity.isNull = false)
    (hmissing : items.any (hasIdentity field identity) = false) {object : Fields}
    (hobject : object.getD field = identity) :
    fieldError? field items object =
      if field = "" || !identity.isTrue then some .noDistinction else none := by
  have hother : ∀ item ∈ items, ∀ fields, item = .object fields →
      (Fields.getD fields field).same identity = false := by
    rintro _ hitem fields rfl
    have hnone : hasIdentity field identity (.object fields) = false := by
      simpa using List.any_eq_false.1 hmissing _ hitem
    cases hfield : Fields.getD fields field with
    | null => exact hnull
    | _ => simpa [hasIdentity, hfield, Value.isNull] using hnone
  rw [fieldError?, hobject]
  by_cases hmarker : (decide (field = "") || !identity.isTrue) = true
  · rw [if_pos hmarker, if_pos hmarker]
  · rw [if_neg hmarker, if_neg hmarker, if_neg]
    rw [Bool.not_eq_true, List.any_eq_false]
    intro item hitem
    cases item with
    | object fields => simp [hother _ hitem fields rfl]
    | _ => simp

end

/-! ## Adding an object -/

theorem itemsAt_of_list {path : String} {document : Value} {items : List Value}
    (h : document.atPath path = .list items) : itemsAt path document = items := by
  rw [itemsAt, h]
  rfl

theorem holdsList_of_list {path : String} {document : Value} {items : List Value}
    (h : document.atPath path = .list items) : HoldsList path document := by
  rw [HoldsList, h]
  exact Value.listy_list items

/-- What is read before a list is changed, of a document that holds one. -/
theorem returns_readList (equal : Value → Value → Bool) {fields : Fields} {key : Value}
    (hkey : fields.get? "_key" = some key) (db : Database) (collection : Value)
    {selector : Selector} (hread : Readable equal db collection selector (.object fields))
    {path : String} (hholds : HoldsList path (.object fields)) (action : String) :
    ∃ calls items?, items?.getD [] = itemsAt path (.object fields) ∧
      Returns (serve equal) (.object fields) (readList db collection selector (.str path) action)
        calls ⟨key, path, items?⟩ (.object fields) := by
  obtain ⟨items?, hlist, hitems⟩ := listAt_of_holdsList hholds action
  refine ⟨_, items?, hitems, ?_, rfl, state_serve equal (quiet_readList _ _ _ _ _) _⟩
  obtain ⟨v, hselect⟩ := hread
  rw [result_readList_served equal hkey, hselect, hlist]
  rfl

/-- A document to which something was added has the one field set that the path begins with. -/
theorem added_object (equal : Value → Value → Bool) (fields : Fields) {path : String}
    (hpath : segments path ≠ []) (value : Value) (allowDuplicates : Bool) :
    ∃ part rest w, segments path = part :: rest ∧
      added equal (.object fields) path value allowDuplicates = .object (fields.set part w) := by
  cases hsegments : segments path with
  | nil => exact absurd hsegments hpath
  | cons part rest =>
      rw [added, hsegments, Value.patched_nestedValue]
      exact ⟨part, rest, _, rfl, rfl⟩

section

variable (equal : Value → Value → Bool) {fields : Fields} {key path : String}
  (hkey : fields.get? "_key" = some (.str key)) (db : Database) (collection : Value)
  {selector : Selector} (hread : Readable equal db collection selector (.object fields))
  (hholds : HoldsList path (.object fields))

include hkey

/-- An object is pushed where nothing speaks against it. -/
theorem returns_pushed (hpath : segments path ≠ []) {object : Fields} {allowDuplicates : Bool}
    {field : Value} {items? : Option (List Value)}
    (h : addFailure? (.object object) allowDuplicates field (items?.getD []) = none) :
    ∃ calls rows, Returns (serve equal) (.object fields)
      (addNext collection (.object object) allowDuplicates field ⟨.str key, path, items?⟩) calls
      (.list rows) (added equal (.object fields) path (.object object) allowDuplicates) := by
  obtain ⟨cursor, hanswer⟩ := serve_pushCall equal hkey hpath collection (.object object) false
  let change := Request.changeList (ListChange.adding (.object object)) collection (.str key) path
    [("value", .object object), ("unique", .bool false)]
  have hquery : (Request.addToList collection (.str key) path (.object object)
      (.bool false)).query = .ok (change.1.query change.2) := rfl
  have hrows := returns_rowsOf (serve equal) hquery hanswer
  simp only [addNext, StoredList.items, h]
  exact ⟨_, cursor.rows, hrows.bind (Returns.done (Value.list cursor.rows))⟩

include hread hholds

/-- An object is added to a list, unless something speaks against it. -/
theorem run_addObject (hpath : segments path ≠ []) (object : Fields) (field : Value) :
    let run := (addObject db collection selector (.str path) (.object object) field).run
      (serve equal) (.object fields)
    let failure? := addFailure? (.object object) field.isNull field (itemsAt path (.object fields))
    (∀ e, failure? = some e → run.result = .error e ∧ run.state = .object fields) ∧
    (failure? = none → (∃ rows, run.result = .ok (.list rows)) ∧
      run.state = added equal (.object fields) path (.object object) field.isNull) := by
  obtain ⟨calls, items?, hitems, hlist⟩ :=
    returns_readList equal hkey db collection hread hholds addAction
  obtain ⟨hresult, -, hstate⟩ := hlist.run_bind
    (addNext collection (.object object) field.isNull field)
  intro run failure?
  have hrun : run.result = _ := hresult
  have hended : run.state = _ := hstate
  rw [hrun, hended]
  constructor
  · intro e he
    have hnext : addNext collection (.object object) field.isNull field ⟨.str key, path, items?⟩ =
        fail e := by
      simp only [addNext, StoredList.items, hitems, show addFailure? _ _ _ _ = some e from he]
    rw [hnext]
    exact ⟨rfl, rfl⟩
  · intro hnone
    have hread : addFailure? (.object object) field.isNull field (items?.getD []) = none := by
      rw [hitems]
      exact hnone
    obtain ⟨_, rows, hpushed⟩ := returns_pushed equal hkey collection hpath hread
    exact ⟨⟨rows, hpushed.result⟩, hpushed.state⟩

omit hkey hread in
/-- The object that was added is the last of the list. -/
theorem atPath_added (hparts : Value.pathParts path = segments path) (object : Fields)
    (allowDuplicates : Bool) :
    (added equal (.object fields) path (.object object) allowDuplicates).atPath path =
      .list (itemsAt path (.object fields) ++ [.object object]) := by
  have hlisty : ((Value.object fields).follow (segments path)).Listy := by
    rw [← hparts]
    exact hholds
  rw [itemsAt, Value.atPath, Value.atPath, hparts, added, Value.follow_patched]
  cases hv : (Value.object fields).follow (segments path) with
  | null => rfl
  | list items => rfl
  | _ =>
      rw [hv] at hlisty
      rcases hlisty with h | h <;> cases h

end

/-! ## Updating or adding -/

/-- An item after an update. -/
def rewriteItem (field : String) (identity : Value) (updated : Fields) (mode : ElementUpdate)
    (item : Value) : Value :=
  if hasIdentity field identity item then changeItem mode (completed field identity updated) item
  else item

/-- An update under a field that a text names. -/
def updating (field : String) (identity : Value) (updated : Fields) (mode : ElementUpdate)
    (addIfMissing allowDuplicates : Bool) : ListUpdate :=
  ⟨.str field, identity, .object updated, mode, addIfMissing, allowDuplicates⟩

/-- What is done once the list is read: it is written, or the new fields are added, or nothing. -/
theorem next_updating (db : Database) (collection : Value) (path field : String)
    (identity : Value) (updated : Fields) (mode : ElementUpdate)
    (addIfMissing allowDuplicates : Bool) (stored : StoredList) :
    (updating field identity updated mode addIfMissing allowDuplicates).next db collection path
        stored =
      if stored.items.any (hasIdentity field identity) then
        setProperty db collection (.value stored.key) (.str path)
          (.list (stored.items.map (rewriteItem field identity updated mode)))
      else if addIfMissing then
        addMissing db collection stored field identity (completed field identity updated)
          allowDuplicates
      else done .null := rfl

/-- An update that adds the new fields where none of the identity is. -/
def upserting (field : String) (identity : Value) (updated : Fields) (mode : ElementUpdate)
    (allowDuplicates : Bool) : ListUpdate :=
  ⟨.str field, identity, .object updated, mode, true, allowDuplicates⟩

section

variable (equal : Value → Value → Bool) (db : Database) (collection : Value)
  {fields updated : Fields} {key path field : String} {identity : Value}
  (habsent : updated.get? field = none) (mode : ElementUpdate) (allowDuplicates : Bool)
  {items? : Option (List Value)}

include habsent

/-- An update that finds objects of the identity sets the list, and they bear it as before. -/
theorem returns_found (hkey : fields.get? "_key" = some (.str key)) (hpath : segments path ≠ [])
    (hfound : (items?.getD []).any (hasIdentity field identity) = true) :
    ∃ calls rows state, Returns (serve equal) (.object fields)
        ((upserting field identity updated mode allowDuplicates).next db collection path
          ⟨.str key, path, items?⟩) calls (.list rows) state ∧
      HoldsObject path field identity state := by
  let items := (items?.getD []).map (rewriteItem field identity updated mode)
  have hread : Readable equal db collection (.value (.str key)) (.object fields) := ⟨_, rfl⟩
  obtain ⟨calls, -, hset⟩ := returns_setProperty equal hkey db collection hread hpath (.list items)
  have hnext : (upserting field identity updated mode allowDuplicates).next db collection path
      ⟨.str key, path, items?⟩ =
        setProperty db collection (.value (.str key)) (.str path) (.list items) := by
    refine (next_updating db collection path field identity updated mode true allowDuplicates
      _).trans ?_
    rw [StoredList.items, if_pos hfound]
  rw [hnext]
  refine ⟨_, _, _, hset, items, ?_, ?_⟩
  · rw [Value.atPath, Value.follow_written, Value.revised_of_other rfl]
  · obtain ⟨item, hitem, hidentity⟩ := List.any_eq_true.1 hfound
    refine ⟨_, List.mem_map_of_mem hitem, ?_⟩
    rw [rewriteItem, if_pos hidentity, completed_of_absent habsent]
    exact bears_changeItem habsent mode hidentity

/-- An update that finds none goes on as the addition of the completed fields, which have the very
identity that is asked for. -/
theorem next_of_none (hproper : identity.Proper)
    (hmissing : (items?.getD []).any (hasIdentity field identity) = false) :
    (upserting field identity updated mode allowDuplicates).next db collection path
        ⟨.str key, path, items?⟩ =
      if identity.isNan then fail (.input .otherIdentity)
      else addObject db collection (.value (.str key)) (.str path)
        (.object (updated.set field identity)) (if allowDuplicates then .null else .str field) := by
  refine (next_updating db collection path field identity updated mode true allowDuplicates
    _).trans ?_
  rw [StoredList.items, hmissing, if_neg Bool.false_ne_true, if_pos rfl, addMissing,
    completed_of_absent habsent, getD_set_self, Value.same_self hproper]
  cases identity.isNan <;> rfl

omit habsent in
/-- What speaks against the new object where none of its identity is in the list. -/
theorem addFailure?_completed {items : List Value} (hnull : identity.isNull = false)
    (hmissing : items.any (hasIdentity field identity) = false) :
    let named : Value := if allowDuplicates then .null else .str field
    addFailure? (.object (updated.set field identity)) named.isNull named items =
      if allowDuplicates = true ∨ (field ≠ "" ∧ identity.isTrue = true) then none
      else some (.input .noDistinction) := by
  intro named
  cases allowDuplicates with
  | true => rfl
  | false =>
      have herror := fieldError?_of_missing hnull hmissing (getD_set_self updated field identity)
      show (fieldError? field items (updated.set field identity)).map Failure.input = _
      rw [herror]
      by_cases hname : field = ""
      · simp [hname]
      · cases hidentity : identity.isTrue <;> simp [hname]

/-- Where none of the identity is in the list, an object is added if the identity may be. -/
theorem upserts_missing (hkey : fields.get? "_key" = some (.str key))
    (hparts : Value.pathParts path = segments path) (hholds : HoldsList path (.object fields))
    (hnull : identity.isNull = false) (hproper : identity.Proper)
    (hitems : items?.getD [] = itemsAt path (.object fields))
    (hmissing : (itemsAt path (.object fields)).any (hasIdentity field identity) = false) :
    Upserts path field identity (.object fields) (Addable field identity allowDuplicates)
      (((upserting field identity updated mode allowDuplicates).next db collection path
        ⟨.str key, path, items?⟩).run (serve equal) (.object fields)) := by
  rw [next_of_none db collection habsent mode allowDuplicates hproper (by rw [hitems, hmissing])]
  cases hnan : identity.isNan with
  | true =>
      have hbarred : ¬ Addable field identity allowDuplicates := fun h => by
        have hself := h.1
        rw [hnan] at hself
        cases hself
      refine ⟨fun h => absurd h hbarred, fun _ => ?_⟩
      rw [hnan]
      exact ⟨rfl, rfl⟩
  | false =>
      have hpath : segments path ≠ [] := hparts ▸ Value.pathParts_ne_nil path
      have hread : Readable equal db collection (.value (.str key)) (.object fields) := ⟨_, rfl⟩
      obtain ⟨hrefused, hadded⟩ := run_addObject equal hkey db collection hread hholds hpath
        (updated.set field identity) (if allowDuplicates then .null else .str field)
      rw [addFailure?_completed allowDuplicates hnull hmissing] at hrefused hadded
      rw [if_neg Bool.false_ne_true]
      constructor
      · rintro ⟨-, haddable⟩
        rw [if_pos haddable] at hadded
        obtain ⟨hrows, hlater⟩ := hadded rfl
        have hat := atPath_added equal hholds hparts (updated.set field identity)
        rw [hlater]
        exact ⟨hrows, _, hat _, _, List.mem_append_right _ (List.mem_singleton_self _), _, rfl,
          getD_set_self updated field identity⟩
      · intro hbarred
        have hnone : ¬ (allowDuplicates = true ∨ (field ≠ "" ∧ identity.isTrue = true)) :=
          fun haddable => hbarred ⟨hnan, haddable⟩
        rw [if_neg hnone] at hrefused
        rw [hnan]
        exact hrefused _ rfl

end

/-- An update that adds what is missing succeeds, and leaves an object of the identity, exactly
where there was one or the identity may be added.  Otherwise it is refused, and the document is as
before.  No object in the identity names a field twice, as no dictionary does. -/
theorem upsert_outcome (equal : Value → Value → Bool) (db : Database) (collection : Value)
    {fields : Fields} {key path : String} (hkey : fields.get? "_key" = some (.str key))
    (hparts : Value.pathParts path = segments path) {selector : Selector}
    (hread : Readable equal db collection selector (.object fields))
    (hholds : HoldsList path (.object fields)) (field : String) {identity : Value}
    (hidentity : identity.isNull = false) (hproper : identity.Proper) {updated : Fields}
    (habsent : updated.get? field = none) (mode : ElementUpdate) (allowDuplicates : Bool) :
    Upserts path field identity (.object fields)
      ((itemsAt path (.object fields)).any (hasIdentity field identity) = true ∨
        Addable field identity allowDuplicates)
      ((updateObject db collection selector (.str path) (.str field) identity (.object updated)
        mode true allowDuplicates).run (serve equal) (.object fields)) := by
  have hpath : segments path ≠ [] := hparts ▸ Value.pathParts_ne_nil path
  obtain ⟨calls, items?, hitems, hlist⟩ :=
    returns_readList equal hkey db collection hread hholds updateAction
  -- The list is read, and what comes of the rest comes of the whole.
  obtain ⟨hresult, -, hstate⟩ := hlist.run_bind
    ((upserting field identity updated mode allowDuplicates).next db collection path)
  have hwhole {condition : Prop}
      (h : Upserts path field identity (.object fields) condition
        (((upserting field identity updated mode allowDuplicates).next db collection path
          ⟨.str key, path, items?⟩).run (serve equal) (.object fields))) :
      Upserts path field identity (.object fields) condition
        ((updateObject db collection selector (.str path) (.str field) identity (.object updated)
          mode true allowDuplicates).run (serve equal) (.object fields)) := by
    obtain ⟨hreturns, hrefuses⟩ := h
    rw [← hresult, ← hstate] at hreturns hrefuses
    exact ⟨hreturns, hrefuses⟩
  apply hwhole
  cases hfound : (itemsAt path (.object fields)).any (hasIdentity field identity) with
  | true =>
      obtain ⟨_, rows, state, hnext, hobject⟩ := returns_found equal db collection habsent mode
        allowDuplicates hkey hpath (hitems ▸ hfound)
      refine ⟨fun _ => ⟨⟨rows, hnext.result⟩, ?_⟩, fun h => absurd (.inl rfl) h⟩
      rw [hnext.state]
      exact hobject
  | false =>
      obtain ⟨hreturns, hrefuses⟩ := upserts_missing equal db collection habsent mode
        allowDuplicates hkey hparts hholds hidentity hproper hitems hfound
      exact ⟨fun h => hreturns (h.resolve_left Bool.false_ne_true),
        fun h => hrefuses fun haddable => h (.inr haddable)⟩

/-- A run that updates the teams of an identity, or adds one. -/
def upsertTeam (identity : Value) : Run Value Value :=
  (updateObject cycling (.str "cyclists") (.value (.str "1")) (.str "teams") (.str "id") identity
    (.object [("name", .str "Astana")]) .merge true false).run (serve Value.same)
    (.object [("_key", .str "1"), ("teams", .list [])])

/-- An identity that holds `nan` is the same as itself. -/
theorem team_upserted :
    HoldsObject "teams" "id" (.int 7) (upsertTeam (.int 7)).state ∧
      HoldsObject "teams" "id" (.list [.float (.nan 0)])
        (upsertTeam (.list [.float (.nan 0)])).state := by
  have hkey : Fields.get? [("_key", .str "1"), ("teams", .list [])] "_key" = some (.str "1") := rfl
  have hread : Readable Value.same cycling (.str "cyclists") (.value (.str "1"))
      (.object [("_key", .str "1"), ("teams", .list [])]) := ⟨_, rfl⟩
  have hholds : HoldsList "teams" (.object [("_key", .str "1"), ("teams", .list [])]) := .inr rfl
  have habsent : Fields.get? [("name", .str "Astana")] "id" = none := rfl
  have hupserted {identity : Value} (hidentity : identity.isNull = false)
      (hproper : identity.Proper) := upsert_outcome Value.same cycling (.str "cyclists") hkey
    (by decide) hread hholds "id" hidentity hproper habsent .merge false
  have hnan : (Value.list [.float (.nan 0)]).Proper :=
    Value.proper_list.2 (List.forall_mem_singleton.2 (Value.proper_plain rfl))
  exact ⟨((hupserted rfl (Value.proper_plain rfl)).returns
      (.inr ⟨rfl, .inr ⟨by decide, by decide⟩⟩)).2,
    ((hupserted rfl hnan).returns (.inr ⟨rfl, .inr ⟨by decide, rfl⟩⟩)).2⟩

/-- An identity that counts as false is taken for one that is missing. -/
theorem zero_team_refused :
    (Value.int 0).isNull = false ∧
      HoldsList "teams" (.object [("_key", .str "1"), ("teams", .list [])]) ∧
      (upsertTeam (.int 0)).result = .error (.input .noDistinction) ∧
      ¬ HoldsObject "teams" "id" (.int 0) (upsertTeam (.int 0)).state := by
  refine ⟨rfl, .inr rfl, rfl, ?_⟩
  have hstate : (upsertTeam (.int 0)).state = .object [("_key", .str "1"), ("teams", .list [])] :=
    rfl
  rw [hstate]
  rintro ⟨items, hitems, item, hitem, -⟩
  have hnone : items = [] := (Value.list.inj hitems).symm
  rw [hnone] at hitem
  cases hitem

end Database

end DocQuery
