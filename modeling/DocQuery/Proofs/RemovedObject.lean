import DocQuery.Proofs.UpsertedObject

/-!
# Objects that are removed

To remove the objects of an identity is to write the list again without them.  Where there are
none, nothing is written (`removes_list`).

*There and back.*  An object is added to a list in which no other has the value of its field, and
is removed by that value.  What is read for the removal may be a copy of what was stored
(`Value.copied`).  The removal is of this object alone, since the others do not match, and it is of
this object only if the value equals what was made of it (`matches_copied_iff`).  `nan` does not
equal itself: what it identifies stays.  Nor does a list or an object that holds `nan` equal a copy
that has another `nan` there.  So the document is as it was before exactly where the value is not
`nan` and each `nan` in it is kept, or where the object had not been added, for want of a name of
the field (`remove_after_add`).
-/

namespace DocQuery

open Request Session

namespace Database

open SharedDocument

/-! ## What is kept -/

/-- What comes of a run that removes the objects of an identity from a list. -/
structure Removes (path field : String) (identity : Value) (items : List Value) (document : Value)
    (r : Run Value Value) : Prop where
  /-- The others are kept, in their order. -/
  list : r.state.atPath path = .list (items.filter fun item => ¬ Matches field identity item)
  /-- Nothing but the list is written. -/
  written : r.state = document.written (Value.pathParts path)
    (.list (items.filter fun item => ¬ Matches field identity item))
  /-- Null is returned exactly where there are none. -/
  null_iff : r.result = .ok .null ↔ ∀ item ∈ items, ¬ Matches field identity item
  /-- Nothing is written exactly where there are none. -/
  quiet_iff : r.calls.any Call.mutates = false ↔ ∀ item ∈ items, ¬ Matches field identity item
  /-- Rows are returned where there are some. -/
  returns : (∃ item ∈ items, Matches field identity item) → ∃ rows, r.result = .ok (.list rows)

theorem filter_matches (field : String) (identity : Value) (items : List Value) :
    (items.filter fun item => !hasIdentity field identity item) =
      items.filter fun item => ¬ Matches field identity item := by
  refine List.filter_congr fun item _ => ?_
  by_cases h : Matches field identity item
  · simp [h, hasIdentity_iff.2 h]
  · have hnone : hasIdentity field identity item = false :=
      Bool.eq_false_iff.2 fun hfound => h (hasIdentity_iff.1 hfound)
    simp [h, hnone]

/-- All items of a list are kept where none matches. -/
theorem filter_matches_eq_self {field : String} {identity : Value} {items : List Value}
    (h : ∀ item ∈ items, ¬ Matches field identity item) :
    (items.filter fun item => ¬ Matches field identity item) = items :=
  List.filter_eq_self.2 fun item hitem => decide_eq_true (h item hitem)

/-! ## A removal -/

/-- What a removal does once the list is read. -/
def removeNext (db : Database) (collection : Value) (path field : String) (identity : Value)
    (stored : StoredList) : Session Value :=
  if stored.items.any (hasIdentity field identity) then
    setProperty db collection (.value stored.key) (.str path)
      (.list (stored.items.filter fun item => !hasIdentity field identity item))
  else done .null

theorem removeObject_eq (db : Database) (collection : Value) (selector : Selector)
    (path field : String) (identity : Value) :
    removeObject db collection selector (.str path) (.str field) identity =
      (readList db collection selector (.str path) removeAction).bind
        (removeNext db collection path field identity) := rfl

section

variable (equal : Value → Value → Bool) {fields : Fields} {key path : String}
  (hkey : fields.get? "_key" = some (.str key)) (db : Database) (collection : Value)
  {selector : Selector} (hread : Readable equal db collection selector (.object fields))
  {items : List Value} (hlist : (Value.object fields).atPath path = .list items)
  {field : String} {identity : Value}

include hkey

/-- Where some match, the list is set without them. -/
theorem returns_removeNext (hpath : segments path ≠ []) {items? : Option (List Value)}
    (hfound : (items?.getD []).any (hasIdentity field identity) = true) :
    ∃ calls rows, calls.any Call.mutates = true ∧
      Returns (serve equal) (.object fields)
        (removeNext db collection path field identity ⟨.str key, path, items?⟩) calls (.list rows)
        ((Value.object fields).written (Value.pathParts path)
          (.list ((items?.getD []).filter fun item => ¬ Matches field identity item))) := by
  have hread : Readable equal db collection (.value (.str key)) (.object fields) := ⟨_, rfl⟩
  obtain ⟨calls, -, hset⟩ := returns_setProperty equal hkey db collection hread hpath
    (.list ((items?.getD []).filter fun item => ¬ Matches field identity item))
  have hpatch (v : Value) : (patchCall collection (.str key) path v).mutates = true :=
    Statement.mutates_of_writes rfl _ _
  rw [removeNext, StoredList.items, if_pos hfound, filter_matches]
  exact ⟨_, _, by simp [hpatch], hset⟩

include hread hlist

/-- The objects of an identity are removed from a list, and nothing else is. -/
theorem removes_list (hpath : segments path ≠ []) (field : String) (identity : Value) :
    Removes path field identity items (.object fields)
      ((removeObject db collection selector (.str path) (.str field) identity).run (serve equal)
        (.object fields)) := by
  obtain ⟨calls, items?, hitems, hstored⟩ :=
    returns_readList equal hkey db collection hread (holdsList_of_list hlist) removeAction
  have hquiet := (Meets.run (serve equal)
    (quiet_readList db collection selector (.str path) removeAction) (.object fields)).1
  rw [itemsAt_of_list hlist] at hitems
  rw [hstored.calls] at hquiet
  rw [removeObject_eq]
  cases hfound : items.any (hasIdentity field identity) with
  | true =>
      obtain ⟨more, rows, hmutates, hnext⟩ :=
        returns_removeNext equal hkey db collection hpath (hitems ▸ hfound)
      obtain ⟨hresult, hcalls, hstate⟩ := hstored.bind hnext
      obtain ⟨item, hitem, hmatches⟩ := any_hasIdentity_iff.1 hfound
      have hsome : ¬ ∀ item ∈ items, ¬ Matches field identity item :=
        fun hnone => hnone item hitem hmatches
      rw [hitems] at hstate
      refine ⟨?_, hstate, ?_, ?_, fun _ => ⟨rows, hresult⟩⟩
      · rw [hstate, Value.atPath, Value.follow_written, Value.revised_of_other rfl]
      · rw [hresult]
        exact iff_of_false (fun h => by cases h) hsome
      · rw [hcalls, List.any_append, hmutates, Bool.or_true]
        exact iff_of_false (fun h => by cases h) hsome
  | false =>
      have hnone := any_hasIdentity_eq_false_iff.1 hfound
      have hnext : Returns (serve equal) (.object fields)
          (removeNext db collection path field identity ⟨.str key, path, items?⟩) [] .null
          (.object fields) := by
        rw [removeNext, StoredList.items, hitems, hfound]
        exact Returns.done Value.null
      obtain ⟨hresult, hcalls, hstate⟩ := hstored.bind hnext
      rw [List.append_nil] at hcalls
      refine ⟨?_, ?_, iff_of_true hresult hnone, iff_of_true ?_ hnone, ?_⟩
      · rw [hstate, hlist, filter_matches_eq_self hnone]
      · rw [hstate, filter_matches_eq_self hnone, Value.written_of_follow rfl rfl hlist]
      · rw [hcalls, List.any_eq_false]
        exact fun c hc => Bool.eq_false_iff.1 (hquiet c hc)
      · rintro ⟨item, hitem, hmatches⟩
        exact absurd hmatches (hnone item hitem)

end

/-! ## There and back -/

/-- A path that leads to a list does not begin with the key, which is a text. -/
theorem ne_key_of_list {fields : Fields} {key part : String} {rest : List String}
    {items : List Value} (hkey : fields.get? "_key" = some (.str key))
    (h : (Value.object fields).follow (part :: rest) = .list items) : part ≠ "_key" := by
  rintro rfl
  obtain ⟨_, w, ⟨⟩, hw, hrest⟩ := Value.field_of_follow (v := .list items) rfl h
  obtain rfl : Value.str key = w := Option.some.inj (hkey.symm.trans hw)
  cases rest <;> cases hrest

/-- A document keeps its key when something is added to a list of it. -/
theorem keyed_added (equal : Value → Value → Bool) {fields : Fields} {key path : String}
    (hkey : fields.get? "_key" = some (.str key))
    (hparts : Value.pathParts path = segments path) {items : List Value}
    (hlist : (Value.object fields).atPath path = .list items) (value : Value)
    (allowDuplicates : Bool) :
    Keyed key (added equal (.object fields) path value allowDuplicates) := by
  have hpath : segments path ≠ [] := hparts ▸ Value.pathParts_ne_nil path
  obtain ⟨part, rest, w, hsegments, hadded⟩ := added_object equal fields hpath value allowDuplicates
  rw [Value.atPath, hparts, hsegments] at hlist
  exact ⟨_, hadded, (Fields.get?_set_of_ne _ (ne_key_of_list hkey hlist) _).trans hkey⟩

/-- The copy of an object matches what the object has in a field, unless that is `nan`, or a `nan` in
it is another one in the copy. -/
theorem matches_copied_iff (copy : Nat → Nat) {object : Fields} {field : String}
    (hnull : (object.getD field).isNull = false) (hproper : (object.getD field).Proper) :
    Matches field (object.getD field) ((Value.object object).copied copy) ↔
      (object.getD field).isNan = false ∧ (object.getD field).Kept copy := by
  rw [← Value.same_copied_iff hproper, Value.copied_object, ← Fields.getD_copied]
  constructor
  · rintro ⟨_, ⟨⟩, -, hsame⟩
    exact hsame
  · refine fun hsame => ⟨_, rfl, fun hfield => ?_, hsame⟩
    rw [← Value.isNull_copied copy, ← Fields.getD_copied, hfield] at hnull
    cases hnull

/-- What comes of two runs, of which the first adds an object to a list and the second, with copies
of what the first has left, removes it by what it has in a field. -/
structure ThereAndBack (copy : Nat → Nat) (path field : String) (object : Fields)
    (items : List Value) (document : Value) (there back : Run Value Value) : Prop where
  /-- The object is added at the end if the field has a name. -/
  adds : field ≠ "" → (∃ rows, there.result = .ok (.list rows)) ∧
    there.state.atPath path = .list (items ++ [.object object])
  /-- It is refused if the field has none. -/
  refuses : field = "" → there.result = .error (.input .noDistinction) ∧ there.state = document
  /-- The document is as before exactly where the object was refused, or where its value in the
  field is not `nan` and has each `nan` in it kept. -/
  restores_iff : back.state = document ↔
    field = "" ∨ ((object.getD field).isNan = false ∧ (object.getD field).Kept copy)
  /-- The removal then returns rows. -/
  removes : field ≠ "" → (object.getD field).isNan = false → (object.getD field).Kept copy →
    ∃ rows, back.result = .ok (.list rows)

/-- What counts as true is not null. -/
theorem isNull_of_isTrue {v : Value} (h : v.isTrue = true) : v.isNull = false := by
  cases v with
  | null => cases h
  | _ => rfl

section

variable (equal : Value → Value → Bool) (db : Database) (collection : Value) {fields : Fields}
  {key path : String} (hkey : fields.get? "_key" = some (.str key))
  (hparts : Value.pathParts path = segments path) {selector : Selector}
  (hread : Readable equal db collection selector (.object fields)) {items : List Value}
  (hlist : (Value.object fields).atPath path = .list items) {field : String} {object : Fields}

include hkey hread hlist

/-- What may speak against an object that no other is like is that the field has no name. -/
theorem run_addObject_of_none (hpath : segments path ≠ [])
    (htrue : (object.getD field).isTrue = true)
    (hnone : ∀ item ∈ items, ¬ Matches field (object.getD field) item) :
    let run := (addObject db collection selector (.str path) (.object object) (.str field)).run
      (serve equal) (.object fields)
    (field = "" → run.result = .error (.input .noDistinction) ∧ run.state = .object fields) ∧
    (field ≠ "" → (∃ rows, run.result = .ok (.list rows)) ∧
      run.state = added equal (.object fields) path (.object object) false) := by
  have hnull := isNull_of_isTrue htrue
  have hfailure : addFailure? (.object object) false (.str field) items =
      if field = "" then some (.input .noDistinction) else none := by
    show (fieldError? field items object).map Failure.input = _
    rw [fieldError?_of_missing hnull (any_hasIdentity_eq_false_iff.2 hnone) rfl, htrue]
    by_cases hname : field = "" <;> simp [hname]
  obtain ⟨hrefused, hadded⟩ := run_addObject equal hkey db collection hread
    (holdsList_of_list hlist) hpath object (.str field)
  have hgiven : (Value.str field).isNull = false := rfl
  rw [itemsAt_of_list hlist, hgiven, hfailure] at hrefused hadded
  exact ⟨fun hname => hrefused _ (if_pos hname), fun hname => hadded (if_neg hname)⟩

include hparts

omit hkey hread in
/-- A copy of the list has the items that were there as they were, and a copy of the new object. -/
theorem atPath_added_copied {copy : Nat → Nat} (hfields : (Value.object fields).Kept copy)
    (object : Fields) :
    ((added equal (.object fields) path (.object object) false).copied copy).atPath path =
      .list (items ++ [(Value.object object).copied copy]) := by
  have hitems : items.map (Value.copied copy) = items := by
    have hkept := hfields.follow (Value.pathParts path)
    rw [show (Value.object fields).follow _ = _ from hlist, Value.kept_list] at hkept
    exact Value.map_eq_self_iff.2 fun item hitem => Value.copied_eq_self_iff.2 (hkept item hitem)
  have hadded := atPath_added equal (holdsList_of_list hlist) hparts object false
  rw [itemsAt_of_list hlist] at hadded
  rw [Value.atPath, Value.follow_copied, ← Value.atPath, hadded, Value.copied_list,
    List.map_append, hitems, List.map_singleton]

omit hkey hread in
/-- To write the list back as it was, into a copy of the document with the new object, is to restore
the document. -/
theorem written_added_copied {copy : Nat → Nat} (hfields : (Value.object fields).Kept copy)
    (object : Fields) :
    ((added equal (.object fields) path (.object object) false).copied copy).written
      (Value.pathParts path) (.list items) = .object fields := by
  have hkept := hfields.follow (Value.pathParts path)
  rw [show (Value.object fields).follow _ = _ from hlist, ← Value.copied_eq_self_iff] at hkept
  have hback := Value.written_patched (v := .list items) rfl rfl hlist
    ((ListChange.adding (.object object)).applied equal (.object object) false
      ((Value.object fields).follow (segments path)))
  have hcopied := Value.written_copied copy (v := .list items) rfl
    (added equal (.object fields) path (.object object) false) (Value.pathParts path)
  rw [hkept] at hcopied
  rw [hparts] at hback hcopied ⊢
  exact hcopied.symm.trans
    ((congrArg (Value.copied copy) hback).trans (Value.copied_eq_self_iff.2 hfields))

/-- The removal keeps what was there, and the new object as well unless its copy matches. -/
theorem removes_added {copy : Nat → Nat} (hfields : (Value.object fields).Kept copy)
    (htrue : (object.getD field).isTrue = true) (hproper : (object.getD field).Proper)
    (hnone : ∀ item ∈ items, ¬ Matches field (object.getD field) item) :
    let document := (added equal (.object fields) path (.object object) false).copied copy
    let run := (removeObject db collection selector (.str path) (.str field)
      (object.getD field)).run (serve equal) document
    let found := (object.getD field).isNan = false ∧ (object.getD field).Kept copy
    (run.state = .object fields ↔ found) ∧ (found → ∃ rows, run.result = .ok (.list rows)) := by
  intro document run found
  have hpath : segments path ≠ [] := hparts ▸ Value.pathParts_ne_nil path
  obtain ⟨later, hlater, hkeyed⟩ := keyed_added equal hkey hparts hlist (.object object) false
  have hdocument : document = .object (later.copied copy) := by
    rw [← Value.copied_object, ← hlater]
  have hkeyed' : (later.copied copy).get? "_key" = some (.str key) := by
    rw [Fields.get?_copied, hkeyed]
    rfl
  have hstands : (Value.object (later.copied copy)).atPath path =
      .list (items ++ [(Value.object object).copied copy]) := by
    rw [← hdocument]
    exact atPath_added_copied equal hparts hlist hfields object
  obtain ⟨hrun, hwritten, -, -, hrows⟩ := removes_list equal hkeyed' db collection
    (Readable.again equal hkey db collection hread hkeyed') hstands hpath field (object.getD field)
  rw [← hdocument] at hrun hwritten hrows
  rw [List.filter_append, filter_matches_eq_self hnone] at hrun hwritten
  have hmatches := matches_copied_iff copy (isNull_of_isTrue htrue) hproper
  refine ⟨⟨fun hback => ?_, fun hfound => ?_⟩, fun hfound => hrows ?_⟩
  · by_contra hlost
    have hstays := mt hmatches.1 hlost
    rw [show run.state = _ from hback, hlist] at hrun
    simp [hstays] at hrun
  · rw [List.filter_cons_of_neg (by simpa using hmatches.2 hfound), List.filter_nil,
      List.append_nil] at hwritten
    exact hwritten.trans (written_added_copied equal hparts hlist hfields object)
  · exact ⟨_, List.mem_append_right _ (List.mem_singleton_self _), hmatches.2 hfound⟩

end

/-- The removal of an identity keeps the other items of a list.  It takes back the addition of an
object that no other of the list is like exactly where what identifies the object is not `nan` and
has each `nan` in it kept by the copies that the server hands out, or where the object was refused
for a field without a name.  No object in what identifies it names a field twice, as no dictionary
does. -/
theorem remove_after_add (equal : Value → Value → Bool) (db : Database) (collection : Value)
    {fields : Fields} {key path : String} (hkey : fields.get? "_key" = some (.str key))
    (hparts : Value.pathParts path = segments path) {selector : Selector}
    (hread : Readable equal db collection selector (.object fields)) {items : List Value}
    (hlist : (Value.object fields).atPath path = .list items) (field : String) :
    (∀ identity, Removes path field identity items (.object fields)
      ((removeObject db collection selector (.str path) (.str field) identity).run (serve equal)
        (.object fields))) ∧
    ∀ copy : Nat → Nat, (Value.object fields).Kept copy →
      ∀ object : Fields, (object.getD field).isTrue = true → (object.getD field).Proper →
      (∀ item ∈ items, ¬ Matches field (object.getD field) item) →
      let there := (addObject db collection selector (.str path) (.object object)
        (.str field)).run (serve equal) (.object fields)
      let back := (removeObject db collection selector (.str path) (.str field)
        (object.getD field)).run (serve equal) (there.state.copied copy)
      ThereAndBack copy path field object items (.object fields) there back := by
  have hpath : segments path ≠ [] := hparts ▸ Value.pathParts_ne_nil path
  have hremoves := removes_list equal hkey db collection hread hlist hpath field
  refine ⟨hremoves, fun copy hfields object htrue hproper hnone => ?_⟩
  intro there back
  obtain ⟨hrefused, hadded⟩ :=
    run_addObject_of_none equal db collection hkey hread hlist hpath htrue hnone
  by_cases hname : field = ""
  · -- Nothing was added, so there is nothing to remove.
    obtain ⟨hresult, hstate⟩ := hrefused hname
    have hback : back.state = .object fields := by
      have hwritten := (hremoves (object.getD field)).written
      rw [filter_matches_eq_self hnone, Value.written_of_follow rfl rfl hlist] at hwritten
      show ((removeObject ..).run (serve equal) (there.state.copied copy)).state = _
      rw [show there.state = _ from hstate, Value.copied_eq_self_iff.2 hfields]
      exact hwritten
    exact ⟨fun h => absurd hname h, fun _ => ⟨hresult, hstate⟩, iff_of_true hback (.inl hname),
      fun h => absurd hname h⟩
  · obtain ⟨hrows, hstate⟩ := hadded hname
    obtain ⟨hrestored, hremoved⟩ :=
      removes_added equal db collection hkey hparts hread hlist hfields htrue hproper hnone
    rw [← hstate] at hrestored hremoved
    refine ⟨fun _ => ⟨hrows, ?_⟩, fun h => absurd h hname, ?_, fun _ hnan hkept =>
      hremoved ⟨hnan, hkept⟩⟩
    · rw [show there.state = _ from hstate, atPath_added equal (holdsList_of_list hlist) hparts,
        itemsAt_of_list hlist]
    · rw [or_iff_right hname]
      exact hrestored

/-- A cyclist with laps. -/
def withLaps (laps : List Value) : Fields := [("_key", .str "1"), ("laps", .list laps)]

/-- A run that removes the laps of an identity. -/
def removeLaps (identity document : Value) : Run Value Value :=
  (removeObject cycling (.str "cyclists") (.value (.str "1")) (.str "laps") (.str "id")
    identity).run (serve Value.same) document

/-- A run that adds a lap. -/
def addLap (identity document : Value) : Run Value Value :=
  (addObject cycling (.str "cyclists") (.value (.str "1")) (.str "laps")
    (.object [("id", identity)]) (.str "id")).run (serve Value.same) document

/-- One and true are equal; texts and null are no laps of an identity.  A lap is removed again, with
copies in which any `nan` would be another, or with the very `nan` that its identity holds. -/
theorem laps_removed_and_restored :
    let document := Value.object (withLaps [.object [("id", .int 1)], .str "rest", .null])
    let number := Value.list [.float (.nan 1)]
    (removeLaps (.bool true) document).state.atPath "laps" = .list [.str "rest", .null] ∧
      (removeLaps (.int 7) ((addLap (.int 7) document).state.copied fun _ => 0)).state =
        document ∧
      (removeLaps number ((addLap number document).state.copied id)).state = document := by
  intro document number
  have hkey : (withLaps [.object [("id", .int 1)], .str "rest", .null]).get? "_key" =
      some (.str "1") := rfl
  have hread : Readable Value.same cycling (.str "cyclists") (.value (.str "1")) document :=
    ⟨_, rfl⟩
  have hlist : document.atPath "laps" =
      .list [.object [("id", .int 1)], .str "rest", .null] := rfl
  obtain ⟨hremoves, hback⟩ := remove_after_add Value.same cycling (.str "cyclists") hkey
    (by decide) hread hlist "id"
  have hnone (identity : Value) (hother : ((Value.int 1).same identity) = false) :
      ∀ item ∈ [Value.object [("id", .int 1)], .str "rest", .null],
        ¬ Matches "id" identity item := by
    simp [Matches, Fields.getD, Fields.get?, hother]
  have hseven : (Value.int 7).Kept fun _ => 0 := Value.kept_plain rfl rfl
  have hproper : number.Proper :=
    Value.proper_list.2 (List.forall_mem_singleton.2 (Value.proper_plain rfl))
  exact ⟨(hremoves (.bool true)).list,
    (hback (fun _ => 0) (Value.copied_eq_self_iff.1 rfl) [("id", .int 7)] (by decide)
      (Value.proper_plain rfl) (hnone _ rfl)).restores_iff.2 (.inr ⟨rfl, hseven⟩),
    (hback id (Value.kept_id _) [("id", number)] rfl hproper (hnone _ rfl)).restores_iff.2
      (.inr ⟨rfl, Value.kept_id number⟩)⟩

/-- A lap that `nan` identifies is added, and there is no removing it. -/
theorem nan_lap_stays :
    (Value.float (.nan 0)).isTrue = true ∧
      (∀ item ∈ ([] : List Value), ¬ Matches "id" (.float (.nan 0)) item) ∧
      (removeLaps (.float (.nan 0))
          (addLap (.float (.nan 0)) (.object (withLaps []))).state).state.atPath "laps" =
        .list [.object [("id", .float (.nan 0))]] := by
  refine ⟨rfl, List.forall_mem_nil _, ?_⟩
  have hkey (laps : List Value) : (withLaps laps).get? "_key" = some (.str "1") := rfl
  have hread (laps : List Value) : Readable Value.same cycling (.str "cyclists")
      (.value (.str "1")) (.object (withLaps laps)) := ⟨_, rfl⟩
  have hlist (laps : List Value) : (Value.object (withLaps laps)).atPath "laps" = .list laps := rfl
  have hpath : segments "laps" ≠ [] := by decide
  have htrue : (Fields.getD [("id", .float (.nan 0))] "id").isTrue = true := rfl
  obtain ⟨-, hadded⟩ := run_addObject_of_none Value.same cycling (.str "cyclists") (hkey [])
    (hread []) (hlist []) hpath htrue (List.forall_mem_nil _)
  have hthere : (addLap (.float (.nan 0)) (.object (withLaps []))).state =
      .object (withLaps [.object [("id", .float (.nan 0))]]) := (hadded (by decide)).2
  rw [hthere]
  exact (removes_list Value.same (hkey _) cycling (.str "cyclists") (hread _) (hlist _) hpath "id"
    (.float (.nan 0))).list

end Database

end DocQuery
