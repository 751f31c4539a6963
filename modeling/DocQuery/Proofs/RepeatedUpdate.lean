import DocQuery.Proofs.UpsertedObject
import Mathlib.Data.List.Forall2

/-!
# Updates that are made again

An update of the objects of an identity changes them where they are in the list: each is merged
with the new fields or gives way to them, and every other item is as it was (`Rewrites`).

*Copies.*  The second run may find copies of what the first has left (`Value.copied`).  An object
that matches still does as a copy if each `nan` of the identity is kept (`Matches.copied`), and a
copy is changed to a copy of the change (`changeItem_copied`).  That the server hands out what it
was given is the case in which nothing is copied.

*Settled.*  A list is settled for an update when those that match are as the update leaves them, and
when it adds nothing even though none matches (`SettledList`).  A document with a settled list is
left as it is, whether the list is written again, or nothing is, or the update is refused
(`state_of_settled`).  A run of the update leaves the document as it was or with a settled list:

* What was merged with the new fields, or replaced by them, may match no longer, since the new
  fields may bring an identity of their own.  It is then not equal to the one that is asked for,
  and nothing is added.
* What was added has the identity that is asked for.  It matches the next time, and merged with
  itself it stays the same.

So a second run changes nothing (`update_again`).
-/

namespace DocQuery

open Request Session

namespace Database

open SharedDocument

/-! ## Items that are rewritten -/

/-- What an update makes of an item. -/
inductive Rewrites (field : String) (identity : Value) (updated : Fields) (mode : ElementUpdate) :
    Value → Value → Prop
  /-- An item that does not match is as it was. -/
  | kept {item : Value} (other : ¬ Matches field identity item) :
      Rewrites field identity updated mode item item
  /-- An object that matches is merged with the new fields. -/
  | merged {fields : Fields} (found : Matches field identity (.object fields))
      (merges : mode = .merge) :
      Rewrites field identity updated mode (.object fields)
        (.object (fields.merge (completed field identity updated)))
  /-- An object that matches gives way to the new fields. -/
  | replaced {fields : Fields} (found : Matches field identity (.object fields))
      (replaces : mode = .replace) :
      Rewrites field identity updated mode (.object fields)
        (.object (completed field identity updated))

section

variable {field : String} {identity : Value} {updated : Fields} {mode : ElementUpdate}

theorem nodup_completed (hdistinct : updated.names.Nodup) (field : String) (identity : Value) :
    (completed field identity updated).names.Nodup := by
  rw [completed]
  split
  · exact hdistinct
  · exact Fields.nodup_names_set hdistinct _ _

/-- The completed fields have an identity, if only the one they were completed with. -/
theorem get?_completed (hnull : identity.isNull = false) (updated : Fields) (field : String) :
    ∃ v, v ≠ .null ∧ (completed field identity updated).get? field = some v := by
  rw [completed]
  split
  · rename_i htrue
    cases hget : updated.get? field with
    | none =>
        rw [Fields.getD, hget] at htrue
        cases htrue
    | some v =>
        refine ⟨v, ?_, rfl⟩
        rintro rfl
        rw [Fields.getD, hget] at htrue
        cases htrue
  · refine ⟨identity, ?_, Fields.get?_set_self _ _ _⟩
    rintro rfl
    cases hnull

theorem rewrites_item (field : String) (identity : Value) (updated : Fields) (mode : ElementUpdate)
    (item : Value) :
    Rewrites field identity updated mode item (rewriteItem field identity updated mode item) := by
  rw [rewriteItem]
  by_cases hitem : hasIdentity field identity item = true
  · rw [if_pos hitem]
    obtain ⟨fields, rfl, hfield⟩ := hasIdentity_iff.1 hitem
    cases mode with
    | merge => exact .merged ⟨fields, rfl, hfield⟩ rfl
    | replace => exact .replaced ⟨fields, rfl, hfield⟩ rfl
  · rw [if_neg hitem]
    exact .kept fun hmatches => hitem (hasIdentity_iff.2 hmatches)

/-- What was rewritten is rewritten to itself. -/
theorem Rewrites.again (hdistinct : updated.names.Nodup) {item new : Value}
    (h : Rewrites field identity updated mode item new) (hitem : Matches field identity item) :
    changeItem mode (completed field identity updated) new = new := by
  cases h with
  | kept other => exact absurd hitem other
  | merged found merges =>
      subst merges
      exact congrArg Value.object (Fields.merge_merge _ (nodup_completed hdistinct _ _))
  | replaced found replaces =>
      subst replaces
      rfl

/-- What was rewritten has the identity of the new fields. -/
theorem Rewrites.bears (hdistinct : updated.names.Nodup) (hnull : identity.isNull = false)
    {item new : Value} (h : Rewrites field identity updated mode item new)
    (hitem : Matches field identity item) :
    Bears field ((completed field identity updated).getD field) new := by
  obtain ⟨v, -, hv⟩ := get?_completed hnull updated field
  cases h with
  | kept other => exact absurd hitem other
  | merged found merges =>
      refine ⟨_, rfl, ?_⟩
      rw [Fields.getD, Fields.getD, Fields.get?_merge _ (nodup_completed hdistinct _ _), hv]
      rfl
  | replaced found replaces => exact ⟨_, rfl, rfl⟩

/-- The completed fields match if their identity is the one that is asked for. -/
theorem matches_of_bears (hnull : identity.isNull = false) {item : Value}
    (hbears : Bears field ((completed field identity updated).getD field) item)
    (hsame : ((completed field identity updated).getD field).same identity = true) :
    Matches field identity item := by
  obtain ⟨v, hv, hget⟩ := get?_completed hnull updated field
  obtain ⟨fields, rfl, hfield⟩ := hbears
  have hvalue : (completed field identity updated).getD field = v := by
    rw [Fields.getD, hget, Option.getD_some]
  refine ⟨fields, rfl, ?_, ?_⟩
  · rw [hfield, hvalue]
    exact hv
  · rw [hfield]
    exact hsame

end

/-! ## Copies of items -/

section

variable {copy : Nat → Nat} {field : String} {identity : Value}

/-- What matches has no `nan` in its field that the identity has not, so its copy matches too. -/
theorem Matches.copied (hidentity : identity.Kept copy) {item : Value}
    (h : Matches field identity item) : Matches field identity (item.copied copy) := by
  obtain ⟨fields, rfl, hfield, hsame⟩ := h
  have hkept := Value.copied_eq_self_iff.2 (Value.Kept.of_same hsame hidentity)
  refine ⟨fields.copied copy, Value.copied_object, ?_, ?_⟩
  · rwa [Fields.getD_copied, hkept]
  · rwa [Fields.getD_copied, hkept]

/-- A copy is changed to what is a copy of the change. -/
theorem changeItem_copied (hcopy : ∀ o, copy (copy o) = copy o) (mode : ElementUpdate)
    (updated : Fields) (item : Value) :
    (changeItem mode updated (item.copied copy)).copied copy =
      (changeItem mode updated item).copied copy := by
  cases item with
  | object fields =>
      rw [Value.copied_object]
      cases mode with
      | merge =>
          rw [changeItem, changeItem, Value.copied_object, Value.copied_object, Fields.merge_copied,
            Fields.copied_copied copy fields hcopy, ← Fields.merge_copied]
      | replace => rfl
  | list items =>
      rw [Value.copied_list, changeItem, changeItem, ← Value.copied_list,
        Value.copied_copied hcopy]
      · exact fun fields h => by cases h
      · exact fun fields h => by cases h
  | float x =>
      cases x with
      | nan o => exact congrArg (fun o => Value.float (.nan o)) (hcopy o)
      | _ => rfl
  | _ => rfl

theorem itemsAt_copied (copy : Nat → Nat) (path : String) (document : Value) :
    itemsAt path (document.copied copy) = (itemsAt path document).map (Value.copied copy) := by
  rw [itemsAt, itemsAt, Value.atPath, Value.atPath, Value.follow_copied]
  cases document.follow (Value.pathParts path) with
  | list items => rw [Value.copied_list]; rfl
  | object fields => rw [Value.copied_object]; rfl
  | float x => cases x <;> rfl
  | _ => rfl

theorem holdsList_copied (copy : Nat → Nat) {path : String} {document : Value}
    (h : HoldsList path document) : HoldsList path (document.copied copy) := by
  rw [HoldsList, Value.Listy, Value.atPath, Value.follow_copied, Value.isNull_copied,
    Value.isList_copied]
  exact h

theorem kept_item {document : Value} (h : document.Kept copy) {path : String} {item : Value}
    (hitem : item ∈ itemsAt path document) : item.Kept copy := by
  have hkept := h.follow (Value.pathParts path)
  rw [itemsAt, Value.atPath] at hitem
  cases hv : document.follow (Value.pathParts path) with
  | list items =>
      rw [hv] at hkept hitem
      exact Value.kept_list.1 hkept item hitem
  | _ =>
      rw [hv] at hitem
      cases hitem

end

/-! ## Settled lists -/

/-- Lists that an update leaves as they are, but for making copies of them. -/
structure SettledList (copy : Nat → Nat) (field : String) (identity : Value) (updated : Fields)
    (mode : ElementUpdate) (addIfMissing : Bool) (items : List Value) : Prop where
  /-- Each item is its own copy. -/
  own : ∀ item ∈ items, item.copied copy = item
  /-- What matches is as it is left. -/
  rewritten : ∀ item ∈ items, Matches field identity item →
    (changeItem mode (completed field identity updated) item).copied copy = item
  /-- Nothing is added where none matches. -/
  complete : (∀ item ∈ items, ¬ Matches field identity item) → addIfMissing = true →
    ((completed field identity updated).getD field).same identity = false

section

variable {copy : Nat → Nat} (hcopy : ∀ o, copy (copy o) = copy o) {field : String}
  {identity : Value} (hidentity : identity.Kept copy) {updated : Fields} {mode : ElementUpdate}
  (hdistinct : updated.names.Nodup) {items : List Value}

include hcopy hidentity hdistinct

/-- The copy of a list that was rewritten is settled: what matched matches again, or nothing is
added. -/
theorem settled_rewritten (hnull : identity.isNull = false) (addIfMissing : Bool)
    (hitems : ∀ item ∈ items, item.Kept copy)
    (hfound : ∃ item ∈ items, Matches field identity item) :
    SettledList copy field identity updated mode addIfMissing
      ((items.map (rewriteItem field identity updated mode)).map (Value.copied copy)) := by
  have hrewrites := rewrites_item field identity updated mode
  rw [List.map_map]
  refine ⟨?_, ?_, ?_⟩
  · rintro new hnew
    obtain ⟨item, -, rfl⟩ := List.mem_map.1 hnew
    exact Value.copied_copied hcopy _
  · rintro new hnew hmatches
    obtain ⟨item, hitem, rfl⟩ := List.mem_map.1 hnew
    rw [Function.comp_apply, changeItem_copied hcopy]
    by_cases hold : Matches field identity item
    · rw [(hrewrites item).again hdistinct hold]
    · -- What did not match was kept, and its copy does not match either.
      rw [Function.comp_apply, rewriteItem, if_neg fun h => hold (hasIdentity_iff.1 h),
        Value.copied_eq_self_iff.2 (hitems item hitem)] at hmatches
      exact absurd hmatches hold
  · intro hnone _
    obtain ⟨item, hitem, hmatches⟩ := hfound
    have hbears := (hrewrites item).bears hdistinct hnull hmatches
    rw [Bool.eq_false_iff]
    exact fun hsame => hnone _ (List.mem_map_of_mem hitem)
      ((matches_of_bears hnull hbears hsame).copied hidentity)

/-- The copy of a list to which the new fields were added is settled: they match, and stay as they
are. -/
theorem settled_added (hnull : identity.isNull = false) (addIfMissing : Bool)
    (hitems : ∀ item ∈ items, item.Kept copy)
    (hnone : ∀ item ∈ items, ¬ Matches field identity item)
    (hsame : ((completed field identity updated).getD field).same identity = true) :
    SettledList copy field identity updated mode addIfMissing
      ((items ++ [Value.object (completed field identity updated)]).map (Value.copied copy)) := by
  refine ⟨?_, ?_, ?_⟩
  · rintro new hnew
    obtain ⟨item, -, rfl⟩ := List.mem_map.1 hnew
    exact Value.copied_copied hcopy _
  · rintro new hnew hmatches
    obtain ⟨item, hitem, rfl⟩ := List.mem_map.1 hnew
    rcases List.mem_append.1 hitem with hold | hadded
    · rw [Value.copied_eq_self_iff.2 (hitems item hold)] at hmatches
      exact absurd hmatches (hnone item hold)
    · obtain rfl := List.mem_singleton.1 hadded
      rw [changeItem_copied hcopy]
      cases mode with
      | merge => rw [changeItem, Fields.merge_self (nodup_completed hdistinct _ _)]
      | replace => rfl
  · intro hmissing _
    have hmatches : Matches field identity (.object (completed field identity updated)) :=
      matches_of_bears hnull ⟨_, rfl, rfl⟩ hsame
    have hlast := List.mem_append_right items
      (List.mem_singleton_self (Value.object (completed field identity updated)))
    exact absurd (hmatches.copied hidentity) (hmissing _ (List.mem_map_of_mem hlast))

end

theorem SettledList.map_eq_self {copy : Nat → Nat} {field : String} {identity : Value}
    {updated : Fields} {mode : ElementUpdate} {addIfMissing : Bool} {items : List Value}
    (h : SettledList copy field identity updated mode addIfMissing items) :
    (items.map (rewriteItem field identity updated mode)).map (Value.copied copy) = items := by
  rw [List.map_map]
  refine List.map_congr_left (fun item hitem => ?_) |>.trans (List.map_id items)
  rw [Function.comp_apply, rewriteItem]
  split
  · rename_i hfound
    exact h.rewritten item hitem (hasIdentity_iff.1 hfound)
  · exact h.own item hitem

/-- A session keeps what each of its calls that change the document keeps. -/
theorem keeps_of_meets {α : Type} (equal : Value → Value → Bool) (kept : Value → Prop)
    {s : Session α} {failed : Failure → Prop} {post : α → Prop}
    (h : s.Meets (fun c => c.mutates = true → ∀ document, kept document →
      kept (serve equal c document).2) failed post) {document : Value} (hkept : kept document) :
    kept (s.run (serve equal) document).state := by
  induction s generalizing document with
  | done a => exact hkept
  | fail e => exact hkept
  | log r next ih => exact ih h hkept
  | call c next ih =>
      have hcall : kept (serve equal c document).2 := by
        cases hmutates : c.mutates with
        | true => exact h.1 hmutates document hkept
        | false => rwa [(faithful_serve equal).quiet hmutates document]
      exact ih (serve equal c document).1 (h.2 _) hcall

/-- Setting a list of which a copy is there changes nothing but for copies, whichever document it is
set in. -/
theorem state_setProperty_again (equal : Value → Value → Bool) {copy : Nat → Nat} {document : Value}
    (hdocument : document.copied copy = document) {path : String} {items : List Value}
    (hlist : document.atPath path = .list (items.map (Value.copied copy))) (db : Database)
    (collection : Value) (selector : Selector) :
    ((setProperty db collection selector (.str path) (.list items)).run (serve equal)
      document).state.copied copy = document := by
  refine keeps_of_meets equal (fun later => later.copied copy = document)
    ((meets_setProperty db collection selector items).mono (fun c hc hmutates later hlater => ?_)
      (fun _ he => he) fun _ ha => ha) hdocument
  obtain ⟨key, rfl⟩ := hc hmutates
  rw [setCall, serve_patch]
  split
  · have hwritten : document.written (Value.pathParts path) (.list (items.map _)) = document :=
      Value.written_of_follow rfl rfl hlist
    have hcopied := Value.written_copied copy (v := .list items) rfl later (Value.pathParts path)
    rw [hlater, Value.copied_list, hwritten] at hcopied
    exact hcopied
  · exact hlater

/-! ## An update -/

theorem atPath_of_any {path field : String} {identity document : Value}
    (hholds : HoldsList path document)
    (hfound : (itemsAt path document).any (hasIdentity field identity) = true) :
    document.atPath path = .list (itemsAt path document) := by
  revert hholds hfound
  rw [HoldsList, itemsAt]
  cases document.atPath path with
  | list items => exact fun _ _ => rfl
  | null => exact fun _ hfound => by cases hfound
  | _ => exact fun hholds => by rcases hholds with h | h <;> cases h

section

variable (equal : Value → Value → Bool) (db : Database) (collection : Value) {selector : Selector}
  {path field : String} {identity : Value} {updated : Fields} {mode : ElementUpdate}
  {addIfMissing : Bool} (allowDuplicates : Bool)

/-- A run of an update goes on from the list that is read. -/
theorem run_updateObject {fields : Fields} {key : Value} (hkey : fields.get? "_key" = some key)
    (hread : Readable equal db collection selector (.object fields))
    (hholds : HoldsList path (.object fields)) :
    ∃ items?, items?.getD [] = itemsAt path (.object fields) ∧
      let run := (updateObject db collection selector (.str path) (.str field) identity
        (.object updated) mode addIfMissing allowDuplicates).run (serve equal) (.object fields)
      let rest := ((updating field identity updated mode addIfMissing allowDuplicates).next db
        collection path ⟨key, path, items?⟩).run (serve equal) (.object fields)
      run.result = rest.result ∧ run.state = rest.state := by
  obtain ⟨calls, items?, hitems, hstored⟩ :=
    returns_readList equal hkey db collection hread hholds updateAction
  obtain ⟨hresult, -, hstate⟩ := hstored.run_bind
    ((updating field identity updated mode addIfMissing allowDuplicates).next db collection path)
  exact ⟨items?, hitems, hresult, hstate⟩

/-- An update leaves a document as it is, but for copies, in which the list is settled. -/
theorem state_of_settled {copy : Nat → Nat} {fields : Fields}
    (hfields : (Value.object fields).copied copy = .object fields) {key : Value}
    (hkey : fields.get? "_key" = some key)
    (hread : Readable equal db collection selector (.object fields))
    (hholds : HoldsList path (.object fields))
    (hsettled : SettledList copy field identity updated mode addIfMissing
      (itemsAt path (.object fields))) :
    ((updateObject db collection selector (.str path) (.str field) identity (.object updated) mode
      addIfMissing allowDuplicates).run (serve equal) (.object fields)).state.copied copy =
        .object fields := by
  obtain ⟨items?, hitems, -, hstate⟩ :=
    run_updateObject equal db collection allowDuplicates hkey hread hholds
  rw [hstate, next_updating, StoredList.items, hitems]
  cases hfound : (itemsAt path (.object fields)).any (hasIdentity field identity) with
  | true =>
      have hlist := atPath_of_any hholds hfound
      rw [← hsettled.map_eq_self] at hlist
      rw [if_pos rfl]
      exact state_setProperty_again equal hfields hlist db collection _
  | false =>
      rw [if_neg Bool.false_ne_true]
      cases addIfMissing with
      | false => exact hfields
      | true =>
          have hother := hsettled.complete (any_hasIdentity_eq_false_iff.1 hfound) rfl
          rw [if_pos rfl, addMissing, hother, if_neg Bool.false_ne_true]
          exact hfields

section

variable {fields : Fields} {key : String} (hkey : fields.get? "_key" = some (.str key))
  (hparts : Value.pathParts path = segments path)
  (hread : Readable equal db collection selector (.object fields))
  (hholds : HoldsList path (.object fields))

include hkey hparts hread hholds

/-- An update that finds some of the identity sets the list with these rewritten. -/
theorem run_updateObject_found
    (hfound : ∃ item ∈ itemsAt path (.object fields), Matches field identity item) :
    let run := (updateObject db collection selector (.str path) (.str field) identity
      (.object updated) mode addIfMissing allowDuplicates).run (serve equal) (.object fields)
    let later := (itemsAt path (.object fields)).map (rewriteItem field identity updated mode)
    (∃ rows, run.result = .ok (.list rows)) ∧
      run.state = (Value.object fields).written (Value.pathParts path) (.list later) := by
  have hpath : segments path ≠ [] := hparts ▸ Value.pathParts_ne_nil path
  have hagain : Readable equal db collection (.value (.str key)) (.object fields) := ⟨_, rfl⟩
  obtain ⟨items?, hitems, hresult, hstate⟩ :=
    run_updateObject equal db collection allowDuplicates hkey hread hholds
  obtain ⟨calls, -, hset⟩ := returns_setProperty equal hkey db collection hagain hpath
    (.list ((itemsAt path (.object fields)).map (rewriteItem field identity updated mode)))
  intro run later
  rw [next_updating, StoredList.items, hitems, if_pos (any_hasIdentity_iff.2 hfound)]
    at hresult hstate
  exact ⟨⟨_, hresult.trans hset.result⟩, hstate.trans hset.state⟩

/-- An update that finds none leaves the document as it is, or adds the completed fields, if their
identity is the one that is asked for. -/
theorem run_updateObject_missing
    (hnone : ∀ item ∈ itemsAt path (.object fields), ¬ Matches field identity item) :
    let run := (updateObject db collection selector (.str path) (.str field) identity
      (.object updated) mode addIfMissing allowDuplicates).run (serve equal) (.object fields)
    let object := completed field identity updated
    run.state = .object fields ∨
      (object.getD field).same identity = true ∧
        ∃ unchecked, run.state = added equal (.object fields) path (.object object) unchecked := by
  have hpath : segments path ≠ [] := hparts ▸ Value.pathParts_ne_nil path
  have hagain : Readable equal db collection (.value (.str key)) (.object fields) := ⟨_, rfl⟩
  obtain ⟨items?, hitems, -, hstate⟩ :=
    run_updateObject equal db collection allowDuplicates hkey hread hholds
  intro run object
  rw [next_updating, StoredList.items, hitems, any_hasIdentity_eq_false_iff.2 hnone,
    if_neg Bool.false_ne_true] at hstate
  rw [show run.state = _ from hstate]
  cases addIfMissing with
  | false => exact .inl rfl
  | true =>
      rw [if_pos rfl, addMissing]
      cases hsame : (object.getD field).same identity with
      | false => exact .inl rfl
      | true =>
          let named : Value := if allowDuplicates then .null else .str field
          obtain ⟨hrefused, hadded⟩ := run_addObject equal hkey db collection hagain hholds hpath
            object named
          rw [if_pos rfl]
          cases hfailure : addFailure? (.object object) named.isNull named
              (itemsAt path (.object fields)) with
          | some e => exact .inl (hrefused e hfailure).2
          | none => exact .inr ⟨rfl, _, (hadded hfailure).2⟩

/-- A run of an update leaves the document as it was, or with a list whose copy is settled. -/
theorem settles {copy : Nat → Nat} (hcopy : ∀ o, copy (copy o) = copy o)
    (hidentity : identity.Kept copy) (hfields : (Value.object fields).Kept copy)
    (hnull : identity.isNull = false) (hdistinct : updated.names.Nodup) :
    let run := (updateObject db collection selector (.str path) (.str field) identity
      (.object updated) mode addIfMissing allowDuplicates).run (serve equal) (.object fields)
    run.state = .object fields ∨
      ∃ later : Fields, run.state = .object later ∧ (∃ w, later.get? "_key" = some w) ∧
        HoldsList path (.object later) ∧
        SettledList copy field identity updated mode addIfMissing
          ((itemsAt path (.object later)).map (Value.copied copy)) := by
  intro run
  have hitems (item : Value) (hitem : item ∈ itemsAt path (.object fields)) : item.Kept copy :=
    kept_item hfields hitem
  by_cases hfound : ∃ item ∈ itemsAt path (.object fields), Matches field identity item
  · let items := (itemsAt path (.object fields)).map (rewriteItem field identity updated mode)
    have hstate : run.state = (Value.object fields).written (Value.pathParts path) (.list items) :=
      (run_updateObject_found equal db collection allowDuplicates hkey hparts hread hholds hfound).2
    obtain ⟨later, hlater, hkeyed⟩ := Value.exists_written hkey path (v := .list items) rfl
    have hlist : (Value.object later).atPath path = .list items := by
      rw [← hlater, Value.atPath, Value.follow_written, Value.revised_of_other rfl]
    refine .inr ⟨later, hstate.trans hlater, hkeyed, holdsList_of_list hlist, ?_⟩
    rw [itemsAt_of_list hlist]
    exact settled_rewritten hcopy hidentity hdistinct hnull addIfMissing hitems hfound
  · have hnone : ∀ item ∈ itemsAt path (.object fields), ¬ Matches field identity item :=
      fun item hitem hmatches => hfound ⟨item, hitem, hmatches⟩
    rcases run_updateObject_missing equal db collection allowDuplicates hkey hparts hread hholds
      hnone with hkept | ⟨hsame, unchecked, hstate⟩
    · exact .inl hkept
    · have hpath : segments path ≠ [] := hparts ▸ Value.pathParts_ne_nil path
      obtain ⟨part, rest, w, -, hadded⟩ := added_object equal fields hpath
        (.object (completed field identity updated)) unchecked
      have hlist := atPath_added equal hholds hparts (completed field identity updated) unchecked
      rw [hadded] at hlist
      refine .inr ⟨_, hstate.trans hadded, ?_, holdsList_of_list hlist, ?_⟩
      · rw [Fields.get?_set]
        split
        · exact ⟨w, rfl⟩
        · exact ⟨_, hkey⟩
      · rw [itemsAt_of_list hlist]
        exact settled_added hcopy hidentity hdistinct hnull addIfMissing hitems hnone hsame

/-- A second run of an update changes nothing, but for copies, in what the first has left. -/
theorem state_again {copy : Nat → Nat} (hcopy : ∀ o, copy (copy o) = copy o)
    (hidentity : identity.Kept copy) (hfields : (Value.object fields).Kept copy)
    (hnull : identity.isNull = false) (hdistinct : updated.names.Nodup) :
    let update := updateObject db collection selector (.str path) (.str field) identity
      (.object updated) mode addIfMissing allowDuplicates
    let first := update.run (serve equal) (.object fields)
    (update.run (serve equal) (first.state.copied copy)).state.copied copy =
      first.state.copied copy := by
  intro update first
  have hdocument := Value.copied_eq_self_iff.2 hfields
  rcases settles equal db collection allowDuplicates hkey hparts hread hholds hcopy hidentity
    hfields hnull hdistinct with hkept | ⟨later, hlater, ⟨w, hkeyed⟩, hlist, hsettled⟩
  · rw [show first.state = _ from hkept, hdocument, show (update.run _ _).state = _ from hkept,
      hdocument]
  · have hkeyed' : (later.copied copy).get? "_key" = some (w.copied copy) := by
      rw [Fields.get?_copied, hkeyed, Option.map_some]
    have hlist' := holdsList_copied copy hlist
    have hlater' := Value.copied_copied hcopy (.object later)
    rw [← itemsAt_copied] at hsettled
    rw [show first.state = _ from hlater]
    rw [Value.copied_object] at hlist' hlater' hsettled ⊢
    exact state_of_settled equal db collection allowDuplicates hlater' hkeyed'
      (Readable.again equal hkey db collection hread hkeyed') hlist' hsettled

end

end

/-- A run that gives the teams of an identity another number, or adds a team where there is none. -/
def renumberTeam (identity number document : Value) : Run Value Value :=
  (updateObject cycling (.str "cyclists") (.value (.str "1")) (.str "teams") (.str "id") identity
    (.object [("id", number)]) .merge true false).run (serve Value.same) document

end Database

end DocQuery
