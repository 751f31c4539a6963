import DocQuery.Proofs.ListGuard

/-!
# Objects told apart

The objects of a list may be told apart by a field: those in which the field is not null have
different values there (`DistinctBy`).

An object is compared with the objects of the list before it is added, so adding objects one
after the other keeps them told apart (`DistinctBy` is kept by a step and so by a run).  The
objects of a list that is added are compared by nobody: the server leaves out those that equal
an element as a whole.  They stay told apart exactly when the new ones are `FreshTo` the list.
-/

namespace DocQuery

open Database Request Session StoredDocument

/-! ## Told apart by a field -/

/-- What tells an element of a list apart: the field of an object, unless it is null. -/
def marker? (f : String) : Value → Option Value
  | .object fields => if (Fields.getD fields f).isNull then none else some (Fields.getD fields f)
  | _ => none

/-- What tells the elements of a list apart, in order. -/
def markers (f : String) (items : List Value) : List Value := items.filterMap (marker? f)

/-- The objects of a list have different values in a field, where it is not null. -/
def DistinctBy (f : String) (items : List Value) : Prop :=
  (markers f items).Pairwise fun v w => v.same w = false

/-- New elements have different values in a field, and none that an element of the list has. -/
def FreshTo (f : String) (items new : List Value) : Prop :=
  DistinctBy f new ∧ ∀ v ∈ markers f items, ∀ w ∈ markers f new, v.same w = false

theorem distinctBy_append {f : String} {items new : List Value} (h : DistinctBy f items) :
    DistinctBy f (items ++ new) ↔ FreshTo f items new := by
  simp only [DistinctBy, FreshTo, markers, List.filterMap_append, List.pairwise_append]
  exact ⟨And.right, And.intro h⟩

theorem marker?_eq_some {f : String} {item v : Value} (h : marker? f item = some v) :
    ∃ fields, item = .object fields ∧ Fields.getD fields f = v := by
  cases item with
  | object fields =>
      simp only [marker?] at h
      split at h
      · cases h
      · exact ⟨fields, rfl, Option.some.inj h⟩
  | _ => cases h

/-- An object that was compared with a list is fresh to it. -/
theorem freshTo_object {f : String} {items : List Value} {object : Fields}
    (h : fieldError? f items object = none) : FreshTo f items [.object object] := by
  have hother : ∀ item ∈ items, ∀ fields, item = .object fields →
      (Fields.getD fields f).same (object.getD f) = false := by
    intro item hitem fields hfields
    subst hfields
    simp only [fieldError?] at h
    split at h
    · cases h
    · split at h
      · cases h
      · rename_i hnone
        simpa using fun hsame => hnone (List.any_eq_true.2 ⟨_, hitem, hsame⟩)
  refine ⟨?_, fun v hv w hw => ?_⟩
  · unfold DistinctBy markers
    cases hm : marker? f (.object object) <;> simp [hm]
  · obtain ⟨item, hitem, hmarker⟩ := List.mem_filterMap.1 hv
    obtain ⟨fields, hfields, rfl⟩ := marker?_eq_some hmarker
    obtain ⟨new, hnew, hmarker'⟩ := List.mem_filterMap.1 hw
    rw [List.mem_singleton.1 hnew] at hmarker'
    obtain ⟨fields', hfields', rfl⟩ := marker?_eq_some hmarker'
    cases hfields'
    exact hother item hitem fields hfields

/-! ## One value added -/

variable (equal : Value → Value → Bool)

/-- The elements that adding a value adds to a list. -/
def newItems (items : List Value) (value : Value) : List Value :=
  addedTo equal (addsUnique value false) items ((ListChange.adding value).values value)

theorem follow_added {document : Value} {path : String} {items : List Value}
    (h : document.follow (segments path) = .list items) (value : Value) :
    (added equal document path value false).follow (segments path) =
      .list (items ++ newItems equal items value) := by
  rw [added, Value.follow_patched, h, ListChange.applied, ListChange.changed_adding]
  rfl

/-- A document that holds a list keeps its key when a value is added to the list. -/
theorem get?_key_added {fields : Fields} {key path : String} {items : List Value}
    (hkey : fields.get? "_key" = some (.str key))
    (hitems : (Value.object fields).follow (segments path) = .list items) (value : Value) :
    ∃ changed, added equal (.object fields) path value false = .object changed ∧
      Fields.get? changed "_key" = some (.str key) := by
  rw [added]
  revert hitems
  cases segments path with
  | nil => exact fun hitems => nomatch hitems
  | cons part rest =>
      intro hitems
      have hpart : part ≠ "_key" := by
        rintro rfl
        rw [Value.follow, Fields.getD, hkey] at hitems
        cases rest <;> cases hitems
      rw [Value.patched_nestedValue]
      exact ⟨_, rfl, (Fields.get?_set_of_ne _ hpart _).trans hkey⟩

/-! ## Values added one after the other -/

/-- A document with a key that holds a list of objects told apart. -/
structure HoldsDistinct (key path f : String) (document : Value) : Prop where
  object : ∃ fields : Fields, document = .object fields ∧ fields.get? "_key" = some (.str key)
  distinct : ∃ items, document.follow (segments path) = .list items ∧ DistinctBy f items

section

variable (db : Database) (collection : Value) (selector : Selector) (path f : String)

/-- A run that adds a value, told apart by a field. -/
abbrev adding (value document : Value) : Run Value Value :=
  (addToList db collection selector (.str path) value false (.str f)).run (respond equal) document

/-- The document after values are added one after the other. -/
def addingAll (values : List Value) (document : Value) : Value :=
  values.foldl (fun document value =>
    (adding equal db collection selector path f value document).state) document

/-- A value that keeps the objects of a list told apart: an object, as it is compared before it
is added, or values that are fresh to the list. -/
def Suits (document value : Value) : Prop :=
  value.isObject = true ∨ ∀ items, document.follow (segments path) = .list items →
    FreshTo f items (newItems equal items value)

/-- Values that suit the document one after the other. -/
def AllSuit : List Value → Value → Prop
  | [], _ => True
  | v :: rest, document => Suits equal path f document v ∧
      AllSuit rest (adding equal db collection selector path f v document).state

variable {path f} {key : String} (hpath : segments path ≠ [])
include hpath

theorem adding_written {fields : Fields} (hkey : fields.get? "_key" = some (.str key))
    {items : List Value} (hitems : (Value.object fields).follow (segments path) = .list items)
    {value : Value}
    (h : (adding equal db collection selector path f value (.object fields)).calls.any
      Call.mutates = true) :
    (adding equal db collection selector path f value (.object fields)).state.follow
      (segments path) = .list (items ++ newItems equal items value) := by
  cases adds_addToList equal hkey hpath db collection selector value false (.str f) with
  | kept _ _ calls _ =>
      obtain ⟨c, hc, hchanges⟩ := List.any_eq_true.1 h
      rw [calls c hc] at hchanges
      cases hchanges
  | changed _ _ _ _ state => rw [state, follow_added equal hitems]

/-- The objects of a list stay told apart when a value is added that suits them. -/
theorem HoldsDistinct.step (hparts : Value.pathParts path = segments path) {document : Value}
    (h : HoldsDistinct key path f document) {value : Value}
    (hsuits : Suits equal path f document value) :
    HoldsDistinct key path f
      (adding equal db collection selector path f value document).state := by
  obtain ⟨⟨fields, rfl, hkey⟩, items, hitems, hdistinct⟩ := h
  cases adds_addToList equal hkey hpath db collection selector value false (.str f) with
  | kept _ _ _ state =>
      rw [state]
      exact ⟨⟨fields, rfl, hkey⟩, items, hitems, hdistinct⟩
  | changed items? found unique _ state =>
      rw [state]
      refine ⟨get?_key_added equal hkey hitems value, _, follow_added equal hitems value,
        (distinctBy_append hdistinct).2 ?_⟩
      rcases hsuits with hobject | hfresh
      · -- The guard has seen the list that the server changes.
        have hseen : items? = some items := by
          rw [listAt, Value.atPath, hparts, hitems] at found
          exact (Except.ok.inj found).symm
        subst hseen
        cases value with
        | object object =>
            have hnew : newItems equal items (.object object) = [.object object] := by
              simp [newItems, addsUnique, Value.isObject, Value.fields?, ListChange.adding,
                Value.isList, Value.items?, ListChange.values, addedTo]
            rw [hnew]
            exact freshTo_object (by simpa [addFailure?, uniquenessFailure?] using unique)
        | _ => cases hobject
      · exact hfresh items hitems

theorem HoldsDistinct.run (hparts : Value.pathParts path = segments path) {values : List Value}
    {document : Value} (h : HoldsDistinct key path f document)
    (hsuit : AllSuit equal db collection selector path f values document) :
    HoldsDistinct key path f (addingAll equal db collection selector path f values document) := by
  induction values generalizing document with
  | nil => exact h
  | cons v rest ih =>
      exact ih (h.step equal db collection selector hpath hparts hsuit.1) hsuit.2

/-- A value that is added keeps the objects of a list told apart exactly when what is new is
fresh to the list; values that suit keep them so one after the other. -/
theorem adding_keeps_distinct {fields : Fields} (hkey : fields.get? "_key" = some (.str key))
    {items : List Value} (hitems : (Value.object fields).follow (segments path) = .list items)
    (hdistinct : DistinctBy f items) :
    (∀ value, (adding equal db collection selector path f value (.object fields)).calls.any
        Call.mutates = true →
      ∃ after, (adding equal db collection selector path f value (.object fields)).state.follow
          (segments path) = .list after ∧
        (DistinctBy f after ↔ FreshTo f items (newItems equal items value))) ∧
    (Value.pathParts path = segments path →
      ∀ values, AllSuit equal db collection selector path f values (.object fields) →
        ∃ after, (addingAll equal db collection selector path f values (.object fields)).follow
            (segments path) = .list after ∧ DistinctBy f after) := by
  refine ⟨fun value h => ?_, fun hparts values hsuit => ?_⟩
  · exact ⟨_, adding_written equal db collection selector hpath hkey hitems h,
      distinctBy_append hdistinct⟩
  · have hholds : HoldsDistinct key path f (.object fields) :=
      ⟨⟨fields, rfl, hkey⟩, items, hitems, hdistinct⟩
    exact (hholds.run equal db collection selector hpath hparts hsuit).distinct

end

/-- A document with one lap. -/
def lapped : Fields :=
  [("_key", .str "1"), ("laps", .list [.object [("id", .int 1), ("time", .int 63)]])]

theorem laps_distinct :
    ∃ after, (addingAll Value.same cycling (.str "cyclists") (.value (.str "1")) "laps" "id"
        [.object [("id", .int 2)], .object [("id", .bool true)]] (.object lapped)).follow
          (segments "laps") = .list after ∧ DistinctBy "id" after := by
  have hkey : lapped.get? "_key" = some (.str "1") := rfl
  have hpath : segments "laps" ≠ [] := by decide
  have hdistinct : DistinctBy "id" [.object [("id", .int 1), ("time", .int 63)]] :=
    List.pairwise_singleton _ _
  exact (adding_keeps_distinct Value.same cycling (.str "cyclists") (.value (.str "1")) hpath
    hkey rfl hdistinct).2 rfl _ ⟨.inl rfl, .inl rfl, trivial⟩

/-- A list that is added brings a second lap of the same identity. -/
theorem laps_collide :
    let r := adding Value.same cycling (.str "cyclists") (.value (.str "1")) "laps" "id"
      (.list [.object [("id", .int 1), ("time", .int 61)]]) (.object lapped)
    r.calls.any Call.mutates = true ∧
      ∃ after, r.state.follow (segments "laps") = .list after ∧ ¬ DistinctBy "id" after := by
  have hkey : lapped.get? "_key" = some (.str "1") := rfl
  have hpath : segments "laps" ≠ [] := by decide
  have hread : ((readList cycling (.str "cyclists") (.value (.str "1")) (.str "laps")
      addAction).run (respond Value.same) (.object lapped)).result =
      .ok ⟨.str "1", "laps", some [.object [("id", .int 1), ("time", .int 63)]]⟩ :=
    result_readList Value.same hkey _ _ _ _ _
  obtain ⟨hmutates, -⟩ := addToList_changes Value.same hkey hpath _ _ _
    (.list [.object [("id", .int 1), ("time", .int 61)]]) false (.str "id") hread rfl
  intro r
  refine ⟨hmutates, _, adding_written Value.same _ _ _ hpath hkey rfl hmutates, ?_⟩
  intro hdistinct
  have hcollision := List.rel_of_pairwise_cons hdistinct (List.mem_singleton_self _)
  cases hcollision

end DocQuery
