import DocQuery.Proofs.AddedValue
import DocQuery.Proofs.MergedPatch
import DocQuery.Proofs.SideBySide

/-!
# A document that is shared

`SharedDocument.serve` is a server that holds one document and takes both kinds of writes that
change a list: the change of a list at the end of a path, as `StoredDocument.respond` makes it, and
the patch that sets a property, which is merged into the document (`Value.revised`).

A *list write* is a call of one of these kinds at a path (`ListWrite`).  It keeps the key of the
document (`Keyed.write`), and what stands at the path stays a list or nothing (`HoldsList.write`).
-/

namespace DocQuery

open Request Session

/-! ## Lists, or nothing -/

namespace Value

/-- Whether a value is a list, or nothing. -/
def Listy (v : Value) : Prop := v.isNull = true ∨ v.isList = true

theorem listy_null : Listy .null := .inl rfl

theorem listy_list (items : List Value) : Listy (.list items) := .inr rfl

theorem patched_of_listy {v : Value} (h : v.Listy) (old : Value) : old.patched v = v := by
  cases v with
  | object fields => rcases h with h | h <;> cases h
  | _ => simp [patched]

theorem follow_of_listy {v : Value} (h : v.Listy) (part : String) (rest : List String) :
    v.follow (part :: rest) = .null := by
  cases v with
  | object fields => rcases h with h | h <;> cases h
  | _ => rfl

/-- What is no object takes a path as an object without fields does. -/
theorem patched_of_other {old : Value} (h : old.isObject = false) (part : String)
    (rest : List String) (v : Value) :
    old.patched (nestedValue (part :: rest) v) =
      (object []).patched (nestedValue (part :: rest) v) := by
  rw [patched_replaced h, patched_nestedValue]
  have hnull (new : Value) : null.patched new = new := patched_replaced rfl new
  simp [nestedValue, Fields.set, Fields.getD, hnull]

/-- A list that is written where a path leads without its empty parts leaves what stands where
it leads with them a list, or nothing. -/
theorem listy_follow_patched {new : Value} (hnew : new.Listy) (parts : List String) {old : Value}
    (h : (old.follow parts).Listy) :
    ((old.patched (nestedValue (parts.filter (· ≠ "")) new)).follow parts).Listy := by
  induction parts generalizing old with
  | nil => simpa [nestedValue, follow, patched_of_listy hnew] using hnew
  | cons part rest ih =>
      have hnone : ((object []).follow (part :: rest)).Listy := by
        rw [follow, Fields.getD, Fields.get?_nil, Option.getD_none, follow_null]
        exact listy_null
      -- An object it is, or it takes the path as an object without fields does.
      obtain ⟨fields, hfields, hsame⟩ : ∃ fields : Fields,
          ((object fields).follow (part :: rest)).Listy ∧ ∀ part rest,
            old.patched (nestedValue (part :: rest) new) =
              (object fields).patched (nestedValue (part :: rest) new) := by
        cases hobject : old.isObject with
        | false => exact ⟨[], hnone, fun part rest => patched_of_other hobject part rest new⟩
        | true =>
            cases old with
            | object fields => exact ⟨fields, h, fun _ _ => rfl⟩
            | _ => cases hobject
      rw [follow] at hfields
      by_cases hpart : part = ""
      · rw [List.filter_cons_of_neg (by simpa using hpart)]
        cases hsegments : rest.filter (· ≠ "") with
        | nil =>
            rw [nestedValue, patched_of_listy hnew, follow_of_listy hnew]
            exact listy_null
        | cons first others =>
            have hfirst : first ∈ rest.filter (· ≠ "") := by
              rw [hsegments]
              exact List.mem_cons_self
            have hne : first ≠ part := by
              rw [hpart]
              simpa using (List.mem_filter.1 hfirst).2
            rwa [hsame, patched_nestedValue, follow, Fields.getD, Fields.get?_set_of_ne _ hne]
      · rw [List.filter_cons_of_pos (by simpa using hpart), hsame, patched_nestedValue, follow,
          Fields.getD, Fields.get?_set_self]
        exact ih hfields

end Value

/-! ## The server -/

/-- The statement that sets a property of the document with a key. -/
def patchStatement : Statement where
  filters := [.test (.keyIs "key")]
  action := .patch

theorem patchStatement_text : patchStatement.text =
    changeHead ++
      ("@patch IN @@collection OPTIONS \x7b keepNull: false \x7d " ++ newValueText) := by
  show _ ++ " " ++ ("UPDATE d WITH @patch IN @@collection OPTIONS \x7b keepNull: false \x7d "
    ++ newValueText) = _
  simp only [← String.append_assoc]
  rfl

/-- The text of a list change is not the one that sets a property. -/
theorem ListChange.text_ne_patch (c : ListChange) (depth : Nat) :
    (c.statement depth).text ≠ patchStatement.text := by
  rw [statement_text, patchStatement_text, String.append_assoc, Ne, String.append_right_inj]
  intro h
  have hfirst := congrArg (fun s : String => s.toList.head?) h
  simp only [String.toList_append] at hfirst
  revert hfirst
  cases depth with
  | zero => cases c <;> simp [nestedText, ListChange.text]
  | succ depth => simp [nestedText, String.toList_append]

theorem changeOf?_patch : changeOf? patchStatement.text = none := by
  cases hfound : changeOf? patchStatement.text with
  | none => rfl
  | some found =>
      have htext : (found.1.statement found.2).text = patchStatement.text := by
        simpa using List.find?_some hfound
      exact absurd htext (ListChange.text_ne_patch found.1 found.2)

theorem ListChange.listy_applied (equal : Value → Value → Bool) (c : ListChange) (v : Value)
    (unique : Bool) (old : Value) : (c.applied equal v unique old).Listy := by
  cases old with
  | null => exact Value.listy_list _
  | list items => exact Value.listy_list _
  | _ => exact Value.listy_null

namespace SharedDocument

/-- The property that a query sets, and the document afterwards. -/
def patch? (document : Value) : Value → Value → Option (Value × Value)
  | .str text, .object binds =>
      if text = patchStatement.text ∧ (Fields.getD binds "key").same (document.follow ["_key"]) then
        some (Fields.getD binds "property", document.revised (Fields.getD binds "patch"))
      else none
  | _, _ => none

/-- Answers a call on the document, which patches and changes of lists change. -/
def serve (equal : Value → Value → Bool) : Responder Value
  | .execute text binds options, document => match patch? document text binds with
      | some (property, changed) =>
          let value := ((pathBound? property).map changed.follow).getD .null
          (.ok (Server.cursorOf [.object [("_key", changed.follow ["_key"]), ("value", value)]]),
            changed)
      | none => StoredDocument.respond equal (.execute text binds options) document
  | c, document => StoredDocument.respond equal c document

variable (equal : Value → Value → Bool)

theorem patch?_of_text {text : String} (h : text ≠ patchStatement.text) (document binds : Value) :
    patch? document (.str text) binds = none := by
  cases binds with
  | object binds => simp [patch?, h]
  | _ => rfl

theorem serve_of_text {text : String} (h : text ≠ patchStatement.text) (binds : Value)
    (options : Fields) (document : Value) :
    serve equal (.execute (.str text) binds options) document =
      StoredDocument.respond equal (.execute (.str text) binds options) document := by
  simp only [serve, patch?_of_text h]

theorem patch?_patch (document : Value) (binds : Fields) :
    patch? document (.str patchStatement.text) (.object binds) =
      if (Fields.getD binds "key").same (document.follow ["_key"]) then
        some (Fields.getD binds "property", document.revised (Fields.getD binds "patch"))
      else none := by
  simp only [patch?, true_and]

theorem change?_patch (document : Value) (binds : Fields) :
    StoredDocument.change? equal document (.str patchStatement.text) (.object binds) = none := by
  rw [StoredDocument.change?, changeOf?_patch]
  rfl

theorem serve_of_patch {document text binds property changed : Value} (options : Fields)
    (h : patch? document text binds = some (property, changed)) :
    (serve equal (.execute text binds options) document).2 = changed := by
  simp only [serve, h]

/-- A query that neither patches nor changes a list leaves the document as it is. -/
theorem serve_of_none {document text binds : Value} (options : Fields)
    (hpatch : patch? document text binds = none)
    (hchange : StoredDocument.change? equal document text binds = none) :
    (serve equal (.execute text binds options) document).2 = document := by
  simp only [serve, hpatch, StoredDocument.respond, hchange]

/-- A patch is merged into the document that it is for. -/
theorem serve_patch (binds options : Fields) (document : Value) :
    (serve equal (.execute (.str patchStatement.text) (.object binds) options) document).2 =
      if (Fields.getD binds "key").same (document.follow ["_key"]) then
        document.revised (Fields.getD binds "patch")
      else document := by
  have hpatch := patch?_patch document binds
  split
  · rename_i h
    rw [if_pos h] at hpatch
    exact serve_of_patch equal options hpatch
  · rename_i h
    rw [if_neg h] at hpatch
    exact serve_of_none equal options hpatch (change?_patch equal document binds)

/-- A call that changes nothing is answered as by a server that knows no patches. -/
theorem serve_quiet {c : Call} (h : c.mutates = false) (document : Value) :
    serve equal c document = StoredDocument.respond equal c document := by
  cases c with
  | execute text binds options =>
      cases text with
      | str text =>
          refine serve_of_text equal ?_ binds options document
          rintro rfl
          have hmutates : (Call.execute (.str patchStatement.text) binds options).mutates = true :=
            Statement.mutates_of_writes rfl _ _
          rw [h] at hmutates
          cases hmutates
      | _ => rfl
  | _ => rfl

theorem faithful_serve : Faithful (serve equal) where
  quiet := by
    intro c hc document
    rw [serve_quiet equal hc]
    exact StoredDocument.respond_quiet equal hc document
  blind := by
    intro c hc document document'
    cases c with
    | client hosts => rfl
    | database name user password => rfl
    | collection name => rfl
    | _ => cases hc

/-- What only reads runs as on a server that knows no patches. -/
theorem run_serve {α : Type} {s : Session α} (h : s.Quiet Call.mutates) (document : Value) :
    s.run (serve equal) document = s.run (StoredDocument.respond equal) document := by
  induction s with
  | done a => rfl
  | fail e => rfl
  | log r next ih => simp only [Session.run, ih h]
  | call c next ih =>
      simp only [Session.run, serve_quiet equal h.1, StoredDocument.respond_quiet equal h.1,
        ih _ (h.2 _)]

theorem state_serve {α : Type} {s : Session α} (h : s.Quiet Call.mutates) (document : Value) :
    (s.run (serve equal) document).state = document := by
  rw [run_serve equal h, Quiet.state equal h]

end SharedDocument

/-! ## Writes of a list -/

/-- The call that adds a value to a list. -/
def pushCall (collection key : Value) (path : String) (value : Value) (unique : Bool) : Call :=
  let change := Request.changeList (ListChange.adding value) collection key path
    [("value", value), ("unique", .bool unique)]
  .execute (.str change.1.text) (.object change.2) []

/-- The call that puts a list in the place of another. -/
def setCall (collection key : Value) (path : String) (items : List Value) : Call :=
  .execute (.str patchStatement.text)
    (.object (baseBinds collection ++
      [("key", key), ("patch", nestedValue (Value.pathParts path) (.list items)),
        ("property", attributePath path)])) []

/-- The value that a call adds to a list. -/
def addedBy : Call → Value
  | .execute _ (.object binds) _ => Fields.getD binds "value"
  | _ => .null

theorem addedBy_pushCall (collection key : Value) (path : String) (value : Value) (unique : Bool) :
    addedBy (pushCall collection key path value unique) = value :=
  (StoredDocument.addingBinds _ collection key path value (.bool unique)).value

/-- Adding to a list is not putting another in its place. -/
theorem pushCall_ne_setCall (collection key : Value) (path : String) (value : Value) (unique : Bool)
    (collection' key' : Value) (items : List Value) :
    pushCall collection key path value unique ≠ setCall collection' key' path items := by
  intro h
  rw [pushCall, setCall, Call.execute.injEq, Value.str.injEq] at h
  exact ListChange.text_ne_patch _ _ h.1

/-- The calls by which a list at a path is changed. -/
inductive ListWrite (path : String) : Call → Prop
  | push (collection key value : Value) (unique : Bool) :
      ListWrite path (pushCall collection key path value unique)
  | set (collection key : Value) (items : List Value) :
      ListWrite path (setCall collection key path items)

theorem ListWrite.mutates {path : String} {c : Call} (h : ListWrite path c) : c.mutates = true := by
  cases h with
  | push collection key value unique => exact Statement.mutates_of_writes rfl _ _
  | set collection key items => exact Statement.mutates_of_writes rfl _ _

/-- A document with a key. -/
def Keyed (key : String) (document : Value) : Prop :=
  ∃ fields : Fields, document = .object fields ∧ fields.get? "_key" = some (.str key)

/-- A document that holds a list at a path, or nothing. -/
def HoldsList (path : String) (document : Value) : Prop :=
  (document.atPath path).Listy

/-- A document with a key, found before another: where it holds a list, the other does too. -/
structure Precedes (key path : String) (found later : Value) : Prop where
  keyed : Keyed key found
  list : HoldsList path found → HoldsList path later

theorem Keyed.precedes {key : String} {document : Value} (h : Keyed key document) (path : String) :
    Precedes key path document document := ⟨h, id⟩

section

open SharedDocument

variable (equal : Value → Value → Bool) {key path : String} {document : Value} {c : Call}

/-- The change of a list leaves the document as it is, or writes a list. -/
theorem change?_push (collection key : Value) (path : String) (value : Value) (unique : Bool)
    (document : Value) :
    let change := Request.changeList (ListChange.adding value) collection key path
      [("value", value), ("unique", .bool unique)]
    StoredDocument.change? equal document (.str change.1.text) (.object change.2) = none ∨
      ∃ found new, new.Listy ∧
        StoredDocument.change? equal document (.str change.1.text) (.object change.2) =
          some (found, document.patched (nestedValue (segments path) new)) := by
  intro change
  have hbinds : StoredDocument.AddingBinds key path value (.bool unique) change.2 :=
    StoredDocument.addingBinds _ collection key path value (.bool unique)
  have htext : changeOf? change.1.text =
      some (ListChange.adding value, (segments path).length) := changeOf?_text _ _
  simp only [StoredDocument.change?, htext, Option.bind_eq_bind, Option.bind_some, hbinds.parts,
    hbinds.property, hbinds.key, hbinds.value]
  cases pathBound? (attributePath path) with
  | none => exact .inl rfl
  | some found =>
      rw [Option.bind_some]
      split
      · exact .inr ⟨found, _, ListChange.listy_applied equal _ _ _ _, rfl⟩
      · exact .inl rfl

/-- What a list write makes of a document: nothing, or a list is written where the path leads. -/
theorem serve_write (h : ListWrite path c) (document : Value) :
    (serve equal c document).2 = document ∨
      (∃ new : Value, new.Listy ∧
        (serve equal c document).2 = document.patched (nestedValue (segments path) new)) ∨
      ∃ items, (serve equal c document).2 =
        document.revised (nestedValue (Value.pathParts path) (.list items)) := by
  cases h with
  | push collection key value unique =>
      have hother : (Request.changeList (ListChange.adding value) collection key path
          [("value", value), ("unique", .bool unique)]).1.text ≠ patchStatement.text :=
        ListChange.text_ne_patch _ _
      rw [pushCall, serve_of_text equal hother]
      rcases change?_push equal collection key path value unique document with
        hnone | ⟨found, new, hnew, hsome⟩
      · exact .inl (by simp only [StoredDocument.respond, hnone])
      · exact .inr (.inl ⟨new, hnew, by simp only [StoredDocument.respond, hsome]⟩)
  | set collection key items =>
      rw [setCall, serve_patch]
      split
      · exact .inr (.inr ⟨items, rfl⟩)
      · exact .inl rfl

/-- A value is added to the list of the document that has the key. -/
theorem serve_pushCall {fields : Fields} (hkey : fields.get? "_key" = some (.str key))
    (hpath : segments path ≠ []) (collection value : Value) (unique : Bool) :
    ∃ cursor, serve equal (pushCall collection (.str key) path value unique) (.object fields) =
      (.ok cursor, (Value.object fields).patched (nestedValue (segments path)
        ((ListChange.adding value).applied equal value unique
          ((Value.object fields).follow (segments path))))) := by
  have hother : (Request.changeList (ListChange.adding value) collection (.str key) path
      [("value", value), ("unique", .bool unique)]).1.text ≠ patchStatement.text :=
    ListChange.text_ne_patch _ _
  have hchange := StoredDocument.change?_changeList equal hkey hpath (ListChange.adding value)
    collection value unique
  rw [pushCall, serve_of_text equal hother]
  simp only [StoredDocument.respond, hchange]
  exact ⟨_, rfl⟩

theorem serve_push {fields : Fields} (hkey : fields.get? "_key" = some (.str key))
    (hpath : segments path ≠ []) (collection value : Value) (unique : Bool) :
    (serve equal (pushCall collection (.str key) path value unique) (.object fields)).2 =
      (Value.object fields).patched (nestedValue (segments path)
        ((ListChange.adding value).applied equal value unique
          ((Value.object fields).follow (segments path)))) := by
  obtain ⟨cursor, hanswer⟩ := serve_pushCall equal hkey hpath collection value unique
  rw [hanswer]

/-- A list is set in the document that has the key. -/
theorem serve_set {fields : Fields} (hkey : fields.get? "_key" = some (.str key)) (path : String)
    (collection : Value) (items : List Value) :
    (serve equal (setCall collection (.str key) path items) (.object fields)).2 =
      (Value.object fields).revised (nestedValue (Value.pathParts path) (.list items)) := by
  have hsame : (Value.str key).same ((Value.object fields).follow ["_key"]) = true := by
    simp [Value.follow, Fields.getD, hkey, Value.same, Value.text?]
  rw [setCall, serve_patch]
  exact if_pos hsame

/-- A list write at a path that does not lead to the key keeps the key. -/
theorem Keyed.write (hpath : (segments path).head? ≠ some "_key") (hparts : segments path ≠ [])
    (hdocument : Keyed key document) (h : ListWrite path c) :
    Keyed key (serve equal c document).2 := by
  obtain ⟨fields, rfl, hkey⟩ := hdocument
  rcases serve_write equal h (.object fields) with hsame | ⟨new, -, hnew⟩ | ⟨items, hitems⟩
  · rw [hsame]
    exact ⟨fields, rfl, hkey⟩
  · rw [hnew]
    cases hsegments : segments path with
    | nil => exact absurd hsegments hparts
    | cons part rest =>
        have hpart : part ≠ "_key" := by
          rintro rfl
          exact hpath (by rw [hsegments]; rfl)
        rw [Value.patched_nestedValue]
        exact ⟨_, rfl, (Fields.get?_set_of_ne _ hpart _).trans hkey⟩
  · rw [hitems]
    cases hsplit : Value.pathParts path with
    | nil => exact absurd (by rw [segments, hsplit]; rfl) hparts
    | cons part rest =>
        have hpart : part ≠ "_key" := by
          rintro rfl
          exact hpath (by simp [segments, hsplit])
        obtain ⟨later, hlater, hget⟩ := Value.written_object fields part rest (.list items)
        exact ⟨later, hlater, by rw [hget, if_neg hpart, hkey]⟩

/-- A list write leaves what stands at the path a list, or nothing. -/
theorem HoldsList.write (hdocument : HoldsList path document) (h : ListWrite path c) :
    HoldsList path (serve equal c document).2 := by
  rcases serve_write equal h document with hsame | ⟨new, hlisty, hnew⟩ | ⟨items, hitems⟩
  · rwa [hsame]
  · rw [hnew]
    exact Value.listy_follow_patched hlisty (Value.pathParts path) hdocument
  · have hwritten := document.follow_written (Value.pathParts path) (.list items)
    rw [Value.revised_of_other rfl] at hwritten
    rw [hitems]
    exact .inr (congrArg Value.isList hwritten)

end

end DocQuery
