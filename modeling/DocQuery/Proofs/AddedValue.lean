import DocQuery.Proofs.Refusals
import DocQuery.Proofs.StoredDocument

/-!
# Adding to a list of a stored document

On a server that holds one document, whatever selects it, the document is what is read
(`result_select`), and what only reads leaves it as it is (`Quiet.state`).

A value is added by one query after the document was read, unless the list or the value speaks
against it (`adds_addToList`).  The document then is as `added` says.
-/

namespace DocQuery

open StoredDocument

/-! ## Reading the document -/

section

variable (equal : Value → Value → Bool)

/-- Only a query with a word that changes documents changes the document. -/
theorem StoredDocument.change?_of_quiet {text binds : Value} {options : Fields}
    (h : (Call.execute text binds options).mutates = false) (document : Value) :
    change? equal document text binds = none := by
  cases text with
  | str text =>
      cases binds with
      | object binds =>
          have hunknown : changeOf? text = none := by
            cases hfound : changeOf? text with
            | none => rfl
            | some found =>
                have htext : (found.1.statement found.2).text = text := by
                  simpa using List.find?_some hfound
                have hmutates : (Call.execute (.str (found.1.statement found.2).text)
                    (.object binds) options).mutates = true :=
                  Statement.mutates_of_writes rfl _ _
                rw [htext, h] at hmutates
                cases hmutates
          simp [change?, hunknown]
      | _ => rfl
  | _ => rfl

theorem StoredDocument.respond_quiet {c : Call} (h : c.mutates = false) (document : Value) :
    (respond equal c document).2 = document := by
  cases c with
  | execute text binds options => simp [respond, change?_of_quiet equal h]
  | _ => rfl

namespace Session

theorem Quiet.state {α : Type} {s : Session α} (h : s.Quiet Call.mutates) (document : Value) :
    (s.run (respond equal) document).state = document := by
  induction s with
  | done a => rfl
  | fail e => rfl
  | log r next ih => exact ih h
  | call c next ih =>
      have hrest := ih (respond equal c document).1 (h.2 _)
      simpa only [run, respond_quiet equal h.1] using hrest

end Session

namespace Database

open Session

theorem isTrue_of_key {fields : Fields} {v : Value} (h : fields.get? "_key" = some v) :
    (Value.object fields).isTrue = true := by
  cases fields with
  | nil => cases h
  | cons _ _ => rfl

/-- A query that only reads gives the document. -/
theorem result_firstOfRequest {r : Request} {q : Query} (hr : r.query = .ok q)
    (h : hasChangingWord q.text = false) (db : Database) {fields : Fields} {key : Value}
    (hkey : fields.get? "_key" = some key) :
    ((firstOfRequest r (db.fetchOptions none)).run (respond equal) (.object fields)).result =
      .ok (.object fields) := by
  have hquiet : (Call.execute (.str q.text) (.object q.binds) []).mutates = false := h
  have hanswer : respond equal (.execute (.str q.text) (.object q.binds) []) (.object fields) =
      (.ok (Server.cursorOf [.object fields]), .object fields) := by
    simp [respond, change?_of_quiet equal hquiet]
  have hone : Returns (respond equal) (.object fields)
      (returnOne (.prebuilt q) (db.fetchOptions none)) _ _ _ :=
    (Returns.ask (congrArg Prod.fst hanswer)).bind
      (Returns.done (firstDocument none (Server.cursorOf [.object fields]).rows))
  refine ((returns_build _ hr _).bind hone).result.trans ?_
  simp [Server.cursorOf, firstDocument, isTrue_of_key hkey, Trim.document]

/-- Whether the document is read depends on what selects it, not on the document. -/
theorem select_outcome (db : Database) (collection : Value) (selector : Selector) :
    ∃ outcome : Except Failure Unit, ∀ {fields : Fields} {key : Value},
      fields.get? "_key" = some key →
        ((select db collection selector).run (respond equal) (.object fields)).result =
          outcome.map fun _ => .object fields := by
  cases selector with
  | value key => exact ⟨.ok (), fun _ => rfl⟩
  | identifier i =>
      simp only [select]
      split
      next property _ =>
        cases hp : Failure.ofChecked "NamedValue" (NamedValue.named property i.value.toValue) with
        | error e => exact ⟨.error e, fun _ => by rw [selection, hp]; rfl⟩
        | ok p =>
            obtain ⟨q, hquery, hreads⟩ := query_selecting db collection p
            refine ⟨.ok (), fun hkey => ?_⟩
            rw [selection, hp]
            exact result_firstOfRequest equal hquery hreads db hkey
      next => exact ⟨.ok (), fun _ => rfl⟩

/-- Whatever selects the document, it is what is read. -/
theorem result_select {fields : Fields} {key : Value} (hkey : fields.get? "_key" = some key)
    (db : Database) (collection : Value) (selector : Selector) {v : Value}
    (h : ((select db collection selector).run (respond equal) (.object fields)).result = .ok v) :
    v = .object fields := by
  obtain ⟨outcome, houtcome⟩ := select_outcome equal db collection selector
  rw [houtcome hkey] at h
  cases outcome with
  | error e => cases h
  | ok _ => exact (Except.ok.inj h).symm

/-! ## Adding to a list -/

section

variable {fields : Fields} {key : Value} (hkey : fields.get? "_key" = some key) (db : Database)
  (collection : Value) (selector : Selector)
include hkey

/-- Reading the document fails as selecting it does. -/
theorem result_readExisting :
    ((readExisting db collection selector).run (respond equal) (.object fields)).result =
      ((select db collection selector).run (respond equal) (.object fields)).result.map
        fun _ => .object fields := by
  rw [readExisting, bind_eq, result_bind, read?, bind_eq, result_bind]
  cases hselect : ((select db collection selector).run (respond equal) (.object fields)).result with
  | error e => rfl
  | ok v =>
      obtain rfl := result_select equal hkey db collection selector hselect
      simp [run, Except.bind, Except.map, isTrue_of_key hkey]

/-- What is read before a list is changed is the key and the list of the document. -/
theorem result_readList (path action : String) :
    ((readList db collection selector (.str path) action).run (respond equal)
      (.object fields)).result =
      (((select db collection selector).run (respond equal) (.object fields)).result.bind fun _ =>
        ((listAt action (.object fields) path).mapError Failure.input).map
          (StoredList.mk key path)) := by
  rw [readList, bind_eq, result_bind, result_readExisting equal hkey,
    Quiet.state equal (quiet_readExisting db collection selector)]
  cases ((select db collection selector).run (respond equal) (.object fields)).result with
  | error e => rfl
  | ok v =>
      cases hlist : listAt action (.object fields) path with
      | error e => simp [Except.bind, Except.map, Except.mapError, Value.asPath, hlist, run]
      | ok items? =>
          simp [Except.bind, Except.map, Except.mapError, Value.asPath, hlist, keyOf, Value.named,
            hkey, run]

theorem readList_ok {path action : String} {stored : StoredList}
    (h : ((readList db collection selector (.str path) action).run (respond equal)
      (.object fields)).result = .ok stored) :
    ∃ items?, listAt action (.object fields) path = .ok items? ∧ stored = ⟨key, path, items?⟩ := by
  rw [result_readList equal hkey] at h
  cases hselect : ((select db collection selector).run (respond equal) (.object fields)).result with
  | error e =>
      rw [hselect] at h
      cases h
  | ok v =>
      rw [hselect] at h
      cases hlist : listAt action (.object fields) path with
      | error e =>
          rw [hlist] at h
          cases h
      | ok items? =>
          rw [hlist] at h
          exact ⟨items?, rfl, (Except.ok.inj h).symm⟩

end

/-- Why a value may not be added to some items. -/
def addFailure? (value : Value) (allowDuplicates : Bool) (field : Value) (items : List Value) :
    Option Failure :=
  match value with
  | .object object => if allowDuplicates then none else uniquenessFailure? field items object
  | _ => none

/-- Whether the server leaves out values that are there already. -/
def addsUnique (value : Value) (allowDuplicates : Bool) : Bool :=
  !value.isObject && !allowDuplicates

/-- The document after a value was added at a path. -/
def added (document : Value) (path : String) (value : Value) (allowDuplicates : Bool) : Value :=
  document.patched (Request.nestedValue (segments path)
    ((ListChange.adding value).applied equal value (addsUnique value allowDuplicates)
      (document.follow (segments path))))

/-- What comes of adding a value: it fails and the document is as before, or nothing spoke
against it and the document is changed. -/
inductive Adds (document : Value) (path : String) (value : Value) (allowDuplicates : Bool)
    (field : Value) (r : Run Value Value) : Prop where
  | kept (e : Failure) (result : r.result = .error e)
      (calls : ∀ c ∈ r.calls, c.mutates = false) (state : r.state = document)
  | changed (items? : Option (List Value)) (found : listAt addAction document path = .ok items?)
      (unique : addFailure? value allowDuplicates field (items?.getD []) = none)
      (calls : r.calls.any Call.mutates = true)
      (state : r.state = added equal document path value allowDuplicates)

/-- What is done once the list is read. -/
def addNext (collection value : Value) (allowDuplicates : Bool) (field : Value)
    (stored : StoredList) : Session Value :=
  match addFailure? value allowDuplicates field stored.items with
  | some e => fail e
  | none => (rowsOf (.addToList collection stored.key stored.path value
      (.bool (addsUnique value allowDuplicates)))).bind fun rows => done (.list rows)

theorem addToList_eq (db : Database) (collection : Value) (selector : Selector)
    (property value : Value) (allowDuplicates : Bool) (field : Value) :
    addToList db collection selector property value allowDuplicates field =
      (readList db collection selector property addAction).bind
        (addNext collection value allowDuplicates field) := rfl

/-- Where nothing speaks against it, one query changes the document as `added` says. -/
theorem returns_addNext {fields : Fields} {key path : String}
    (hkey : fields.get? "_key" = some (.str key)) (hpath : segments path ≠ [])
    (collection value : Value) (allowDuplicates : Bool) (field : Value)
    {items? : Option (List Value)}
    (hunique : addFailure? value allowDuplicates field (items?.getD []) = none) :
    ∃ c rows, c.mutates = true ∧ Returns (respond equal) (.object fields)
      (addNext collection value allowDuplicates field ⟨.str key, path, items?⟩) [c] (.list rows)
      (added equal (.object fields) path value allowDuplicates) := by
  let unique := addsUnique value allowDuplicates
  let change := Request.changeList (ListChange.adding value) collection (.str key) path
    [("value", value), ("unique", .bool unique)]
  have hquery : (Request.addToList collection (.str key) path value (.bool unique)).query =
      .ok (change.1.query change.2) := rfl
  have hchange := change?_changeList equal hkey hpath (ListChange.adding value) collection value
    unique
  let c := Call.execute (.str change.1.text) (.object change.2) []
  obtain ⟨cursor, hanswer⟩ : ∃ cursor, respond equal c (.object fields) =
      (.ok cursor, added equal (.object fields) path value allowDuplicates) := by
    simp only [c, respond, change, hchange]
    exact ⟨_, rfl⟩
  have hrows := returns_rowsOf (respond equal) hquery hanswer
  refine ⟨c, cursor.rows, Statement.mutates_of_writes rfl _ _, ?_⟩
  simp only [addNext, StoredList.items, hunique]
  exact hrows.bind (Returns.done (Value.list cursor.rows))

section

variable {fields : Fields} {key path : String} (hkey : fields.get? "_key" = some (.str key))
  (hpath : segments path ≠ []) (db : Database) (collection : Value) (selector : Selector)
  (value : Value) (allowDuplicates : Bool) (field : Value)
include hkey hpath

/-- A value is added to the list that was read, unless something speaks against it. -/
theorem addToList_changes {items? : Option (List Value)}
    (hread : ((readList db collection selector (.str path) addAction).run (respond equal)
      (.object fields)).result = .ok ⟨.str key, path, items?⟩)
    (hunique : addFailure? value allowDuplicates field (items?.getD []) = none) :
    let r := (addToList db collection selector (.str path) value allowDuplicates field).run
      (respond equal) (.object fields)
    r.calls.any Call.mutates = true ∧
      r.state = added equal (.object fields) path value allowDuplicates := by
  have hstate := Quiet.state equal (quiet_readList db collection selector (.str path) addAction)
    (.object fields)
  obtain ⟨c, rows, hmutates, hnext⟩ :=
    returns_addNext equal hkey hpath collection value allowDuplicates field hunique
  obtain ⟨-, hcalls, hended⟩ := Returns.run_bind ⟨hread, rfl, hstate⟩
    (addNext collection value allowDuplicates field)
  intro r
  refine ⟨?_, hended.trans hnext.state⟩
  rw [show r.calls = _ from hcalls, hnext.calls]
  simp [hmutates]

theorem adds_addToList :
    Adds equal (.object fields) path value allowDuplicates field
      ((addToList db collection selector (.str path) value allowDuplicates field).run
        (respond equal) (.object fields)) := by
  have hquiet := quiet_readList db collection selector (.str path) addAction
  have hstate := Quiet.state equal hquiet (.object fields)
  have hcalls := (Meets.run (respond equal) hquiet (.object fields)).1
  cases hread : ((readList db collection selector (.str path) addAction).run (respond equal)
      (.object fields)).result with
  | error e =>
      obtain ⟨hr, hc, hs⟩ := run_bind_of_error (respond equal) hread
        (addNext collection value allowDuplicates field)
      exact .kept e hr (fun c h => hcalls c (hc ▸ h)) (hs.trans hstate)
  | ok stored =>
      obtain ⟨items?, hlist, rfl⟩ := readList_ok equal hkey db collection selector hread
      cases hfail : addFailure? value allowDuplicates field (items?.getD []) with
      | some e =>
          obtain ⟨hr, hc, hs⟩ := Returns.run_bind ⟨hread, rfl, hstate⟩
            (addNext collection value allowDuplicates field)
          have hnext : addNext collection value allowDuplicates field ⟨.str key, path, items?⟩ =
              fail e := by simp only [addNext, StoredList.items, hfail]
          rw [hnext] at hr hc hs
          refine .kept e hr (fun c h => hcalls c ?_) hs
          rwa [addToList_eq, hc, run, List.append_nil] at h
      | none =>
          obtain ⟨hmutates, hadded⟩ := addToList_changes equal hkey hpath db collection selector
            value allowDuplicates field hread hfail
          exact .changed items? hlist hfail hmutates hadded

omit hpath in
/-- What is no list is refused as soon as the document is read. -/
theorem addToList_refused {v : Value} {e : InputError}
    (hselect : ((select db collection selector).run (respond equal) (.object fields)).result =
      .ok v) (hlist : listAt addAction (.object fields) path = .error e) :
    let r := (addToList db collection selector (.str path) value allowDuplicates field).run
      (respond equal) (.object fields)
    r.result = .error (.input e) ∧ ∀ c ∈ r.calls, c.mutates = false := by
  have hquiet := quiet_readList db collection selector (.str path) addAction
  have hread := result_readList equal hkey db collection selector path addAction
  rw [hselect, hlist] at hread
  obtain ⟨hr, hc, -⟩ := run_bind_of_error (respond equal) hread
    (addNext collection value allowDuplicates field)
  exact ⟨hr, fun c h => (Meets.run (respond equal) hquiet (.object fields)).1 c (hc ▸ h)⟩

end

end Database

end

end DocQuery
