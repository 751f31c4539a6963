import DocQuery.Proofs.SharedDocument

/-!
# Edits of a list

A client adds, removes or updates objects of a list in the document that it shares with others
(`SharedDocument.serve`).  It reads before it writes: what it writes is one list write
(`Client.writesList`), and the last of its calls (`Client.changesLast`).

An addition looks at the document once, and pushes one object.  Run alone on another document that
holds a list, it pushes the same, unless something speaks against the object there
(`addObject_again`).  An update that finds no object of its identity goes on as an addition
(`ListUpdate.insertion_cases`); one that finds some sets the whole list, as a removal does.
-/

namespace DocQuery

namespace Database

open Session SharedDocument

/-! ## Clients -/

/-- An update of the objects of an identity. -/
structure ListUpdate where
  /-- The field that tells objects apart. -/
  field : Value
  /-- The value that the objects have in it. -/
  identity : Value
  /-- The new fields. -/
  updated : Value
  /-- Whether they are set in an object or stand in its place. -/
  mode : ElementUpdate
  /-- Whether they are added as an object when there is none. -/
  addIfMissing : Bool
  /-- Whether such an object may be added that another is like. -/
  allowDuplicates : Bool

/-- An edit of the objects of a list. -/
inductive ListEdit where
  /-- An object is added, which a field tells apart. -/
  | add (object : Fields) (field : String)
  /-- The objects of an identity are removed. -/
  | remove (field identity : Value)
  /-- The objects of an identity are changed, or one is added. -/
  | update (u : ListUpdate)

/-- A client that edits a list of the document that it selects. -/
structure Client where
  /-- The database. -/
  db : Database
  /-- The collection of the document. -/
  collection : Value
  /-- What selects the document. -/
  selector : Selector
  /-- The edit. -/
  edit : ListEdit

/-- The session of a client on the list at a path. -/
def Client.session (client : Client) (path : String) : Session Value :=
  match client.edit with
  | .add object field =>
      addObject client.db client.collection client.selector (.str path) (.object object)
        (.str field)
  | .remove field identity =>
      removeObject client.db client.collection client.selector (.str path) field identity
  | .update u =>
      updateObject client.db client.collection client.selector (.str path) u.field u.identity
        u.updated u.mode u.addIfMissing u.allowDuplicates

theorem Client.session_of_add {client : Client} {object : Fields} {field : String}
    (h : client.edit = .add object field) (path : String) :
    client.session path = addObject client.db client.collection client.selector (.str path)
      (.object object) (.str field) := by
  simp only [session, h]

theorem Client.session_of_update {client : Client} {u : ListUpdate} (h : client.edit = .update u)
    (path : String) :
    client.session path = updateObject client.db client.collection client.selector (.str path)
      u.field u.identity u.updated u.mode u.addIfMissing u.allowDuplicates := by
  simp only [session, h]

/-- An edit changes the document by its last call. -/
theorem Client.changesLast (client : Client) (path : String) :
    ChangesLast (client.session path) := by
  have hpast : (client.session path).Past Call.mutates (Settled fun v => v ≠ .null) := by
    unfold Client.session
    split
    · exact past_addObject _ _ _ _ _ _
    · exact past_removeObject _ _ _ _ _ _
    · exact past_updateObject _ _ _ _ _ _ _ _ _ _
  refine hpast.mono fun t ht => ?_
  exact ht.mono (fun _ hc => hc) (fun _ _ => trivial) fun _ _ => trivial

/-! ## What an edit writes -/

/-- Sessions that change a document by list writes alone. -/
abbrev WritesList {α : Type} (path : String) (s : Session α) : Prop :=
  s.Meets (fun c => c.mutates = true → ListWrite path c) (fun _ => True) fun _ => True

section

variable {α β : Type} {path : String}

theorem WritesList.of_quiet {s : Session α} (h : s.Quiet Call.mutates) : WritesList path s := by
  refine h.mono (fun c hc hmutates => ?_) (fun _ he => he) fun _ ha => ha
  rw [hc] at hmutates
  cases hmutates

theorem WritesList.bind {s : Session α} {f : α → Session β} (h : WritesList path s)
    (hf : ∀ a, WritesList path (f a)) : WritesList path (s.bind f) := Meets.bind h fun a _ => hf a

/-- The call that runs the query of a request. -/
abbrev callOf (q : Query) : Call := .execute (.str q.text) (.object q.binds) []

/-- The rows of a request are asked for by one call. -/
theorem meets_rowsOf {called : Call → Prop} {r : Request} {q : Query} (hr : r.query = .ok q)
    (hcalled : called (callOf q)) :
    (rowsOf r).Meets called (fun _ => True) fun _ => True := by
  have hbuilt : (build r).Meets called (fun _ => True) fun built => built = q :=
    (meets_build r).2 ⟨fun built h => Except.ok.inj (h.symm.trans hr), fun _ _ => trivial⟩
  refine Meets.bind hbuilt ?_
  rintro built rfl
  have hasked : (ask (callOf built)).Meets called (fun _ => True) fun _ => True :=
    (meets_ask _).2 ⟨hcalled, fun _ => trivial, fun _ => trivial⟩
  exact Meets.bind hasked fun _ _ => trivial

/-- What is read of a list is at the path that was asked for. -/
theorem meets_readList (db : Database) (collection : Value) (selector : Selector)
    (path action : String) :
    (readList db collection selector (.str path) action).Meets
      (fun c => c.mutates = true → ListWrite path c) (fun _ => True)
      fun stored => stored.path = path := by
  refine Meets.bind (WritesList.of_quiet (quiet_readExisting db collection selector)) ?_
  intro document _
  simp [Value.asPath]

variable (db : Database) (collection : Value) (selector : Selector)

/-- Setting a property to a list puts that list there. -/
theorem meets_setProperty (items : List Value) :
    (setProperty db collection selector (.str path) (.list items)).Meets
      (fun c => c.mutates = true → ∃ key, c = setCall collection key path items) (fun _ => True)
      fun _ => True := by
  refine Meets.bind (Meets.mono (quiet_readExisting _ _ _) ?_ (fun _ he => he) fun _ ha => ha) ?_
  · intro c hc hmutates
    rw [hc] at hmutates
    cases hmutates
  · intro document _
    refine Meets.bind ((meets_ofExcept _).2 ⟨fun _ _ => trivial, fun _ _ => trivial⟩) ?_
    intro key _
    show ((rowsOf (.setProperty collection key path (.list items))).bind
      fun rows => done (Value.list rows)).Meets _ _ _
    exact Meets.bind (meets_rowsOf rfl fun _ => ⟨key, rfl⟩) fun _ _ => trivial

theorem writesList_setProperty (items : List Value) :
    WritesList path (setProperty db collection selector (.str path) (.list items)) := by
  refine (meets_setProperty db collection selector items).mono (fun c hc hmutates => ?_)
    (fun _ he => he) fun _ ha => ha
  obtain ⟨key, rfl⟩ := hc hmutates
  exact .set collection key items

theorem writesList_addNext (value : Value) (allowDuplicates : Bool) (field : Value)
    {stored : StoredList} (hpath : stored.path = path) :
    WritesList path (addNext collection value allowDuplicates field stored) := by
  subst hpath
  unfold addNext
  split
  · trivial
  · exact WritesList.bind (meets_rowsOf rfl fun _ => .push collection stored.key value _)
      fun _ => trivial

theorem writesList_addObject (value field : Value) :
    WritesList path (addObject db collection selector (.str path) value field) := by
  unfold addObject
  split
  · exact Meets.bind (meets_readList db collection selector path addAction)
      fun stored hpath => writesList_addNext collection value _ field hpath
  · trivial

theorem writesList_removeObject (field identity : Value) :
    WritesList path (removeObject db collection selector (.str path) field identity) := by
  refine Meets.bind (meets_readList db collection selector path removeAction) fun stored _ => ?_
  refine WritesList.bind (.of_quiet (quiet_ofUse _ _)) fun name? => ?_
  split
  · trivial
  · split
    · exact writesList_setProperty _ _ _ _
    · trivial

end

namespace ListUpdate

variable (db : Database) (collection : Value) (path : String) (u : ListUpdate)

/-- Whether no item has the identity. -/
def Missing (items : List Value) : Prop :=
  ∀ name, u.field = .str name → items.any (hasIdentity name u.identity) = false

/-- What an update does once the list is read. -/
def next (stored : StoredList) : Session Value := do
  let updated ← Session.ofUse u.updated.asFields
  match u.field with
  | .str name =>
      let updated := completed name u.identity updated
      if stored.items.any (hasIdentity name u.identity) then
        setProperty db collection (.value stored.key) (.str path)
          (.list (stored.items.map fun item =>
            if hasIdentity name u.identity item then changeItem u.mode updated item else item))
      else if u.addIfMissing then
        addMissing db collection stored name u.identity updated u.allowDuplicates
      else return .null
  | v =>
      let name ← Session.ofUse v.fieldName
      if u.addIfMissing then
        addUnnamed db collection stored v u.identity name updated u.allowDuplicates
      else return .null

/-- What an update does where there is no list, or none of the identity in it. -/
def insertion (key : Value) : Session Value := u.next db collection path ⟨key, path, none⟩

theorem updateObject_eq (selector : Selector) :
    updateObject db collection selector (.str path) u.field u.identity u.updated u.mode
        u.addIfMissing u.allowDuplicates =
      (readList db collection selector (.str path) updateAction).bind (u.next db collection path) :=
  rfl

variable {u}

theorem next_of_missing {key : Value} {items? : Option (List Value)}
    (h : u.Missing (StoredList.items ⟨key, path, items?⟩)) :
    u.next db collection path ⟨key, path, items?⟩ = u.insertion db collection path key := by
  unfold insertion next
  cases u.updated.asFields with
  | error m =>
      show (fail (.misuse m) : Session Value) = fail (.misuse m)
      rfl
  | ok updated =>
      simp only [ofUse_ok, bind_eq, done_bind]
      cases hfield : u.field with
      | str name =>
          have hnone : (StoredList.items ⟨key, path, none⟩).any (hasIdentity name u.identity) =
              false := rfl
          simp only [h name hfield, hnone, Bool.false_eq_true, if_false, addMissing]
      | _ => simp only [addUnnamed]

/-- Objects of the identity are changed by setting the list. -/
theorem meets_next_of_found {stored : StoredList} (h : ¬ u.Missing stored.items) :
    (u.next db collection path stored).Meets
      (fun c => c.mutates = true → ∃ key items, c = setCall collection key path items)
      (fun _ => True) fun _ => True := by
  obtain ⟨name, h⟩ := not_forall.1 h
  obtain ⟨hfield, hany⟩ := Classical.not_imp.1 h
  unfold next
  refine Meets.bind ((meets_ofUse _).2 ⟨fun _ _ => trivial, fun _ _ => trivial⟩) fun updated _ => ?_
  rw [hfield]
  simp only [Bool.not_eq_false] at hany
  simp only [hany, if_true]
  refine (meets_setProperty db collection _ _).mono (fun c hc hmutates => ?_) (fun _ he => he)
    fun _ ha => ha
  obtain ⟨key, rfl⟩ := hc hmutates
  exact ⟨key, _, rfl⟩

/-- Where none has the identity, nothing more is called, or one object is added. -/
theorem insertion_cases (u : ListUpdate) (key : Value) :
    (u.insertion db collection path key).Silent ∨
      ∃ object field, u.insertion db collection path key =
          addObject db collection (.value key) (.str path) (.object object) field ∧
        (field = .null ∨ ∃ name, field = .str name ∧ (name = "" ∨ u.field = .str name)) := by
  unfold insertion next
  cases u.updated.asFields with
  | error m => exact .inl trivial
  | ok updated =>
      simp only [ofUse_ok, bind_eq, done_bind]
      split
      next name hfield =>
        simp only [StoredList.items, Option.getD_none, List.any_nil, Bool.false_eq_true, if_false]
        split
        · unfold addMissing
          split
          · refine .inr ⟨_, _, rfl, ?_⟩
            split
            · exact .inl rfl
            · exact .inr ⟨name, rfl, .inr hfield⟩
          · exact .inl trivial
        · exact .inl trivial
      next =>
        cases u.field.fieldName with
        | error m => exact .inl trivial
        | ok name =>
            simp only [ofUse_ok, done_bind]
            split
            · unfold addUnnamed
              dsimp only
              split
              · exact .inl trivial
              · split
                · exact .inr ⟨_, _, rfl, .inl rfl⟩
                · exact .inr ⟨_, _, rfl, .inr ⟨"", rfl, .inl rfl⟩⟩
            · exact .inl trivial

end ListUpdate

section

variable {path : String}

theorem writesList_updateObject (db : Database) (collection : Value) (selector : Selector)
    (u : ListUpdate) :
    WritesList path (updateObject db collection selector (.str path) u.field u.identity u.updated
      u.mode u.addIfMissing u.allowDuplicates) := by
  rw [u.updateObject_eq]
  refine Meets.bind (meets_readList db collection selector path updateAction) ?_
  rintro ⟨key, path', items?⟩ hpath
  obtain rfl : path = path' := hpath.symm
  by_cases hmissing : u.Missing (StoredList.items ⟨key, path, items?⟩)
  · rw [u.next_of_missing db collection path hmissing]
    rcases u.insertion_cases db collection path key with hsilent | ⟨object, field, hadd, -⟩
    · exact hsilent.mono (fun _ hc => hc.elim) (fun _ he => he) fun _ ha => ha
    · rw [hadd]
      exact writesList_addObject _ _ _ _ _
  · refine (u.meets_next_of_found db collection path hmissing).mono (fun c hc hmutates => ?_)
      (fun _ he => he) fun _ ha => ha
    obtain ⟨key, items, rfl⟩ := hc hmutates
    exact .set collection key items

end

/-- All changes of an edit are list writes. -/
theorem Client.writesList (client : Client) (path : String) :
    WritesList path (client.session path) := by
  unfold Client.session
  split
  · exact writesList_addObject _ _ _ _ _
  · exact writesList_removeObject _ _ _ _ _
  · exact writesList_updateObject _ _ _ _

/-! ## An add looks at the document once -/

section

variable {α β : Type} {counts : Call → Bool}

theorem past_ask (c : Call) : (ask c).Past counts Silent := by
  intro answer
  split
  · cases answer <;> trivial
  · cases answer <;> trivial

theorem Past.bind_silent {s : Session α} {f : α → Session β} (h : s.Past counts Silent)
    (hf : ∀ a, (f a).Silent) : (s.bind f).Past counts Silent :=
  Past.bind h (fun _ ht => Meets.bind ht fun a _ => hf a) fun a => Silent.past (hf a)

/-- Whatever selects a document, it is looked at once. -/
theorem past_select (db : Database) (collection : Value) (selector : Selector) :
    (select db collection selector).Past Call.looks Silent := by
  have hget (args : List Value) :
      (onCollection collection .get args []).Past Call.looks Silent :=
    .bind_quiet (quiet_ask rfl) fun _ => past_ask _
  cases selector with
  | value v => exact hget _
  | identifier i =>
      simp only [select]
      split
      · refine .bind_quiet (quiet_ofExcept _ _) fun p => ?_
        refine .bind_quiet (quiet_ofExcept _ _) fun criteria => ?_
        refine .bind_quiet (quiet_build _ _) fun q => ?_
        refine Past.bind_silent ?_ fun _ => trivial
        exact .bind_quiet (quiet_ofUse _ _) fun _ =>
          .bind_quiet (quiet_ofUse _ _) fun _ => past_ask _
      · exact hget _

theorem past_readList (db : Database) (collection : Value) (selector : Selector)
    (path action : String) :
    (readList db collection selector (.str path) action).Past Call.looks Silent := by
  refine Past.bind_silent ?_ fun document => ?_
  · have hread : (read? db collection selector).Past Call.looks Silent :=
      Past.bind_silent (past_select db collection selector) fun _ => trivial
    refine Past.bind_silent hread fun document? => ?_
    cases document? <;> trivial
  · simp [Value.asPath]

theorem onlyChanges_addNext (collection value : Value) (allowDuplicates : Bool) (field : Value)
    (stored : StoredList) :
    OnlyChanges (addNext collection value allowDuplicates field stored) := by
  unfold addNext
  split
  · trivial
  · have hpush : (pushCall collection stored.key stored.path value
        (addsUnique value allowDuplicates)).mutates = true := ListWrite.mutates (.push _ _ _ _)
    exact Meets.bind (meets_rowsOf rfl fun _ => hpush) fun _ _ => trivial

end

theorem looksOnce_addObject (db : Database) (collection : Value) (selector : Selector)
    (path : String) (value field : Value) :
    LooksOnce (addObject db collection selector (.str path) value field) := by
  unfold addObject
  split
  · exact LooksOnce.bind (past_readList _ _ _ _ _) fun _ => onlyChanges_addNext _ _ _ _ _
  · trivial

/-! ## An add done again -/

/-- The items of the list at a path, none when there is no list. -/
def itemsAt (path : String) (document : Value) : List Value :=
  ((document.atPath path).items?).getD []

theorem holdsList_of_listAt {action path : String} {document : Value} {items? : Option (List Value)}
    (h : listAt action document path = .ok items?) : HoldsList path document := by
  unfold listAt at h
  split at h
  next hnull => exact .inl (by rw [hnull]; rfl)
  next items hitems => exact .inr (by rw [hitems]; rfl)
  next => cases h

theorem listAt_of_holdsList {path : String} {document : Value} (h : HoldsList path document)
    (action : String) :
    ∃ items?, listAt action document path = .ok items? ∧
      items?.getD [] = itemsAt path document := by
  unfold HoldsList at h
  unfold listAt itemsAt
  cases hv : document.atPath path with
  | null => exact ⟨none, rfl, rfl⟩
  | list items => exact ⟨some items, rfl, rfl⟩
  | _ =>
      rw [hv] at h
      rcases h with h | h <;> cases h

/-- An object that may be added to some items may be added to others that hold none like it. -/
theorem fieldError?_later {field : String} {items later : List Value} {object : Fields}
    (h : fieldError? field items object = none)
    (hlater : fieldError? field later object ≠ some .duplicate) :
    fieldError? field later object = none := by
  unfold fieldError? at h hlater ⊢
  dsimp only at h hlater ⊢
  split at h
  · cases h
  · rename_i hmarker
    rw [if_neg hmarker] at hlater ⊢
    split at hlater
    · exact absurd rfl hlater
    · rename_i hnone
      rw [if_neg hnone]

theorem addFailure?_later {field : String} {items later : List Value} {object : Fields}
    (h : addFailure? (.object object) false (.str field) items = none)
    (hlater : fieldError? field later object ≠ some .duplicate) :
    addFailure? (.object object) false (.str field) later = none := by
  have hnone : fieldError? field items object = none := Option.map_eq_none_iff.1 h
  exact Option.map_eq_none_iff.2 (fieldError?_later hnone hlater)

/-- The rows of a request, listed, take one call. -/
theorem run_listed {σ : Type} (respond : Responder σ) {r : Request} {q : Query}
    (hr : r.query = .ok q) (st : σ) :
    (((rowsOf r).bind fun rows => done (Value.list rows)).run respond st).calls = [callOf q] ∧
      (((rowsOf r).bind fun rows => done (Value.list rows)).run respond st).state =
        (respond (callOf q) st).2 := by
  have hrows : (rowsOf r).bind (fun rows => done (Value.list rows)) =
      (build r).bind fun q => (execute (.prebuilt q) .null []).bind fun cursor =>
        done (Value.list cursor.rows) := by
    simp only [rowsOf, bind_eq, pure_eq, Session.bind_assoc, done_bind]
  obtain ⟨-, hcalls, hstate⟩ := (returns_build respond hr st).run_bind fun q =>
    (execute (.prebuilt q) .null []).bind fun cursor => done (Value.list cursor.rows)
  rw [hrows]
  refine ⟨hcalls.trans ?_, hstate.trans ?_⟩
  · show (((ask (callOf q)).bind fun cursor =>
      done (Value.list cursor.rows)).run respond st).calls = _
    rw [run_bind, run_ask]
    cases (respond (callOf q) st).1 <;> rfl
  · show (((ask (callOf q)).bind fun cursor =>
      done (Value.list cursor.rows)).run respond st).state = _
    rw [run_bind, run_ask]
    cases (respond (callOf q) st).1 <;> rfl

section

variable (equal : Value → Value → Bool) {key path : String}

theorem result_readList_served {fields : Fields} {key : Value}
    (hkey : fields.get? "_key" = some key) (db : Database) (collection : Value)
    (selector : Selector) (path action : String) :
    ((readList db collection selector (.str path) action).run (serve equal)
        (.object fields)).result =
      (((select db collection selector).run (StoredDocument.respond equal)
          (.object fields)).result.bind fun _ =>
        ((listAt action (.object fields) path).mapError Failure.input).map
          (StoredList.mk key path)) := by
  rw [run_serve equal (quiet_readList db collection selector (.str path) action)]
  exact result_readList equal hkey db collection selector path action

/-- A list that has been read of one document is read of another that holds one. -/
theorem readList_again {found written : Value} (hfound : Precedes key path found written)
    (hwritten : Keyed key written)
    {db : Database} {collection : Value} {selector : Selector} {action : String}
    {stored : StoredList}
    (hread : ((readList db collection selector (.str path) action).run (serve equal) found).result =
      .ok stored) :
    ∃ items? items'?, stored = ⟨.str key, path, items?⟩ ∧
      ((readList db collection selector (.str path) action).run (serve equal) written).result =
        .ok ⟨.str key, path, items'?⟩ ∧
      items'?.getD [] = itemsAt path written := by
  obtain ⟨⟨fields, rfl, hkey⟩, hlist⟩ := hfound
  obtain ⟨later, rfl, hkey'⟩ := hwritten
  obtain ⟨outcome, houtcome⟩ := select_outcome equal db collection selector
  rw [result_readList_served equal hkey, houtcome hkey] at hread
  rw [result_readList_served equal hkey', houtcome hkey']
  cases outcome with
  | error e => cases hread
  | ok _ =>
      cases hitems : listAt action (.object fields) path with
      | error e =>
          rw [hitems] at hread
          cases hread
      | ok items? =>
          rw [hitems] at hread
          obtain ⟨items'?, hitems', hsame⟩ :=
            listAt_of_holdsList (hlist (holdsList_of_listAt hitems)) action
          rw [hitems']
          exact ⟨items?, items'?, (Except.ok.inj hread).symm, rfl, hsame⟩

/-- Once the list is read, an object is refused or pushed. -/
theorem run_addNext (collection : Value) (object : Fields) (allowDuplicates : Bool) (field : Value)
    (stored : StoredList) (document : Value) :
    let run := (addNext collection (.object object) allowDuplicates field stored).run (serve equal)
      document
    (∀ e, addFailure? (.object object) allowDuplicates field stored.items = some e →
        run.calls = []) ∧
      (addFailure? (.object object) allowDuplicates field stored.items = none →
        let push := pushCall collection stored.key stored.path (.object object) false
        run.calls = [push] ∧ run.state = (serve equal push document).2) := by
  let change := Request.changeList (ListChange.adding (.object object)) collection stored.key
    stored.path [("value", .object object), ("unique", .bool false)]
  have hquery : (Request.addToList collection stored.key stored.path (.object object)
      (.bool false)).query = .ok (change.1.query change.2) := rfl
  constructor
  · intro e he
    simp only [addNext, he]
    rfl
  · intro hnone
    simp only [addNext, hnone]
    exact run_listed (serve equal) hquery document

/-- What has been pushed in adding an object is pushed again, by the same addition run alone on
another document, unless something speaks against it there. -/
theorem addObject_again {db : Database} {collection : Value} {selector : Selector}
    {object : Fields} {field : Value} {found written : Value}
    (hfound : Precedes key path found written) (hwritten : Keyed key written) {c : Call}
    (hc : c ∈ ((addObject db collection selector (.str path) (.object object) field).run
      (serve equal) found).calls) (hmutates : c.mutates = true)
    (hlater : ∀ items, addFailure? (.object object) field.isNull field items = none →
      c = pushCall collection (.str key) path (.object object) false →
        addFailure? (.object object) field.isNull field (itemsAt path written) = none) :
    ((addObject db collection selector (.str path) (.object object) field).run
      (serve equal) written).state = (serve equal c written).2 := by
  have hadd : addObject db collection selector (.str path) (.object object) field =
      (readList db collection selector (.str path) addAction).bind
        (addNext collection (.object object) field.isNull field) := rfl
  have hquiet := quiet_readList db collection selector (.str path) addAction
  rw [hadd] at hc ⊢
  rcases mem_calls_bind (serve equal) hc with hmem | ⟨stored, hread, hpushed⟩
  · have hreads := (Meets.run (serve equal) hquiet found).1 c hmem
    rw [hmutates] at hreads
    cases hreads
  · rw [state_serve equal hquiet] at hpushed
    obtain ⟨items?, items'?, rfl, hread', hsame⟩ :=
      readList_again equal hfound hwritten hread
    obtain ⟨hrefused, hpush⟩ := run_addNext equal collection object field.isNull field
      ⟨.str key, path, items?⟩ found
    cases herror : addFailure? (.object object) field.isNull field (items?.getD []) with
    | some e =>
        rw [hrefused e herror] at hpushed
        cases hpushed
    | none =>
        rw [(hpush herror).1, List.mem_singleton] at hpushed
        have hnone := hlater _ herror hpushed
        rw [← hsame] at hnone
        obtain ⟨-, -, hended⟩ := Returns.run_bind ⟨hread', rfl, state_serve equal hquiet written⟩
          (addNext collection (.object object) field.isNull field)
        rw [hended, hpushed]
        exact ((run_addNext equal collection object field.isNull field
          ⟨.str key, path, items'?⟩ written).2 hnone).2

end

end Database

end DocQuery
