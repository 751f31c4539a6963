import DocQuery.Database.Operation
import DocQuery.Database.Server
import DocQuery.Proofs.FirstChange

/-!
# Refusals

An operation refuses what it is asked when its input is unusable or its document is not
there.  A refused operation has changed nothing that is stored, whatever the server answers
(`refused_writes_nothing`), and those that need nothing from the server to refuse have not
even called it.

The operations are taken apart step by step.  What comes before the first change of each only
reads: the query by which a document is looked up has no word that changes it
(`query_selecting`).  From there on nothing is refused (`past_perform`), and the operations on
lists make no further call (`past_perform_list`).
-/

namespace DocQuery

namespace Database

open Session

/-! ## Queries -/

theorem steady_ofUse {α : Type} (outcome : Except Misuse α) : (ofUse outcome).Steady := by
  simp [Failure.refuses]

theorem steady_ofChecked {α : Type} (name : String) (checked : Schema.Checked α) :
    (ofExcept (Failure.ofChecked name checked)).Steady :=
  (meets_ofExcept _).2 ⟨fun _ _ => trivial, fun _ he => Failure.refuses_of_checked he⟩

theorem steady_ask (c : Call) : (ask c).Steady := by simp [Failure.refuses]

theorem steady_execute (q : QueryInput) (added : Value) (options : Fields) :
    (execute q added options).Steady := by
  cases q with
  | bare v => exact steady_ask _
  | prebuilt q => exact (steady_ofUse _).bind fun _ => steady_ask _

theorem steady_executeWith (q : QueryInput) (options : Fields) :
    (executeWith q options).Steady :=
  (steady_ofUse _).bind fun _ => steady_execute _ _ _

theorem steady_returnAll (q : QueryInput) (options : FetchOptions) :
    (returnAll q options).Steady :=
  (steady_executeWith _ _).bind fun _ => steady_ofChecked _ _

theorem steady_returnOne (q : QueryInput) (options : FetchOptions) :
    (returnOne q options).Steady :=
  (steady_executeWith _ _).bind fun _ => trivial

theorem steady_fetch (q : Query) (options : FetchOptions) : (fetch q options).Steady := by
  unfold fetch
  refine (steady_executeWith _ _).bind fun cursor => ?_
  split
  · trivial
  · exact (steady_ofUse _).bind fun _ => (steady_ofChecked _ _).bind fun _ => trivial

theorem quiet_ask {counts : Call → Bool} {c : Call} (h : counts c = false) :
    (ask c).Quiet counts := (meets_ask c).2 ⟨h, fun _ => trivial, fun _ => trivial⟩

theorem quiet_ofExcept {α : Type} (counts : Call → Bool) (outcome : Except Failure α) :
    (ofExcept outcome).Quiet counts := by simp

theorem quiet_ofUse {α : Type} (counts : Call → Bool) (outcome : Except Misuse α) :
    (ofUse outcome).Quiet counts := by simp

/-- Building a query calls no server. -/
theorem meets_build {called : Call → Prop} {failed : Failure → Prop} {post : Query → Prop}
    (r : Request) :
    (build r).Meets called failed post ↔
      (∀ q, r.query = .ok q → post q) ∧ ∀ e, r.query = .error e → failed e := by
  simp [build]

theorem quiet_build (counts : Call → Bool) (r : Request) : (build r).Quiet counts :=
  (meets_build r).2 ⟨fun _ _ => trivial, fun _ _ => trivial⟩

theorem past_rowsOf (counts : Call → Bool) (r : Request) : (rowsOf r).Past counts Steady :=
  .bind_quiet (quiet_build counts r) fun _ =>
    .of_steady ((steady_execute _ _ _).bind fun _ => trivial)

theorem past_fetchRequest (counts : Call → Bool) (r : Request) (options : FetchOptions) :
    (fetchRequest r options).Past counts Steady :=
  .bind_quiet (quiet_build counts r) fun _ => .of_steady (steady_fetch _ _)

theorem past_firstOfRequest (counts : Call → Bool) (r : Request) (options : FetchOptions) :
    (firstOfRequest r options).Past counts Steady :=
  .bind_quiet (quiet_build counts r) fun _ => .of_steady (steady_returnOne _ _)

/-- A query with parameters is one call, and what comes back is settled. -/
theorem past_execute_settled {post : Value → Prop} (q : Query) (f : Cursor → Value)
    (hpost : ∀ cursor, post (f cursor)) :
    ((execute (.prebuilt q) .null []).bind fun cursor => done (f cursor)).Past Call.mutates
      (Settled post) := by
  intro answer
  have hsettled : Settled post ((match answer with
      | .ok cursor => done cursor
      | .error fault => fail (.fault fault)).bind fun cursor => done (f cursor)) := by
    cases answer with
    | ok cursor => exact hpost cursor
    | error fault => rfl
  cases answer with
  | ok cursor => split <;> trivial
  | error fault => split <;> trivial

/-! ## Reading -/

/-- A document is looked up by the value of a property without a word that changes it. -/
theorem query_selecting (db : Database) (collection : Value) (p : NamedValue) :
    ∃ q, (Request.byValues collection (.one p) .any (some (db.fetchOptions none)) none).query =
      .ok q ∧ hasChangingWord q.text = false := by
  simp only [Request.query, Request.plan, Request.valuesCondition, Equalities.compile,
    NamedValue.test]
  cases p.lowerText? false with
  | none =>
      exact ⟨_, rfl, (by decide +kernel :
        hasChangingWord "FOR d IN @@collection FILTER d.@prop == @val RETURN d" = false)⟩
  | some s =>
      exact ⟨_, rfl, (by decide +kernel :
        hasChangingWord "FOR d IN @@collection FILTER LOWER(d.@prop) == @val RETURN d" = false)⟩

theorem quiet_returnOne {q : Query} (h : hasChangingWord q.text = false)
    (options : FetchOptions) : (returnOne (.prebuilt q) options).Quiet Call.mutates := by
  refine Quiet.bind (Quiet.bind (quiet_ofUse _ _) fun _ => ?_) fun _ => trivial
  exact Quiet.bind (quiet_ofUse _ _) fun _ => quiet_ask h

theorem quiet_get (collection : Value) (args : List Value) (options : Fields) :
    (onCollection collection .get args options).Quiet Call.mutates :=
  Quiet.bind (quiet_ask rfl) fun _ => quiet_ask rfl

theorem quiet_select (db : Database) (collection : Value) (selector : Selector) :
    (select db collection selector).Quiet Call.mutates := by
  cases selector with
  | value v => exact quiet_get _ _ _
  | identifier i =>
      simp only [select]
      split
      next property =>
        refine Quiet.bind (quiet_ofExcept _ _) fun p => ?_
        obtain ⟨q, hquery, hreads⟩ := query_selecting db collection p
        show Quiet _ (firstOfRequest (.byValues collection (.one p) .any _ none) _)
        refine Meets.bind ((meets_build _).2 ⟨fun q hq => hq, fun _ _ => trivial⟩) fun q' hq => ?_
        obtain rfl := Except.ok.inj (hquery.symm.trans hq)
        exact quiet_returnOne hreads _
      next => exact quiet_get _ _ _

theorem quiet_read? (db : Database) (collection : Value) (selector : Selector) :
    (read? db collection selector).Quiet Call.mutates :=
  Quiet.bind (quiet_select db collection selector) fun _ => trivial

theorem quiet_read (db : Database) (collection : Value) (selector : Selector)
    (trim : Option TrimOptions) : (read db collection selector trim).Quiet Call.mutates := by
  refine Quiet.bind (quiet_read? db collection selector) fun document? => ?_
  cases document? <;> trivial

theorem quiet_readExisting (db : Database) (collection : Value) (selector : Selector) :
    (readExisting db collection selector).Quiet Call.mutates := by
  refine Quiet.bind (quiet_read? db collection selector) fun document? => ?_
  cases document? <;> trivial

theorem quiet_readList (db : Database) (collection : Value) (selector : Selector)
    (property : Value) (action : String) :
    (readList db collection selector property action).Quiet Call.mutates :=
  Quiet.bind (quiet_readExisting db collection selector) fun _ =>
    Quiet.bind (quiet_ofUse _ _) fun _ => Quiet.bind (quiet_ofExcept _ _) fun _ =>
      Quiet.bind (quiet_ofExcept _ _) fun _ => trivial

/-! ## Lists in documents -/

/-- The rows of a query, listed, are no null. -/
theorem past_listed_rowsOf (r : Request) :
    ((rowsOf r).bind fun rows => done (Value.list rows)).Past Call.mutates
      (Settled fun v => v ≠ .null) := by
  unfold rowsOf
  simp only [bind_eq, Session.bind_assoc]
  refine .bind_quiet (quiet_build _ r) fun q => ?_
  exact past_execute_settled q (fun cursor => .list cursor.rows) fun _ => nofun

theorem past_setProperty (db : Database) (collection : Value) (selector : Selector)
    (property value : Value) :
    (setProperty db collection selector property value).Past Call.mutates
      (Settled fun v => v ≠ .null) :=
  .bind_quiet (quiet_readExisting db collection selector) fun _ =>
    .bind_quiet (quiet_ofExcept _ _) fun _ => .bind_quiet (quiet_ofUse _ _) fun _ =>
      past_listed_rowsOf _

theorem past_addToList (db : Database) (collection : Value) (selector : Selector)
    (property value : Value) (allowDuplicates : Bool) (field : Value) :
    (addToList db collection selector property value allowDuplicates field).Past Call.mutates
      (Settled fun v => v ≠ .null) := by
  refine .bind_quiet (quiet_readList db collection selector property addAction) fun stored => ?_
  dsimp only
  split
  next => trivial
  next => exact past_listed_rowsOf _

theorem past_removeFromList (db : Database) (collection : Value) (selector : Selector)
    (property value : Value) :
    (removeFromList db collection selector property value).Past Call.mutates
      (Settled fun v => v ≠ .null) := by
  refine .bind_quiet (quiet_readList db collection selector property removeAction) fun stored => ?_
  split
  · trivial
  · exact past_listed_rowsOf _

theorem past_addObject (db : Database) (collection : Value) (selector : Selector)
    (property value field : Value) :
    (addObject db collection selector property value field).Past Call.mutates
      (Settled fun v => v ≠ .null) := by
  unfold addObject
  split
  · exact past_addToList db collection selector property value _ field
  · trivial

theorem past_removeObject (db : Database) (collection : Value) (selector : Selector)
    (property field identity : Value) :
    (removeObject db collection selector property field identity).Past Call.mutates
      (Settled fun v => v ≠ .null) := by
  refine .bind_quiet (quiet_readList db collection selector property removeAction) fun stored => ?_
  refine .bind_quiet (quiet_ofUse _ _) fun name? => ?_
  split
  · trivial
  · split
    · exact past_setProperty _ _ _ _ _
    · trivial

theorem past_addMissing (db : Database) (collection : Value) (stored : StoredList) (field : String)
    (identity : Value) (updated : Fields) (allowDuplicates : Bool) :
    (addMissing db collection stored field identity updated allowDuplicates).Past Call.mutates
      (Settled fun v => v ≠ .null) := by
  unfold addMissing
  split
  · exact past_addObject _ _ _ _ _ _
  · trivial

theorem past_addUnnamed (db : Database) (collection : Value) (stored : StoredList)
    (field identity : Value) (name : String) (updated : Fields) (allowDuplicates : Bool) :
    (addUnnamed db collection stored field identity name updated allowDuplicates).Past Call.mutates
      (Settled fun v => v ≠ .null) := by
  unfold addUnnamed
  split
  · trivial
  · split <;> exact past_addObject _ _ _ _ _ _

theorem past_updateObject (db : Database) (collection : Value) (selector : Selector)
    (property field identity updated : Value) (mode : ElementUpdate)
    (addIfMissing allowDuplicates : Bool) :
    (updateObject db collection selector property field identity updated mode addIfMissing
      allowDuplicates).Past Call.mutates (Settled fun v => v ≠ .null) := by
  refine .bind_quiet (quiet_readList db collection selector property updateAction) fun stored => ?_
  refine .bind_quiet (quiet_ofUse _ _) fun updated => ?_
  split
  · dsimp only
    split
    · exact past_setProperty _ _ _ _ _
    · split
      · exact past_addMissing _ _ _ _ _ _ _
      · trivial
  · refine .bind_quiet (quiet_ofUse _ _) fun name => ?_
    split
    · exact past_addUnnamed _ _ _ _ _ _ _ _
    · trivial

/-! ## Documents and edges -/

theorem steady_onCollection (collection : Value) (action : CollectionAction) (args : List Value)
    (options : Fields) : (onCollection collection action args options).Steady :=
  (steady_ask _).bind fun _ => steady_ask _

theorem steady_create (collection data : Value) (options : Fields) :
    (create collection data options).Steady := by
  unfold create
  split
  · exact steady_onCollection _ _ _ _
  · exact (steady_onCollection _ _ _ _).bind fun _ => trivial

theorem past_update (collection : Value) (u : DocumentUpdate) (options : Fields) :
    (update collection u options).Past Call.mutates Steady := by
  unfold update
  split
  · exact .of_steady ((steady_onCollection _ _ _ _).bind fun _ => trivial)
  · split
    · exact .bind_quiet (quiet_ofExcept _ _) fun _ => (past_rowsOf _ _).map_steady _
    · exact .of_steady ((steady_onCollection _ _ _ _).bind fun _ => trivial)

theorem past_delete (collection : Value) (selector : Selector) (options : Fields) :
    (delete collection selector options).Past Call.mutates Steady := by
  unfold delete
  split
  · exact .of_steady (steady_onCollection _ _ _ _)
  · exact .of_steady ((steady_onCollection _ _ _ _).bind fun _ => trivial)
  · split
    · exact .bind_quiet (quiet_ofExcept _ _) fun _ => (past_rowsOf _ _).map_steady _
    · exact .of_steady ((steady_onCollection _ _ _ _).bind fun _ => trivial)

theorem quiet_completeEdges (counts : Call → Bool) (items : List Value) :
    (completeEdges items).Quiet counts := by
  induction items with
  | nil => trivial
  | cons v rest ih =>
      refine Quiet.bind (quiet_ofExcept _ _) fun e => ?_
      split
      · exact Quiet.bind ih fun _ => trivial
      · exact ih

theorem past_createEdge (counts : Call → Bool) (collection relation : Value) (options : Fields) :
    (createEdge collection relation options).Past counts Steady := by
  unfold createEdge
  split
  · exact .bind_quiet (quiet_completeEdges counts _) fun _ => .of_steady (steady_onCollection _ _ _ _)
  · refine .bind_quiet (quiet_ofExcept _ _) fun e => ?_
    split
    · exact .of_steady ((steady_onCollection _ _ _ _).bind fun _ => trivial)
    · trivial

/-! ## Structures -/

theorem steady_exists (db : Database) : (exists? db).Steady :=
  (steady_ask _).bind fun _ => trivial

theorem refuses_of_nameOf {v : Value} {e : Failure} (h : nameOf v = .error e) :
    e.refuses = false := by
  unfold nameOf at h
  split at h
  · split at h <;> cases h
    rfl
  · cases h
    rfl

theorem refuses_of_names {items : List Value} {e : Failure} (h : items.mapM nameOf = .error e) :
    e.refuses = false := by
  induction items with
  | nil => cases h
  | cons v rest ih =>
      rw [List.mapM_cons] at h
      cases hv : nameOf v with
      | error f =>
          rw [hv] at h
          cases h
          exact refuses_of_nameOf hv
      | ok name =>
          rw [hv] at h
          cases hrest : rest.mapM nameOf with
          | error f =>
              rw [hrest] at h
              cases h
              exact ih hrest
          | ok names =>
              rw [hrest] at h
              cases h

theorem steady_namesListed (v : Value) : (namesListed v).Steady :=
  (steady_ofUse _).bind fun _ => (meets_ofExcept _).2
    ⟨fun _ _ => trivial, fun _ he => refuses_of_names he⟩

theorem steady_validateUsable (db : Database) (s : Structure) : (validateUsable db s).Steady := by
  refine (steady_exists db).bind fun found => (steady_ofChecked _ _).bind fun database => ?_
  split
  · refine (steady_ask _).bind fun _ => (steady_namesListed _).bind fun existing => ?_
    refine Steady.bind ?_ fun _ => trivial
    unfold graphPresences
    split
    · trivial
    · exact (steady_ask _).bind fun _ => (steady_namesListed _).bind fun _ => trivial
  · trivial

theorem steady_validate (db : Database) (s : Option Structure) : (validate db s).Steady := by
  unfold validate
  split
  · exact steady_validateUsable _ _
  · trivial

theorem steady_truncateAll (items : List Value) : (truncateAll items).Steady := by
  induction items with
  | nil => trivial
  | cons v rest ih =>
      refine (steady_ofUse _).bind fun fields => ?_
      split
      · exact ih
      · refine Steady.bind ?_ fun _ => (steady_ask _).bind fun _ => (steady_ask _).bind fun _ => ih
        exact (meets_ofExcept _).2 ⟨fun _ _ => trivial, fun _ he => refuses_of_nameOf he⟩

theorem steady_recreate (name : Value) : (recreate name).Steady := by
  have hfailed (fault : Fault) : (recreate.failed name fault).Steady := by
    unfold recreate.failed
    split <;> rfl
  refine ⟨trivial, fun answer => ?_⟩
  cases answer with
  | error fault => exact hfailed fault
  | ok _ =>
      refine ⟨trivial, fun answer => ?_⟩
      cases answer with
      | error fault => exact hfailed fault
      | ok _ => trivial

theorem steady_clear (db : Database) (method : Clearance) : (clear db method).Steady := by
  refine (steady_exists db).bind fun found => ?_
  split
  · cases method with
    | recreate => exact steady_recreate _
    | deleteData =>
        exact (steady_ask _).bind fun _ => (steady_ofUse _).bind fun _ =>
          (steady_truncateAll _).bind fun _ => trivial
  · trivial

theorem steady_serverFault (c : Call) : (serverFault? c).Steady := by
  refine ⟨trivial, fun answer => ?_⟩
  cases answer with
  | ok _ => trivial
  | error fault =>
      simp only [done_bind]
      split
      · trivial
      · rfl

theorem steady_createThen (what name : String) (c : Call) {rest : Session Created}
    (hrest : rest.Steady) : (createThen what name c rest).Steady := by
  refine (steady_serverFault c).bind fun fault? => ?_
  cases fault? with
  | some fault => trivial
  | none => exact hrest.bind fun _ => trivial

theorem steady_createCollections (entities : List Presence) :
    (createCollections entities).Steady := by
  induction entities with
  | nil => trivial
  | cons entity rest ih =>
      unfold createCollections
      split
      · exact ih.bind fun _ => trivial
      · exact steady_createThen _ _ _ ih

theorem steady_createGraphs (s : Structure) (entities : List Presence) :
    (createGraphs s entities).Steady := by
  induction entities with
  | nil => trivial
  | cons entity rest ih =>
      unfold createGraphs
      split
      · exact ih.bind fun _ => trivial
      · split
        · exact steady_createThen _ _ _ ih
        · exact ih

theorem steady_provideDatabase (db : Database) (clearance : Option Clearance) :
    (provideDatabase db clearance).Steady := by
  refine (steady_exists db).bind fun found => ?_
  split
  · cases clearance with
    | some method => exact (steady_clear _ _).bind fun _ => trivial
    | none => trivial
  · refine (steady_serverFault _).bind fun fault? => ?_
    cases fault? <;> trivial

/-- Nothing is refused once there is a structure to provide. -/
theorem past_provide (counts : Call → Bool) (db : Database) (s : Option Structure)
    (clearance : Option Clearance) : (provide db s clearance).Past counts Steady := by
  unfold provide
  split
  · trivial
  · refine .of_steady <| (steady_provideDatabase _ _).bind fun (line, fault) => ?_
    cases fault with
    | some fault => trivial
    | none =>
      refine (steady_validateUsable _ _).bind fun found => ?_
      refine (steady_createCollections _).bind fun collections => ?_
      dsimp only
      split
      · trivial
      · exact (steady_createGraphs _ _).bind fun _ => trivial

theorem quiet_requireSystem (counts : Call → Bool) (db : Database) :
    (requireSystem db).Quiet counts := by
  unfold requireSystem
  split <;> trivial

theorem steady_requireSystem (db : Database) : (requireSystem db).Steady := by
  unfold requireSystem
  split
  · trivial
  · rfl

end Database

/-! ## Kinds of operations -/

namespace Operation

/-- The operations that change a list held in a document. -/
def changesList : Operation → Bool
  | addToList .. | removeFromList .. | addObject .. | removeObject .. | updateObject ..
  | setProperty .. => true
  | _ => false

/-- The operations that look documents up by what is in them, save edges, or provide a
structure: whether they are refused does not depend on what is stored. -/
def refusesAtOnce : Operation → Bool
  | fetchAll .. | fetchByValues .. | fetchOneByValues .. | fetchByFilter .. | checkUnique _
  | createEdge .. | provide .. => true
  | _ => false

end Operation

namespace Database

open Session

/-! ## Operations -/

theorem past_perform_list (db : Database) {op : Operation} (h : op.changesList = true) :
    (db.perform op).Past Call.mutates (Settled fun o => o ≠ .value .null) := by
  have hvalue {s : Session Value} (hs : s.Past Call.mutates (Settled fun v => v ≠ .null)) :
      (s.bind fun v => done (Outcome.value v)).Past Call.mutates
        (Settled fun o => o ≠ .value .null) :=
    hs.bind (fun t ht => Meets.bind ht fun v hv => by simpa using hv) fun _ => trivial
  cases op with
  | setProperty collection selector property value => exact hvalue (past_setProperty _ _ _ _ _)
  | addToList collection selector property value allow field =>
      exact hvalue (past_addToList _ _ _ _ _ _ _)
  | removeFromList collection selector property value => exact hvalue (past_removeFromList _ _ _ _ _)
  | addObject collection selector property value field => exact hvalue (past_addObject _ _ _ _ _ _)
  | removeObject collection selector property field identity =>
      exact hvalue (past_removeObject _ _ _ _ _ _)
  | updateObject collection selector property field identity updated mode add allow =>
      exact hvalue (past_updateObject _ _ _ _ _ _ _ _ _ _)
  | _ => cases h

theorem past_perform_atOnce (counts : Call → Bool) (db : Database) {op : Operation}
    (h : op.refusesAtOnce = true) : (db.perform op).Past counts Steady := by
  cases op with
  | createEdge collection relation options => exact (past_createEdge _ _ _ _).map_steady _
  | fetchAll collection options => exact (past_fetchRequest _ _ _).map_steady _
  | fetchByValues collection equalities join options input =>
      exact Past.map_steady _ (.bind_quiet (quiet_ofExcept _ _) fun _ => past_fetchRequest _ _ _)
  | fetchOneByValues collection equalities join options input =>
      exact Past.map_steady _ (.bind_quiet (quiet_ofExcept _ _) fun _ => past_firstOfRequest _ _ _)
  | fetchByFilter collection input options =>
      refine Past.map_steady _ ?_
      unfold fetchByFilter
      split
      · trivial
      · exact past_fetchRequest _ _ _
  | checkUnique constraint =>
      refine Past.map_steady _ ((past_rowsOf _ _).bind_steady fun documents => ?_)
      dsimp only
      split <;> trivial
  | provide s clearance =>
      exact .bind_quiet (quiet_requireSystem _ _) fun _ => (past_provide _ _ _ _).map_steady _
  | _ => cases h

/-- An operation that refuses has made no change that is stored. -/
theorem past_perform (db : Database) (op : Operation) :
    (db.perform op).Past Call.mutates Steady := by
  cases hlist : op.changesList with
  | true => exact (past_perform_list db hlist).mono fun _ ht => .of_settled ht
  | false =>
      cases honce : op.refusesAtOnce with
      | true => exact past_perform_atOnce _ db honce
      | false =>
          cases op with
          | name => trivial
          | collection name => exact .of_steady ((steady_ask _).bind fun _ => trivial)
          | query q binds options => exact .of_steady ((steady_execute _ _ _).bind fun _ => trivial)
          | returnAll q options => exact .of_steady ((steady_returnAll _ _).bind fun _ => trivial)
          | returnOne q options => exact .of_steady ((steady_returnOne _ _).bind fun _ => trivial)
          | read collection selector trim =>
              exact .bind_quiet (quiet_read db collection selector trim) fun _ => trivial
          | create collection data options =>
              exact .of_steady ((steady_create _ _ _).bind fun _ => trivial)
          | update collection u options => exact (past_update _ _ _).map_steady _
          | updateMany collection documents options =>
              exact .of_steady ((steady_onCollection _ _ _ _).bind fun _ => trivial)
          | delete collection selector options => exact (past_delete _ _ _).map_steady _
          | readProperty collection selector property =>
              exact .bind_quiet (Quiet.bind (quiet_readExisting _ _ _) fun _ =>
                Quiet.bind (quiet_ofUse _ _) fun _ => trivial) fun _ => trivial
          | trimDocument document options => trivial
          | trimDocuments documents options => exact .of_steady ((steady_ofUse _).bind fun _ => trivial)
          | exists_ =>
              exact .of_steady ((steady_requireSystem _).bind fun _ =>
                (steady_ask _).bind fun _ => trivial)
          | clear method =>
              exact .of_steady ((steady_requireSystem _).bind fun _ =>
                (steady_clear _ _).bind fun _ => trivial)
          | validate s =>
              exact .of_steady ((steady_requireSystem _).bind fun _ =>
                (steady_validate _ _).bind fun _ => trivial)
          | _ => simp [Operation.changesList, Operation.refusesAtOnce] at hlist honce

/-! ## What a refused operation has done -/

/-- An operation that is refused has changed nothing that is stored, and has not called the
server when its refusal does not depend on what is stored.  An operation on a list changes
what is stored by its last call only, and by none when it gives null. -/
theorem refused_writes_nothing (db : Database) (op : Operation) {σ : Type}
    (respond : Responder σ) (st : σ) :
    (∀ e, ((db.perform op).run respond st).result = .error e → e.refuses = true →
        (∀ c ∈ ((db.perform op).run respond st).calls, c.mutates = false) ∧
          (op.refusesAtOnce = true → ((db.perform op).run respond st).calls = [])) ∧
      (op.changesList = true →
        (∀ c ∈ ((db.perform op).run respond st).calls.dropLast, c.mutates = false) ∧
          (((db.perform op).run respond st).result = .ok (.value .null) →
            ∀ c ∈ ((db.perform op).run respond st).calls, c.mutates = false)) := by
  constructor
  · intro e hresult he
    refine ⟨(past_perform db op).calls_of_refused respond st hresult he, fun honce => ?_⟩
    -- here every call counts, so that none is left
    have hpast := past_perform_atOnce (fun _ => true) db honce
    refine List.eq_nil_iff_forall_not_mem.2 fun c hc => ?_
    exact absurd (hpast.calls_of_refused respond st hresult he c hc) (by simp)
  · intro hlist
    obtain ⟨hlast, hnull⟩ := (past_perform_list db hlist).calls_of_settled respond st
    exact ⟨hlast, fun hresult => hnull _ hresult fun hne => hne rfl⟩

/-- A database to run operations on. -/
def cycling : Database := ⟨⟨0, .str "cycling"⟩, none, {}⟩

/-- A server that gives one document whichever is asked for. -/
def givingCyclist : Responder Server
  | .documents .., s => (.ok (.object [("_key", .str "1"), ("country", .str "USA")]), s)
  | c, s => Server.respond c s

/-- Adding to a country that is no list is refused after reading, a lookup without criteria
at once, and removing from a list that is not there gives null. -/
theorem cyclist_refusals :
    (((cycling.perform (.addToList (.str "cyclists") (.value (.str "1")) (.str "country")
          (.str "France") false .null)).run givingCyclist {}).result
        = .error (.input (.notAList addAction)) ∧
      ∀ c ∈ ((cycling.perform (.addToList (.str "cyclists") (.value (.str "1")) (.str "country")
          (.str "France") false .null)).run givingCyclist {}).calls, c.mutates = false) ∧
    ((cycling.perform (.fetchByFilter (.str "cyclists") (.other .null) none)).run
      givingCyclist {}).calls = [] ∧
    ∀ c ∈ ((cycling.perform (.removeFromList (.str "cyclists") (.value (.str "1")) (.str "tags")
      (.str "France"))).run givingCyclist {}).calls, c.mutates = false :=
  ⟨⟨rfl, ((refused_writes_nothing _ _ _ _).1 _ rfl rfl).1⟩,
    ((refused_writes_nothing _ _ _ _).1 (.input .noCriteria) rfl rfl).2 rfl,
    ((refused_writes_nothing _ _ _ _).2 rfl).2 rfl⟩

end Database

end DocQuery
