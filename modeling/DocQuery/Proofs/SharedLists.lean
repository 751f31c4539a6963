import DocQuery.Proofs.ListEdits

/-!
# Lists that two clients edit

Two clients edit one list of a document that they share; their calls interleave.  An edit is
*spared* from the other (`ListEdit.Spared`) if an object is pushed only where none of its identity
is by then, and if the list is set only in the document that was read.  It then redoes its part
alone (`redoes_of_spared`).

Edits that are spared leave the document as if one client had come after the other
(`interleaved_edits_serial`).  Others lose what was added, or add one identity twice
(`interleaved_edits_lost`).
-/

namespace DocQuery

namespace Database

open Session SharedDocument

/-! ## Two clients -/

/-- Whether an update pushes an object where none of its identity is by then. -/
def ListUpdate.PushesNew (u : ListUpdate) (path : String) (e : Event Value) : Prop :=
  ∃ collection key object unique,
    e.call = pushCall collection key path (.object object) unique ∧
      u.Missing (itemsAt path e.before) ∧
      ∀ name, u.field = .str name →
        fieldError? name (itemsAt path e.before) object ≠ some .duplicate

/-- What spares an edit from those of another client: an object is pushed only where none of its
identity is by then; who sets the list finds the same document at every look. -/
def ListEdit.Spared (edit : ListEdit) (path : String) (side : Side) (events : List (Event Value)) :
    Prop :=
  match edit with
  | .add object field => ∀ e ∈ events, e.side = side → e.call.mutates = true →
      fieldError? field (itemsAt path e.before) object ≠ some .duplicate
  | .remove .. => Undisturbed side events
  | .update u => Undisturbed side events ∨ ∃ e ∈ events, e.side = side ∧ u.PushesNew path e

/-- Whatever was found before a call precedes what the call finds. -/
def Keeps (key path : String) (events : List (Event Value)) : Prop :=
  ∀ pre e post, events = pre ++ e :: post →
    ∀ found, found = e.before ∨ (∃ d ∈ pre, d.before = found) → Precedes key path found e.before

section

variable {equal : Value → Value → Bool} {clients : Side → Client} {key path : String}
  {events : List (Event Value)}

/-- What list writes keep holds on, whatever two clients call. -/
theorem kept_of_along (Inv : Value → Prop)
    (hwrite : ∀ {c : Call} {document : Value}, Inv document → ListWrite path c →
      Inv (serve equal c document).2)
    (halong : ∀ side, Along (serve equal) (callsOf side events) ((clients side).session path)) :
    ∀ e ∈ events, ∀ document, Inv document → Inv (serve equal e.call document).2 := by
  intro e he document hdocument
  have hlist := (halong e.side).meets ((clients e.side).writesList path) (e.call, e.before)
    (mem_callsOf.2 ⟨e, he, rfl, rfl⟩)
  cases hmutates : e.call.mutates with
  | true => exact hwrite hdocument (hlist hmutates)
  | false => rwa [(faithful_serve equal).quiet hmutates]

theorem keeps_of_along (hparts : segments path ≠ []) (hhead : (segments path).head? ≠ some "_key")
    {document last : Value} (hdocument : Keyed key document)
    (halong : ∀ side, Along (serve equal) (callsOf side events) ((clients side).session path))
    (hleads : Leads (serve equal) document events last) : Keeps key path events := by
  have hkeyed : ∀ e ∈ events, Keyed key e.before :=
    hleads.invariant hdocument (kept_of_along _ (Keyed.write equal hhead hparts) halong)
  have hlist := kept_of_along (HoldsList path) (HoldsList.write equal) halong
  rintro pre e post rfl found (rfl | ⟨d, hd, rfl⟩)
  · exact (hkeyed e (by simp)).precedes path
  · obtain ⟨before, between, rfl⟩ := List.append_of_mem hd
    rw [List.append_assoc, List.cons_append] at hleads hkeyed hlist
    refine ⟨hkeyed d (by simp), fun hholds => ?_⟩
    have hlater := hleads.drop.invariant hholds fun f hf => hlist f (List.mem_append_right _ hf)
    exact hlater e (by simp)

variable {client : Client} {side : Side}

/-- An add redoes its part alone unless an object of its identity has come. -/
theorem redoes_of_add {object : Fields} {field : String} (hedit : client.edit = .add object field)
    (halong : Along (serve equal) (callsOf side events) (client.session path))
    (hkeeps : Keeps key path events)
    (hnew : ∀ e ∈ events, e.side = side → e.call.mutates = true →
      fieldError? field (itemsAt path e.before) object ≠ some .duplicate) :
    Redoes (serve equal) (client.session path) side events := by
  have hlast := client.changesLast path
  rw [Client.session_of_add hedit] at halong hlast ⊢
  refine redoes_of_looksOnce (faithful_serve equal) hlast
    (looksOnce_addObject _ _ _ _ _ _) halong ?_
  intro pre e post hevents hside hchange found hfound hcall
  have hprecedes := hkeeps pre e post hevents
  refine addObject_again equal (hprecedes found hfound) (hprecedes _ (.inl rfl)).keyed hcall
    hchange fun items hnone _ => ?_
  exact addFailure?_later hnone (hnew e (by simp [hevents]) hside hchange)

/-- The object that an update pushes is pushed again where it is new. -/
theorem addFailure?_of_pushesNew {u : ListUpdate} {e : Event Value} (hnew : u.PushesNew path e)
    {collection : Value} {object : Fields} {field : Value} {items : List Value}
    (hfield : field = .null ∨ ∃ name, field = .str name ∧ (name = "" ∨ u.field = .str name))
    (hcall : e.call = pushCall collection (.str key) path (.object object) false)
    (h : addFailure? (.object object) field.isNull field items = none) :
    addFailure? (.object object) field.isNull field (itemsAt path e.before) = none := by
  rcases hfield with rfl | ⟨name, rfl, rfl | hname⟩
  · rfl
  · cases h
  · obtain ⟨collection', key', object', unique, hcall', -, hunique⟩ := hnew
    have hsame := congrArg addedBy (hcall.symm.trans hcall')
    rw [addedBy_pushCall, addedBy_pushCall] at hsame
    cases hsame
    exact addFailure?_later h (hunique name hname)

section

variable {u : ListUpdate} {e : Event Value} (hnew : u.PushesNew path e)
  (hchange : e.call.mutates = true) (hkeyed : Keyed key e.before)
  {before more : List (Call × Value)} (hquiet : ∀ p ∈ before, p.1.mutates = false)
  (hfound : ∀ p ∈ before, Precedes key path p.2 e.before)

include hkeyed hfound in
theorem precedes_of_found {found : Value}
    (h : found = e.before ∨ ∃ p ∈ before, p.2 = found) : Precedes key path found e.before := by
  rcases h with rfl | ⟨p, hp, rfl⟩
  · exact hkeyed.precedes path
  · exact hfound p hp

include hnew hchange hkeyed hquiet hfound

/-- The addition that an update goes on as pushes its new object again, run alone where it was
pushed. -/
theorem insertion_again {db : Database} {collection : Value}
    (halong : Along (serve equal) (before ++ (e.call, e.before) :: more)
      (u.insertion db collection path (.str key))) :
    ((u.insertion db collection path (.str key)).run (serve equal) e.before).state =
      (serve equal e.call e.before).2 := by
  rcases u.insertion_cases db collection path (.str key) with
    hsilent | ⟨object, field, hadd, hfield⟩
  · exact (halong.meets hsilent (e.call, e.before) (by simp)).elim
  · rw [hadd] at halong ⊢
    obtain ⟨found, hstands, hone⟩ :=
      halong.found (looksOnce_addObject _ _ _ _ _ _) hquiet e.before
    exact addObject_again equal (precedes_of_found hkeyed hfound hstands) hkeyed
      (halong.mem_calls (faithful_serve equal) hquiet hone) hchange
      fun items hnone hcall => addFailure?_of_pushesNew hnew hfield hcall hnone

/-- An update that pushes a new object pushes it again, run alone where it was pushed. -/
theorem updateObject_again {db : Database} {collection : Value} {selector : Selector}
    (halong : Along (serve equal) (before ++ (e.call, e.before) :: more)
      (updateObject db collection selector (.str path) u.field u.identity u.updated u.mode
        u.addIfMissing u.allowDuplicates)) :
    ((updateObject db collection selector (.str path) u.field u.identity u.updated u.mode
      u.addIfMissing u.allowDuplicates).run (serve equal) e.before).state =
        (serve equal e.call e.before).2 := by
  rw [u.updateObject_eq] at halong ⊢
  obtain ⟨first, rest, hsplit, hfirst, hrest⟩ := Along.of_bind (faithful_serve equal) halong
  have hreads : ∀ p ∈ first, p.1.mutates = false :=
    hfirst.meets (quiet_readList db collection selector (.str path) updateAction)
  -- The push comes after the list is read.
  obtain ⟨between, rfl, rfl⟩ : ∃ between, before = first ++ between ∧
      rest = between ++ (e.call, e.before) :: more := by
    rcases List.append_eq_append_iff.1 hsplit with ⟨between, hbetween, hrest⟩ | h
    · cases between with
      | nil => exact ⟨[], by simpa using hbetween.symm, by simpa using hrest.symm⟩
      | cons p between =>
          cases hrest
          have hpush := hreads (e.call, e.before) (by simp [hbetween])
          rw [hchange] at hpush
          cases hpush
    · exact h
  rcases hrest with hnone | ⟨stored, hafter, hresult⟩
  · simp at hnone
  obtain ⟨hfoundFirst, hfoundBetween⟩ := List.forall_mem_append.1 hfound
  obtain ⟨-, hquietBetween⟩ := List.forall_mem_append.1 hquiet
  rw [← List.append_nil first] at hfirst
  obtain ⟨found, hstands, hone⟩ := hfirst.found
    (LooksOnce.of_past (past_readList _ _ _ _ _)) hreads e.before
  have hprecedes := precedes_of_found hkeyed hfoundFirst hstands
  obtain ⟨items?, items'?, rfl, hread, hsame⟩ :=
    readList_again equal hprecedes hkeyed (hresult hreads _ hone)
  -- Whatever list was read, none of the identity was in it.
  have hmissing : u.Missing (StoredList.items ⟨.str key, path, items?⟩) := by
    by_contra hany
    obtain ⟨key', items, hset⟩ := hafter.meets (u.meets_next_of_found db collection path hany)
      (e.call, e.before) (by simp) hchange
    obtain ⟨_, _, _, _, hpush, -⟩ := hnew
    exact pushCall_ne_setCall _ _ _ _ _ _ _ _ (hpush.symm.trans hset)
  have hmissing' : u.Missing (StoredList.items ⟨.str key, path, items'?⟩) := by
    obtain ⟨_, _, _, _, -, hthere, -⟩ := hnew
    rwa [StoredList.items, hsame]
  rw [u.next_of_missing db collection path hmissing] at hafter
  have halone := insertion_again hnew hchange hkeyed hquietBetween hfoundBetween hafter
  obtain ⟨-, -, hended⟩ := Returns.run_bind
    ⟨hread, rfl, state_serve equal (quiet_readList _ _ _ _ _) _⟩ (u.next db collection path)
  rw [hended, u.next_of_missing db collection path hmissing']
  exact halone

end

/-- An update that pushes a new object redoes its part alone. -/
theorem redoes_of_update {u : ListUpdate} (hedit : client.edit = .update u)
    (halong : Along (serve equal) (callsOf side events) (client.session path))
    (hkeeps : Keeps key path events) {e : Event Value} (he : e ∈ events) (hside : e.side = side)
    (hnew : u.PushesNew path e) : Redoes (serve equal) (client.session path) side events := by
  have hchange : e.call.mutates = true := by
    obtain ⟨collection, key', object, unique, hpush, -⟩ := hnew
    rw [hpush]
    exact (ListWrite.push collection key' (.object object) unique).mutates
  have hlast := client.changesLast path
  refine ⟨fun d hd hdside hdchange => ?_, fun hquiet => ?_⟩
  · obtain rfl := change_unique hlast halong he hd hside hdside hchange hdchange
    obtain ⟨pre, post, hevents⟩ := List.append_of_mem he
    subst hside
    rw [hevents, callsOf_append, callsOf_cons_self rfl] at halong
    have hquiet := halong.quiet_before hlast
    rw [Client.session_of_update hedit] at halong ⊢
    have hfound := hkeeps pre d post hevents
    exact updateObject_again hnew hchange (hfound _ (.inl rfl)).keyed hquiet
      (fun p hp => hfound _ (.inr (before_of_mem_callsOf hp))) halong
  · rw [hquiet e he hside] at hchange
    cases hchange

/-- An edit that is spared redoes its part alone. -/
theorem redoes_of_spared (halong : Along (serve equal) (callsOf side events) (client.session path))
    (hkeeps : Keeps key path events) (hspared : client.edit.Spared path side events) :
    Redoes (serve equal) (client.session path) side events := by
  have hundisturbed := redoes_of_undisturbed (faithful_serve equal) (client.changesLast path) halong
  cases hedit : client.edit with
  | add object field =>
      rw [hedit] at hspared
      exact redoes_of_add hedit halong hkeeps hspared
  | remove field identity =>
      rw [hedit] at hspared
      exact hundisturbed hspared
  | update u =>
      rw [hedit] at hspared
      rcases hspared with hsame | ⟨e, he, hside, hnew⟩
      · exact hundisturbed hsame
      · exact redoes_of_update hedit halong hkeeps he hside hnew

end

/-- Two clients whose edits of a list are spared leave the document as if one had come after the
other, however their calls interleave. -/
theorem interleaved_edits_serial (equal : Value → Value → Bool) (clients : Side → Client)
    (key path : String) (hparts : segments path ≠ []) (hhead : (segments path).head? ≠ some "_key")
    (schedule : List Side) (document last : Value) (events : List (Event Value))
    (hdocument : Keyed key document)
    (h : interleave (serve equal) schedule (fun side => (clients side).session path) document =
      some (events, last))
    (hspared : ∀ side, (clients side).edit.Spared path side events) :
    ∃ first, last =
      serial (serve equal) (fun side => (clients side).session path) first document := by
  obtain ⟨halong, hleads⟩ := along_of_interleave h
  have hkeeps := keeps_of_along hparts hhead hdocument halong hleads
  exact serial_of_redoes (faithful_serve equal) (fun side => (clients side).changesLast path) h
    fun side => redoes_of_spared (halong side) hkeeps (hspared side)

/-! ## Laps -/

/-- A lap of an identity. -/
def lap (id : String) : Value := .object [("id", .str id)]

/-- A cyclist with laps. -/
def lapsDocument (ids : List String) : Value :=
  .object [("_key", .str "1"), ("laps", .list (ids.map lap))]

/-- A client that adds a lap. -/
def adder (id : String) : Client :=
  ⟨cycling, .str "cyclists", .value (.str "1"), .add [("id", .str id)] "id"⟩

/-- A client that removes the laps of an identity. -/
def remover (id : String) : Client :=
  ⟨cycling, .str "cyclists", .value (.str "1"), .remove (.str "id") (.str id)⟩

/-- The call that adds a lap. -/
def pushLap (id : String) : Call := pushCall (.str "cyclists") (.str "1") "laps" (lap id) false

/-- The call that sets the laps. -/
def setLaps (ids : List String) : Call := setCall (.str "cyclists") (.str "1") "laps" (ids.map lap)

/-- The calls that read the laps. -/
def readingLaps (ids : List String) : List (Call × Value) :=
  [(.collection (.str "cyclists"), lapsDocument ids),
    (.documents (.str "cyclists") .get [.str "1"] [], lapsDocument ids)]

theorem fieldError?_laps {id : String} (hid : id ≠ "") (ids : List String) :
    fieldError? "id" (ids.map lap) [("id", .str id)] =
      if id ∈ ids then some .duplicate else none := by
  simp [fieldError?, Value.isTrue, hid, lap, Fields.getD, Fields.get?, Value.same, Value.text?]

theorem hasIdentity_lap (id other : String) :
    hasIdentity "id" (.str id) (lap other) = decide (id = other) := by
  rw [Bool.eq_iff_iff]
  simp [hasIdentity, lap, Fields.getD, Fields.get?, Value.same, Value.text?, Value.isNull]

theorem push_laps (id : String) (ids : List String) :
    (serve Value.same (pushLap id) (lapsDocument ids)).2 = lapsDocument (ids ++ [id]) := by
  have hpath : segments "laps" ≠ [] := by decide
  rw [pushLap, lapsDocument, serve_push Value.same rfl hpath, lapsDocument, List.map_append]
  rfl

theorem set_laps (ids later : List String) :
    (serve Value.same (setLaps later) (lapsDocument ids)).2 = lapsDocument later := by
  rw [setLaps, lapsDocument, serve_set Value.same rfl "laps"]
  rfl

/-- Where nothing speaks against it, an object is pushed and nothing more is called. -/
theorem along_addNext {σ : Type} (respond : Responder σ) {collection field : Value}
    {object : Fields} {allowDuplicates : Bool} {stored : StoredList}
    (h : addFailure? (.object object) allowDuplicates field stored.items = none) (st : σ) :
    Along respond [(pushCall collection stored.key stored.path (.object object) false, st)]
      (addNext collection (.object object) allowDuplicates field stored) := by
  simp only [addNext, h]
  refine ⟨_, rfl, ?_⟩
  generalize (respond _ st).1 = answer
  cases answer <;> rfl

section

variable {id : String} {ids : List String}

theorem along_adder (hid : id ≠ "") (h : id ∉ ids) (document : Value) :
    Along (serve Value.same) (readingLaps ids ++ [(pushLap id, document)])
      ((adder id).session "laps") := by
  have hnone : addFailure? (lap id) false (.str "id")
      (StoredList.items ⟨.str "1", "laps", some (ids.map lap)⟩) = none := by
    show (fieldError? "id" (ids.map lap) [("id", .str id)]).map Failure.input = none
    rw [fieldError?_laps hid, if_neg h]
    rfl
  exact ⟨_, rfl, _, rfl, along_addNext (serve Value.same) hnone _⟩

theorem along_adder_refused (hid : id ≠ "") (h : id ∈ ids) :
    Along (serve Value.same) (readingLaps ids) ((adder id).session "laps") := by
  have hsome : addFailure? (lap id) false (.str "id") (ids.map lap) = some (.input .duplicate) := by
    show (fieldError? "id" (ids.map lap) [("id", .str id)]).map Failure.input = _
    rw [fieldError?_laps hid, if_pos h]
    rfl
  refine ⟨_, rfl, _, rfl, ?_⟩
  show (addNext (.str "cyclists") (lap id) false (.str "id")
    ⟨.str "1", "laps", some (ids.map lap)⟩).next? = none
  simp only [addNext, StoredList.items, Option.getD_some, hsome]
  rfl

/-- A removal reads twice, and sets what is left of what it read first. -/
theorem along_remover (h : id ∈ ids) (later : List String) :
    Along (serve Value.same)
      (readingLaps ids ++ readingLaps later ++
        [(setLaps (ids.filter (· ≠ id)), lapsDocument later)])
      ((remover id).session "laps") := by
  have hany : (ids.map lap).any (hasIdentity "id" (.str id)) = true :=
    List.any_eq_true.2 ⟨_, List.mem_map_of_mem h, by rw [hasIdentity_lap, decide_eq_true rfl]⟩
  have hkept : (ids.map lap).filter (fun item => !hasIdentity "id" (.str id) item) =
      (ids.filter (· ≠ id)).map lap := by
    simp [List.filter_map, Function.comp_def, hasIdentity_lap, eq_comm]
  refine ⟨_, rfl, _, rfl, ?_⟩
  show Along (serve Value.same) _ (if (ids.map lap).any (hasIdentity "id" (.str id)) then
    setProperty cycling (.str "cyclists") (.value (.str "1")) (.str "laps")
      (.list ((ids.map lap).filter fun item => !hasIdentity "id" (.str id) item))
    else done .null)
  rw [if_pos hany, hkept]
  refine ⟨_, rfl, _, rfl, _, rfl, ?_⟩
  generalize (serve Value.same _ _).1 = answer
  cases answer <;> rfl

theorem quiet_readingLaps (ids : List String) :
    ∀ p ∈ readingLaps ids, p.1.mutates = false ∧ p.2 = lapsDocument ids := by
  simp [readingLaps, Call.mutates, Call.writes, Call.actionWrites]

theorem state_adder (hid : id ≠ "") (ids : List String) :
    (((adder id).session "laps").run (serve Value.same) (lapsDocument ids)).state =
      lapsDocument (if id ∈ ids then ids else ids ++ [id]) := by
  have hread := quiet_readingLaps ids
  split
  · rename_i h
    exact (along_adder_refused hid h).run_quiet (faithful_serve _) (fun p hp => (hread p hp).1)
      fun p hp _ => (hread p hp).2
  · rename_i h
    rw [← push_laps id ids]
    exact (along_adder hid h _).run_changed (faithful_serve _) (fun p hp => (hread p hp).1)
      fun p hp _ => (hread p hp).2

theorem state_remover (h : id ∈ ids) :
    (((remover id).session "laps").run (serve Value.same) (lapsDocument ids)).state =
      lapsDocument (ids.filter (· ≠ id)) := by
  have hread : ∀ p ∈ readingLaps ids ++ readingLaps ids,
      p.1.mutates = false ∧ p.2 = lapsDocument ids :=
    List.forall_mem_append.2 ⟨quiet_readingLaps ids, quiet_readingLaps ids⟩
  rw [← set_laps ids (ids.filter (· ≠ id))]
  exact (along_remover h ids).run_changed (faithful_serve _) (fun p hp => (hread p hp).1)
    fun p hp _ => (hread p hp).2

end

/-- The calls of a side, as they happen. -/
def happening (side : Side) (calls : List (Call × Value)) : List (Event Value) :=
  calls.map fun p => ⟨side, p.1, p.2⟩

section

variable {side : Side} {id : String} {ids later : List String} {rest : List (Event Value)}
  {last : Value}

theorem leads_reading (h : Leads (serve Value.same) (lapsDocument ids) rest last) :
    Leads (serve Value.same) (lapsDocument ids) (happening side (readingLaps ids) ++ rest) last :=
  ⟨rfl, rfl, h⟩

theorem leads_push (h : Leads (serve Value.same) (lapsDocument (ids ++ [id])) rest last) :
    Leads (serve Value.same) (lapsDocument ids) (⟨side, pushLap id, lapsDocument ids⟩ :: rest)
      last :=
  ⟨rfl, by rwa [push_laps]⟩

theorem leads_set (h : Leads (serve Value.same) (lapsDocument later) rest last) :
    Leads (serve Value.same) (lapsDocument ids) (⟨side, setLaps later, lapsDocument ids⟩ :: rest)
      last :=
  ⟨rfl, by rwa [set_laps]⟩

end

/-- A client that removes a lap, and one that adds another. -/
def removerAndAdder : Side → Client
  | .left => remover "a"
  | .right => adder "b"

/-- A removal between what an addition reads and what it pushes. -/
def overtaking : List (Event Value) :=
  happening .right (readingLaps ["a"]) ++
    (happening .left (readingLaps ["a"]) ++ (happening .left (readingLaps ["a"]) ++
      [⟨.left, setLaps [], lapsDocument ["a"]⟩, ⟨.right, pushLap "b", lapsDocument []⟩]))

/-- An addition is spared from a removal, even if it has read before and pushes afterwards. -/
theorem removal_overtakes_addition :
    interleave (serve Value.same) [.right, .right, .left, .left, .left, .left, .left, .right]
        (fun side => (removerAndAdder side).session "laps") (lapsDocument ["a"]) =
      some (overtaking, lapsDocument ["b"]) ∧
    (∀ side, (removerAndAdder side).edit.Spared "laps" side overtaking) ∧
    ∃ first, lapsDocument ["b"] = serial (serve Value.same)
      (fun side => (removerAndAdder side).session "laps") first (lapsDocument ["a"]) := by
  have halong : ∀ side, Along (serve Value.same) (callsOf side overtaking)
      ((removerAndAdder side).session "laps") := by
    intro side
    cases side with
    | left => exact along_remover (List.mem_singleton_self "a") ["a"]
    | right => exact along_adder (by decide) (by decide) _
  have hleads : Leads (serve Value.same) (lapsDocument ["a"]) overtaking (lapsDocument ["b"]) :=
    leads_reading (leads_reading (leads_reading (leads_set (leads_push rfl))))
  have hinterleaved := interleave_of_along halong hleads
  have hkeyed : Keyed "1" (lapsDocument ["a"]) := ⟨_, rfl, rfl⟩
  have hspared : ∀ side, (removerAndAdder side).edit.Spared "laps" side overtaking := by
    intro side
    cases side with
    | left =>
        have hsame : ∀ e ∈ overtaking, e.side = .left → e.before = lapsDocument ["a"] := by
          simp [overtaking, happening, readingLaps]
        intro e he e' he' hside hside' _ _
        rw [hsame e he hside, hsame e' he' hside']
    | right =>
        have hpush : ∀ e ∈ overtaking, e.side = .right → e.call.mutates = true →
            e.before = lapsDocument [] := by
          simp [overtaking, happening, readingLaps, Call.mutates, Call.writes, Call.actionWrites]
        intro e he hside hchange
        rw [hpush e he hside hchange]
        exact nofun
  exact ⟨hinterleaved, hspared, interleaved_edits_serial Value.same removerAndAdder "1" "laps"
    (by decide) (by decide) _ _ _ _ hkeyed hinterleaved hspared⟩

/-- An addition between what a removal reads and what it sets. -/
def undone : List (Event Value) :=
  happening .left (readingLaps ["a"]) ++ (happening .right (readingLaps ["a"]) ++
    (⟨.right, pushLap "b", lapsDocument ["a"]⟩ :: (happening .left (readingLaps ["a", "b"]) ++
      [⟨.left, setLaps [], lapsDocument ["a", "b"]⟩])))

theorem interleave_undone :
    interleave (serve Value.same) [.left, .left, .right, .right, .right, .left, .left, .left]
        (fun side => (removerAndAdder side).session "laps") (lapsDocument ["a"]) =
      some (undone, lapsDocument []) := by
  have halong : ∀ side, Along (serve Value.same) (callsOf side undone)
      ((removerAndAdder side).session "laps") := by
    intro side
    cases side with
    | left => exact along_remover (List.mem_singleton_self "a") ["a", "b"]
    | right => exact along_adder (by decide) (by decide) _
  have hleads : Leads (serve Value.same) (lapsDocument ["a"]) undone (lapsDocument []) :=
    leads_reading (leads_reading (leads_push (leads_reading (leads_set rfl))))
  have hinterleaved := interleave_of_along halong hleads
  exact hinterleaved

/-- Whoever comes first, the added lap is left. -/
theorem serial_removerAndAdder (first : Side) :
    serial (serve Value.same) (fun side => (removerAndAdder side).session "laps") first
      (lapsDocument ["a"]) = lapsDocument ["b"] := by
  have hid : "b" ≠ "" := by decide
  cases first with
  | left =>
      have hfirst : (removerAndAdder .left).session "laps" = (remover "a").session "laps" := rfl
      have hsecond : (removerAndAdder Side.left.other).session "laps" =
          (adder "b").session "laps" := rfl
      rw [serial, hfirst, hsecond, state_remover (List.mem_singleton_self "a"), state_adder hid]
      rfl
  | right =>
      have hfirst : (removerAndAdder .right).session "laps" = (adder "b").session "laps" := rfl
      have hsecond : (removerAndAdder Side.right.other).session "laps" =
          (remover "a").session "laps" := rfl
      rw [serial, hfirst, hsecond, state_adder hid, if_neg (by decide), state_remover (by decide)]
      rfl

/-- Two additions of one identity, neither of which reads what the other has pushed. -/
def doubled : List (Event Value) :=
  happening .left (readingLaps ["a"]) ++ (happening .right (readingLaps ["a"]) ++
    [⟨.left, pushLap "b", lapsDocument ["a"]⟩, ⟨.right, pushLap "b", lapsDocument ["a", "b"]⟩])

theorem interleave_doubled :
    interleave (serve Value.same) [.left, .left, .right, .right, .left, .right]
        (fun _ => (adder "b").session "laps") (lapsDocument ["a"]) =
      some (doubled, lapsDocument ["a", "b", "b"]) := by
  have halong : ∀ side, Along (serve Value.same) (callsOf side doubled)
      ((adder "b").session "laps") := by
    intro side
    cases side with
    | left => exact along_adder (by decide) (by decide) _
    | right => exact along_adder (by decide) (by decide) _
  have hleads : Leads (serve Value.same) (lapsDocument ["a"]) doubled
      (lapsDocument ["a", "b", "b"]) :=
    leads_reading (leads_reading (leads_push (leads_push rfl)))
  have hinterleaved := interleave_of_along halong hleads
  exact hinterleaved

/-- The second addition of one identity is refused. -/
theorem serial_adders (first : Side) :
    serial (serve Value.same) (fun _ => (adder "b").session "laps") first (lapsDocument ["a"]) =
      lapsDocument ["a", "b"] := by
  have hid : "b" ≠ "" := by decide
  rw [serial, state_adder hid, if_neg (by decide), state_adder hid, if_pos (by decide)]
  rfl

/-- A removal loses the lap that was added since it read, and two clients add one identity
twice. -/
theorem interleaved_edits_lost :
    (interleave (serve Value.same) [.left, .left, .right, .right, .right, .left, .left, .left]
        (fun side => (removerAndAdder side).session "laps") (lapsDocument ["a"]) =
      some (undone, lapsDocument []) ∧
    ∀ first, itemsAt "laps" (lapsDocument []) ≠ itemsAt "laps" (serial (serve Value.same)
      (fun side => (removerAndAdder side).session "laps") first (lapsDocument ["a"]))) ∧
    interleave (serve Value.same) [.left, .left, .right, .right, .left, .right]
        (fun _ => (adder "b").session "laps") (lapsDocument ["a"]) =
      some (doubled, lapsDocument ["a", "b", "b"]) ∧
    ∀ first, itemsAt "laps" (lapsDocument ["a", "b", "b"]) ≠ itemsAt "laps" (serial
      (serve Value.same) (fun _ => (adder "b").session "laps") first (lapsDocument ["a"])) := by
  refine ⟨⟨interleave_undone, fun first => ?_⟩, interleave_doubled, fun first => ?_⟩
  · rw [serial_removerAndAdder]
    exact nofun
  · rw [serial_adders]
    exact nofun

end Database

end DocQuery
