import DocQuery.Proofs.Convergence

/-!
# Faults that a provisioning records

A fault of the server ends a provisioning.  Where something is created that was found missing, the
fault is recorded on the report; everywhere else it is raised.  `provide_records_iff` says so for
every server, every way of clearing and every script of faults.

The argument is about the tree of a session and not about a run: `EndsAtFault` says of every call
that a fault of it ends the session, with an outcome that goes with the call.  It is put together
along the session like `Meets`, and `EndsAtFault.run` carries it to the runs on a server that fails
by a script.
-/

namespace DocQuery

open Session Scripted

namespace Session

variable {α β : Type}

/-! ## Sessions that a fault ends -/

theorem faults_ending {σ : Type} (respond : Responder σ) {s : Session α}
    {outcome : Except Failure α} (h : s.ending = some outcome) (st : σ) :
    s.faults respond st = [] := by
  induction s with
  | done a => rfl
  | fail e => rfl
  | log r next ih => exact ih h
  | call c next ih => cases h

/-- Whether a fault of any call ends a session, with an outcome that goes with the call. -/
def EndsAtFault (settles : Call → Fault → Except Failure α → Prop) : Session α → Prop
  | done _ | fail _ => True
  | log _ next => next.EndsAtFault settles
  | call c next =>
      (∀ text, ∃ outcome, (next (.error (fault text))).ending = some outcome ∧
        settles c (fault text) outcome) ∧
      ∀ answer, (next (.ok answer)).EndsAtFault settles

namespace EndsAtFault

variable {settles : Call → Fault → Except Failure α → Prop}
  {settles' : Call → Fault → Except Failure β → Prop}

theorem bind {s : Session α} {f : α → Session β} (h : s.EndsAtFault settles)
    (hf : ∀ a, (f a).EndsAtFault settles')
    (herror : ∀ c fault e, settles c fault (.error e) → settles' c fault (.error e))
    (hok : ∀ c fault a, settles c fault (.ok a) →
      ∃ outcome, (f a).ending = some outcome ∧ settles' c fault outcome) :
    (s.bind f).EndsAtFault settles' := by
  induction s with
  | done a => exact hf a
  | fail e => trivial
  | log r next ih => exact ih h
  | call c next ih =>
      refine ⟨fun text => ?_, fun answer => ih (.ok answer) (h.2 answer)⟩
      obtain ⟨outcome, hends, hsettles⟩ := h.1 text
      rw [ending_bind, hends]
      cases outcome with
      | error e => exact ⟨_, rfl, herror c _ e hsettles⟩
      | ok a => exact hok c _ a hsettles

end EndsAtFault

end Session

/-! ## Runs that a fault ends -/

/-- A run meets no fault, or its last call meets one and settles the result. -/
theorem Session.EndsAtFault.run {α : Type} {settles : Call → Fault → Except Failure α → Prop}
    {s : Session α} (h : s.EndsAtFault settles) (mayFail : Call → Bool) (st : Scripted) :
    s.faults (respond mayFail) st = [] ∨
      ∃ c fault, s.faults (respond mayFail) st = [(c, fault)] ∧
        (s.run (respond mayFail) st).calls.getLast? = some c ∧
        settles c fault (s.run (respond mayFail) st).result := by
  induction s generalizing st with
  | done a => exact .inl rfl
  | fail e => exact .inl rfl
  | log r next ih => exact ih h st
  | call c next ih =>
      rcases respond_cases mayFail c st with ⟨script', hanswer⟩ | ⟨text, script', hanswer⟩
      · obtain ⟨answer, hok⟩ := Server.respond_ok c st.server
        simp only [faults, Session.run, hanswer, hok]
        rcases ih _ (h.2 answer) ⟨(Server.respond c st.server).2, script'⟩ with
          hnone | ⟨d, fault, hfaults, hlast, hsettles⟩
        · exact .inl hnone
        · refine .inr ⟨d, fault, hfaults, ?_, hsettles⟩
          rw [List.getLast?_cons, hlast]
          rfl
      · obtain ⟨outcome, hends, hsettles⟩ := h.1 text
        obtain ⟨hresult, hcalls, -⟩ := run_ending (respond mayFail) hends ⟨st.server, script'⟩
        have hfaults := faults_ending (respond mayFail) hends ⟨st.server, script'⟩
        refine .inr ⟨c, fault text, ?_, ?_, ?_⟩
        · simp only [faults, hanswer, hfaults]
        · simp only [Session.run, hanswer, hcalls]
          rfl
        · simpa only [Session.run, hanswer, hresult] using hsettles

namespace Database

/-! ## Calls whose faults are recorded -/

/-- Whether a fault of a call is recorded, when the database was found or not. -/
def recorded (found : Bool) : Call → Bool
  | .createDatabase _ => !found
  | .createCollection _ | .createGraph .. => true
  | _ => false

/-- What a fault that is not recorded is raised as. -/
def raised (db : Database) : Call → Fault → Failure
  | .createDatabase _, _ | .deleteDatabase _, _ => .notRecreated db.name.inText
  | _, fault => .fault fault

/-- Whether a fault of a call is recorded in a result, or raised. -/
def Settles {α : Type} (found : Bool) (db : Database) (tells : α → Option String) (c : Call)
    (fault : Fault) : Except Failure α → Prop
  | .ok a => recorded found c = true ∧ tells a = some fault.message
  | .error e => recorded found c = false ∧ e = raised db c fault

/-- Whether a fault of a call of a session ends it, recorded or raised. -/
abbrev Accounts {α : Type} (found : Bool) (db : Database) (tells : α → Option String)
    (s : Session α) : Prop := s.EndsAtFault (Settles found db tells)

section

variable {α β : Type} {found : Bool} {db : Database} {tells : α → Option String}
  {tells' : β → Option String}

theorem Accounts.bind {s : Session α} {f : α → Session β} (h : Accounts found db tells s)
    (hf : ∀ a, Accounts found db tells' (f a))
    (htold : ∀ a text, tells a = some text → ∃ b, (f a).ending = some (.ok b) ∧
      tells' b = some text) : Accounts found db tells' (s.bind f) :=
  EndsAtFault.bind h hf (fun _ _ _ herror => herror) fun c fault a hok => by
    obtain ⟨b, hends, hb⟩ := htold a _ hok.2
    exact ⟨_, hends, hok.1, hb⟩

/-- A session that tells of no fault goes on with any other. -/
theorem Accounts.andThen {s : Session α} {f : α → Session β}
    (h : Accounts found db (fun _ => none) s) (hf : ∀ a, Accounts found db tells' (f a)) :
    Accounts found db tells' (s.bind f) :=
  h.bind hf nofun

theorem accounts_ask {c : Call} (hc : recorded found c = false)
    (hraised : ∀ fault, raised db c fault = .fault fault) :
    Accounts found db (fun _ => none) (Session.ask c) :=
  ⟨fun text => ⟨_, rfl, hc, (hraised (fault text)).symm⟩, fun _ => trivial⟩

theorem accounts_ofUse (outcome : Except Misuse α) :
    Accounts found db tells (Session.ofUse outcome) := by
  cases outcome <;> trivial

theorem accounts_ofExcept (outcome : Except Failure α) :
    Accounts found db tells (Session.ofExcept outcome) := by
  cases outcome <;> trivial

end

section

variable (found : Bool) (db : Database)

theorem accounts_exists : Accounts found db (fun _ => none) db.exists? :=
  (accounts_ask rfl fun _ => rfl).andThen fun _ => trivial

theorem accounts_namesListed (v : Value) : Accounts found db (fun _ => none) (namesListed v) :=
  (accounts_ofUse _).andThen fun _ => accounts_ofExcept _

theorem accounts_graphPresences (names : List String) :
    Accounts found db (fun _ => none) (graphPresences names) := by
  cases names with
  | nil => trivial
  | cons name rest =>
      exact (accounts_ask rfl fun _ => rfl).andThen fun v =>
        (accounts_namesListed found db v).andThen fun _ => trivial

theorem accounts_validateUsable (s : Structure) :
    Accounts found db (fun _ => none) (db.validateUsable s) := by
  refine (accounts_exists found db).andThen fun there => (accounts_ofExcept _).andThen fun _ => ?_
  cases there with
  | false => trivial
  | true =>
      exact (accounts_ask rfl fun _ => rfl).andThen fun v =>
        (accounts_namesListed found db v).andThen fun _ =>
          (accounts_graphPresences found db s.graphNames).andThen fun _ => trivial

/-! ## Emptying -/

theorem accounts_truncateAll (items : List Value) :
    Accounts found db (fun _ => none) (truncateAll items) := by
  induction items with
  | nil => trivial
  | cons v rest ih =>
      refine (accounts_ofUse _).andThen fun fields => ?_
      simp only [bind_eq]
      split
      · exact ih
      · exact (accounts_ofExcept _).andThen fun name => (accounts_ask rfl fun _ => rfl).andThen
          fun _ => (accounts_ask rfl fun _ => rfl).andThen fun _ => ih

theorem accounts_recreate : Accounts true db (fun _ => none) (recreate db.name) :=
  ⟨fun _ => ⟨_, rfl, rfl, rfl⟩, fun _ => ⟨fun _ => ⟨_, rfl, rfl, rfl⟩, fun _ => trivial⟩⟩

theorem accounts_clear (method : Clearance) :
    Accounts true db (fun _ => none) (db.clear method) := by
  refine (accounts_exists true db).andThen fun there => ?_
  cases there with
  | false => trivial
  | true =>
      cases method with
      | recreate => exact accounts_recreate db
      | deleteData =>
          exact (accounts_ask rfl fun _ => rfl).andThen fun v => (accounts_ofUse _).andThen
            fun items => (accounts_truncateAll true db items).andThen fun _ => trivial

/-! ## Creating -/

/-- The text of the fault that ended creating several things. -/
def Created.told (c : Created) : Option String := c.fault.map Fault.message

theorem accounts_serverFault {c : Call} (hc : recorded found c = true) :
    Accounts found db (fun fault => fault.map Fault.message) (serverFault? c) :=
  ⟨fun _ => ⟨_, rfl, hc, rfl⟩, fun _ => trivial⟩

theorem accounts_after {s : Session Created} (h : Accounts found db Created.told s)
    (line : String) : Accounts found db Created.told (s.bind fun c => done (c.after line)) :=
  h.bind (fun _ => trivial) fun _ _ htold => ⟨_, rfl, htold⟩

theorem accounts_createThen (what name : String) {c : Call} (hc : recorded found c = true)
    {rest : Session Created} (hrest : Accounts found db Created.told rest) :
    Accounts found db Created.told (createThen what name c rest) := by
  refine (accounts_serverFault found db hc).bind (fun fault => ?_) fun fault text htold => ?_
  · cases fault with
    | none => exact accounts_after found db hrest _
    | some fault => trivial
  · cases fault with
    | none => cases htold
    | some fault => exact ⟨_, rfl, htold⟩

theorem accounts_createCollections (entities : List Presence) :
    Accounts found db Created.told (createCollections entities) := by
  induction entities with
  | nil => trivial
  | cons entity rest ih =>
      rw [createCollections]
      split
      · exact accounts_after found db ih _
      · exact accounts_createThen found db _ _ rfl ih

theorem accounts_createGraphs (s : Structure) (entities : List Presence) :
    Accounts found db Created.told (createGraphs s entities) := by
  induction entities with
  | nil => trivial
  | cons entity rest ih =>
      rw [createGraphs]
      split
      · exact accounts_after found db ih _
      · cases creatable? s entity.name with
        | none => exact ih
        | some g => exact accounts_createThen found db _ _ rfl ih

theorem accounts_provideContents (s : Structure) (line : String) :
    Accounts found db ProvisionReport.error (db.provideContents s line) := by
  refine (accounts_validateUsable found db s).andThen fun report => ?_
  refine (accounts_createCollections found db report.collections).bind (fun collections => ?_)
    fun collections text htold => ?_
  · cases h : collections.fault with
    | some fault => trivial
    | none =>
        exact (accounts_createGraphs found db s report.graphs).bind (fun _ => trivial)
          fun graphs text htold => ⟨_, rfl, htold⟩
  · cases h : collections.fault with
    | none => simp [Created.told, h] at htold
    | some fault =>
        refine ⟨_, rfl, ?_⟩
        simpa [Created.told, h] using htold

end

/-! ## The whole -/

/-- What is done about the database, once it is known whether it is there. -/
def databaseStep (db : Database) (clearance : Option Clearance) (found : Bool) :
    Session (String × Option Fault) :=
  if found then
    match clearance with
    | some method => do
        db.clear method
        Session.note ⟨.info, described db ++ " cleared with method " ++ method.text⟩
        return ("Database cleared with method " ++ method.text, none)
    | none => do
        Session.note ⟨.info, described db ++ " found"⟩
        return ("Database found", none)
  else do
    Session.note ⟨.info, described db ++ " not found"⟩
    match ← serverFault? (.createDatabase db.name) with
    | some fault =>
        Session.note ⟨.error,
          "Failed to create database '" ++ db.name.inText ++ "': " ++ fault.message⟩
        return ("Failed to create database", some fault)
    | none =>
        Session.note ⟨.info, described db ++ " created"⟩
        return ("Database created", none)

theorem provideDatabase_eq (db : Database) (clearance : Option Clearance) :
    db.provideDatabase clearance = db.exists?.bind (db.databaseStep clearance) := by
  rfl

/-- What is done once it is known whether the database is there. -/
def provideFound (db : Database) (s : Structure) (clearance : Option Clearance) (found : Bool) :
    Session ProvisionReport :=
  (db.databaseStep clearance found).bind fun d => match d.2 with
    | some fault => done { database := some d.1, error := some fault.message }
    | none => db.provideContents s d.1

theorem provide_eq_call {db : Database} {s : Structure} (hs : s.collections ≠ [])
    (clearance : Option Clearance) :
    db.provide (some s) clearance = call (.hasDatabase db.name) fun
      | .ok v => db.provideFound s clearance v.isTrue
      | .error fault => fail (.fault fault) := by
  rw [provide_eq hs, provideDatabase_eq]
  simp only [exists?, existsValue, Session.ask, map_eq, call_bind]
  congr 1
  funext answer
  cases answer <;> rfl

theorem accounts_provideFound (db : Database) (s : Structure) (clearance : Option Clearance)
    (found : Bool) :
    Accounts found db ProvisionReport.error (db.provideFound s clearance found) := by
  cases found with
  | true =>
      cases clearance with
      | none => exact accounts_provideContents true db s _
      | some method =>
          simp only [provideFound, databaseStep, if_true, bind_eq, Session.bind_assoc]
          exact (accounts_clear db method).andThen fun _ => accounts_provideContents true db s _
  | false =>
      simp only [provideFound, databaseStep, Bool.false_eq_true, if_false, bind_eq, Session.note,
        log_bind, done_bind, Session.bind_assoc]
      refine (accounts_serverFault false db (c := .createDatabase db.name) rfl).bind
        (fun fault => ?_) fun fault text htold => ?_
      · cases fault with
        | none => exact accounts_provideContents false db s _
        | some fault => trivial
      · cases fault with
        | none => cases htold
        | some fault => exact ⟨_, rfl, htold⟩

section

variable {db : Database} {name : String} (hname : db.name = .str name) {s : Structure}
  (hs : s.collections ≠ []) (clearance : Option Clearance) (mayFail : Call → Bool)
  (server : Server) (script : Nat → Option String)
include hs

/-- A provisioning meets no fault, or its last call meets one, which is recorded or raised. -/
theorem provide_settles :
    let r := (db.provide (some s) clearance).run (respond mayFail) ⟨server, script⟩
    let faults := (db.provide (some s) clearance).faults (respond mayFail) ⟨server, script⟩
    faults = [] ∨ ∃ c fault, faults = [(c, fault)] ∧ r.calls.getLast? = some c ∧
      Settles (server.hasDatabase db.name) db ProvisionReport.error c fault r.result := by
  rw [provide_eq_call hs]
  rcases respond_cases mayFail (.hasDatabase db.name) ⟨server, script⟩ with
    ⟨script', hanswer⟩ | ⟨text, script', hanswer⟩
  · simp only [faults, Session.run, hanswer, Server.respond]
    have hrest := (accounts_provideFound db s clearance (server.hasDatabase db.name)).run mayFail
      ⟨server, script'⟩
    rcases hrest with hnone | ⟨c, fault, hfaults, hlast, hsettles⟩
    · exact .inl hnone
    · refine .inr ⟨c, fault, hfaults, ?_, hsettles⟩
      rw [List.getLast?_cons]
      exact congrArg (fun last : Option Call => some (last.getD (.hasDatabase db.name))) hlast
  · simp only [faults, Session.run, hanswer]
    exact .inr ⟨_, _, rfl, rfl, rfl, rfl⟩

include hname

/-- A provisioning that meets no fault ends without an error. -/
theorem provide_spared
    (h : (db.provide (some s) clearance).faults (respond mayFail) ⟨server, script⟩ = []) :
    ∃ report, ((db.provide (some s) clearance).run (respond mayFail) ⟨server, script⟩).result =
      .ok report ∧ report.error = none := by
  obtain ⟨-, -, calls, line, hrun⟩ := returns_provide_sure hname hs server clearance
  exact ⟨_, (run_scripted _ server script h).1.trans hrun.result, contentReport_error line _⟩

end

/-- A provisioning reports the first fault exactly when it records every call that met one: on any
server, with any way of clearing, whichever calls may fail and by any script.  There is at most one
such call and it is the last one; when it is not recorded, its fault is raised. -/
theorem provide_records_iff {db : Database} {name : String} (hname : db.name = .str name)
    {s : Structure} (hs : s.collections ≠ []) (clearance : Option Clearance)
    (mayFail : Call → Bool) (server : Server) (script : Nat → Option String) :
    let r := (db.provide (some s) clearance).run (respond mayFail) ⟨server, script⟩
    let faults := (db.provide (some s) clearance).faults (respond mayFail) ⟨server, script⟩
    let records := recorded (server.hasDatabase db.name)
    ((∃ report, r.result = .ok report ∧ report.error = faults.head?.map fun f => f.2.message) ↔
        ∀ f ∈ faults, records f.1 = true) ∧
      faults.length ≤ 1 ∧
      ∀ f ∈ faults, r.calls.getLast? = some f.1 ∧
        (records f.1 = false → r.result = .error (raised db f.1 f.2)) := by
  intro r faults records
  have hsettled : faults = [] ∨ ∃ c fault, faults = [(c, fault)] ∧ r.calls.getLast? = some c ∧
      Settles (server.hasDatabase db.name) db ProvisionReport.error c fault r.result :=
    provide_settles hs clearance mayFail server script
  rcases hsettled with hnone | ⟨c, fault, hfaults, hlast, hsettles⟩
  · obtain ⟨report, hresult, herror⟩ := provide_spared hname hs clearance mayFail server script hnone
    rw [hnone]
    exact ⟨⟨nofun, fun _ => ⟨report, hresult, herror⟩⟩, Nat.zero_le _, nofun⟩
  · rw [hfaults]
    simp only [List.head?_cons, Option.map_some, List.mem_singleton, forall_eq]
    cases hresult : r.result with
    | ok report =>
        rw [hresult] at hsettles
        obtain ⟨hrecorded, htold⟩ := hsettles
        have hrecords : records c = true := hrecorded
        exact ⟨⟨fun _ => hrecords, fun _ => ⟨report, rfl, htold⟩⟩, Nat.le_refl _, hlast,
          fun hraised => by rw [hrecords] at hraised; cases hraised⟩
    | error e =>
        rw [hresult] at hsettles
        obtain ⟨hrecorded, rfl⟩ := hsettles
        have hrecords : records c = false := hrecorded
        refine ⟨⟨fun hreport => ?_, fun htrue => ?_⟩, Nat.le_refl _, hlast, fun _ => rfl⟩
        · obtain ⟨report, hok, -⟩ := hreport
          cases hok
        · rw [hrecords] at htrue
          cases htrue

/-- A collection that is not created is recorded. -/
theorem cyclists_recorded :
    let s : Structure := ⟨["cyclists"], []⟩
    let server : Server := ⟨[.str "cycling"], [], [], 0⟩
    let script : Nat → Option String := fun n => if n = 3 then some "no room" else none
    cycling.name = .str "cycling" ∧ s.collections ≠ [] ∧
      ∃ report, ((cycling.provide (some s) none).run (respond fun _ => true)
        ⟨server, script⟩).result = .ok report ∧ report.error = some "no room" := by
  intro s server script
  have hs : s.collections ≠ [] := List.cons_ne_nil _ _
  have hfaults : (cycling.provide (some s) none).faults (respond fun _ => true) ⟨server, script⟩ =
      [(.createCollection "cyclists", fault "no room")] := rfl
  have hrecords := (@provide_records_iff cycling _ rfl _ hs none (fun _ => true) server script).1
  rw [hfaults] at hrecords
  refine ⟨rfl, hs, hrecords.2 fun f hf => ?_⟩
  rw [List.mem_singleton.1 hf]
  rfl

/-- A fault of the listing of the collections is raised. -/
theorem cyclists_raised :
    let s : Structure := ⟨["cyclists"], []⟩
    let server : Server := ⟨[.str "cycling"], [], [], 0⟩
    let script : Nat → Option String := fun n => if n = 2 then some "boom" else none
    let provision := cycling.provide (some s) none
    let r := provision.run (respond fun _ => true) ⟨server, script⟩
    provision.faults (respond fun _ => true) ⟨server, script⟩ = [(.collections, fault "boom")] ∧
      r.result = .error (.fault (fault "boom")) ∧
      ¬ ∃ report, r.result = .ok report ∧ report.error = some "boom" := by
  intro s server script provision r
  have hraised : r.result = .error (.fault (fault "boom")) := rfl
  refine ⟨rfl, hraised, ?_⟩
  rintro ⟨report, hok, -⟩
  rw [hraised] at hok
  cases hok

end Database

end DocQuery
