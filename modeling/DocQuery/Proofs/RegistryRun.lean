import DocQuery.Database.Registry
import DocQuery.Proofs.ScriptedServer

/-!
# Databases that are opened once

A registry is asked for databases, for handles on them and for their collections
(`Registry.Access`), one access after another (`Registry.visit`).  The server is one on which
opening a database may fail at any time and nothing else does, and it writes down its calls
(`Session.noting`).

*Outcomes.*  An access either finds its database, or opens it, or fails to open it
(`Registry.Took`).  It calls for an opening in the last two cases only, and it leaves the registry
as it was in the first and the last.

*Invariant.*  `Registry.Kept` ties the registry to the openings that were called for: its names are
those of the openings that succeeded, in order, and a database whose opening has succeeded is not
opened again (`OpenedOnce`).  What one access keeps (`Kept.took`) is kept while a registry is made
(`create_kept`) and along all accesses (`visit_kept`).
-/

namespace DocQuery

open Session

/-! ## Calls that are written down -/

namespace Session

variable {σ : Type}

/-- A server that writes down what is called, and whether it succeeds. -/
def noting (respond : Responder σ) : Responder (σ × List (Call × Bool)) := fun c st =>
  ((respond c st.1).1, (respond c st.1).2, st.2 ++ [(c, (respond c st.1).1.isOk)])

/-- Whether nothing fails on a server but the opening of databases. -/
def OnlyOpeningFails (respond : Responder σ) : Prop :=
  ∀ (c : Call) (st : σ), (∀ name user password, c ≠ .database name user password) →
    ∃ answer, (respond c st).1 = .ok answer

/-- The names that databases are opened by, each with whether it succeeds. -/
def openings (calls : List (Call × Bool)) : List (Value × Bool) :=
  calls.filterMap fun
    | (.database name _ _, succeeded) => some (name, succeeded)
    | _ => none

@[simp] theorem openings_nil : openings [] = [] := rfl

@[simp] theorem openings_append (calls more : List (Call × Bool)) :
    openings (calls ++ more) = openings calls ++ openings more := List.filterMap_append

end Session

namespace Registry

/-! ## Accesses -/

/-- What a registry is asked for. -/
inductive Access where
  /-- A database. -/
  | database (name : String)
  /-- The handle on a database. -/
  | handle (name : String)
  /-- A collection of a database. -/
  | collection (name : String) (collection : Value)

/-- What an access gives. -/
inductive Given where
  /-- A database. -/
  | database (db : Database)
  /-- A handle. -/
  | handle (h : Handle)
  /-- A collection. -/
  | collection (name : Value)

namespace Access

/-- The name of the database. -/
def name : Access → String
  | database name | handle name | collection name _ => name

/-- What is given of a database. -/
def given : Access → Database → Given
  | database _, db => .database db
  | handle _, db => .handle db.handle
  | collection _ c, _ => .collection c

/-- An access as a session. -/
def session (settings : Settings) (r : Registry) :
    Access → Session (Except Failure Given × Registry)
  | database name => do
      let (db, r) ← r.database settings (.str name)
      return (.ok (.database db), r)
  | handle name => do
      let (h, r) ← r.handle settings (.str name)
      return (.ok (.handle h), r)
  | collection name c => do
      let (named, r) ← r.collection settings (.str name) c
      return (named.map .collection, r)

end Access

section

variable {σ : Type} (settings : Settings) (respond : Responder σ)

/-- What comes of an access. -/
structure Step (σ : Type) where
  /-- What is given, or the failure that is raised. -/
  result : Except Failure Given
  /-- The registry afterwards. -/
  registry : Registry
  /-- The state of the server afterwards. -/
  state : σ

/-- One access on a server.  A session that fails hands back no registry: it has added nothing, and
the one before is the one that stays. -/
def step (r : Registry) (a : Access) (st : σ) : Step σ :=
  let run := (a.session settings r).run respond st
  match run.result with
  | .ok (result, after) => ⟨result, after, run.state⟩
  | .error e => ⟨.error e, r, run.state⟩

/-- What comes of several accesses. -/
structure Visit (σ : Type) where
  /-- The accesses with their results. -/
  results : List (Access × Except Failure Given)
  /-- The registry afterwards. -/
  registry : Registry
  /-- The state of the server afterwards. -/
  state : σ

/-- Several accesses, one after the other. -/
def visit (r : Registry) : List Access → σ → Visit σ
  | [], st => ⟨[], r, st⟩
  | a :: rest, st =>
      let s := step settings respond r a st
      let v := visit s.registry rest s.state
      { v with results := (a, s.result) :: v.results }

end

/-! ## Outcomes -/

/-- The database that a handle opens for a registry. -/
def opened (r : Registry) (h : Handle) : Database :=
  { handle := h, system := some r.system, options := r.options }

/-- The registry with a database added. -/
def added (r : Registry) (name : String) (db : Database) : Registry :=
  { r with databases := r.databases ++ [(.str name, db)] }

section

variable {r : Registry} {name other : String} {db : Database}

theorem not_mem_names (h : r.find? (.str name) = none) : .str name ∉ r.names := by
  intro hmem
  obtain ⟨entry, hentry, hname⟩ := List.mem_map.1 hmem
  have hnone := List.find?_eq_none.1 (Option.map_eq_none_iff.1 h) entry hentry
  simp [hname] at hnone

theorem find?_added_of_some (h : r.find? (.str other) = some db) (name : String) (db' : Database) :
    (r.added name db').find? (.str other) = some db := by
  obtain ⟨entry, hentry, hdb⟩ := Option.map_eq_some_iff.1 h
  simp [find?, added, List.find?_append, hentry, hdb]

theorem find?_added_self (h : r.find? (.str name) = none) (db : Database) :
    (r.added name db).find? (.str name) = some db := by
  have hnone := Option.map_eq_none_iff.1 h
  simp [find?, added, List.find?_append, hnone]

end

/-- What comes of asking for a database: its outcome, the registry afterwards and the openings
called for. -/
inductive Took (r : Registry) (name : String) :
    Except Failure Database → Registry → List (Value × Bool) → Prop where
  /-- The database is open already. -/
  | found {db : Database} (h : r.find? (.str name) = some db) : Took r name (.ok db) r []
  /-- It is opened. -/
  | opened (h : Handle) (hnone : r.find? (.str name) = none) :
      Took r name (.ok (r.opened h)) (r.added name (r.opened h)) [(.str name, true)]
  /-- It fails to open. -/
  | failed (e : Failure) (hnone : r.find? (.str name) = none) :
      Took r name (.error e) r [(.str name, false)]

namespace Took

variable {r after : Registry} {name : String} {outcome : Except Failure Database}
  {db : Database} {calls : List (Value × Bool)}

/-- A failure to open leaves the registry as it was. -/
theorem of_error {e : Failure} (h : Took r name (.error e) after calls) : after = r := by
  cases h with
  | failed => rfl

/-- A database that is open is found, without a call. -/
theorem of_find? (h : Took r name outcome after calls) (hfound : r.find? (.str name) = some db) :
    outcome = .ok db ∧ after = r ∧ calls = [] := by
  cases h with
  | found h => exact ⟨congrArg _ (Option.some.inj (h.symm.trans hfound)), rfl, rfl⟩
  | opened _ hnone | failed _ hnone => cases hnone.symm.trans hfound

/-- What is handed out is found from then on. -/
theorem find?_of_ok (h : Took r name (.ok db) after calls) :
    after.find? (.str name) = some db := by
  cases h with
  | found h => exact h
  | opened _ hnone => exact find?_added_self hnone _

/-- What is open stays open. -/
theorem find?_mono (h : Took r name outcome after calls) {other : String}
    (hfound : r.find? (.str other) = some db) : after.find? (.str other) = some db := by
  cases h with
  | found | failed => exact hfound
  | opened => exact find?_added_of_some hfound _ _

end Took

section

variable {σ : Type} (settings : Settings) (respond : Responder σ)

/-- Opening a handle by a text is one opening, of the outcome that comes of it. -/
theorem openings_openHandle (name : String) (user password : Value) (st : σ × List (Call × Bool)) :
    let run := (Database.openHandle settings (.str name) user password).run (noting respond) st
    ∃ calls, openings calls = [(.str name, run.result.isOk)] ∧ run.state.2 = st.2 ++ calls := by
  have hcall : ∃ record user' password', Database.openHandle settings (.str name) user password =
      log record (ask (.database (.str name) user' password')) := ⟨_, _, _, rfl⟩
  obtain ⟨record, user', password', hcall⟩ := hcall
  have hask := run_ask (noting respond) (.database (.str name) user' password') st
  have hresult := congrArg Run.result hask
  have hstate := congrArg Run.state hask
  simp only [hcall, Session.run]
  refine ⟨_, ?_, congrArg Prod.snd hstate⟩
  rw [hresult]
  simp only [noting]
  cases (respond (.database (.str name) user' password') st.1).1 <;> rfl

/-- Asking for a database comes to one of the three outcomes. -/
theorem took_database (r : Registry) (name : String) (st : σ × List (Call × Bool)) :
    ∃ outcome after calls, Took r name outcome after (openings calls) ∧
      ((r.database settings (.str name)).run (noting respond) st).result =
        outcome.map (fun db => (db, after)) ∧
      ((r.database settings (.str name)).run (noting respond) st).state.2 = st.2 ++ calls := by
  have hname : (Value.str name).fieldName = .ok name := rfl
  rw [database, hname]
  cases hfound : r.find? (.str name) with
  | some db => exact ⟨_, _, [], .found hfound, rfl, (List.append_nil _).symm⟩
  | none =>
      have hopen : ∃ record, openNew settings r (.str name) = log record
          ((Database.openHandle settings (.str name) r.user r.password).bind fun h =>
            done (r.opened h, r.added name (r.opened h))) := ⟨_, rfl⟩
      obtain ⟨record, hopen⟩ := hopen
      obtain ⟨calls, hcalls, hlog⟩ :=
        openings_openHandle settings respond name r.user r.password st
      simp only [ofUse_ok, bind_eq, done_bind, hopen, Session.run, run_bind]
      cases hresult : ((Database.openHandle settings (.str name) r.user r.password).run
          (noting respond) st).result with
      | ok h =>
          rw [hresult] at hcalls
          refine ⟨.ok (r.opened h), r.added name (r.opened h), calls, ?_, ?_, ?_⟩
          · rw [hcalls]
            exact .opened h hfound
          · simp only [Run.followed, hresult]
            rfl
          · simp only [Run.followed, hresult, hlog]
      | error e =>
          rw [hresult] at hcalls
          refine ⟨.error e, r, calls, ?_, ?_, ?_⟩
          · rw [hcalls]
            exact .failed e hfound
          · simp only [Run.followed, hresult]
            rfl
          · simp only [Run.followed, hresult, hlog]

variable {respond} in
/-- An access goes on from its database; it gives what it should and opens nothing more. -/
theorem session_bind (hrespond : OnlyOpeningFails respond) (r : Registry) (a : Access) :
    ∃ next : Database × Registry → Session (Except Failure Given × Registry),
      a.session settings r = (r.database settings (.str a.name)).bind next ∧
      ∀ db after st, ∃ more, openings more = [] ∧
        ((next (db, after)).run (noting respond) st).result = .ok (.ok (a.given db), after) ∧
        ((next (db, after)).run (noting respond) st).state.2 = st.2 ++ more := by
  cases a with
  | database name => exact ⟨_, rfl, fun _ _ _ => ⟨[], rfl, rfl, (List.append_nil _).symm⟩⟩
  | handle name =>
      refine ⟨_, Session.bind_assoc .., fun _ _ _ => ⟨[], rfl, rfl, ?_⟩⟩
      exact (List.append_nil _).symm
  | collection name c =>
      refine ⟨_, Session.bind_assoc .., fun db after st => ?_⟩
      obtain ⟨answer, hanswer⟩ := hrespond (.collection c) st.1 (by simp)
      refine ⟨[(.collection c, true)], rfl, ?_, ?_⟩ <;>
        simp [Session.ask, Session.recover, Session.run, noting, hanswer, Access.given,
          Except.map, Except.isOk, Except.toBool]

variable {respond} in
/-- An access comes to what asking for its database comes to; nothing else of it fails. -/
theorem took_step (hrespond : OnlyOpeningFails respond) (r : Registry) (a : Access)
    (st : σ × List (Call × Bool)) :
    ∃ outcome calls, Took r a.name outcome (step settings (noting respond) r a st).registry
        (openings calls) ∧
      (step settings (noting respond) r a st).result = outcome.map a.given ∧
      (step settings (noting respond) r a st).state.2 = st.2 ++ calls := by
  obtain ⟨outcome, after, calls, htook, hresult, hlog⟩ :=
    took_database settings respond r a.name st
  obtain ⟨next, hsession, hnext⟩ := session_bind settings hrespond r a
  have hrun := run_bind (noting respond) (r.database settings (.str a.name)) next st
  cases outcome with
  | ok db =>
      obtain ⟨more, hmore, hgiven, hmoreLog⟩ :=
        hnext db after ((r.database settings (.str a.name)).run (noting respond) st).state
      obtain ⟨hfollowed, -, hstate⟩ := Run.followed_of_ok hresult
        fun p st => (next p).run (noting respond) st
      rw [← hrun, hgiven] at hfollowed
      refine ⟨.ok db, calls ++ more, ?_, ?_, ?_⟩ <;> simp only [step, hsession, hfollowed]
      · rwa [openings_append, hmore, List.append_nil]
      · rfl
      · rw [hrun, hstate, hmoreLog, hlog, List.append_assoc]
  | error e =>
      obtain ⟨hfollowed, -, hstate⟩ := Run.followed_of_error hresult
        fun p st => (next p).run (noting respond) st
      rw [← hrun] at hfollowed
      obtain rfl := htook.of_error
      refine ⟨.error e, calls, ?_, ?_, ?_⟩ <;> simp only [step, hsession, hfollowed]
      · exact htook
      · rfl
      · rw [hrun, hstate, hlog]

variable {settings respond} in
/-- An access that fails leaves the registry as it was. -/
theorem step_unchanged (hrespond : OnlyOpeningFails respond) {r : Registry} {a : Access}
    {st : σ × List (Call × Bool)} {e : Failure}
    (hfailed : (step settings (noting respond) r a st).result = .error e) :
    (step settings (noting respond) r a st).registry = r := by
  obtain ⟨outcome, calls, htook, hresult, -⟩ := took_step settings hrespond r a st
  rw [hfailed] at hresult
  cases outcome with
  | error e => exact htook.of_error
  | ok db => cases hresult

variable {settings respond} in
/-- An access to a database that is open is given of it, and opens nothing. -/
theorem step_found (hrespond : OnlyOpeningFails respond) {r : Registry} {a : Access}
    (st : σ × List (Call × Bool)) {db : Database} (hfound : r.find? (.str a.name) = some db) :
    (step settings (noting respond) r a st).result = .ok (a.given db) ∧
      (step settings (noting respond) r a st).registry = r ∧
      openings (step settings (noting respond) r a st).state.2 = openings st.2 := by
  obtain ⟨outcome, calls, htook, hresult, hlog⟩ := took_step settings hrespond r a st
  obtain ⟨rfl, hsame, hnone⟩ := htook.of_find? hfound
  refine ⟨hresult, hsame, ?_⟩
  rw [hlog, openings_append, hnone, List.append_nil]

end

/-! ## The invariant -/

/-- A database is opened again only when all openings of it before have failed. -/
def OpenedOnce (calls : List (Value × Bool)) : Prop :=
  calls.Pairwise fun earlier later => earlier.1 = later.1 → earlier.2 = false

/-- What holds of a registry after the openings that were called for. -/
structure Kept (system : Handle) (options : LogOptions) (r : Registry)
    (calls : List (Value × Bool)) : Prop where
  /-- The handle on the system database stays. -/
  system : r.system = system
  /-- The log options stay. -/
  options : r.options = options
  /-- All databases share both. -/
  shared : ∀ entry ∈ r.databases,
    entry.2.system = some r.system ∧ entry.2.options = r.options
  /-- The names are those of the openings that succeeded, in order. -/
  names : r.names = (calls.filter Prod.snd).map Prod.fst
  /-- No database is opened again that was opened. -/
  once : OpenedOnce calls

namespace Kept

variable {system : Handle} {options : LogOptions} {r after : Registry} {name : String}
  {outcome : Except Failure Database} {calls more : List (Value × Bool)}

/-- No name is there twice. -/
theorem nodup (h : Kept system options r calls) : r.names.Nodup := by
  rw [h.names, List.Nodup, List.pairwise_map, List.pairwise_filter]
  exact h.once.imp fun hfailed hearlier _ hname => by simp [hfailed hname] at hearlier

/-- An opening of a database that is not open comes after failed ones only. -/
theorem once_append (h : Kept system options r calls) (hnone : r.find? (.str name) = none)
    (succeeded : Bool) : OpenedOnce (calls ++ [(.str name, succeeded)]) := by
  refine List.pairwise_append.2 ⟨h.once, List.pairwise_singleton .., ?_⟩
  rintro ⟨other, success⟩ hother later hlater hname
  rw [List.mem_singleton.1 hlater] at hname
  cases success with
  | false => rfl
  | true =>
      refine absurd ?_ (not_mem_names hnone)
      rw [h.names]
      exact List.mem_map.2 ⟨(other, true), List.mem_filter.2 ⟨hother, rfl⟩, hname⟩

/-- Asking for a database keeps the invariant, however it comes out. -/
theorem took (h : Kept system options r calls) (htook : Took r name outcome after more) :
    Kept system options after (calls ++ more) := by
  cases htook with
  | found => rwa [List.append_nil]
  | failed _ hnone =>
      exact { h with
        names := by simp [h.names]
        once := h.once_append hnone false }
  | opened handle hnone =>
      refine ⟨h.system, h.options, ?_, ?_, h.once_append hnone true⟩
      · intro entry hentry
        rcases List.mem_append.1 hentry with hentry | hentry
        · exact h.shared entry hentry
        · rw [List.mem_singleton.1 hentry]
          exact ⟨rfl, rfl⟩
      · have hnames : r.databases.map Prod.fst = (calls.filter Prod.snd).map Prod.fst := h.names
        simp [Registry.names, added, hnames]

end Kept

/-! ## Runs -/

section

variable {σ : Type} (settings : Settings) {respond : Responder σ}

/-- Asking for one database after the other keeps the invariant. -/
theorem openAll_kept {system : Handle} {options : LogOptions} (names : List String)
    {r r' : Registry} {st : σ × List (Call × Bool)} {calls : List (Value × Bool)}
    (h : Kept system options r calls)
    (hresult : ((openAll settings r (names.map .str)).run (noting respond) st).result = .ok r') :
    ∃ more, Kept system options r' (calls ++ openings more) ∧
      ((openAll settings r (names.map .str)).run (noting respond) st).state.2 = st.2 ++ more := by
  induction names generalizing r st calls with
  | nil =>
      cases hresult
      refine ⟨[], ?_, (List.append_nil _).symm⟩
      rwa [openings_nil, List.append_nil]
  | cons name rest ih =>
      obtain ⟨outcome, after, opened, htook, htaken, hlog⟩ :=
        took_database settings respond r name st
      obtain ⟨⟨db, next⟩, hfirst, hrest, hstate⟩ := run_bind_ok _ hresult
      rw [htaken] at hfirst
      cases outcome with
      | error e => cases hfirst
      | ok db =>
          cases hfirst
          obtain ⟨more, hkept, hmore⟩ := ih (h.took htook) hrest
          refine ⟨opened ++ more, ?_, ?_⟩
          · rwa [openings_append, ← List.append_assoc]
          · rw [List.map_cons, openAll, ← List.append_assoc, ← hlog]
            exact (congrArg Prod.snd hstate).trans hmore

/-- The accesses keep the invariant, with the openings that they call for. -/
theorem visit_kept (hrespond : OnlyOpeningFails respond) {system : Handle} {options : LogOptions}
    (accesses : List Access) {r : Registry} (st : σ × List (Call × Bool))
    {calls : List (Value × Bool)} (h : Kept system options r calls) :
    ∃ more, Kept system options (visit settings (noting respond) r accesses st).registry
        (calls ++ openings more) ∧
      (visit settings (noting respond) r accesses st).state.2 = st.2 ++ more := by
  induction accesses generalizing r st calls with
  | nil =>
      refine ⟨[], ?_, (List.append_nil _).symm⟩
      rwa [openings_nil, List.append_nil]
  | cons a rest ih =>
      obtain ⟨outcome, opened, htook, -, hlog⟩ := took_step settings hrespond r a st
      obtain ⟨more, hkept, hmore⟩ := ih (step settings (noting respond) r a st).state (h.took htook)
      refine ⟨opened ++ more, ?_, ?_⟩
      · rwa [openings_append, ← List.append_assoc]
      · rw [← List.append_assoc, ← hlog]
        exact hmore

/-- What is open stays open along the accesses. -/
theorem find?_visit (hrespond : OnlyOpeningFails respond) (accesses : List Access) {r : Registry}
    {st : σ × List (Call × Bool)} {name : String} {db : Database}
    (h : r.find? (.str name) = some db) :
    (visit settings (noting respond) r accesses st).registry.find? (.str name) = some db := by
  induction accesses generalizing r st with
  | nil => exact h
  | cons a rest ih =>
      obtain ⟨outcome, opened, htook, -, -⟩ := took_step settings hrespond r a st
      exact ih (htook.find?_mono h)

/-- What the accesses give is given of the databases that are open in the end. -/
theorem given_visit (hrespond : OnlyOpeningFails respond) {accesses : List Access} {r : Registry}
    {st : σ × List (Call × Bool)} {a : Access} {given : Given}
    (h : (a, .ok given) ∈ (visit settings (noting respond) r accesses st).results) :
    ∃ db, (visit settings (noting respond) r accesses st).registry.find? (.str a.name) = some db ∧
      given = a.given db := by
  induction accesses generalizing r st with
  | nil => cases h
  | cons b rest ih =>
      obtain ⟨outcome, opened, htook, hresult, -⟩ := took_step settings hrespond r b st
      rcases List.mem_cons.1 h with hfirst | hrest
      · obtain ⟨rfl, hgiven⟩ := Prod.mk.inj hfirst
        rw [hresult] at hgiven
        cases outcome with
        | error e => cases hgiven
        | ok db =>
            cases hgiven
            exact ⟨db, find?_visit settings hrespond rest htook.find?_of_ok, rfl⟩
      · exact ih hrest

/-! ## Making a registry -/

/-- The names of the databases to open at once are the texts that are given. -/
theorem names_ofTexts (o : RegistryOptions) (initial : Option Texts) :
    ({ o with databases := TrimOptions.textsToValue initial } : RegistryOptions).names =
      .ok ((initial.elim [] Texts.toList).map .str) := by
  match initial with
  | none => rfl
  | some (.one s) => rfl
  | some (.many []) => rfl
  | some (.many (s :: rest)) => rfl

/-- Making a client takes one call, which opens no database. -/
theorem openings_connect (hrespond : OnlyOpeningFails respond) (hosts : Value)
    (st : σ × List (Call × Bool)) :
    ∃ calls, openings calls = [] ∧
      ((Database.connect settings hosts).run (noting respond) st).result = .ok () ∧
      ((Database.connect settings hosts).run (noting respond) st).state.2 = st.2 ++ calls := by
  have hcall : ∃ host record next, Database.connect settings hosts = call (.client host) next ∧
      next (.ok ()) = log record (done ()) := ⟨_, _, _, rfl, rfl⟩
  obtain ⟨host, record, next, hconnect, hnext⟩ := hcall
  obtain ⟨answer, hanswer⟩ := hrespond (.client host) st.1 (by simp)
  have hnoted : noting respond (.client host) st =
      (.ok (), (respond (.client host) st.1).2, st.2 ++ [(.client host, true)]) := by
    simp [noting, hanswer, Except.isOk, Except.toBool]
  refine ⟨[(.client host, true)], rfl, ?_, ?_⟩ <;> simp only [hconnect, Session.run, hnoted, hnext]

/-- A registry without databases. -/
def fresh (settings : Settings) (o : RegistryOptions) (system : Handle) : Registry where
  user := Database.orSetting o.user settings.connection.user
  password := Database.orSetting o.password settings.connection.password
  options := o.options
  system := system

theorem kept_fresh (o : RegistryOptions) (system : Handle) :
    Kept system o.options (fresh settings o system) [] :=
  ⟨rfl, rfl, fun _ h => (nomatch h), rfl, .nil⟩

/-- What is left to do with a client: the system database is opened, and then some others. -/
def openSystem (settings : Settings) (o : RegistryOptions) (names : List Value) :
    Session Registry :=
  (Database.openHandle settings (.str Database.systemName)
    (Database.orSetting o.user settings.connection.user)
    (Database.orSetting o.password settings.connection.password)).bind fun system =>
      openAll settings (fresh settings o system) names

/-- A registry begins with the system database, and keeps the invariant from there. -/
theorem openSystem_kept (o : RegistryOptions) (names : List String) {r : Registry}
    {st : σ × List (Call × Bool)}
    (hresult : ((openSystem settings o (names.map .str)).run (noting respond) st).result = .ok r) :
    ∃ first calls, openings first = [(.str Database.systemName, true)] ∧
      Kept r.system o.options r (openings calls) ∧
      ((openSystem settings o (names.map .str)).run (noting respond) st).state.2 =
        st.2 ++ first ++ calls := by
  obtain ⟨system, hsystem, hrest, hstate⟩ := run_bind_ok _ hresult
  obtain ⟨first, hfirst, hlog⟩ := openings_openHandle settings respond Database.systemName
    (Database.orSetting o.user settings.connection.user)
    (Database.orSetting o.password settings.connection.password) st
  obtain ⟨calls, hkept, hcalls⟩ := openAll_kept settings names (kept_fresh settings o system) hrest
  refine ⟨first, calls, ?_, ?_, ?_⟩
  · rw [hfirst, hsystem]
    rfl
  · rw [hkept.system]
    exact hkept
  · rw [← hlog, ← hcalls, ← hstate]
    rfl

variable (respond) in
/-- The making of a registry that opens some databases at once. -/
def making (o : RegistryOptions) (initial : Option Texts) (st : σ) :
    Run (σ × List (Call × Bool)) Registry :=
  (create settings { o with databases := TrimOptions.textsToValue initial }).run (noting respond)
    (st, [])

/-- Making a registry opens the system database, and then keeps the invariant. -/
theorem create_kept (hrespond : OnlyOpeningFails respond) (o : RegistryOptions)
    (initial : Option Texts) {r : Registry} {st : σ}
    (hresult : (making settings respond o initial st).result = .ok r) :
    ∃ first calls, (making settings respond o initial st).state.2 = first ++ calls ∧
      openings first = [(.str Database.systemName, true)] ∧
      Kept r.system o.options r (openings calls) := by
  have hcreate : create settings { o with databases := TrimOptions.textsToValue initial } =
      if o.hasClient then openSystem settings o ((initial.elim [] Texts.toList).map .str)
      else (Database.connect settings o.hosts).bind fun _ =>
        openSystem settings o ((initial.elim [] Texts.toList).map .str) := by
    simp only [create, openSystem, fresh, names_ofTexts, bind_eq, ofUse_ok, done_bind]
  rw [making, hcreate] at hresult ⊢
  split at hresult
  case isTrue hclient =>
    obtain ⟨first, calls, hfirst, hkept, hlog⟩ := openSystem_kept settings o _ hresult
    rw [if_pos hclient]
    exact ⟨first, calls, hlog, hfirst, hkept⟩
  case isFalse hclient =>
    obtain ⟨before, hbefore, -, hconnect⟩ := openings_connect settings hrespond o.hosts (st, [])
    obtain ⟨_, -, hrest, hstate⟩ := run_bind_ok _ hresult
    obtain ⟨first, calls, hfirst, hkept, hlog⟩ := openSystem_kept settings o _ hrest
    refine ⟨before ++ first, calls, ?_, ?_, hkept⟩
    · rw [if_neg hclient, hstate, hlog, hconnect]
      rfl
    · rw [openings_append, hbefore, hfirst]
      rfl

end

/-! ## A registry and its visitors -/

section

variable {σ : Type} (settings : Settings)

/-- What holds after some accesses to a registry, of the openings called for since it has its
system database. -/
structure Consistent (respond : Responder σ) (system : Handle) (options : LogOptions)
    (calls : List (Value × Bool)) (v : Visit (σ × List (Call × Bool))) : Prop where
  /-- A database is opened again only when all openings of it before have failed. -/
  once : OpenedOnce calls
  /-- The names are those of the databases that were opened, in order. -/
  names : v.registry.names = (calls.filter Prod.snd).map Prod.fst
  /-- No name is there twice. -/
  nodup : v.registry.names.Nodup
  /-- All databases share the handle on the system database and the log options. -/
  shared : ∀ entry ∈ v.registry.databases,
    entry.2.system = some system ∧ entry.2.options = options
  /-- Whatever was given of a name was given of the one database of that name. -/
  given : ∀ a given, (a, .ok given) ∈ v.results →
    ∃ db, v.registry.find? (.str a.name) = some db ∧ given = a.given db
  /-- An access that fails leaves the registry as it was. -/
  unchanged : ∀ a e, (step settings (noting respond) v.registry a v.state).result = .error e →
    (step settings (noting respond) v.registry a v.state).registry = v.registry
  /-- An access to a database that is open is given of it, and opens nothing. -/
  found : ∀ a db, v.registry.find? (.str a.name) = some db →
    (step settings (noting respond) v.registry a v.state).result = .ok (a.given db) ∧
      (step settings (noting respond) v.registry a v.state).registry = v.registry ∧
      openings (step settings (noting respond) v.registry a v.state).state.2 =
        openings v.state.2

/-- However often openings fail, a registry is consistent with them after all accesses. -/
theorem visit_consistent {respond : Responder σ} (hrespond : OnlyOpeningFails respond)
    (o : RegistryOptions) (initial : Option Texts) (st : σ) {r : Registry}
    (hmade : (making settings respond o initial st).result = .ok r) (accesses : List Access) :
    let v := visit settings (noting respond) r accesses (making settings respond o initial st).state
    ∃ first calls, v.state.2 = first ++ calls ∧
      openings first = [(.str Database.systemName, true)] ∧
      Consistent settings respond r.system o.options (openings calls) v := by
  intro v
  obtain ⟨first, calls, hlog, hfirst, hkept⟩ := create_kept settings hrespond o initial hmade
  obtain ⟨more, hkept, hmore⟩ :=
    visit_kept settings hrespond accesses (making settings respond o initial st).state hkept
  rw [← openings_append] at hkept
  refine ⟨first, calls ++ more, ?_, hfirst, ?_⟩
  · rw [hmore, hlog, List.append_assoc]
  · exact {
      once := hkept.once
      names := hkept.names
      nodup := hkept.nodup
      shared := fun entry hentry => hkept.system ▸ hkept.options ▸ hkept.shared entry hentry
      given := fun _ _ => given_visit settings hrespond
      unchanged := fun _ _ => step_unchanged hrespond
      found := fun _ _ => step_found hrespond v.state }

/-- Whether a call opens a database. -/
def opensDatabase : Call → Bool
  | .database .. => true
  | _ => false

/-- With a script for the openings nothing else fails. -/
theorem onlyOpeningFails_scripted : OnlyOpeningFails (Scripted.respond opensDatabase) := by
  intro c st hc
  have hsure : opensDatabase c = false := by
    cases c with
    | database name user password => exact absurd rfl (hc name user password)
    | _ => rfl
  rw [Scripted.respond_sure hsure]
  exact Server.respond_ok c st.server

/-- A database that fails to open is opened by the next access to it, and only by that one. -/
theorem visit_reopened :
    let settings : Settings := {}
    let respond := Scripted.respond opensDatabase
    let st : Scripted := ⟨{}, fun n => if n = 2 then some "no route" else none⟩
    let system : Handle := ⟨0, .str "_system"⟩
    let r : Registry :=
      { user := .str "root"
        password := .str ""
        options := {}
        system := system
        databases := [(.str "cycling", ⟨⟨1, .str "cycling"⟩, some system, {}⟩)] }
    let making := making settings respond { user := .str "root", password := .str "" }
      (some (.many ["cycling"])) st
    let v := visit settings (noting respond) r
      [.database "running", .handle "running", .collection "cycling" (.str "riders"),
        .database "running"] making.state
    OnlyOpeningFails respond ∧ making.result = .ok r ∧
      (∃ first calls, v.state.2 = first ++ calls ∧
        openings first = [(.str Database.systemName, true)] ∧
        Consistent settings respond system {} (openings calls) v) ∧
      openings v.state.2 = [(.str "_system", true), (.str "cycling", true), (.str "running", false),
        (.str "running", true)] ∧
      v.registry.names = [.str "cycling", .str "running"] :=
  ⟨onlyOpeningFails_scripted, rfl,
    visit_consistent {} onlyOpeningFails_scripted { user := .str "root", password := .str "" }
      (some (.many ["cycling"])) _ rfl _, rfl, rfl⟩

end

end Registry

end DocQuery
