import DocQuery.Database.Query

/-!
# Runs of sessions

The run of a session that goes on with another is the one run after the other
(`run_bind`).  `Returns` says that a session runs to a result on a server, with which calls and
to which state; it is put together along the session (`Returns.bind`).

What a session does whatever a server answers is said of its tree.  `Meets` bounds the
calls that it makes, the failures that it ends in and its results, along every way that
answers can lead.  `Meets.bind_iff` takes a session apart into its steps, so that a session
is judged by one lemma for each of its parts, and `Meets.run` carries the judgement to the
run on any server.
-/

namespace DocQuery

namespace Session

variable {α β γ σ : Type}

/-! ## Sessions in sequence -/

@[simp] theorem pure_eq (a : α) : (pure a : Session α) = done a := rfl

@[simp] theorem bind_eq (s : Session α) (f : α → Session β) : s >>= f = s.bind f := rfl

@[simp] theorem map_eq (f : α → β) (s : Session α) : f <$> s = s.bind fun a => done (f a) := rfl

@[simp] theorem ofExcept_ok (a : α) : ofExcept (.ok a) = done a := rfl

@[simp] theorem ofExcept_error (e : Failure) : (ofExcept (.error e) : Session α) = fail e := rfl

@[simp] theorem ofUse_ok (a : α) : ofUse (.ok a) = done a := rfl

@[simp] theorem done_bind (a : α) (f : α → Session β) : (done a).bind f = f a := rfl

@[simp] theorem fail_bind (e : Failure) (f : α → Session β) : (fail e : Session α).bind f = fail e :=
  rfl

@[simp] theorem log_bind (r : Log.Record) (s : Session α) (f : α → Session β) :
    (log r s).bind f = log r (s.bind f) := rfl

@[simp] theorem call_bind (c : Call) (next : Except Fault c.Answer → Session α)
    (f : α → Session β) : (call c next).bind f = call c fun answer => (next answer).bind f := rfl

protected theorem bind_assoc (s : Session α) (f : α → Session β) (g : β → Session γ) :
    (s.bind f).bind g = s.bind fun a => (f a).bind g := by
  induction s with
  | done a => rfl
  | fail e => rfl
  | log r next ih => simp [ih]
  | call c next ih => simp [ih]

/-! ## Runs in sequence -/

/-- A run, and then another from its result and the state it leaves; a failure ends it. -/
def Run.followed (r : Run σ α) (next : α → σ → Run σ β) : Run σ β :=
  match r.result with
  | .ok a =>
      let rest := next a r.state
      { rest with calls := r.calls ++ rest.calls, records := r.records ++ rest.records }
  | .error e => { r with result := .error e }

theorem Run.followed_of_ok {r : Run σ α} {a : α} (h : r.result = .ok a)
    (next : α → σ → Run σ β) :
    (r.followed next).result = (next a r.state).result ∧
      (r.followed next).calls = r.calls ++ (next a r.state).calls ∧
      (r.followed next).state = (next a r.state).state := by
  simp [followed, h]

theorem Run.followed_of_error {r : Run σ α} {e : Failure} (h : r.result = .error e)
    (next : α → σ → Run σ β) :
    (r.followed next).result = .error e ∧ (r.followed next).calls = r.calls ∧
      (r.followed next).state = r.state := by
  simp [followed, h]

variable (respond : Responder σ)

theorem run_bind (s : Session α) (f : α → Session β) (st : σ) :
    (s.bind f).run respond st = (s.run respond st).followed fun a st => (f a).run respond st := by
  induction s generalizing st with
  | done a => simp [run, Run.followed]
  | fail e => rfl
  | log r next ih =>
      simp only [log_bind, run, ih]
      cases h : (next.run respond st).result <;> simp [Run.followed, h]
  | call c next ih =>
      simp only [call_bind, run, ih]
      cases h : ((next (respond c st).1).run respond (respond c st).2).result <;>
        simp [Run.followed, h]

theorem result_bind (s : Session α) (f : α → Session β) (st : σ) :
    ((s.bind f).run respond st).result = (s.run respond st).result.bind fun a =>
      ((f a).run respond (s.run respond st).state).result := by
  rw [run_bind]
  cases hs : (s.run respond st).result with
  | error e => exact (Run.followed_of_error hs _).1
  | ok a => exact (Run.followed_of_ok hs _).1

/-- A session that goes on to a result has one in its first part. -/
theorem run_bind_ok {s : Session α} {f : α → Session β} {st : σ} {b : β}
    (h : ((s.bind f).run respond st).result = .ok b) :
    ∃ a, (s.run respond st).result = .ok a ∧
      ((f a).run respond (s.run respond st).state).result = .ok b ∧
      ((s.bind f).run respond st).state = ((f a).run respond (s.run respond st).state).state := by
  rw [result_bind] at h
  cases hs : (s.run respond st).result with
  | error e =>
      rw [hs] at h
      cases h
  | ok a =>
      rw [hs] at h
      refine ⟨a, rfl, h, ?_⟩
      rw [run_bind]
      exact (Run.followed_of_ok hs _).2.2

theorem run_bind_of_error {s : Session α} {st : σ} {e : Failure}
    (h : (s.run respond st).result = .error e) (f : α → Session β) :
    ((s.bind f).run respond st).result = .error e ∧
      ((s.bind f).run respond st).calls = (s.run respond st).calls ∧
      ((s.bind f).run respond st).state = (s.run respond st).state := by
  rw [run_bind]
  exact Run.followed_of_error h _

/-- A call of a session that goes on with another is a call of one of both. -/
theorem mem_calls_bind {s : Session α} {f : α → Session β} {st : σ} {c : Call}
    (h : c ∈ ((s.bind f).run respond st).calls) :
    c ∈ (s.run respond st).calls ∨ ∃ a, (s.run respond st).result = .ok a ∧
      c ∈ ((f a).run respond (s.run respond st).state).calls := by
  rw [run_bind] at h
  cases hs : (s.run respond st).result with
  | error e =>
      rw [(Run.followed_of_error hs _).2.1] at h
      exact .inl h
  | ok a =>
      rw [(Run.followed_of_ok hs _).2.1, List.mem_append] at h
      exact h.imp_right fun h => ⟨a, rfl, h⟩

theorem run_ask (c : Call) (st : σ) :
    (ask c).run respond st =
      ⟨(respond c st).1.mapError Failure.fault, [c], [], (respond c st).2⟩ := by
  unfold ask
  simp only [run]
  cases (respond c st).1 <;> rfl

theorem run_notes (records : List Log.Record) (st : σ) :
    (notes records).run respond st = ⟨.ok (), [], records, st⟩ := by
  induction records with
  | nil => rfl
  | cons r rest ih => simp [notes, run, ih]

theorem run_ofExcept (outcome : Except Failure α) (st : σ) :
    (ofExcept outcome).run respond st = ⟨outcome, [], [], st⟩ := by
  cases outcome <;> rfl

/-- A session that runs to a result, with the calls that it makes and the state it leaves. -/
structure Returns (st : σ) (s : Session α) (calls : List Call) (a : α) (st' : σ) : Prop where
  result : (s.run respond st).result = .ok a
  calls : (s.run respond st).calls = calls
  state : (s.run respond st).state = st'

namespace Returns

variable {respond} {st st' st'' : σ}

theorem done (a : α) : Returns respond st (.done a) [] a st := ⟨rfl, rfl, rfl⟩

theorem log {s : Session α} {calls : List Call} {a : α} (r : Log.Record)
    (h : Returns respond st s calls a st') : Returns respond st (.log r s) calls a st' :=
  ⟨h.result, h.calls, h.state⟩

theorem attempt (c : Call) :
    Returns respond st (attempt c) [c] (respond c st).1 (respond c st).2 := ⟨rfl, rfl, rfl⟩

theorem ask {c : Call} {answer : c.Answer} (h : (respond c st).1 = .ok answer) :
    Returns respond st (ask c) [c] answer (respond c st).2 := by
  constructor <;> rw [run_ask]
  rw [h]
  rfl

/-- A session goes on from the result and the state of its first part. -/
theorem run_bind {s : Session α} {calls : List Call} {a : α}
    (h : Returns respond st s calls a st') (f : α → Session β) :
    ((s.bind f).run respond st).result = ((f a).run respond st').result ∧
      ((s.bind f).run respond st).calls = calls ++ ((f a).run respond st').calls ∧
      ((s.bind f).run respond st).state = ((f a).run respond st').state := by
  have hrest := Run.followed_of_ok h.result fun a st => (f a).run respond st
  rwa [← Session.run_bind, h.calls, h.state] at hrest

theorem bind {s : Session α} {f : α → Session β} {calls calls' : List Call} {a : α} {b : β}
    (h : Returns respond st s calls a st') (hf : Returns respond st' (f a) calls' b st'') :
    Returns respond st (s.bind f) (calls ++ calls') b st'' := by
  obtain ⟨hresult, hcalls, hstate⟩ := h.run_bind f
  exact ⟨hresult.trans hf.result, hcalls.trans (congrArg _ hf.calls), hstate.trans hf.state⟩

end Returns

/-! ## Whatever the server answers -/

/-- Along every way that a session can go, bounds its calls, the failures that it ends in
and its results. -/
def Meets (called : Call → Prop) (failed : Failure → Prop) (post : α → Prop) : Session α → Prop
  | done a => post a
  | fail e => failed e
  | log _ next => next.Meets called failed post
  | call c next => called c ∧ ∀ answer, (next answer).Meets called failed post

section Meets

variable {called called' : Call → Prop} {failed failed' : Failure → Prop} {post post' : α → Prop}

@[simp] theorem meets_done (a : α) : (done a).Meets called failed post ↔ post a := .rfl

@[simp] theorem meets_fail (e : Failure) :
    (fail e : Session α).Meets called failed post ↔ failed e := .rfl

@[simp] theorem meets_log (r : Log.Record) (next : Session α) :
    (log r next).Meets called failed post ↔ next.Meets called failed post := .rfl

@[simp] theorem meets_call (c : Call) (next : Except Fault c.Answer → Session α) :
    (call c next).Meets called failed post ↔
      called c ∧ ∀ answer, (next answer).Meets called failed post := .rfl

@[simp] theorem Meets.bind_iff (s : Session α) (f : α → Session β) {post : β → Prop} :
    (s.bind f).Meets called failed post ↔
      s.Meets called failed fun a => (f a).Meets called failed post := by
  induction s with
  | done a => rfl
  | fail e => rfl
  | log r next ih => simpa using ih
  | call c next ih => simp [ih]

theorem Meets.mono {s : Session α} (h : s.Meets called failed post)
    (hcalled : ∀ c, called c → called' c) (hfailed : ∀ e, failed e → failed' e)
    (hpost : ∀ a, post a → post' a) : s.Meets called' failed' post' := by
  induction s with
  | done a => exact hpost a h
  | fail e => exact hfailed e h
  | log r next ih => exact ih h
  | call c next ih => exact ⟨hcalled c h.1, fun answer => ih answer (h.2 answer)⟩

/-- A session that goes on with another is bounded as both are. -/
theorem Meets.bind {s : Session α} {f : α → Session β} {post' : β → Prop}
    (h : s.Meets called failed post) (hf : ∀ a, post a → (f a).Meets called failed post') :
    (s.bind f).Meets called failed post' :=
  (Meets.bind_iff s f).2 (h.mono (fun _ hc => hc) (fun _ he => he) hf)

@[simp] theorem meets_ask (c : Call) {post : c.Answer → Prop} :
    (ask c).Meets called failed post ↔
      called c ∧ (∀ answer, post answer) ∧ ∀ fault, failed (.fault fault) := by
  simp only [ask, meets_call, and_congr_right_iff]
  intro _
  exact ⟨fun h => ⟨fun a => h (.ok a), fun fault => h (.error fault)⟩, fun h answer => by
    cases answer with
    | ok a => exact h.1 a
    | error fault => exact h.2 fault⟩

@[simp] theorem meets_attempt (c : Call) {post : Except Fault c.Answer → Prop} :
    (attempt c).Meets called failed post ↔ called c ∧ ∀ answer, post answer := .rfl

@[simp] theorem meets_note (r : Log.Record) {post : Unit → Prop} :
    (note r).Meets called failed post ↔ post () := .rfl

@[simp] theorem meets_notes (records : List Log.Record) {post : Unit → Prop} :
    (notes records).Meets called failed post ↔ post () := by
  induction records with
  | nil => rfl
  | cons r rest ih => exact ih

@[simp] theorem meets_ofExcept (outcome : Except Failure α) :
    (ofExcept outcome).Meets called failed post ↔
      (∀ a, outcome = .ok a → post a) ∧ ∀ e, outcome = .error e → failed e := by
  cases outcome <;> simp [ofExcept]

@[simp] theorem meets_ofUse (outcome : Except Misuse α) :
    (ofUse outcome).Meets called failed post ↔
      (∀ a, outcome = .ok a → post a) ∧ ∀ m, outcome = .error m → failed (.misuse m) := by
  cases outcome <;> simp [ofUse]

/-- What bounds a session bounds its run on any server. -/
theorem Meets.run {s : Session α} (h : s.Meets called failed post) (st : σ) :
    (∀ c ∈ (s.run respond st).calls, called c) ∧
      (∀ a, (s.run respond st).result = .ok a → post a) ∧
      ∀ e, (s.run respond st).result = .error e → failed e := by
  induction s generalizing st with
  | done a =>
      refine ⟨fun _ hc => absurd hc List.not_mem_nil, fun b hb => ?_, fun e he => nomatch he⟩
      cases hb
      exact h
  | fail e =>
      refine ⟨fun _ hc => absurd hc List.not_mem_nil, fun b hb => (nomatch hb), fun f hf => ?_⟩
      cases hf
      exact h
  | log r next ih => exact ih h st
  | call c next ih =>
      obtain ⟨hcalls, hresult⟩ := ih _ (h.2 (respond c st).1) (respond c st).2
      refine ⟨fun d hd => ?_, hresult⟩
      rcases List.mem_cons.1 hd with rfl | hd
      · exact h.1
      · exact hcalls d hd

end Meets

/-- A session that calls nothing. -/
abbrev Silent (s : Session α) : Prop :=
  s.Meets (fun _ => False) (fun _ => True) fun _ => True

theorem Silent.calls {s : Session α} (h : s.Silent) (st : σ) :
    (s.run respond st).calls = [] :=
  List.eq_nil_iff_forall_not_mem.2 fun _ hc => (Meets.run respond h st).1 _ hc

/-! ## Sessions that call no more -/

/-- How a session ends that calls nothing more. -/
def ending : Session α → Option (Except Failure α)
  | done a => some (.ok a)
  | fail e => some (.error e)
  | log _ next => next.ending
  | call _ _ => none

theorem ending_bind (s : Session α) (f : α → Session β) :
    (s.bind f).ending = s.ending.bind fun
      | .ok a => (f a).ending
      | .error e => some (.error e) := by
  induction s with
  | done a => rfl
  | fail e => rfl
  | log r next ih => exact ih
  | call c next ih => rfl

theorem run_ending {s : Session α} {outcome : Except Failure α} (h : s.ending = some outcome)
    (st : σ) :
    (s.run respond st).result = outcome ∧ (s.run respond st).calls = [] ∧
      (s.run respond st).state = st := by
  induction s with
  | done a =>
      cases h
      exact ⟨rfl, rfl, rfl⟩
  | fail e =>
      cases h
      exact ⟨rfl, rfl, rfl⟩
  | log r next ih => exact ih h
  | call c next ih => cases h

end Session

/-! ## Queries that are built -/

namespace Database

open Session

variable {σ : Type} (respond : Responder σ)

theorem run_build (r : Request) (st : σ) :
    (build r).run respond st = ⟨r.query, [], r.records, st⟩ := by
  simp only [build, bind_eq, run_bind, run_notes, Run.followed, run_ofExcept, List.append_nil]

theorem returns_build {r : Request} {q : Query} (hr : r.query = .ok q) (st : σ) :
    Returns respond st (build r) [] q st := by
  constructor <;> simp only [run_build, hr]

/-- The rows of a request are those that the server answers its query with. -/
theorem returns_rowsOf {r : Request} {q : Query} (hr : r.query = .ok q) {st st' : σ}
    {cursor : Cursor}
    (h : respond (.execute (.str q.text) (.object q.binds) []) st = (.ok cursor, st')) :
    Returns respond st (rowsOf r) [.execute (.str q.text) (.object q.binds) []] cursor.rows st' := by
  have hasked := Returns.ask (congrArg Prod.fst h)
  rw [h] at hasked
  exact (returns_build respond hr st).bind (hasked.bind (Returns.done cursor.rows))

end Database

end DocQuery
