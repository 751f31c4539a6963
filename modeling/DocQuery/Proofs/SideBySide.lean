import DocQuery.Proofs.FirstChange
import Mathlib.Logic.Function.Basic

/-!
# Sessions side by side

Two sessions run on one server, side by side: each call of either one is one step.  A schedule
says which side comes next; `interleave` follows it to the end of both sessions, and gives the
calls in order, each with the state that it found, and the last state.  Run one after the other, the
sessions leave the state `serial`.

A session that changes the state changes it once, by its last call.  An interleaving leaves a
state that running one after the other leaves as well, if each side *redoes* its part alone: run by
itself at the state that its change found, it leaves what its change left, and if it changes
nothing, all its calls that look at the state find the same one (`serial_of_redoes`).  A side does
so if nothing disturbs it, and one that looks at the state but once does so if it makes its change
wherever it is run (`redoes_of_undisturbed`, `redoes_of_looksOnce`).
-/

namespace DocQuery

open Session

/-! ## Interleavings -/

/-- One of two sides. -/
inductive Side where
  | left | right
deriving DecidableEq, Repr

/-- The side across. -/
def Side.other : Side → Side
  | left => right
  | right => left

/-- A call of a side, with the state that it found. -/
structure Event (σ : Type) where
  /-- The side that calls. -/
  side : Side
  /-- The call. -/
  call : Call
  /-- The state before the call. -/
  before : σ

namespace Session

variable {α σ : Type}

/-- The next call of a session, and how the session goes on. -/
def next? : Session α → Option ((c : Call) × (Except Fault c.Answer → Session α))
  | done _ | fail _ => none
  | log _ next => next.next?
  | call c next => some ⟨c, next⟩

end Session

section

variable {α σ : Type} (respond : Responder σ)

/-- Follows a schedule to the end of both sessions: the calls, and the state at last. -/
def interleave : List Side → (Side → Session α) → σ → Option (List (Event σ) × σ)
  | [], sessions, st =>
      if (sessions .left).next?.isNone && (sessions .right).next?.isNone then some ([], st)
      else none
  | side :: rest, sessions, st => match (sessions side).next? with
      | none => none
      | some ⟨c, next⟩ =>
          (interleave rest (Function.update sessions side (next (respond c st).1))
            (respond c st).2).map fun r => (⟨side, c, st⟩ :: r.1, r.2)

/-- The state that two sessions leave, run one after the other. -/
def serial (sessions : Side → Session α) (first : Side) (st : σ) : σ :=
  ((sessions first.other).run respond ((sessions first).run respond st).state).state

/-! ## What an interleaving consists of -/

/-- The calls of a side, with the states that they found. -/
def callsOf (side : Side) (events : List (Event σ)) : List (Call × σ) :=
  events.filterMap fun e => if e.side = side then some (e.call, e.before) else none

/-- A session makes some calls, each answered at its state, and no more. -/
def Session.Along : List (Call × σ) → Session α → Prop
  | [], s => s.next? = none
  | p :: rest, s =>
      ∃ next, s.next? = some ⟨p.1, next⟩ ∧ Session.Along rest (next (respond p.1 p.2).1)

/-- Every call finds the state that the one before it left. -/
def Leads : σ → List (Event σ) → σ → Prop
  | st, [], last => last = st
  | st, e :: rest, last => e.before = st ∧ Leads (respond e.call st).2 rest last

variable {respond}

theorem callsOf_cons_self {side : Side} {e : Event σ} (h : e.side = side) (rest : List (Event σ)) :
    callsOf side (e :: rest) = (e.call, e.before) :: callsOf side rest := by
  simp [callsOf, h]

theorem callsOf_cons_of_ne {side : Side} {e : Event σ} (h : e.side ≠ side) (rest : List (Event σ)) :
    callsOf side (e :: rest) = callsOf side rest := by
  simp [callsOf, h]

theorem callsOf_append (side : Side) (events more : List (Event σ)) :
    callsOf side (events ++ more) = callsOf side events ++ callsOf side more :=
  List.filterMap_append

theorem mem_callsOf {side : Side} {events : List (Event σ)} {p : Call × σ} :
    p ∈ callsOf side events ↔ ∃ e ∈ events, e.side = side ∧ (e.call, e.before) = p := by
  simp [callsOf]

theorem before_of_mem_callsOf {side : Side} {events : List (Event σ)} {p : Call × σ}
    (h : p ∈ callsOf side events) : ∃ e ∈ events, e.before = p.2 := by
  obtain ⟨e, he, -, rfl⟩ := mem_callsOf.1 h
  exact ⟨e, he, rfl⟩

/-- An interleaving goes along both sessions, from state to state. -/
theorem along_of_interleave {schedule : List Side} {sessions : Side → Session α} {st last : σ}
    {events : List (Event σ)} (h : interleave respond schedule sessions st = some (events, last)) :
    (∀ side, Along respond (callsOf side events) (sessions side)) ∧
      Leads respond st events last := by
  induction schedule generalizing sessions st events last with
  | nil =>
      simp only [interleave] at h
      split at h
      · rename_i hended
        rw [Bool.and_eq_true, Option.isNone_iff_eq_none, Option.isNone_iff_eq_none] at hended
        cases h
        refine ⟨fun side => ?_, rfl⟩
        cases side with
        | left => exact hended.1
        | right => exact hended.2
      · cases h
  | cons side rest ih =>
      simp only [interleave] at h
      split at h
      · cases h
      · rename_i c next hnext
        obtain ⟨⟨events', last'⟩, hrest, hevents⟩ := Option.map_eq_some_iff.1 h
        cases hevents
        obtain ⟨halong, hleads⟩ := ih hrest
        refine ⟨fun other => ?_, rfl, hleads⟩
        have hother := halong other
        by_cases hside : side = other
        · subst hside
          rw [Function.update_self] at hother
          rw [callsOf_cons_self (e := ⟨side, c, st⟩) rfl]
          exact ⟨next, hnext, hother⟩
        · rw [Function.update_of_ne (Ne.symm hside)] at hother
          rwa [callsOf_cons_of_ne hside]

/-- What goes along both sessions, from state to state, is an interleaving. -/
theorem interleave_of_along {sessions : Side → Session α} {events : List (Event σ)} {st last : σ}
    (halong : ∀ side, Along respond (callsOf side events) (sessions side))
    (hleads : Leads respond st events last) :
    interleave respond (events.map Event.side) sessions st = some (events, last) := by
  induction events generalizing sessions st with
  | nil =>
      have hleft : (sessions .left).next? = none := halong .left
      have hright : (sessions .right).next? = none := halong .right
      have hlast : last = st := hleads
      simp [interleave, hleft, hright, hlast]
  | cons e rest ih =>
      obtain ⟨rfl, hleads⟩ := hleads
      have hself := halong e.side
      rw [callsOf_cons_self rfl] at hself
      obtain ⟨next, hnext, hself⟩ := hself
      have hboth : ∀ side, Along respond (callsOf side rest)
          (Function.update sessions e.side (next (respond e.call e.before).1) side) := by
        intro side
        by_cases hside : side = e.side
        · rwa [hside, Function.update_self]
        · have hother := halong side
          rw [callsOf_cons_of_ne (Ne.symm hside)] at hother
          rwa [Function.update_of_ne hside]
      simp only [List.map_cons, interleave, hnext]
      rw [ih hboth hleads]
      rfl

end

/-! ## One side alone -/

/-- Whether a call looks at the state; the others only name something. -/
def Call.looks : Call → Bool
  | client _ | database .. | collection _ => false
  | _ => true

theorem Call.looks_of_mutates {c : Call} (h : c.mutates = true) : c.looks = true := by
  cases c <;> first | rfl | cases h

/-- A server whose state is changed by calls that count as changes alone, and that answers the
calls alike that do not look at it. -/
structure Faithful {σ : Type} (respond : Responder σ) : Prop where
  quiet : ∀ {c : Call}, c.mutates = false → ∀ st, (respond c st).2 = st
  blind : ∀ {c : Call}, c.looks = false → ∀ st st', (respond c st).1 = (respond c st').1

/-- A call that finds the same state, if it looks at it, is answered alike. -/
theorem Faithful.answer {σ : Type} {respond : Responder σ} (h : Faithful respond) {c : Call}
    {st st' : σ} (hsame : c.looks = true → st = st') : (respond c st).1 = (respond c st').1 := by
  cases hlook : c.looks with
  | false => exact h.blind hlook st st'
  | true => rw [hsame hlook]

/-- Sessions that change the state at most once, by the last of their calls. -/
abbrev ChangesLast {α : Type} (s : Session α) : Prop := s.Past Call.mutates Silent

namespace Session

section

variable {α σ : Type} {respond : Responder σ} {s : Session α} {c : Call}
  {onward : Except Fault c.Answer → Session α}

theorem run_next (h : s.next? = some ⟨c, onward⟩) (st : σ) :
    (s.run respond st).state =
      ((onward (respond c st).1).run respond (respond c st).2).state := by
  induction s with
  | done a => cases h
  | fail e => cases h
  | log r rest ih => exact ih h
  | call d rest ih =>
      cases h
      rfl

theorem run_ended (h : s.next? = none) (st : σ) : (s.run respond st).state = st := by
  induction s with
  | done a => rfl
  | fail e => rfl
  | log r rest ih => exact ih h
  | call d rest ih => cases h

theorem Silent.next? (h : s.Silent) : s.next? = none := by
  induction s with
  | done a => rfl
  | fail e => rfl
  | log r rest ih => exact ih h
  | call d rest ih => exact absurd h.1 id

theorem Silent.past {counts : Call → Bool} {after : Session α → Prop} (h : s.Silent) :
    s.Past counts after := by
  induction s with
  | done a => trivial
  | fail e => trivial
  | log r rest ih => exact ih h
  | call d rest ih => exact absurd h.1 id

theorem Past.next {counts : Call → Bool} {after : Session α → Prop} (h : s.Past counts after)
    (hnext : s.next? = some ⟨c, onward⟩) (answer : Except Fault c.Answer) :
    if counts c then after (onward answer) else (onward answer).Past counts after := by
  induction s with
  | done a => cases hnext
  | fail e => cases hnext
  | log r rest ih => exact ih h hnext
  | call d rest ih =>
      cases hnext
      exact h answer

theorem calls_next (h : s.next? = some ⟨c, onward⟩) (st : σ) :
    (s.run respond st).calls =
      c :: ((onward (respond c st).1).run respond (respond c st).2).calls := by
  induction s with
  | done a => cases h
  | fail e => cases h
  | log r rest ih => exact ih h
  | call d rest ih =>
      cases h
      rfl

theorem Meets.next {called : Call → Prop} {failed : Failure → Prop} {post : α → Prop}
    (h : s.Meets called failed post) (hnext : s.next? = some ⟨c, onward⟩) :
    called c ∧ ∀ answer, (onward answer).Meets called failed post := by
  induction s with
  | done a => cases hnext
  | fail e => cases hnext
  | log r rest ih => exact ih h hnext
  | call d rest ih =>
      cases hnext
      exact h

theorem Along.meets {called : Call → Prop} {failed : Failure → Prop} {post : α → Prop}
    {calls : List (Call × σ)} (h : Along respond calls s) (hs : s.Meets called failed post) :
    ∀ p ∈ calls, called p.1 := by
  induction calls generalizing s with
  | nil => exact nofun
  | cons p rest ih =>
      obtain ⟨next, hnext, hrest⟩ := h
      obtain ⟨hp, hafter⟩ := Meets.next hs hnext
      exact List.forall_mem_cons.2 ⟨hp, ih hrest (hafter _)⟩

theorem Along.eq_nil {calls : List (Call × σ)} (h : Along respond calls s) (hs : s.Silent) :
    calls = [] := by
  cases calls with
  | nil => rfl
  | cons p rest =>
      obtain ⟨_, hp, -⟩ := h
      rw [Silent.next? hs] at hp
      cases hp

/-- A change is the last call of its session. -/
theorem Along.last {calls more : List (Call × σ)} {p : Call × σ} (hs : ChangesLast s)
    (h : Along respond (calls ++ p :: more) s) (hp : p.1.mutates = true) : more = [] := by
  induction calls generalizing s with
  | nil =>
      obtain ⟨next, hnext, hrest⟩ := h
      have hsilent := Past.next hs hnext (respond p.1 p.2).1
      rw [if_pos hp] at hsilent
      exact hrest.eq_nil hsilent
  | cons q calls ih =>
      obtain ⟨next, hnext, hrest⟩ := h
      have hafter := Past.next hs hnext (respond q.1 q.2).1
      split at hafter
      · -- Nothing is called after a change, but more calls are left.
        exact absurd (hrest.eq_nil hafter) (by simp)
      · exact ih hafter hrest

/-- Nothing that comes before a change is one. -/
theorem Along.quiet_before {calls more : List (Call × σ)} {p : Call × σ} (hs : ChangesLast s)
    (h : Along respond (calls ++ p :: more) s) : ∀ q ∈ calls, q.1.mutates = false := by
  intro q hq
  rw [← Bool.not_eq_true]
  intro hmutates
  obtain ⟨before, after, rfl⟩ := List.append_of_mem hq
  rw [List.append_assoc, List.cons_append] at h
  exact absurd (Along.last hs h hmutates) (by simp)

/-- Where all looks find one state, the session comes as far alone, at that state. -/
theorem Along.comes_to (hrespond : Faithful respond) {calls more : List (Call × σ)}
    (h : Along respond (calls ++ more) s) (hquiet : ∀ p ∈ calls, p.1.mutates = false) {st : σ}
    (hlooks : ∀ p ∈ calls, p.1.looks = true → p.2 = st) :
    ∃ t : Session α, Along respond more t ∧
      (s.run respond st).state = (t.run respond st).state ∧
      ∀ c ∈ (t.run respond st).calls, c ∈ (s.run respond st).calls := by
  induction calls generalizing s with
  | nil => exact ⟨s, h, rfl, fun _ hc => hc⟩
  | cons p rest ih =>
      obtain ⟨next, hnext, hrest⟩ := h
      obtain ⟨hp, hquiet⟩ := List.forall_mem_cons.1 hquiet
      obtain ⟨hplooks, hlooks⟩ := List.forall_mem_cons.1 hlooks
      rw [hrespond.answer hplooks] at hrest
      rw [run_next hnext, calls_next hnext, hrespond.quiet hp]
      obtain ⟨t, ht, hstate, hcalls⟩ := ih hrest hquiet hlooks
      exact ⟨t, ht, hstate, fun c hc => List.mem_cons_of_mem _ (hcalls c hc)⟩

/-- A session that changes nothing leaves the state that its looks find. -/
theorem Along.run_quiet (hrespond : Faithful respond) {calls : List (Call × σ)}
    (h : Along respond calls s) (hquiet : ∀ p ∈ calls, p.1.mutates = false) {st : σ}
    (hlooks : ∀ p ∈ calls, p.1.looks = true → p.2 = st) : (s.run respond st).state = st := by
  rw [← List.append_nil calls] at h
  obtain ⟨t, hend, hstate, -⟩ := h.comes_to hrespond hquiet hlooks
  exact hstate.trans (run_ended hend st)

/-- A session whose looks all find one state leaves what its change leaves there. -/
theorem Along.run_changed (hrespond : Faithful respond) {calls : List (Call × σ)} {st : σ}
    (h : Along respond (calls ++ [(c, st)]) s) (hquiet : ∀ p ∈ calls, p.1.mutates = false)
    (hlooks : ∀ p ∈ calls, p.1.looks = true → p.2 = st) :
    (s.run respond st).state = (respond c st).2 := by
  obtain ⟨t, ⟨next, hnext, hend⟩, hstate, -⟩ := h.comes_to hrespond hquiet hlooks
  rw [hstate, run_next hnext]
  exact run_ended hend _

/-- A call is made by the session alone too, at the state that the looks before it find. -/
theorem Along.mem_calls (hrespond : Faithful respond) {calls more : List (Call × σ)}
    {p : Call × σ} (h : Along respond (calls ++ p :: more) s)
    (hquiet : ∀ q ∈ calls, q.1.mutates = false) {st : σ}
    (hlooks : ∀ q ∈ calls, q.1.looks = true → q.2 = st) : p.1 ∈ (s.run respond st).calls := by
  obtain ⟨t, ⟨next, hnext, -⟩, -, hcalls⟩ := h.comes_to hrespond hquiet hlooks
  refine hcalls p.1 ?_
  rw [calls_next hnext]
  exact List.mem_cons_self

theorem along_log (r : Log.Record) (s : Session α) {calls : List (Call × σ)} :
    Along respond calls (.log r s) ↔ Along respond calls s := by
  cases calls <;> rfl

/-- A session that goes on with another is gone along first; what it results in there is what it
results in alone, at the state that its looks find. -/
theorem Along.of_bind (hrespond : Faithful respond) {β : Type} {s : Session β} {f : β → Session α}
    {calls : List (Call × σ)} (h : Along respond calls (s.bind f)) :
    ∃ first rest, calls = first ++ rest ∧ Along respond first s ∧
      (rest = [] ∨ ∃ a, Along respond rest (f a) ∧
        ((∀ p ∈ first, p.1.mutates = false) → ∀ st,
          (∀ p ∈ first, p.1.looks = true → p.2 = st) → (s.run respond st).result = .ok a)) := by
  induction s generalizing calls with
  | done a => exact ⟨[], calls, rfl, rfl, .inr ⟨a, h, fun _ _ _ => rfl⟩⟩
  | fail e =>
      cases calls with
      | nil => exact ⟨[], [], rfl, rfl, .inl rfl⟩
      | cons p rest =>
          obtain ⟨next, hnext, -⟩ := h
          cases hnext
  | log r next ih =>
      obtain ⟨first, rest, hcalls, hfirst, hrest⟩ := ih ((along_log r _).1 h)
      exact ⟨first, rest, hcalls, (along_log r _).2 hfirst, hrest⟩
  | call c next ih =>
      cases calls with
      | nil => cases h
      | cons p calls =>
          obtain ⟨c, found⟩ := p
          obtain ⟨_, hnext, hafter⟩ := h
          cases hnext
          obtain ⟨first, rest, rfl, hfirst, hrest⟩ := ih _ hafter
          refine ⟨(c, found) :: first, rest, rfl, ⟨_, rfl, hfirst⟩, hrest.imp_right ?_⟩
          rintro ⟨a, ha, hresult⟩
          refine ⟨a, ha, fun hquiet st hlooks => ?_⟩
          obtain ⟨hcquiet, hquiet⟩ := List.forall_mem_cons.1 hquiet
          obtain ⟨hclooks, hlooks⟩ := List.forall_mem_cons.1 hlooks
          have halone := hresult hquiet st hlooks
          rw [hrespond.answer hclooks] at halone
          simp only [Session.run]
          rwa [hrespond.quiet hcquiet]

/-- Sessions that look at the state only to change it. -/
abbrev OnlyChanges {α : Type} (s : Session α) : Prop :=
  s.Meets (fun c => c.looks = true → c.mutates = true) (fun _ => True) fun _ => True

/-- Sessions that look at the state once, but for changing it. -/
abbrev LooksOnce {α : Type} (s : Session α) : Prop := s.Past Call.looks OnlyChanges

theorem LooksOnce.of_onlyChanges (h : OnlyChanges s) : LooksOnce s := by
  induction s with
  | done a => trivial
  | fail e => trivial
  | log r rest ih => exact ih h
  | call c rest ih =>
      intro answer
      split
      · exact h.2 answer
      · exact ih answer (h.2 answer)

theorem LooksOnce.of_past (h : s.Past Call.looks Silent) : LooksOnce s :=
  h.mono fun _ ht => ht.mono (fun _ hc => hc.elim) (fun _ he => he) fun _ ha => ha

theorem LooksOnce.bind {β : Type} {f : α → Session β} (h : s.Past Call.looks Silent)
    (hf : ∀ a, OnlyChanges (f a)) : LooksOnce (s.bind f) := by
  refine Past.bind h (fun t ht => ?_) fun a => LooksOnce.of_onlyChanges (hf a)
  exact Meets.bind (ht.mono (fun _ hc => hc.elim) (fun _ _ => trivial) fun _ _ => trivial)
    fun a _ => hf a

/-- The looks of such a session before its change find one state. -/
theorem Along.looksOnce {calls more : List (Call × σ)} (hs : LooksOnce s)
    (h : Along respond (calls ++ more) s) (hquiet : ∀ p ∈ calls, p.1.mutates = false) :
    ∀ p ∈ calls, ∀ q ∈ calls, p.1.looks = true → q.1.looks = true → p.2 = q.2 := by
  induction calls generalizing s with
  | nil => exact nofun
  | cons c rest ih =>
      obtain ⟨next, hnext, hrest⟩ := h
      obtain ⟨-, hquiet⟩ := List.forall_mem_cons.1 hquiet
      have hafter := Past.next hs hnext (respond c.1 c.2).1
      cases hc : c.1.looks with
      | true =>
          rw [if_pos hc] at hafter
          have hblind : ∀ p ∈ rest, p.1.looks = false := by
            intro p hp
            have hchanges := hrest.meets hafter p (List.mem_append_left _ hp)
            rw [hquiet p hp] at hchanges
            simpa using hchanges
          have honly : ∀ p ∈ c :: rest, p.1.looks = true → p = c := by
            intro p hp hlook
            rcases List.mem_cons.1 hp with rfl | hp
            · rfl
            · rw [hblind p hp] at hlook
              cases hlook
          intro p hp q hq hplook hqlook
          rw [honly p hp hplook, honly q hq hqlook]
      | false =>
          rw [hc] at hafter
          have hrestOf : ∀ p ∈ c :: rest, p.1.looks = true → p ∈ rest := by
            intro p hp hlook
            rcases List.mem_cons.1 hp with rfl | hp
            · rw [hc] at hlook
              cases hlook
            · exact hp
          intro p hp q hq hplook hqlook
          exact ih hafter hrest hquiet p (hrestOf p hp hplook) q (hrestOf q hq hqlook) hplook hqlook

/-- One state stands for what such a session has found before its change. -/
theorem Along.found {calls more : List (Call × σ)} (hs : LooksOnce s)
    (h : Along respond (calls ++ more) s) (hquiet : ∀ p ∈ calls, p.1.mutates = false) (st : σ) :
    ∃ found, (found = st ∨ ∃ p ∈ calls, p.2 = found) ∧
      ∀ q ∈ calls, q.1.looks = true → q.2 = found := by
  by_cases hlook : ∃ p ∈ calls, p.1.looks = true
  · obtain ⟨p, hp, hlook⟩ := hlook
    exact ⟨p.2, .inr ⟨p, hp, rfl⟩, fun q hq hqlook => h.looksOnce hs hquiet q hq p hp hqlook hlook⟩
  · exact ⟨st, .inl rfl, fun q hq hqlook => absurd ⟨q, hq, hqlook⟩ hlook⟩

end

end Session

/-! ## Both sides -/

section

variable {α σ : Type} {respond : Responder σ}

/-- Whether all calls of a side that look at the state find the same one. -/
def Undisturbed (side : Side) (events : List (Event σ)) : Prop :=
  ∀ e ∈ events, ∀ e' ∈ events, e.side = side → e'.side = side →
    e.call.looks = true → e'.call.looks = true → e.before = e'.before

/-- Whether a side, run by itself, does the same again: at the state that its change found, it
leaves what its change left; without a change, its looks find one state. -/
structure Redoes (respond : Responder σ) (s : Session α) (side : Side) (events : List (Event σ)) :
    Prop where
  changed : ∀ e ∈ events, e.side = side → e.call.mutates = true →
    (s.run respond e.before).state = (respond e.call e.before).2
  unchanged : (∀ e ∈ events, e.side = side → e.call.mutates = false) → Undisturbed side events

/-- An event and what comes after it. -/
theorem Leads.drop {st last : σ} {events rest : List (Event σ)} {e : Event σ}
    (h : Leads respond st (events ++ e :: rest) last) :
    Leads respond e.before (e :: rest) last := by
  induction events generalizing st with
  | nil =>
      obtain ⟨hbefore, -⟩ := id h
      rwa [hbefore]
  | cons d events ih => exact ih h.2

/-- What holds of the first state, and is kept by every call, holds of all states. -/
theorem Leads.invariant {Inv : σ → Prop} {st last : σ} {events : List (Event σ)}
    (h : Leads respond st events last) (hst : Inv st)
    (hkept : ∀ e ∈ events, ∀ st, Inv st → Inv (respond e.call st).2) :
    ∀ e ∈ events, Inv e.before := by
  induction events generalizing st with
  | nil => exact nofun
  | cons e rest ih =>
      obtain ⟨hbefore, hrest⟩ := h
      obtain ⟨he, hkept⟩ := List.forall_mem_cons.1 hkept
      exact List.forall_mem_cons.2 ⟨hbefore ▸ hst, ih hrest (he st hst) hkept⟩

/-- The calls before the first change, and what comes after it. -/
theorem Leads.first (hrespond : Faithful respond) {st last : σ} {events : List (Event σ)}
    (h : Leads respond st events last) :
    ((∀ e ∈ events, e.call.mutates = false ∧ e.before = st) ∧ last = st) ∨
      ∃ before e after, events = before ++ e :: after ∧
        (∀ d ∈ before, d.call.mutates = false ∧ d.before = st) ∧ e.call.mutates = true ∧
        e.before = st ∧ Leads respond (respond e.call st).2 after last := by
  induction events generalizing st with
  | nil => exact .inl ⟨nofun, h⟩
  | cons e rest ih =>
      obtain ⟨hbefore, hrest⟩ := h
      cases he : e.call.mutates with
      | true => exact .inr ⟨[], e, rest, rfl, nofun, he, hbefore, hrest⟩
      | false =>
          rw [hrespond.quiet he] at hrest
          rcases ih hrest with ⟨hquiet, hlast⟩ | ⟨before, d, after, rfl, hquiet, hd, hst, hafter⟩
          · exact .inl ⟨List.forall_mem_cons.2 ⟨⟨he, hbefore⟩, hquiet⟩, hlast⟩
          · exact .inr ⟨e :: before, d, after, rfl, List.forall_mem_cons.2 ⟨⟨he, hbefore⟩, hquiet⟩,
              hd, hst, hafter⟩

/-- A side that has changed the state calls no more. -/
theorem side_ne_of_changed {s : Session α} {before after : List (Event σ)} {e : Event σ}
    (hs : ChangesLast s) (h : Along respond (callsOf e.side (before ++ e :: after)) s)
    (he : e.call.mutates = true) : ∀ d ∈ after, d.side ≠ e.side := by
  rw [callsOf_append, callsOf_cons_self rfl] at h
  have hnone := Along.last hs h he
  intro d hd hside
  have hmem : (d.call, d.before) ∈ callsOf e.side after := mem_callsOf.2 ⟨d, hd, hside, rfl⟩
  rw [hnone] at hmem
  cases hmem

/-- A side changes the state once. -/
theorem change_unique {s : Session α} {side : Side} {events : List (Event σ)} {e d : Event σ}
    (hs : ChangesLast s) (h : Along respond (callsOf side events) s) (he : e ∈ events)
    (hd : d ∈ events) (heside : e.side = side) (hdside : d.side = side)
    (hechange : e.call.mutates = true) (hdchange : d.call.mutates = true) : d = e := by
  subst heside
  obtain ⟨pre, post, rfl⟩ := List.append_of_mem he
  have hpost := side_ne_of_changed hs h hechange
  rw [callsOf_append, callsOf_cons_self rfl] at h
  rw [List.mem_append, List.mem_cons] at hd
  rcases hd with hd | rfl | hd
  · have hquiet := h.quiet_before hs _ (mem_callsOf.2 ⟨d, hd, hdside, rfl⟩)
    rw [hdchange] at hquiet
    cases hquiet
  · rfl
  · exact absurd hdside (hpost d hd)

/-- A side that changes nothing leaves a state that all its looks find. -/
theorem run_unchanged (hrespond : Faithful respond) {s : Session α} {side : Side}
    {events : List (Event σ)} (h : Along respond (callsOf side events) s)
    (hquiet : ∀ e ∈ events, e.side = side → e.call.mutates = false) {st : σ}
    (hlooks : ∀ e ∈ events, e.side = side → e.call.looks = true → e.before = st) :
    (s.run respond st).state = st := by
  refine h.run_quiet hrespond (fun p hp => ?_) fun p hp => ?_
  · obtain ⟨e, he, hside, rfl⟩ := mem_callsOf.1 hp
    exact hquiet e he hside
  · obtain ⟨e, he, hside, rfl⟩ := mem_callsOf.1 hp
    exact hlooks e he hside

/-- A side that nothing disturbs redoes its part alone. -/
theorem redoes_of_undisturbed (hrespond : Faithful respond) {s : Session α} {side : Side}
    {events : List (Event σ)} (hs : ChangesLast s) (h : Along respond (callsOf side events) s)
    (hsame : Undisturbed side events) : Redoes respond s side events where
  changed := by
    rintro e he rfl hchange
    obtain ⟨pre, post, hevents⟩ := List.append_of_mem he
    rw [hevents, callsOf_append, callsOf_cons_self rfl] at h
    have hquiet := h.quiet_before hs
    rw [Along.last hs h hchange] at h
    refine h.run_changed hrespond hquiet fun p hp hlook => ?_
    obtain ⟨d, hd, hside, rfl⟩ := mem_callsOf.1 hp
    exact hsame d (by simp [hevents, hd]) e he hside rfl hlook (Call.looks_of_mutates hchange)
  unchanged _ := hsame

/-- A side that looks once redoes its part alone, if it leaves what its change left wherever it is
sure to call it. -/
theorem redoes_of_looksOnce (hrespond : Faithful respond) {s : Session α} {side : Side}
    {events : List (Event σ)} (hs : ChangesLast s) (hlooks : LooksOnce s)
    (h : Along respond (callsOf side events) s)
    (hagain : ∀ pre e post, events = pre ++ e :: post → e.side = side → e.call.mutates = true →
      ∀ found, found = e.before ∨ (∃ d ∈ pre, d.before = found) →
        e.call ∈ (s.run respond found).calls →
          (s.run respond e.before).state = (respond e.call e.before).2) :
    Redoes respond s side events where
  changed := by
    rintro e he rfl hchange
    obtain ⟨pre, post, rfl⟩ := List.append_of_mem he
    rw [callsOf_append, callsOf_cons_self rfl] at h
    have hquiet := h.quiet_before hs
    obtain ⟨found, hfound, hone⟩ := h.found hlooks hquiet e.before
    refine hagain pre e post rfl rfl hchange found (hfound.imp_right ?_)
      (h.mem_calls hrespond hquiet hone)
    rintro ⟨p, hp, rfl⟩
    exact before_of_mem_callsOf hp
  unchanged := by
    intro hquiet e he e' he' hside hside' hlook hlook'
    rw [← List.append_nil (callsOf side events)] at h
    refine h.looksOnce hlooks ?_ _ (mem_callsOf.2 ⟨e, he, hside, rfl⟩) _
      (mem_callsOf.2 ⟨e', he', hside', rfl⟩) hlook hlook'
    intro p hp
    obtain ⟨d, hd, hdside, rfl⟩ := mem_callsOf.1 hp
    exact hquiet d hd hdside

theorem Side.eq_or_eq_other (side other : Side) : other = side ∨ other = side.other := by
  cases side <;> cases other <;> simp [Side.other]

theorem Side.other_other (side : Side) : side.other.other = side := by cases side <;> rfl

theorem Side.other_ne (side : Side) : side.other ≠ side := by cases side <;> decide

/-- An interleaving leaves what running one session after the other leaves, in some order, when
each side redoes its part alone. -/
theorem serial_of_redoes (hrespond : Faithful respond) {sessions : Side → Session α}
    (hs : ∀ side, ChangesLast (sessions side)) {schedule : List Side} {st last : σ}
    {events : List (Event σ)} (h : interleave respond schedule sessions st = some (events, last))
    (hredoes : ∀ side, Redoes respond (sessions side) side events) :
    ∃ first, last = serial respond sessions first st := by
  obtain ⟨halong, hleads⟩ := along_of_interleave h
  rcases hleads.first hrespond with ⟨hquiet, rfl⟩ | ⟨pre, e, post, hevents, hpre, he, hst, hleads⟩
  · -- Nothing is changed: each side leaves the state as it is.
    have hrun (side : Side) : ((sessions side).run respond last).state = last :=
      run_unchanged hrespond (halong side) (fun d hd _ => (hquiet d hd).1)
        fun d hd _ _ => (hquiet d hd).2
    exact ⟨.left, by rw [serial, hrun, hrun]⟩
  · have hmem : e ∈ events := by simp [hevents]
    have hpost : ∀ d ∈ post, d.side ≠ e.side :=
      side_ne_of_changed (hs e.side) (hevents ▸ halong e.side) he
    have hfirst : ((sessions e.side).run respond st).state = (respond e.call st).2 := by
      rw [← hst]
      exact (hredoes e.side).changed e hmem rfl he
    have hside (d : Event σ) (hne : d.side ≠ e.side) : d.side = e.side.other :=
      (Side.eq_or_eq_other e.side d.side).resolve_left hne
    rcases hleads.first hrespond with
      ⟨hquiet, hlast⟩ | ⟨mid, d, rest, hrest, hmid, hd, hdst, hleads⟩
    · -- One side changes the state: the other one found it either before or after.
      have hnone : ∀ d ∈ events, d.side = e.side.other → d.call.mutates = false := by
        intro d hd hother
        rw [hevents, List.mem_append, List.mem_cons] at hd
        rcases hd with hd | rfl | hd
        · exact (hpre d hd).1
        · exact absurd hother.symm (Side.other_ne _)
        · exact (hquiet d hd).1
      have halone {found : σ} (hfound : ∀ d ∈ events, d.side = e.side.other →
          d.call.looks = true → d.before = found) :
          ((sessions e.side.other).run respond found).state = found :=
        run_unchanged hrespond (halong _) hnone hfound
      by_cases hlook : ∃ d ∈ post, d.side = e.side.other ∧ d.call.looks = true
      · obtain ⟨d, hd, hother, hlook⟩ := hlook
        refine ⟨e.side, ?_⟩
        rw [serial, hfirst, hlast, halone]
        intro f hf hf' hlooks
        have hdmem : d ∈ events := by simp [hevents, hd]
        rw [(hredoes _).unchanged hnone f hf d hdmem hf' hother hlooks hlook, (hquiet d hd).2]
      · refine ⟨e.side.other, ?_⟩
        rw [serial, Side.other_other, halone, hfirst, hlast]
        intro f hf hf' hlooks
        rw [hevents, List.mem_append, List.mem_cons] at hf
        rcases hf with hf | rfl | hf
        · exact (hpre f hf).2
        · exact absurd hf'.symm (Side.other_ne _)
        · exact absurd ⟨f, hf, hf', hlooks⟩ hlook
    · -- Both sides change the state: the second one finds what the first one left.
      have hdpost : d ∈ post := by simp [hrest]
      have hother : d.side = e.side.other := hside d (hpost d hdpost)
      have hdmem : d ∈ events := by simp [hevents, hdpost]
      have hsecond := (hredoes d.side).changed d hdmem rfl hd
      have hdevents : events = (pre ++ e :: mid) ++ d :: rest := by simp [hevents, hrest]
      have hend : ∀ f ∈ rest, f.side ≠ d.side :=
        side_ne_of_changed (hs d.side) (hdevents ▸ halong d.side) hd
      rcases hleads.first hrespond with ⟨-, hlast⟩ | ⟨mid', f, rest', hrest', -, -, -, -⟩
      · refine ⟨e.side, ?_⟩
        rw [serial, hfirst, ← hother, ← hdst, hsecond, hlast, hdst]
      · have hf : f ∈ rest := by simp [hrest']
        have hfpost : f ∈ post := by simp [hrest, hf]
        exact absurd ((hside f (hpost f hfpost)).trans hother.symm) (hend f hf)

end

end DocQuery
