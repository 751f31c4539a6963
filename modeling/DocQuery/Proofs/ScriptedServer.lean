import DocQuery.Database.Server
import DocQuery.Proofs.SessionRun

/-!
# Servers that fail by a script

A `Scripted` server is a small server together with a script of its faults: for every call that
may fail, in order, the script holds nothing or the text of the fault that the call meets.  A call
that fails leaves the server as it was.

`Session.faults` lists the faults that a run meets.  A run that meets none is the run on the
server alone (`run_scripted`).  `succeeding` counts the calls that come before the first fault of
the script.
-/

namespace DocQuery

/-- Whether a call creates something. -/
def Call.creates : Call → Bool
  | createDatabase _ | createCollection _ | createGraph .. => true
  | _ => false

/-! ## Faults of a run -/

namespace Session

variable {α σ : Type}

/-- The calls of a run that met a fault, with the faults. -/
def faults (respond : Responder σ) : Session α → σ → List (Call × Fault)
  | done _, _ | fail _, _ => []
  | log _ next, st => next.faults respond st
  | call c next, st =>
      let rest := (next (respond c st).1).faults respond (respond c st).2
      match (respond c st).1 with
      | .ok _ => rest
      | .error fault => (c, fault) :: rest

end Session

/-! ## Scripts -/

/-- A small server, and what the calls come to that may fail: nothing, or a fault of a text. -/
structure Scripted where
  /-- The server. -/
  server : Server
  /-- What the next calls come to that may fail. -/
  script : Nat → Option String

namespace Scripted

/-- The fault of a text. -/
def fault (text : String) : Fault := ⟨.server, text⟩

/-- The script after some calls that may fail. -/
def later (script : Nat → Option String) (count : Nat) : Nat → Option String :=
  fun n => script (n + count)

/-- Answers a call; one that may fail takes up the next entry of the script. -/
def respond (mayFail : Call → Bool) : Session.Responder Scripted := fun c s =>
  if mayFail c then
    match s.script 0 with
    | some text => (.error (fault text), ⟨s.server, later s.script 1⟩)
    | none => ((Server.respond c s.server).1, ⟨(Server.respond c s.server).2, later s.script 1⟩)
  else ((Server.respond c s.server).1, ⟨(Server.respond c s.server).2, s.script⟩)

/-- How many of some calls succeed before the first one that fails. -/
def succeeding (script : Nat → Option String) : Nat → Nat
  | 0 => 0
  | count + 1 => if (script 0).isSome then 0 else succeeding (later script 1) count + 1

variable {mayFail : Call → Bool} {c : Call} {server : Server} {script : Nat → Option String}

@[simp] theorem later_zero : later script 0 = script := rfl

theorem later_later (m n : Nat) : later (later script m) n = later script (m + n) := by
  funext i
  simp only [later]
  congr 1
  omega

theorem respond_sure (h : mayFail c = false) :
    respond mayFail c ⟨server, script⟩ =
      ((Server.respond c server).1, ⟨(Server.respond c server).2, script⟩) := by
  simp [respond, h]

theorem respond_spared (h : mayFail c = true) (hscript : script 0 = none) :
    respond mayFail c ⟨server, script⟩ =
      ((Server.respond c server).1, ⟨(Server.respond c server).2, later script 1⟩) := by
  simp [respond, h, hscript]

theorem respond_failed (h : mayFail c = true) {text : String} (hscript : script 0 = some text) :
    respond mayFail c ⟨server, script⟩ = (.error (fault text), ⟨server, later script 1⟩) := by
  simp [respond, h, hscript]

theorem succeeding_le (count : Nat) : succeeding script count ≤ count := by
  induction count generalizing script with
  | zero => exact Nat.le_refl 0
  | succ count ih =>
      rw [succeeding]
      split
      · exact Nat.zero_le _
      · exact Nat.succ_le_succ ih

/-- Calls in two parts: the second is reached when the first succeeds. -/
theorem succeeding_add (m n : Nat) :
    succeeding script (m + n) =
      if succeeding script m < m then succeeding script m
      else m + succeeding (later script m) n := by
  induction m generalizing script with
  | zero => simp [succeeding]
  | succ m ih =>
      rw [Nat.succ_add, succeeding, succeeding]
      cases script 0 with
      | some text => simp
      | none =>
          simp only [Option.isSome_none, Bool.false_eq_true, if_false, ih, Nat.succ_lt_succ_iff,
            later_later, Nat.add_comm 1 m]
          split <;> omega

theorem succeeding_of_spared (h : ∀ n, script n = none) (count : Nat) :
    succeeding script count = count := by
  induction count generalizing script with
  | zero => rfl
  | succ count ih =>
      have hlater : ∀ n, later script 1 n = none := fun n => h (n + 1)
      simp [succeeding, h 0, ih hlater]

theorem script_spared {count i : Nat} (h : i < succeeding script count) : script i = none := by
  induction count generalizing script i with
  | zero => exact absurd h (Nat.not_lt_zero i)
  | succ count ih =>
      rw [succeeding] at h
      split at h
      · exact absurd h (Nat.not_lt_zero i)
      · rename_i hfirst
        cases i with
        | zero => exact Option.not_isSome_iff_eq_none.1 hfirst
        | succ i =>
            have hlater : later script 1 i = none := ih (Nat.lt_of_succ_lt_succ h)
            exact hlater

theorem script_failed {count : Nat} (h : succeeding script count < count) :
    (script (succeeding script count)).isSome = true := by
  induction count generalizing script with
  | zero => exact absurd h (Nat.not_lt_zero _)
  | succ count ih =>
      rw [succeeding] at h ⊢
      split at h
      · rename_i hfirst
        rwa [if_pos hfirst]
      · rename_i hfirst
        rw [if_neg hfirst]
        have hlater : (later script 1 (succeeding (later script 1) count)).isSome = true :=
          ih (Nat.lt_of_succ_lt_succ h)
        exact hlater

end Scripted

/-- A call is answered by the server, or it meets a fault of the script. -/
theorem Scripted.respond_cases (mayFail : Call → Bool) (c : Call) (st : Scripted) :
    (∃ script', respond mayFail c st =
        ((Server.respond c st.server).1, ⟨(Server.respond c st.server).2, script'⟩)) ∨
      ∃ text script', respond mayFail c st = (.error (fault text), ⟨st.server, script'⟩) := by
  obtain ⟨server, script⟩ := st
  cases hc : mayFail c with
  | false => exact .inl ⟨script, respond_sure hc⟩
  | true =>
      cases hscript : script 0 with
      | none => exact .inl ⟨later script 1, respond_spared hc hscript⟩
      | some text => exact .inr ⟨text, later script 1, respond_failed hc hscript⟩

/-- The server answers every call. -/
theorem Server.respond_ok (c : Call) (server : Server) :
    ∃ answer, (Server.respond c server).1 = .ok answer := by
  cases c <;> exact ⟨_, rfl⟩

/-! ## Runs without faults -/

namespace Session

open Scripted

variable {α : Type} {mayFail : Call → Bool}

/-- A run that meets no fault is the run on the server alone. -/
theorem run_scripted (s : Session α) (server : Server) (script : Nat → Option String)
    (h : s.faults (respond mayFail) ⟨server, script⟩ = []) :
    (s.run (respond mayFail) ⟨server, script⟩).result = (s.run Server.respond server).result ∧
      (s.run (respond mayFail) ⟨server, script⟩).calls = (s.run Server.respond server).calls ∧
      (s.run (respond mayFail) ⟨server, script⟩).state.server =
        (s.run Server.respond server).state := by
  induction s generalizing server script with
  | done a => exact ⟨rfl, rfl, rfl⟩
  | fail e => exact ⟨rfl, rfl, rfl⟩
  | log r next ih => exact ih server script h
  | call c next ih =>
      obtain ⟨script', hanswer⟩ := (respond_cases mayFail c ⟨server, script⟩).resolve_right (by
        rintro ⟨text, script', hfailed⟩
        simp [faults, hfailed] at h)
      have hrest : (next (Server.respond c server).1).faults (respond mayFail)
          ⟨(Server.respond c server).2, script'⟩ = [] := by
        simp only [faults, hanswer] at h
        split at h
        · exact h
        · cases h
      obtain ⟨hresult, hcalls, hstate⟩ := ih _ _ _ hrest
      simp only [run, hanswer]
      exact ⟨hresult, congrArg _ hcalls, hstate⟩

theorem faults_of_spared (s : Session α) (server : Server) {script : Nat → Option String}
    (h : ∀ n, script n = none) : s.faults (respond mayFail) ⟨server, script⟩ = [] := by
  induction s generalizing server script with
  | done a => rfl
  | fail e => rfl
  | log r next ih => exact ih server h
  | call c next ih =>
      have hanswer : ∃ script', (∀ n, script' n = none) ∧ respond mayFail c ⟨server, script⟩ =
          ((Server.respond c server).1, ⟨(Server.respond c server).2, script'⟩) := by
        cases hc : mayFail c with
        | false => exact ⟨script, h, respond_sure hc⟩
        | true => exact ⟨later script 1, fun n => h (n + 1), respond_spared hc (h 0)⟩
      obtain ⟨script', hscript', hanswer⟩ := hanswer
      obtain ⟨answer, hok⟩ := Server.respond_ok c server
      simp only [faults, hanswer, hok, ih _ _ hscript']

theorem Returns.of_spared {s : Session α} {server : Server} {calls : List Call} {a : α}
    {st : Scripted} (h : Returns (respond mayFail) ⟨server, fun _ => none⟩ s calls a st) :
    Returns Server.respond server s calls a st.server := by
  obtain ⟨hresult, hcalls, hstate⟩ := run_scripted s server (fun _ => none)
    (faults_of_spared s server fun _ => rfl)
  exact ⟨hresult.symm.trans h.result, hcalls.symm.trans h.calls,
    hstate.symm.trans (congrArg Scripted.server h.state)⟩

end Session

end DocQuery
