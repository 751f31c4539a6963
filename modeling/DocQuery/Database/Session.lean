import DocQuery.Database.Call
import DocQuery.Log

/-!
# Sessions

A session is an operation on the server as a tree: it is done with a result, has
failed, logs a record and goes on, or calls the server and goes on with what comes
back, an answer or a fault.

`run` follows a session along the answers that a server gives.  The server is any
function that answers calls from a state of its own.  What comes out is the result
together with everything called and logged, in order.
-/

namespace DocQuery

/-- An operation on the server. -/
inductive Session (α : Type) where
  /-- It is done. -/
  | done (a : α)
  /-- It has failed. -/
  | fail (e : Failure)
  /-- It logs a record and goes on. -/
  | log (r : Log.Record) (next : Session α)
  /-- It calls the server and goes on. -/
  | call (c : Call) (next : Except Fault c.Answer → Session α)

namespace Session

/-- Goes on with the result of a session. -/
def bind {α β : Type} : Session α → (α → Session β) → Session β
  | done a, f => f a
  | fail e, _ => fail e
  | log r next, f => log r (next.bind f)
  | call c next, f => call c fun answer => (next answer).bind f

instance : Monad Session where
  pure := done
  bind := bind

/-- Logs a record. -/
def note (r : Log.Record) : Session Unit := log r (done ())

/-- Logs records in order. -/
def notes : List Log.Record → Session Unit
  | [] => done ()
  | r :: rest => log r (notes rest)

/-- Calls the server and goes on whatever comes back. -/
def attempt (c : Call) : Session (Except Fault c.Answer) := call c done

/-- Calls the server; a fault ends the session. -/
def ask (c : Call) : Session c.Answer :=
  call c fun
    | .ok answer => done answer
    | .error fault => fail (.fault fault)

/-- Goes on from a failure. -/
def recover {α : Type} : Session α → (Failure → Session α) → Session α
  | done a, _ => done a
  | fail e, f => f e
  | log r next, f => log r (next.recover f)
  | call c next, f => call c fun answer => (next answer).recover f

/-- A result or a failure as a session. -/
def ofExcept {α : Type} : Except Failure α → Session α
  | .ok a => done a
  | .error e => fail e

/-- A value that may have been misused as a session. -/
def ofUse {α : Type} : Except Misuse α → Session α
  | .ok a => done a
  | .error m => fail (.misuse m)

/-! ## Running -/

/-- A server with states of some type: what it answers, and its state afterwards. -/
abbrev Responder (σ : Type) := (c : Call) → σ → Except Fault c.Answer × σ

/-- What came of a session. -/
structure Run (σ α : Type) where
  /-- The result. -/
  result : Except Failure α
  /-- The calls, in order. -/
  calls : List Call
  /-- The records, in order. -/
  records : List Log.Record
  /-- The state of the server afterwards. -/
  state : σ

/-- Follows a session along the answers of a server. -/
def run {σ α : Type} (respond : Responder σ) : Session α → σ → Run σ α
  | done a, s => ⟨.ok a, [], [], s⟩
  | fail e, s => ⟨.error e, [], [], s⟩
  | log r next, s =>
      let rest := next.run respond s
      { rest with records := r :: rest.records }
  | call c next, s =>
      let (answer, s) := respond c s
      let rest := (next answer).run respond s
      { rest with calls := c :: rest.calls }

end Session

end DocQuery
