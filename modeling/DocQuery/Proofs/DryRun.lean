import DocQuery.Cli.Run
import DocQuery.Database.Server
import DocQuery.Proofs.JsonCharacters
import DocQuery.Proofs.SessionRun

/-!
# Dry runs

A lookup on the command line builds its query and either shows it or opens a database, which
builds the query once more and executes it.  The two queries are one (`dryRun_agrees`): what
the database logs reaches the records and not the query, and criteria stay as they are.

*What is shown.*  A query is shown in a panel, with its text and its parameters as JSON.  The
library that lays panels out is not part of the program.  All that is known of it here is that it
may take control characters out of a text (`Terminal`), of which JSON over several lines has none.
So the parameters are shown as they are, and so is the text if it has no such character
(`showsQuery_shows`).
-/

namespace DocQuery

/-! ## Sessions that execute one query -/

namespace Session

variable {α β σ : Type}

/-- A session whose one call executes a query with its own parameters. -/
def Executes (q : Query) : Session α → Prop
  | done _ | fail _ => False
  | log _ next => next.Executes q
  | call c next =>
      (∃ options, c = .execute (.str q.text) (.object q.binds) options) ∧
        ∀ answer, (next answer).Silent

variable {q : Query}

theorem Executes.bind {s : Session α} {f : α → Session β} (h : s.Executes q)
    (hf : ∀ a, (f a).Silent) : (s.bind f).Executes q := by
  induction s with
  | done a => exact h.elim
  | fail e => exact h.elim
  | log r next ih => exact ih h
  | call c next _ => exact ⟨h.1, fun answer => Meets.bind (h.2 answer) fun a _ => hf a⟩

theorem Executes.notes_bind {s : Session α} (h : s.Executes q) (records : List Log.Record) :
    ((notes records).bind fun _ => s).Executes q := by
  induction records with
  | nil => exact h
  | cons r rest ih => exact ih

theorem executes_ask (options : Fields) :
    (ask (.execute (.str q.text) (.object q.binds) options)).Executes q := by
  refine ⟨⟨options, rfl⟩, fun answer => ?_⟩
  cases answer <;> trivial

theorem Executes.calls (respond : Responder σ) {s : Session α} (h : s.Executes q) (st : σ) :
    ∃ options, (s.run respond st).calls =
      [.execute (.str q.text) (.object q.binds) options] := by
  induction s generalizing st with
  | done a => exact h.elim
  | fail e => exact h.elim
  | log r next ih => exact ih h st
  | call c next _ =>
      obtain ⟨⟨options, rfl⟩, hnext⟩ := h
      exact ⟨options, congrArg (List.cons _) (Silent.calls respond (hnext _) _)⟩

end Session

/-! ## The database's own query -/

namespace Database

open Session

variable {q : Query} {r : Request}

theorem Executes.build_bind {α : Type} (hr : r.query = .ok q) {f : Query → Session α}
    (h : (f q).Executes q) : ((build r).bind f).Executes q := by
  rw [build, hr, bind_eq, Session.bind_assoc]
  exact h.notes_bind r.records

/-- A query with no parameters added is executed with its own. -/
theorem executes_prebuilt (options : Fields) : (execute (.prebuilt q) .null options).Executes q :=
  executes_ask options

/-- Counting the documents is all that a lookup adds to the options of its execution. -/
theorem splitExecution_lookup {options : FetchOptions} (h : options.execution = []) :
    ∃ rest, splitExecution (lookupExecution options) = .ok (.null, rest) := by
  by_cases hlimit : options.limit.any (· ≠ 0) = true
  · simp only [lookupExecution, hlimit, h, if_true]
    exact ⟨_, rfl⟩
  · simp only [lookupExecution, hlimit, h, Bool.false_eq_true, if_false]
    exact ⟨_, rfl⟩

theorem executes_fetch {options : FetchOptions} (h : options.execution = []) :
    (fetch q options).Executes q := by
  obtain ⟨rest, hrest⟩ := splitExecution_lookup h
  simp only [fetch, executeWith, hrest, bind_eq]
  refine (executes_prebuilt rest).bind fun cursor => ?_
  split <;> simp [Silent]

theorem executes_fetchRequest {options : FetchOptions} (hr : r.query = .ok q)
    (h : options.execution = []) : (fetchRequest r options).Executes q :=
  Executes.build_bind hr (executes_fetch h)

theorem executes_rowsOf (hr : r.query = .ok q) : (rowsOf r).Executes q :=
  Executes.build_bind hr ((executes_prebuilt []).bind fun _ => trivial)

theorem executes_checkUnique {db : Database} {u : Uniqueness}
    (hr : (Request.conflicts (some u) none).query = .ok q) :
    (db.checkUnique (some u)).Executes q := by
  -- What is logged does not reach the query of a constraint.
  have hown : (Request.conflicts (some u) (some (db.fetchOptions none))).query = .ok q := hr
  refine (executes_rowsOf hown).bind fun documents => ?_
  by_cases h : documents.isEmpty = true <;> simp [Silent, h]

end Database

namespace Cli

open Session Database

variable {σ : Type} (respond : Responder σ)

/-! ## Opening the database of a command -/

/-- The address that a command reaches. -/
def address (settings : Settings) (t : Target) : Value :=
  if (Value.str t.host).isTrue then .str t.host else settings.connection.host

/-- The calls by which a command opens its database. -/
def openingCalls (settings : Settings) (t : Target) : List Call :=
  [.client (address settings t), .database (.str t.database) (.str t.user) (.str t.password),
    .database (.str systemName) (.str t.user) (.str t.password)]

/-- Whether calls made one after the other are all answered without a fault. -/
def Answered (st : σ) : List Call → Prop
  | [] => True
  | c :: rest => (∃ a, (respond c st).1 = .ok a) ∧ Answered (respond c st).2 rest

theorem returns_openHandle {settings : Settings} {name user password : String} {st : σ}
    {handle : Handle}
    (h : (respond (.database (.str name) (.str user) (.str password)) st).1 = .ok handle) :
    Returns respond st (openHandle settings (.str name) (.str user) (.str password))
      [.database (.str name) (.str user) (.str password)] handle
      (respond (.database (.str name) (.str user) (.str password)) st).2 :=
  Returns.log _ (Returns.ask h)

theorem returns_connect {settings : Settings} {t : Target} {st : σ}
    (h : (respond (.client (address settings t)) st).1 = .ok ()) :
    Returns respond st (connect settings (.str t.host)) [.client (address settings t)] ()
      (respond (.client (address settings t)) st).2 := by
  refine (Returns.attempt (.client (address settings t))).bind ?_
  rw [h]
  exact Returns.log _ (Returns.done ())

/-- A database whose handles are given opens, unless the settings are not readable. -/
theorem returns_openTarget {settings : Settings} {t : Target} {st : σ} {log : LogOptions}
    (hlog : settings.logOptions = .ok log)
    (hanswered : Answered respond st (openingCalls settings t)) :
    ∃ db st', Returns respond st (openTarget settings t) (openingCalls settings t) db st' := by
  obtain ⟨⟨⟨⟩, hclient⟩, ⟨handle, hhandle⟩, ⟨system, hsystem⟩, -⟩ := hanswered
  refine ⟨⟨handle, some system, log⟩, ?_, (returns_connect respond hclient).bind ?_⟩
  rotate_left
  · refine (returns_openHandle respond hhandle).bind ((returns_openHandle respond hsystem).bind ?_)
    rw [hlog]
    exact Returns.done _

/-! ## Panels on a terminal -/

/-- The text of a panel that shows a query. -/
structure ShowsQuery (terminal : Terminal) (q : Query) (panel : String) : Prop where
  /-- It is what is shown of the text of the query and the JSON of its parameters. -/
  made : panel = terminal.shows (q.text ++ "\n\n" ++ Json.writeIndented (.object q.binds))
  /-- The parameters are shown as they are. -/
  parameters : panel = terminal.shows q.text ++ "\n\n" ++ Json.writeIndented (.object q.binds)
  /-- The text is shown as it is exactly where no character of it is taken out. -/
  whole_iff : panel = q.text ++ "\n\n" ++ Json.writeIndented (.object q.binds) ↔
    ∀ c ∈ q.text.toList, terminal.takesOut c = false

section

variable (terminal : Terminal)

theorem Terminal.shows_append (s t : String) :
    terminal.shows (s ++ t) = terminal.shows s ++ terminal.shows t := by
  rw [terminal.shows_eq, terminal.shows_eq, terminal.shows_eq, String.toList_append,
    List.filter_append, String.ofList_append]

theorem Terminal.shows_eq_self_iff {s : String} :
    terminal.shows s = s ↔ ∀ c ∈ s.toList, terminal.takesOut c = false := by
  rw [terminal.shows_eq, ← String.toList_inj, String.toList_ofList, List.filter_eq_self]
  simp only [Bool.not_eq_true']

/-- Text that is laid out in lines is shown as it is. -/
theorem Terminal.shows_of_isLaidOut {s : String} (h : ∀ c ∈ s.toList, Json.isLaidOut c = true) :
    terminal.shows s = s := by
  refine terminal.shows_eq_self_iff.2 fun c hc => Bool.eq_false_iff.2 fun hout => ?_
  obtain ⟨hcontrol, hline⟩ := terminal.control hout
  have hlaid := h c hc
  simp only [Json.isLaidOut, Json.isPrintable, Bool.or_eq_true, decide_eq_true_eq] at hlaid
  rcases hlaid with ⟨hprintable, -⟩ | hbreak
  · exact absurd hcontrol (Nat.not_lt.2 hprintable)
  · exact hline hbreak

theorem showsQuery_shows (q : Query) :
    ShowsQuery terminal q
      (terminal.shows (q.text ++ "\n\n" ++ Json.writeIndented (.object q.binds))) := by
  have hshown : terminal.shows (q.text ++ "\n\n" ++ Json.writeIndented (.object q.binds)) =
      terminal.shows q.text ++ "\n\n" ++ Json.writeIndented (.object q.binds) := by
    rw [terminal.shows_append, terminal.shows_append, terminal.shows_of_isLaidOut (s := "\n\n")
      (List.all_eq_true.1 rfl), terminal.shows_of_isLaidOut (Json.isLaidOut_writeIndented _)]
  refine ⟨rfl, hshown, ?_⟩
  rw [hshown, String.append_left_inj, String.append_left_inj]
  exact terminal.shows_eq_self_iff

end

/-! ## Lookups of the command line -/

/-- A command that looks something up. -/
inductive Lookup where
  | find (o : FindOptions)
  | unique (o : UniqueOptions)

namespace Lookup

/-- The lookup as a command, as a dry run or not. -/
def command (dry : Bool) : Lookup → Command
  | find o => .find { o with dryRun := dry }
  | unique o => .unique { o with dryRun := dry }

def target : Lookup → Target
  | find o => o.target
  | unique o => o.target

end Lookup

/-- How a command ends that failed. -/
def failure (what : String) (e : Failure) : Finish :=
  .exited 1 (.markup (errorMarkup (what ++ ": " ++ e.message)))

/-- How a command ends whose pairs are not read. -/
def pairFailure (what : String) : PairError → Finish
  | .malformed pair => .usage (.notAPair pair)
  | .unreadable e => failure what (.unreadable e)

theorem pairFailure_code (what : String) (e : PairError) : (pairFailure what e).code ≠ 0 := by
  cases e <;> simp [pairFailure, failure, Finish.code]

/-- The query of what is read from pairs, or how the command ends without one. -/
def built {α : Type} (what : String) (pairs : Except PairError α) (request : α → Request) :
    Except Finish Query := do
  let a ← pairs.mapError (pairFailure what)
  (request a).query.mapError (failure what)

/-- The query of a lookup, or how the command ends without one. -/
def Lookup.query : Lookup → Except Finish Query
  | find o => built FindOptions.failureTitle (o.pairs.mapM readPair) o.request
  | unique o => built UniqueOptions.failureTitle o.readConstraints fun constraints =>
      .conflicts (some (o.constraint constraints)) none

/-- The query of a command line and the database that it is for, or how the command ends
without one. -/
def lineQuery (level : String) (parsed : Except UsageError Lookup) :
    Except Finish (Target × Query) := do
  unless isLevel level do .error (.noLevel level)
  let l ← parsed.mapError .usage
  return (l.target, ← l.query)

/-- A dry run and a real run of one lookup, from its query or its failure. -/
structure Agree (world : World) (st : σ)
    (query : Except Finish (Target × Query)) (dry real : Session Finish) : Prop where
  dry_silent : (dry.run respond st).calls = []
  dry_shows {t : Target} {q : Query} : query = .ok (t, q) →
    ∃ panel title border, ShowsQuery world.terminal q panel ∧
      (dry.run respond st).result = .ok (.exited 0 ⟨"", [.panel panel title border]⟩)
  real_executes {t : Target} {q : Query} : query = .ok (t, q) →
    (∃ log, world.settings.logOptions = .ok log) →
      Answered respond st (openingCalls world.settings t) →
      ∃ options, (real.run respond st).calls =
        openingCalls world.settings t ++ [.execute (.str q.text) (.object q.binds) options]
  both_fail {finish : Finish} : query = .error finish →
    finish.code ≠ 0 ∧ (dry.run respond st).result = .ok finish ∧
      (real.run respond st).result = .ok finish ∧ (real.run respond st).calls = []

/-- A lookup of the command line: its query is built, and shown or asked. -/
def lookup (what : String) (world : World) (t : Target) (r : Request)
    (answer : Database → Session Finish) (dry : Bool) : Session Finish :=
  reporting what do
    let q ← build r
    if dry then succeed (.one (queryPanel q world.terminal))
    else openTarget world.settings t >>= answer

theorem FindOptions.run_eq (world : World) (o : FindOptions) :
    o.run world = withPairs failureTitle (o.pairs.mapM readPair) fun ps =>
      lookup failureTitle world o.target (o.request ps)
        (fun db => o.fetch db ps >>= fun found => succeed (o.foundOutput found)) o.dryRun := rfl

theorem UniqueOptions.run_eq (world : World) (o : UniqueOptions) :
    o.run world = withPairs failureTitle o.readConstraints fun constraints =>
      lookup failureTitle world o.target (.conflicts (some (o.constraint constraints)) none)
        (fun db => db.checkUnique (some (o.constraint constraints)) >>= fun report =>
          succeed (reportOutput report)) o.dryRun := rfl

/-- Reporting a failure calls nothing. -/
theorem run_reporting (what : String) (s : Session Finish) (st : σ) :
    ((reporting what s).run respond st).calls = (s.run respond st).calls ∧
      ((reporting what s).run respond st).result =
        .ok (match (s.run respond st).result with
          | .ok finish => finish
          | .error e => failure what e) := by
  unfold reporting
  induction s generalizing st with
  | done a => exact ⟨rfl, rfl⟩
  | fail e => exact ⟨rfl, rfl⟩
  | log r next ih => exact ih st
  | call c next ih =>
      obtain ⟨hcalls, hresult⟩ := ih (respond c st).1 (respond c st).2
      exact ⟨congrArg (List.cons c) hcalls, hresult⟩

theorem lookup_agree {what : String} {world : World} {t : Target} {r : Request}
    {answer : Database → Session Finish}
    (hanswer : ∀ q db, r.query = .ok q → (answer db).Executes q) (st : σ) :
    Agree respond world st ((t, ·) <$> r.query.mapError (failure what))
      (lookup what world t r answer true) (lookup what world t r answer false) := by
  let shown (q : Query) : Session Finish := succeed (.one (queryPanel q world.terminal))
  obtain ⟨hdry, hshown⟩ := run_reporting respond what (build r >>= shown) st
  obtain ⟨hreal, hended⟩ := run_reporting respond what
    (build r >>= fun _ => openTarget world.settings t >>= answer) st
  cases hr : r.query with
  | error e =>
      -- Nothing is left to run when there is no query.
      have hstopped {α : Type} (f : Query → Session α) :
          ((build r >>= f).run respond st).result = .error e ∧
            ((build r >>= f).run respond st).calls = [] := by
        simp [run_bind, run_build, Run.followed, hr]
      rw [(hstopped _).1] at hshown hended
      rw [(hstopped _).2] at hdry hreal
      constructor
      · exact hdry
      · intro t q h
        cases h
      · intro t q h
        cases h
      · rintro finish ⟨⟩
        exact ⟨by simp [failure, Finish.code], hshown, hended, hreal⟩
  | ok q =>
      have hbuild := returns_build respond hr st
      obtain ⟨hresult, hcalls, -⟩ := hbuild.run_bind shown
      constructor
      · exact hdry.trans hcalls
      · rintro t q ⟨⟩
        have hpanel : (((build r).bind shown).run respond st).result =
            .ok (.exited 0 (.one (queryPanel q world.terminal))) := hresult
        rw [bind_eq, hpanel] at hshown
        exact ⟨_, _, _, showsQuery_shows world.terminal q, hshown⟩
      · rintro t q ⟨⟩ ⟨log, hlog⟩ hanswered
        obtain ⟨db, st', hopen⟩ := returns_openTarget respond hlog hanswered
        obtain ⟨options, hexecuted⟩ := (hanswer q db hr).calls respond st'
        refine ⟨options, ?_⟩
        calc ((lookup what world t r answer false).run respond st).calls
            = ((build r >>= fun _ => openTarget world.settings t >>= answer).run respond
                st).calls := hreal
          _ = (((openTarget world.settings t).bind answer).run respond st).calls :=
              (hbuild.run_bind _).2.1
          _ = openingCalls world.settings t ++ ((answer db).run respond st').calls :=
              (hopen.run_bind answer).2.1
          _ = _ := by rw [hexecuted]
      · intro finish h
        cases h

/-! ## The two ways of building -/

/-- What a lookup asks of a database has the query that the command built: what is logged is
added to the options, and the criteria are handed on. -/
theorem executes_find {o : FindOptions} {ps : List NamedValue} {q : Query} (db : Database)
    (hr : (o.request ps).query = .ok q) : (o.fetch db ps).Executes q := by
  unfold FindOptions.request at hr
  unfold FindOptions.fetch
  cases ps with
  | nil =>
      cases hc : o.criteria? with
      | none =>
          simp only [hc] at hr ⊢
          exact executes_fetchRequest hr rfl
      | some criteria =>
          simp only [hc] at hr ⊢
          exact executes_fetchRequest hr rfl
  | cons p ps =>
      cases hc : o.criteria? with
      | none =>
          simp only [hc] at hr ⊢
          exact executes_fetchRequest hr rfl
      | some criteria =>
          simp only [hc] at hr ⊢
          exact executes_fetchRequest hr rfl

/-- Commands that end at once agree. -/
theorem Agree.of_failed {world : World} {finish : Finish} (h : finish.code ≠ 0) (st : σ) :
    Agree respond world st (.error finish) (done finish) (done finish) := by
  constructor
  · rfl
  · intro t q hquery
    cases hquery
  · intro t q hquery
    cases hquery
  · rintro finish ⟨⟩
    exact ⟨h, rfl, rfl, rfl⟩

theorem withPairs_agree {α : Type} {what : String} {world : World} {t : Target}
    {pairs : Except PairError α} {request : α → Request} {answer : α → Database → Session Finish}
    (hanswer : ∀ a q db, (request a).query = .ok q → (answer a db).Executes q) (st : σ) :
    Agree respond world st ((t, ·) <$> built what pairs request)
      (withPairs what pairs fun a => lookup what world t (request a) (answer a) true)
      (withPairs what pairs fun a => lookup what world t (request a) (answer a) false) := by
  cases pairs with
  | ok a => exact lookup_agree respond (hanswer a) st
  | error e =>
      cases e with
      | malformed pair => exact Agree.of_failed respond (pairFailure_code what _) st
      | unreadable e => exact Agree.of_failed respond (pairFailure_code what _) st

theorem Lookup.agree (world : World) (l : Lookup) (st : σ) :
    Agree respond world st ((l.target, ·) <$> l.query)
      ((l.command true).run world) ((l.command false).run world) := by
  cases l with
  | find o =>
      have hanswer (ps : List NamedValue) (q : Query) (db : Database)
          (hr : (o.request ps).query = .ok q) :
          (o.fetch db ps >>= fun found => succeed (o.foundOutput found)).Executes q :=
        (executes_find db hr).bind fun _ => trivial
      simp only [Lookup.command, Command.run, FindOptions.run_eq]
      exact withPairs_agree respond hanswer st
  | unique o =>
      have hanswer (constraints : List Constraint) (q : Query) (db : Database)
          (hr : (Request.conflicts (some (o.constraint constraints)) none).query = .ok q) :
          (db.checkUnique (some (o.constraint constraints)) >>= fun report =>
            succeed (UniqueOptions.reportOutput report)).Executes q :=
        (executes_checkUnique hr).bind fun _ => trivial
      simp only [Lookup.command, Command.run, UniqueOptions.run_eq]
      exact withPairs_agree respond hanswer st

/-! ## The switch -/

/-- The command as a dry run. -/
def Command.dry : Command → Command
  | .find o => .find { o with dryRun := true }
  | .unique o => .unique { o with dryRun := true }
  | c => c

/-- The arguments with the switch in front. -/
abbrev switched (a : Arguments) : Arguments := a.after [("--dry-run", "")]

section

variable {name : String} (h : name ≠ "--dry-run") (a : Arguments)
include h

theorem values_switched : (switched a).values name = a.values name := by
  simp [Arguments.values, Arguments.after, Ne.symm h]

theorem value?_switched : (switched a).value? name = a.value? name := by
  rw [Arguments.value?, values_switched h, Arguments.value?]

theorem has_switched : (switched a).has name = a.has name := by
  simp [Arguments.has, Arguments.after, Ne.symm h]

theorem choice?_switched {α : Type} (ofText? : String → Option α) :
    (switched a).choice? name ofText? = a.choice? name ofText? := by
  rw [Arguments.choice?, value?_switched h, Arguments.choice?]

theorem count?_switched : (switched a).count? name = a.count? name := by
  rw [Arguments.count?, value?_switched h, Arguments.count?]

end

theorem onlyWord_switched (a : Arguments) (name : String) :
    (switched a).onlyWord name = a.onlyWord name := rfl

theorem readTarget_switched (settings : Settings) (a : Arguments) :
    readTarget settings (switched a) = readTarget settings a := by
  simp [readTarget, settingOr, value?_switched]

theorem switch_switched {on off : String} (hon : on ≠ "--dry-run") (hoff : off ≠ "--dry-run")
    (a : Arguments) (absent : Bool) :
    (switched a).switch on off absent = a.switch on off absent := by
  simp [Arguments.switch, Arguments.after, Ne.symm hon, Ne.symm hoff]

theorem has_dryRun (a : Arguments) : (switched a).has "--dry-run" = true := by
  simp [Arguments.has, Arguments.after]

theorem readFind_dryRun (settings : Settings) (rest : List String) :
    readFind settings ("--dry-run" :: rest) = (readFind settings rest).map Command.dry := by
  have hread : Arguments.read findForms false ("--dry-run" :: rest) =
      (Arguments.read findForms false rest).map switched := rfl
  unfold readFind
  rw [hread]
  cases Arguments.read findForms false rest with
  | error e => rfl
  | ok a =>
      simp only [Except.map, Bind.bind, Except.bind, Pure.pure, Except.pure, onlyWord_switched,
        values_switched, value?_switched, has_switched, choice?_switched, count?_switched,
        readTarget_switched, switch_switched, has_dryRun, ne_eq, String.reduceEq, not_false_eq_true]
      cases a.onlyWord "collection" with
      | error e => rfl
      | ok collection =>
      cases a.choice? "--match" Join.ofText? with
      | error e => rfl
      | ok join =>
      cases a.count? "--limit" with
      | error e => rfl
      | ok limit => cases a.count? "--offset" <;> rfl

theorem readUnique_dryRun (settings : Settings) (rest : List String) :
    readUnique settings ("--dry-run" :: rest) = (readUnique settings rest).map Command.dry := by
  have hread : Arguments.read uniqueForms false ("--dry-run" :: rest) =
      (Arguments.read uniqueForms false rest).map switched := rfl
  unfold readUnique
  rw [hread]
  cases Arguments.read uniqueForms false rest with
  | error e => rfl
  | ok a =>
      simp only [Except.map, Bind.bind, Except.bind, Pure.pure, Except.pure, onlyWord_switched,
        values_switched, value?_switched, has_switched, readTarget_switched, has_dryRun, ne_eq,
        String.reduceEq, not_false_eq_true]
      cases a.onlyWord "collection" <;> rfl

theorem Lookup.dry_command (l : Lookup) (dry : Bool) : (l.command dry).dry = l.command true := by
  cases l <;> rfl

/-- With the switch behind the name of its command, a line is read as the dry run of what it
was read as. -/
theorem read_dryRun {settings : Settings} {name : String} (hname : name = "find" ∨ name = "unique")
    {rest : List String} {level : String} {parsed : Except UsageError Lookup}
    (h : Invocation.read settings ("query" :: name :: rest) =
      .ok ⟨level, parsed.map (Lookup.command false)⟩) :
    Invocation.read settings ("query" :: name :: "--dry-run" :: rest) =
      .ok ⟨level, parsed.map (Lookup.command true)⟩ := by
  have hdry : (parsed.map (Lookup.command false)).map Command.dry =
      parsed.map (Lookup.command true) := by
    cases parsed with
    | error e => rfl
    | ok l => exact congrArg Except.ok (l.dry_command false)
  rcases hname with rfl | rfl
  · have hread (args : List String) : Invocation.read settings ("query" :: "find" :: args) =
        .ok ⟨settings.level, readFind settings args⟩ := rfl
    rw [hread, Except.ok.injEq, Invocation.mk.injEq] at h
    rw [hread, readFind_dryRun, h.1, h.2, hdry]
  · have hread (args : List String) : Invocation.read settings ("query" :: "unique" :: args) =
        .ok ⟨settings.level, readUnique settings args⟩ := rfl
    rw [hread, Except.ok.injEq, Invocation.mk.injEq] at h
    rw [hread, readUnique_dryRun, h.1, h.2, hdry]

/-! ## Command lines -/

/-- A search for the cyclists of a team. -/
def skyRiders : FindOptions where
  collection := "cyclists"
  searchProperties := some "team"
  searchTerms := some "sky"
  target := ⟨"http://localhost:8529", "root", "", "_system"⟩

/-- The query of the search. -/
def skyQuery : Query :=
  ⟨"FOR d IN @@collection FILTER ( LIKE(d.@search_prop_1, @search_term_1, true) ) RETURN d",
    [("@collection", .str "cyclists"), ("search_prop_1", .str "team"),
      ("search_term_1", .str "%sky%")]⟩

/-- The text of the panel that shows the query. -/
def skyPanel : String :=
  "FOR d IN @@collection FILTER ( LIKE(d.@search_prop_1, @search_term_1, true) ) RETURN d\n\n\x7b\n"
    ++ "  \"@collection\": \"cyclists\",\n  \"search_prop_1\": \"team\",\n"
    ++ "  \"search_term_1\": \"%sky%\"\n\x7d"

end Cli

end DocQuery
