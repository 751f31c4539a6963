import DocQuery.Proofs.Provisioning
import DocQuery.Proofs.Refusals

/-!
# Reports of a provisioning

Creating fails by a script on a server that answers what is there.  `provide_reports` says what a
provisioning that clears nothing comes to: which creations it asks for, where it stops, and how its
report goes with them, line by line.
-/

namespace DocQuery

open Session Scripted

namespace Database

variable {server : Server} {script : Nat → Option String}

/-! ## The database -/

theorem returns_provideDatabase_found {db : Database} (h : server.hasDatabase db.name = true) :
    Returns (respond Call.creates) ⟨server, script⟩ (db.provideDatabase none)
      [.hasDatabase db.name] ("Database found", none) ⟨server, script⟩ := by
  have hfound := returns_exists (Scripted.surveys server script) db
  rw [h] at hfound
  exact hfound.bind (Returns.log _ (Returns.done _))

theorem returns_provideDatabase_failed {db : Database} (h : server.hasDatabase db.name = false)
    {text : String} (hscript : script 0 = some text) :
    Returns (respond Call.creates) ⟨server, script⟩ (db.provideDatabase none)
      [.hasDatabase db.name, .createDatabase db.name]
      ("Failed to create database", some (fault text)) ⟨server, later script 1⟩ := by
  have hfound := returns_exists (Scripted.surveys server script) db
  rw [h] at hfound
  exact hfound.bind (Returns.log _ ((returns_serverFault_failed rfl hscript).bind
    (Returns.log _ (Returns.done _))))

theorem returns_provideDatabase_created {db : Database} (h : server.hasDatabase db.name = false)
    (hscript : script 0 = none) :
    Returns (respond Call.creates) ⟨server, script⟩ (db.provideDatabase none)
      [.hasDatabase db.name, .createDatabase db.name] ("Database created", none)
      ⟨server.after [.createDatabase db.name], later script 1⟩ := by
  have hfound := returns_exists (Scripted.surveys server script) db
  rw [h] at hfound
  exact hfound.bind (Returns.log _ ((returns_serverFault_spared rfl hscript).bind
    (Returns.log _ (Returns.done _))))

/-! ## The whole -/

/-- The report of required parts, the database first, that are created one after the other. -/
def provisionReport (script : Nat → Option String) (parts : List Part) : ProvisionReport :=
  let done := fates (succeeding script (creations parts).length) parts
  { database := done.head?.map fun d => databaseLine d.2
    collections := linesOf .collection done
    graphs := linesOf .graph done
    error := (endingFault script parts).map Fault.message }

section

variable {p : Part} {parts : List Part} {c : Call} (hkind : p.kind = .database)
include hkind

theorem linesOf_database (f : Fate) (done : List (Part × Fate)) :
    linesOf .collection ((p, f) :: done) = linesOf .collection done ∧
      linesOf .graph ((p, f) :: done) = linesOf .graph done :=
  ⟨linesOf_cons_other (by rw [hkind]; decide) f done,
    linesOf_cons_other (by rw [hkind]; decide) f done⟩

theorem provisionReport_found (h : p.need = .there) :
    provisionReport script (p :: parts) = contentReport "Database found" script parts := by
  have hcall : p.need.call? = none := by rw [h]; rfl
  rw [provisionReport, creations_cons hcall, fates_there h, endingFault_cons hcall,
    (linesOf_database hkind _ _).1, (linesOf_database hkind _ _).2]
  rfl

theorem provisionReport_created (h : p.need = .missing c) (hscript : script 0 = none) :
    provisionReport script (p :: parts) =
      contentReport "Database created" (later script 1) parts := by
  have hcount : succeeding script (creations (p :: parts)).length =
      succeeding (later script 1) (creations parts).length + 1 := by
    simp [creations_missing h, succeeding, hscript]
  rw [provisionReport, hcount, fates_created h, endingFault_created h hscript,
    (linesOf_database hkind _ _).1, (linesOf_database hkind _ _).2]
  rfl

theorem provisionReport_failed (h : p.need = .missing c) {text : String}
    (hscript : script 0 = some text) :
    provisionReport script (p :: parts) =
      { database := some "Failed to create database", error := some text } := by
  have hcount : succeeding script (creations (p :: parts)).length = 0 := by
    simp [creations_missing h, succeeding, hscript]
  rw [provisionReport, hcount, fates_failed h, endingFault_failed h hscript,
    (linesOf_database hkind _ _).1, (linesOf_database hkind _ _).2]
  rfl

end

/-- Whether some calls ask for the planned creations up to the first failure, and nothing is called
after one that fails. -/
structure Creates (calls planned : List Call) (count : Nat) : Prop where
  /-- The creations are the planned ones, up to one that fails. -/
  creations : calls.filter Call.creates = planned.take (count + 1)
  /-- A creation that fails is the last call. -/
  last : count < planned.length → calls.getLast? = planned[count]?

namespace Creates

variable {calls asked planned : List Call} {count : Nat}

theorem of_asked (hasked : ∀ c ∈ asked, c.creates = false)
    (hplanned : ∀ c ∈ planned, c.creates = true) :
    Creates (asked ++ planned.take (count + 1)) planned count where
  creations := by
    rw [List.filter_append, List.filter_eq_nil_iff.2 (by simpa using hasked), List.nil_append,
      List.filter_eq_self.2 fun c hc => hplanned c (List.mem_of_mem_take hc)]
  last := by
    intro hcount
    rw [List.getLast?_append, List.getLast?_take]
    simp [List.getElem?_eq_getElem hcount]

theorem getLast?_cons (h : Creates calls planned count) (hcount : count < planned.length)
    (c : Call) : (c :: calls).getLast? = planned[count]? := by
  rw [List.getLast?_cons, h.last hcount, List.getElem?_eq_getElem hcount]
  rfl

theorem asked_first (h : Creates calls planned count) {c : Call} (hc : c.creates = false) :
    Creates (c :: calls) planned count where
  creations := by rw [List.filter_cons_of_neg (by simp [hc]), h.creations]
  last hcount := h.getLast?_cons hcount c

theorem created_first (h : Creates calls planned count) {c : Call} (hc : c.creates = true) :
    Creates (c :: calls) (c :: planned) (count + 1) where
  creations := by rw [List.filter_cons_of_pos hc, h.creations, List.take_succ_cons]
  last hcount := h.getLast?_cons (Nat.lt_of_succ_lt_succ hcount) c

end Creates

theorem creates_contentQuestions (db : Database) (s : Structure) :
    ∀ c ∈ contentQuestions db s, c.creates = false := by
  intro c hc
  rcases List.mem_append.1 hc with hc | hc
  · simp only [List.mem_cons, List.not_mem_nil, or_false] at hc
    rcases hc with rfl | rfl <;> rfl
  · split at hc
    · cases hc
    · rw [List.mem_singleton.1 hc]
      rfl

/-- What a structure is provided with when creating fails by a script. -/
theorem returns_provide {db : Database} {name : String} (hname : db.name = .str name)
    {s : Structure} (hs : s.collections ≠ []) (server : Server) (script : Nat → Option String) :
    let parts := requiredParts server name s
    ∃ calls st, Returns (respond Call.creates) ⟨server, script⟩ (db.provide (some s) none) calls
        (provisionReport script parts) st ∧
      Creates calls (creations parts) (succeeding script (creations parts).length) := by
  intro parts
  have hparts : parts = databasePart server name :: contentParts server s := rfl
  have hcreates := creates_contents server s
  rw [provide_eq hs, hparts]
  cases h : server.hasDatabase db.name with
  | true =>
      have hneed : (databasePart server name).need = .there := by
        simp [databasePart, ← hname, h]
      rw [provisionReport_found rfl hneed, creations_cons (by rw [hneed]; rfl)]
      exact ⟨_, _, (returns_provideDatabase_found h).bind (returns_provideContents hname h s _),
        (Creates.of_asked (creates_contentQuestions db s) hcreates).asked_first rfl⟩
  | false =>
      have hneed : (databasePart server name).need = .missing (.createDatabase db.name) := by
        simp [databasePart, ← hname, h]
      rw [creations_missing hneed]
      cases hscript : script 0 with
      | some text =>
          have hcount : succeeding script
              (Call.createDatabase db.name :: creations (contentParts server s)).length = 0 := by
            simp [succeeding, hscript]
          rw [provisionReport_failed rfl hneed hscript, hcount]
          exact ⟨_, _, (returns_provideDatabase_failed h hscript).bind (Returns.done _),
            ⟨rfl, fun _ => rfl⟩⟩
      | none =>
          have hcount : succeeding script
              (Call.createDatabase db.name :: creations (contentParts server s)).length =
              succeeding (later script 1) (creations (contentParts server s)).length + 1 := by
            simp [succeeding, hscript]
          rw [provisionReport_created rfl hneed hscript, hcount]
          exact ⟨_, _,
            (returns_provideDatabase_created h hscript).bind
              (returns_provideContents hname (Server.created_hasDatabase hname) s _),
            ((Creates.of_asked (creates_contentQuestions db s) hcreates).created_first
              rfl).asked_first rfl⟩

/-- Provisioning stops at the first creation that fails and reports what it did: when nothing is
cleared and only creating may fail, by any script. -/
theorem provide_reports {db : Database} {name : String} (hname : db.name = .str name)
    {s : Structure} (hs : s.collections ≠ []) (server : Server) (script : Nat → Option String) :
    let r := (db.provide (some s) none).run (respond Call.creates) ⟨server, script⟩
    let parts := requiredParts server name s
    let planned := creations parts
    let count := succeeding script planned.length
    let done := fates count parts
    ∃ report, r.result = .ok report ∧
      r.calls.filter Call.creates = planned.take (count + 1) ∧
      (count < planned.length → r.calls.getLast? = planned[count]?) ∧
      (∀ i < count, script i = none) ∧
      (count < planned.length → (script count).isSome = true) ∧
      report.database = done.head?.map (fun d => databaseLine d.2) ∧
      report.collections = linesOf .collection done ∧
      report.graphs = linesOf .graph done ∧
      report.error = (if count < planned.length then script count else none) ∧
      done.map Prod.fst <+: parts.filter Part.isReported ∧
      (count = planned.length → done.map Prod.fst = parts.filter Part.isReported) ∧
      (∀ d ∈ done, d.2 = .found ↔ d.1.need = .there) ∧
      done.filterMap (fun d => d.1.need.call?.map fun c => (c, d.2)) =
        (planned.take count).map (fun c => (c, .created)) ++
          (planned[count]?.map fun c => (c, .failed)).toList ∧
      ∀ d ∈ done.dropLast, d.2 ≠ .failed := by
  intro r parts planned count done
  obtain ⟨calls, st, hrun, hcreates⟩ := returns_provide hname hs server script
  have hcalls : Creates r.calls planned count := by rwa [hrun.calls]
  refine ⟨_, hrun.result, hcalls.creations, hcalls.last, fun i hi => script_spared hi,
    script_failed, rfl, rfl, rfl, ?_, fates_initial, ?_, fun d hd => fates_found hd, fates_calls,
    fates_dropLast⟩
  · show (endingFault script parts).map Fault.message = _
    rw [endingFault]
    split
    · rw [Option.map_map]
      exact Option.map_id' (x := script count)
    · rfl
  · intro hcount
    have hall : (creations parts).length ≤ count := Nat.le_of_eq hcount.symm
    rw [show done = fates count parts from rfl, fates_all hall, List.map_map]
    exact List.map_id' _

/-- A graph with one edge. -/
def ridingGraph (name : String) : GraphDefinition := ⟨name, [⟨name, .one "cyclists", .one "teams"⟩]⟩

/-- The database is created, and so are the collections and a graph; a graph that is only named is
left out, and the next one fails. -/
theorem cyclists_provided :
    let s : Structure := ⟨["cyclists", "teams"],
      [.named "members", .defined (ridingGraph "rides"), .defined (ridingGraph "races"),
        .defined (ridingGraph "tours")]⟩
    let script : Nat → Option String := fun n => if n = 4 then some "no room" else none
    cycling.name = .str "cycling" ∧ s.collections ≠ [] ∧
      ∃ report, ((cycling.provide (some s) none).run (respond Call.creates) ⟨{}, script⟩).result =
          .ok report ∧
        report.database = some "Database created" ∧
        report.collections = ["Collection 'cyclists' created", "Collection 'teams' created"] ∧
        report.graphs = ["Graph 'rides' created", "Failed to create graph 'races'"] ∧
        report.error = some "no room" := by
  intro s script
  have hs : s.collections ≠ [] := List.cons_ne_nil _ _
  obtain ⟨report, hresult, -, -, -, -, hdatabase, hcollections, hgraphs, herror, -⟩ :=
    @provide_reports cycling _ rfl _ hs {} script
  exact ⟨rfl, hs, report, hresult, hdatabase.trans (by decide), hcollections.trans (by decide),
    hgraphs.trans (by decide), herror.trans (by decide)⟩

end Database

end DocQuery
