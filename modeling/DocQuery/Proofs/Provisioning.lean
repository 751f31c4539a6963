import DocQuery.Proofs.RequiredParts

/-!
# Provisioning in two steps

A structure is provided in two steps (`provide_eq`): something is done about the database, and,
unless that fails, the contents of the database are compared with the structure and the missing
parts are created (`provideContents`).

The comparison asks three kinds of questions.  `Surveys` says that a server with states of its own
answers them as a small server does and stays as it is; the comparison is then the same on both
(`returns_validateUsable`).  What the second step comes to on a server that fails by a script is
read off the required parts (`returns_provideContents`).
-/

namespace DocQuery

open Session Scripted

/-- Whether a call asks what is there. -/
def Call.surveys : Call → Bool
  | hasDatabase _ | collections | graphs => true
  | _ => false

/-! ## Questions -/

/-- Whether a server answers what is there as a small server does, and stays as it is. -/
def Surveys {σ : Type} (respond : Responder σ) (st : σ) (server : Server) : Prop :=
  ∀ c : Call, c.surveys = true → respond c st = ((Server.respond c server).1, st)

theorem Server.surveys (server : Server) : Surveys Server.respond server server := by
  intro c hc
  cases c with
  | hasDatabase name => rfl
  | collections => rfl
  | graphs => rfl
  | _ => cases hc

theorem Scripted.surveys (server : Server) (script : Nat → Option String) :
    Surveys (respond Call.creates) ⟨server, script⟩ server := by
  intro c hc
  have hsure : c.creates = false := by
    cases c with
    | hasDatabase name => rfl
    | collections => rfl
    | graphs => rfl
    | _ => cases hc
  have hstate : (Server.respond c server).2 = server := by rw [server.surveys c hc]
  rw [respond_sure hsure, hstate]

namespace Database

section

variable {σ : Type} {respond : Responder σ} {st : σ} {server : Server}
  (h : Surveys respond st server)
include h

theorem returns_survey {c : Call} (hc : c.surveys = true) {answer : c.Answer}
    (hanswer : (Server.respond c server).1 = .ok answer) :
    Returns respond st (Session.ask c) [c] answer st := by
  have hasked : (respond c st).1 = .ok answer := by rw [h c hc, hanswer]
  have hask := Returns.ask hasked
  rwa [h c hc] at hask

theorem returns_exists (db : Database) :
    Returns respond st db.exists? [.hasDatabase db.name] (server.hasDatabase db.name) st :=
  (returns_survey h rfl rfl).bind (Returns.done _)

end

section

variable {σ : Type} {respond : Responder σ} {st : σ}

theorem returns_namesListed {α : Type} {shown name : α → Value}
    (hname : ∀ a, nameOf (shown a) = .ok (name a)) (items : List α) :
    Returns respond st (namesListed (.list (items.map shown))) [] (items.map name) st := by
  have hmap : (items.map shown).mapM nameOf = .ok (items.map name) := by
    induction items with
    | nil => rfl
    | cons a rest ih =>
        rw [List.map_cons, List.mapM_cons, hname, ih]
        rfl
  simp only [namesListed, Value.listed, ofUse_ok, bind_eq, done_bind, hmap, ofExcept_ok]
  exact Returns.done _

end

/-- The questions that the contents of a database are compared by. -/
def contentQuestions (db : Database) (s : Structure) : List Call :=
  [.hasDatabase db.name, .collections] ++ if s.graphNames.isEmpty then [] else [.graphs]

/-- The names of a server's collections. -/
def collectionNames (server : Server) : List Value := server.collections.map StoredCollection.name

/-- How a structure compares with the contents of a database that is there. -/
def comparison (server : Server) (name : String) (s : Structure) : StructureReport :=
  let collections := presences s.collections (collectionNames server)
  let graphs := presences s.graphNames server.graphs
  { database := some ⟨name, true⟩
    collections
    graphs
    message := missingMessage (allFound collections) (allFound graphs) }

section

variable {σ : Type} {respond : Responder σ} {st : σ} {server : Server}
  (h : Surveys respond st server)
include h

theorem returns_graphPresences (names : List String) :
    Returns respond st (graphPresences names) (if names.isEmpty then [] else [.graphs])
      (presences names server.graphs) st := by
  cases names with
  | nil => exact Returns.done _
  | cons name rest =>
      have hnames : Returns respond st
          (namesListed (.list (server.graphs.map fun name => .object [("name", name)]))) []
          (server.graphs.map fun name => name) st := returns_namesListed (fun _ => rfl) _
      rw [List.map_id'] at hnames
      exact (returns_survey h rfl rfl).bind (hnames.bind (Returns.done _))

/-- The comparison with a database that is there. -/
theorem returns_validateUsable {db : Database} {name : String} (hname : db.name = .str name)
    (hdatabase : server.hasDatabase db.name = true) (s : Structure) :
    Returns respond st (db.validateUsable s) (contentQuestions db s) (comparison server name s)
      st := by
  have hpresence : Failure.ofChecked "EntityExists" (Presence.named db.name true) =
      .ok ⟨name, true⟩ := by
    rw [hname]
    rfl
  have hnames : Returns respond st (namesListed (.list (server.collections.map Server.listing))) []
      (collectionNames server) st := returns_namesListed (fun _ => rfl) _
  have hfound := returns_exists h db
  rw [hdatabase] at hfound
  have hcompared : Returns respond st (db.validateUsable s)
      ([.hasDatabase db.name] ++ ([.collections] ++ ([] ++
        ((if s.graphNames.isEmpty then [] else [.graphs]) ++ [])))) (comparison server name s) st := by
    simp only [validateUsable, bind_eq]
    refine hfound.bind ?_
    simp only [hpresence, ofExcept_ok, done_bind, if_true]
    exact (returns_survey h rfl rfl).bind
      (hnames.bind ((returns_graphPresences h s.graphNames).bind (Returns.done _)))
  rwa [List.nil_append, List.append_nil, ← List.append_assoc] at hcompared

end

/-! ## The two steps -/

/-- Creates the collections and, unless that fails, the graphs, and reports what was done. -/
def createContents (line : String) (collections graphs : Session Created) :
    Session ProvisionReport := do
  let collections ← collections
  if let some fault := collections.fault then
    return { database := some line, collections := collections.lines, error := some fault.message }
  let graphs ← graphs
  return {
    database := some line
    collections := collections.lines
    graphs := graphs.lines
    error := graphs.fault.map Fault.message }

/-- Compares the contents of a database with a structure and creates what is missing. -/
def provideContents (db : Database) (s : Structure) (line : String) : Session ProvisionReport := do
  let found ← db.validateUsable s
  createContents line (createCollections found.collections) (createGraphs s found.graphs)

theorem usable?_some {s : Structure} (h : s.collections ≠ []) : usable? (some s) = some s := by
  simp [usable?, Option.filter, List.isEmpty_eq_false_iff.2 h]

theorem provide_eq {db : Database} {s : Structure} (hs : s.collections ≠ [])
    (clearance : Option Clearance) :
    db.provide (some s) clearance = (db.provideDatabase clearance).bind fun d => match d.2 with
      | some fault => done { database := some d.1, error := some fault.message }
      | none => db.provideContents s d.1 := by
  simp only [provide, usable?_some hs, bind_eq]
  congr 1
  funext d
  cases d.2 <;> rfl

/-! ## Creating the contents -/

section

variable {server : Server} {script : Nat → Option String}

theorem hasCollection_eq (server : Server) (name : String) :
    ((collectionNames server).any fun v => v.text? = some name) = server.hasCollection name := by
  rw [collectionNames, Server.hasCollection, List.any_map]
  rfl

theorem kind_collectionParts (server : Server) (names : List String) :
    ∀ p ∈ names.map (collectionPart server), p.kind = .collection :=
  List.forall_mem_map.2 fun _ _ => rfl

theorem kind_graphParts (server : Server) (s : Structure) (names : List String) :
    ∀ p ∈ names.map (graphPart server s), p.kind = .graph :=
  List.forall_mem_map.2 fun _ _ => rfl

theorem creates_contents (server : Server) (s : Structure) :
    ∀ c ∈ creations (contentParts server s), c.creates = true := by
  intro c hc
  obtain ⟨p, hp, hcall⟩ := List.mem_filterMap.1 hc
  rcases List.mem_append.1 hp with hp | hp
  · obtain ⟨name, -, rfl⟩ := List.mem_map.1 hp
    rw [collectionPart] at hcall
    split at hcall
    · cases hcall
    · cases hcall
      rfl
  · obtain ⟨name, -, rfl⟩ := List.mem_map.1 hp
    rw [graphPart] at hcall
    split at hcall
    · cases hcall
    · obtain ⟨g, rfl⟩ := exists_graphCall hcall
      rfl

/-- Parts in two groups: when a creation in front fails, nothing behind is reached. -/
theorem endingFault_front {front back : List Part}
    (h : succeeding script (creations front).length < (creations front).length) :
    endingFault script (front ++ back) = endingFault script front := by
  have hlt : succeeding script (creations front).length <
      (creations front).length + (creations back).length := by omega
  simp only [endingFault, creations_append, List.length_append, succeeding_add, if_pos h, if_pos hlt]

theorem endingFault_back {front back : List Part}
    (h : ¬ succeeding script (creations front).length < (creations front).length) :
    endingFault script (front ++ back) =
      endingFault (later script (creations front).length) back := by
  have hcomm (n : Nat) : (creations front).length + n = n + (creations front).length := by omega
  simp only [endingFault, creations_append, List.length_append, succeeding_add, if_neg h,
    Nat.add_lt_add_iff_left, later]
  rw [hcomm (succeeding _ _)]

/-- The report of contents that are created one after the other. -/
def contentReport (line : String) (script : Nat → Option String) (parts : List Part) :
    ProvisionReport :=
  let done := fates (succeeding script (creations parts).length) parts
  { database := some line
    collections := linesOf .collection done
    graphs := linesOf .graph done
    error := (endingFault script parts).map Fault.message }

section

variable {front back : List Part} (hfront : ∀ p ∈ front, p.kind = .collection)
  (hback : ∀ p ∈ back, p.kind = .graph) (line : String)
include hfront

theorem contentReport_front
    (h : succeeding script (creations front).length < (creations front).length) :
    contentReport line script (front ++ back) =
      { database := some line
        collections :=
          (fates (succeeding script (creations front).length) front).map fun d => d.1.line d.2
        error := (endingFault script front).map Fault.message } := by
  have hcount : succeeding script (creations (front ++ back)).length =
      succeeding script (creations front).length := by
    rw [creations_append, List.length_append, succeeding_add, if_pos h]
  have hgraphs : ∀ p ∈ front, p.kind ≠ .graph := fun p hp => by rw [hfront p hp]; decide
  rw [contentReport, hcount, fates_append, if_pos h, linesOf_same hfront, linesOf_other hgraphs,
    endingFault_front h]

include hback

theorem contentReport_back
    (h : ¬ succeeding script (creations front).length < (creations front).length) :
    let behind := later script (creations front).length
    contentReport line script (front ++ back) =
      { database := some line
        collections := (fates (creations front).length front).map fun d => d.1.line d.2
        graphs :=
          (fates (succeeding behind (creations back).length) back).map fun d => d.1.line d.2
        error := (endingFault behind back).map Fault.message } := by
  intro behind
  have hcount : succeeding script (creations (front ++ back)).length =
      (creations front).length + succeeding behind (creations back).length := by
    rw [creations_append, List.length_append, succeeding_add, if_neg h]
  have hgraphs : ∀ p ∈ front, p.kind ≠ .graph := fun p hp => by rw [hfront p hp]; decide
  have hcollections : ∀ p ∈ back, p.kind ≠ .collection := fun p hp => by rw [hback p hp]; decide
  -- All parts in front were done, as with any number of creations that covers them.
  have hcovered (more : Nat) : fates ((creations front).length + more) front =
      fates (creations front).length front := by
    rw [fates_all (Nat.le_add_right _ more), fates_all (Nat.le_refl _)]
  rw [contentReport, hcount, fates_append, if_neg (by omega), Nat.add_sub_cancel_left, hcovered,
    linesOf_append, linesOf_append, linesOf_same hfront, linesOf_other hcollections,
    linesOf_other hgraphs, linesOf_same hback, List.append_nil, List.nil_append,
    endingFault_back h]

/-- Collections and then graphs are created up to the first failure. -/
theorem returns_createContents (hcreates : ∀ c ∈ creations (front ++ back), c.creates = true) :
    let planned := creations (front ++ back)
    let count := succeeding script planned.length
    Returns (respond Call.creates) ⟨server, script⟩
      (createContents line (createParts front) (createParts back)) (planned.take (count + 1))
      (contentReport line script (front ++ back))
      ⟨server.after (planned.take count), later script (min (count + 1) planned.length)⟩ := by
  intro planned count
  have hplanned : planned = creations front ++ creations back := creations_append
  have hlength : planned.length = (creations front).length + (creations back).length := by
    rw [hplanned, List.length_append]
  rw [creations_append] at hcreates
  have hfirst : Returns (respond Call.creates) ⟨server, script⟩ (createParts front) _ _ _ :=
    returns_createParts front (fun c hc => hcreates c (List.mem_append_left _ hc)) server script
  simp only [createContents, bind_eq, pure_eq]
  by_cases hstop : succeeding script (creations front).length < (creations front).length
  · -- A collection fails: the graphs are not reached.
    have hcount : count = succeeding script (creations front).length := by
      simp only [count, hlength, succeeding_add, if_pos hstop]
    obtain ⟨text, htext⟩ := Option.isSome_iff_exists.1 (script_failed hstop)
    have hfault : endingFault script front = some (fault text) := by
      simp [endingFault, hstop, htext]
    have htaken (n : Nat) (hn : n ≤ (creations front).length) :
        planned.take n = (creations front).take n := by
      rw [hplanned, List.take_append_of_le_length hn]
    have hmin (n : Nat) (hn : (creations front).length ≤ n) :
        min (succeeding script (creations front).length + 1) n =
          succeeding script (creations front).length + 1 := by omega
    rw [contentReport_front hfront line hstop, hcount, htaken _ (by omega), htaken _ (by omega),
      hmin _ (by omega), ← List.append_nil ((creations front).take _)]
    rw [hmin _ (Nat.le_refl _), hfault] at hfirst
    rw [hfault]
    exact hfirst.bind (Returns.done _)
  · -- All collections are done, and the graphs follow.
    let behind := later script (creations front).length
    have hall : succeeding script (creations front).length = (creations front).length :=
      Nat.le_antisymm (succeeding_le _) (Nat.le_of_not_lt hstop)
    have hfault : endingFault script front = none := by simp [endingFault, hall]
    have hcount : count = (creations front).length +
        succeeding behind (creations back).length := by
      simp only [count, hlength, succeeding_add, if_neg hstop, behind]
    have hrest : Returns (respond Call.creates) ⟨server.after (creations front), behind⟩
        (createParts back) _ _ _ :=
      returns_createParts back (fun c hc => hcreates c (List.mem_append_right _ hc)) _ _
    have htaken (n : Nat) : planned.take ((creations front).length + n) =
        creations front ++ (creations back).take n := by
      rw [hplanned, List.take_length_add_append]
    rw [hall, List.take_of_length_le (Nat.le_succ _), List.take_length, hfault,
      Nat.min_eq_right (Nat.le_succ _)] at hfirst
    have hreported := hrest.bind (f := fun graphs => done
      { database := some line
        collections := (fates (creations front).length front).map fun d => d.1.line d.2
        graphs := graphs.lines
        error := graphs.fault.map Fault.message : ProvisionReport }) (Returns.done _)
    have hlast : min (count + 1) planned.length = (creations front).length +
        min (succeeding behind (creations back).length + 1) (creations back).length := by omega
    rw [contentReport_back hfront hback line hstop, hlast, hcount, Nat.add_assoc, htaken, htaken,
      Server.after_append, ← later_later, ← List.append_nil (List.take _ _)]
    exact hfirst.bind hreported

end

/-- The contents are compared and then created up to the first failure. -/
theorem returns_provideContents {db : Database} {name : String} (hname : db.name = .str name)
    (hdatabase : server.hasDatabase db.name = true) (s : Structure) (line : String) :
    let parts := contentParts server s
    let planned := creations parts
    let count := succeeding script planned.length
    Returns (respond Call.creates) ⟨server, script⟩ (db.provideContents s line)
      (contentQuestions db s ++ planned.take (count + 1)) (contentReport line script parts)
      ⟨server.after (planned.take count), later script (min (count + 1) planned.length)⟩ := by
  intro parts planned count
  have hcreated : Returns (respond Call.creates) ⟨server, script⟩ _ (planned.take (count + 1)) _ _ :=
    returns_createContents (kind_collectionParts server s.collections)
      (kind_graphParts server s s.graphNames) line (creates_contents server s)
  rw [← createCollections_eq server (hasCollection_eq server),
    ← createGraphs_eq server s (fun _ => rfl)] at hcreated
  exact (returns_validateUsable (Scripted.surveys server script) hname hdatabase s).bind hcreated

end

end Database

end DocQuery
