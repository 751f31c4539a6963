import DocQuery.Proofs.ProvisionReports

/-!
# Provisioning converges

On a server on which every call succeeds, a provisioning ends with everything that it can make:
creating only adds to a server (`Server.Extends`), so what is required is there once it was created.
A second provisioning then finds what is there and creates nothing (`provide_converges`).
-/

namespace DocQuery

open Session Scripted

/-! ## What creating adds -/

namespace Server

/-- Whether a server holds all that another one did, in order. -/
structure Extends (before after : Server) : Prop where
  databases : before.databases <+: after.databases
  collections : before.collections <+: after.collections
  graphs : before.graphs <+: after.graphs

namespace Extends

variable {server after last : Server}

theorem refl (server : Server) : server.Extends server :=
  ⟨List.prefix_rfl, List.prefix_rfl, List.prefix_rfl⟩

theorem trans (h : server.Extends after) (h' : after.Extends last) : server.Extends last :=
  ⟨h.databases.trans h'.databases, h.collections.trans h'.collections, h.graphs.trans h'.graphs⟩

theorem hasDatabase (h : server.Extends after) {name : Value}
    (hname : server.hasDatabase name = true) : after.hasDatabase name = true := by
  obtain ⟨v, hv, hsame⟩ := List.any_eq_true.1 hname
  exact List.any_eq_true.2 ⟨v, h.databases.subset hv, hsame⟩

end Extends

variable {server : Server} {c : Call} {calls : List Call}

theorem respond_extends (h : c.creates = true) : server.Extends (respond c server).2 := by
  cases c with
  | createDatabase name => exact ⟨List.prefix_append _ _, List.prefix_rfl, List.prefix_rfl⟩
  | createCollection name => exact ⟨List.prefix_rfl, List.prefix_append _ _, List.prefix_rfl⟩
  | createGraph name edges => exact ⟨List.prefix_rfl, List.prefix_rfl, List.prefix_append _ _⟩
  | _ => cases h

theorem after_extends (h : ∀ c ∈ calls, c.creates = true) :
    server.Extends (server.after calls) := by
  induction calls generalizing server with
  | nil => exact Extends.refl server
  | cons c rest ih =>
      exact (respond_extends (h c List.mem_cons_self)).trans
        (ih fun c hc => h c (List.mem_cons_of_mem _ hc))

theorem respond_hasCollection (h : c.creates = true) (name : String) :
    (respond c server).2.hasCollection name = true ↔
      server.hasCollection name = true ∨ c = .createCollection name := by
  cases c with
  | createDatabase database => simp [respond, hasCollection]
  | createCollection other => simp [respond, hasCollection, Value.text?]
  | createGraph graph edges => simp [respond, hasCollection]
  | _ => cases h

theorem after_hasCollection (h : ∀ c ∈ calls, c.creates = true) (name : String) :
    (server.after calls).hasCollection name = true ↔
      server.hasCollection name = true ∨ .createCollection name ∈ calls := by
  induction calls generalizing server with
  | nil => simp
  | cons c rest ih =>
      rw [after_cons, ih fun c hc => h c (List.mem_cons_of_mem _ hc),
        respond_hasCollection (h c List.mem_cons_self), List.mem_cons, or_assoc,
        eq_comm (a := c)]

theorem respond_hasGraph (h : c.creates = true) (name : String) :
    (respond c server).2.hasGraph name = true ↔
      server.hasGraph name = true ∨ ∃ edges, c = .createGraph name edges := by
  cases c with
  | createDatabase database => simp [respond, hasGraph]
  | createCollection other => simp [respond, hasGraph]
  | createGraph graph edges => simp [respond, hasGraph, Value.text?]
  | _ => cases h

theorem after_hasGraph (h : ∀ c ∈ calls, c.creates = true) (name : String) :
    (server.after calls).hasGraph name = true ↔
      server.hasGraph name = true ∨ ∃ edges, .createGraph name edges ∈ calls := by
  induction calls generalizing server with
  | nil => simp
  | cons c rest ih =>
      rw [after_cons, ih fun c hc => h c (List.mem_cons_of_mem _ hc),
        respond_hasGraph (h c List.mem_cons_self)]
      simp only [List.mem_cons, exists_or, or_assoc, eq_comm (a := c)]

end Server

namespace Database

/-! ## The database -/

/-- Emptying collections one by one leaves the names as they are. -/
theorem returns_truncateAll (server : Server) (items : List StoredCollection) :
    ∃ calls, Returns Server.respond server (truncateAll (items.map Server.listing)) calls ()
      server := by
  induction items with
  | nil => exact ⟨_, Returns.done ()⟩
  | cons item rest ih =>
      obtain ⟨calls, hrest⟩ := ih
      simp only [List.map_cons, truncateAll, Server.listing, Value.lookup, ofUse_ok, bind_eq,
        done_bind]
      split
      · exact ⟨_, hrest⟩
      · have hname : nameOf (.object (("name", item.name) ::
            (item.isSystem.map fun v => ("system", v)).toList)) = .ok item.name := rfl
        have hcollection : Returns Server.respond server (Session.ask (.collection item.name))
            [.collection item.name] () server := Returns.ask rfl
        have htruncate : Returns Server.respond server
            (Session.ask (.documents item.name .truncate [] []))
            [.documents item.name .truncate [] []] .null server := Returns.ask rfl
        rw [hname]
        exact ⟨_, hcollection.bind (htruncate.bind hrest)⟩

/-- Emptying a database leaves it there. -/
theorem returns_clear {db : Database} {name : String} (hname : db.name = .str name)
    {server : Server} (h : server.hasDatabase db.name = true) (method : Clearance) :
    ∃ calls st, Returns Server.respond server (db.clear method) calls () st ∧
      st.hasDatabase db.name = true := by
  have hfound := returns_exists server.surveys db
  rw [h] at hfound
  cases method with
  | recreate =>
      have hdropped : Returns Server.respond server (Session.attempt (.deleteDatabase db.name))
          [.deleteDatabase db.name] (.ok .null) (server.withoutDatabase db.name) :=
        Returns.attempt _
      have hcreated : Returns Server.respond (server.withoutDatabase db.name)
          (Session.attempt (.createDatabase db.name)) [.createDatabase db.name] (.ok .null)
          ((server.withoutDatabase db.name).after [.createDatabase db.name]) := Returns.attempt _
      refine ⟨_, _, hfound.bind (hdropped.bind (hcreated.bind (Returns.log _ (Returns.done ())))), ?_⟩
      exact Server.created_hasDatabase hname
  | deleteData =>
      obtain ⟨calls, hemptied⟩ := returns_truncateAll server server.collections
      have hlisted : Returns Server.respond server (Session.ask .collections) [.collections]
          (.list (server.collections.map Server.listing)) server := Returns.ask rfl
      exact ⟨_, _, hfound.bind (hlisted.bind (hemptied.bind (Returns.log _ (Returns.done ())))), h⟩

/-- Whatever is done about the database, it is there afterwards. -/
theorem returns_provideDatabase {db : Database} {name : String} (hname : db.name = .str name)
    (server : Server) (clearance : Option Clearance) :
    ∃ calls line st,
      Returns Server.respond server (db.provideDatabase clearance) calls (line, none) st ∧
        st.hasDatabase db.name = true ∧ (clearance = none → server.Extends st) := by
  have hfound := returns_exists server.surveys db
  cases h : server.hasDatabase db.name with
  | false =>
      rw [h] at hfound
      have hcreated : Returns Server.respond server (serverFault? (.createDatabase db.name))
          [.createDatabase db.name] none (server.after [.createDatabase db.name]) :=
        (Returns.attempt _).bind (Returns.done none)
      exact ⟨_, _, _,
        hfound.bind (Returns.log _ (hcreated.bind (Returns.log _ (Returns.done _)))),
        Server.created_hasDatabase hname, fun _ => Server.respond_extends rfl⟩
  | true =>
      rw [h] at hfound
      cases clearance with
      | none =>
          exact ⟨_, _, _, hfound.bind (Returns.log _ (Returns.done _)), h,
            fun _ => Server.Extends.refl server⟩
      | some method =>
          obtain ⟨calls, st, hcleared, hthere⟩ := returns_clear hname h method
          exact ⟨_, _, _, hfound.bind (hcleared.bind (Returns.log _ (Returns.done _))), hthere,
            nofun⟩

/-! ## The contents -/

/-- Whether nothing that a structure requires is left to be created. -/
structure Complete (server : Server) (s : Structure) : Prop where
  collections : ∀ name ∈ s.collections, server.hasCollection name = true
  graphs : ∀ name ∈ s.graphNames, server.hasGraph name = true ∨ creatable? s name = none

theorem definitionIn_name {name : String} {graphs : List Graph} {g : GraphDefinition}
    (h : Structure.definitionIn name graphs = some g) : g.name = name := by
  induction graphs with
  | nil => cases h
  | cons graph rest ih =>
      cases graph with
      | named other => exact ih h
      | defined other =>
          rw [Structure.definitionIn] at h
          split at h
          · rename_i hname
            cases h
            exact hname
          · exact ih h

section

variable {server : Server} {s : Structure}

theorem mem_creations_collection {name : String} (h : name ∈ s.collections)
    (hmissing : server.hasCollection name = false) :
    .createCollection name ∈ creations (contentParts server s) := by
  refine List.mem_filterMap.2 ⟨collectionPart server name,
    List.mem_append_left _ (List.mem_map_of_mem h), ?_⟩
  simp [collectionPart, hmissing, Need.call?]

theorem mem_creations_graph {name : String} (h : name ∈ s.graphNames)
    (hmissing : server.hasGraph name = false) {g : GraphDefinition}
    (hg : creatable? s name = some g) : graphCall g ∈ creations (contentParts server s) := by
  refine List.mem_filterMap.2 ⟨graphPart server s name,
    List.mem_append_right _ (List.mem_map_of_mem h), ?_⟩
  simp [graphPart, hmissing, missingGraph_of_creatable hg, Need.call?]

/-- The creations make what is required. -/
theorem complete_after (server : Server) (s : Structure) :
    let after := server.after (creations (contentParts server s))
    (∀ name ∈ s.collections, after.hasCollection name = true) ∧
      ∀ name ∈ s.graphNames, (server.hasGraph name = true ∨ ∃ g, creatable? s name = some g) →
        after.hasGraph name = true := by
  have hcreates := creates_contents server s
  constructor
  · intro name hname
    rw [Server.after_hasCollection hcreates]
    cases h : server.hasCollection name with
    | true => exact .inl rfl
    | false => exact .inr (mem_creations_collection hname h)
  · intro name hname hwanted
    rw [Server.after_hasGraph hcreates]
    cases h : server.hasGraph name with
    | true => exact .inl rfl
    | false =>
        obtain ⟨g, hg⟩ := hwanted.resolve_left (by simp [h])
        have hcall := mem_creations_graph hname h hg
        rw [graphCall, definitionIn_name (creatable?_eq_some_iff.1 hg).1] at hcall
        exact .inr ⟨_, hcall⟩

theorem Complete.after (server : Server) (s : Structure) :
    Complete (server.after (creations (contentParts server s))) s where
  collections := (complete_after server s).1
  graphs name hname := by
    cases hg : creatable? s name with
    | none => exact .inr rfl
    | some g => exact .inl ((complete_after server s).2 name hname (.inr ⟨g, hg⟩))

theorem Complete.creations (h : Complete server s) : creations (contentParts server s) = [] := by
  refine List.filterMap_eq_nil_iff.2 fun p hp => ?_
  rcases List.mem_append.1 hp with hp | hp
  · obtain ⟨name, hname, rfl⟩ := List.mem_map.1 hp
    simp [collectionPart, h.collections name hname, Need.call?]
  · obtain ⟨name, hname, rfl⟩ := List.mem_map.1 hp
    rcases h.graphs name hname with hthere | hnone
    · simp [graphPart, hthere, Need.call?]
    · rw [graphPart, missingGraph_of_none hnone]
      cases server.hasGraph name <;> rfl

theorem fates_of_complete {parts : List Part} (h : DocQuery.creations parts = []) (count : Nat) :
    fates count parts = (parts.filter Part.isReported).map fun p => (p, .found) := by
  rw [fates_all (by rw [h]; exact Nat.zero_le _)]
  refine List.map_congr_left fun p hp => ?_
  have hcall := List.filterMap_eq_nil_iff.1 h p (List.mem_filter.1 hp).1
  cases hneed : p.need with
  | there => rfl
  | missing c => simp [hneed, Need.call?] at hcall
  | unmade => simp [Part.isReported, hneed] at hp

/-- Everything that is there is reported as found. -/
theorem Complete.report (h : Complete server s) (line : String) (script : Nat → Option String) :
    contentReport line script (contentParts server s) =
      { database := some line
        collections := s.collections.map fun name => "Collection '" ++ name ++ "' found"
        graphs := (s.graphNames.filter server.hasGraph).map fun name =>
          "Graph '" ++ name ++ "' found" } := by
  have hnone := h.creations
  rw [contentParts, creations_append, List.append_eq_nil_iff] at hnone
  obtain ⟨hfront, hback⟩ := hnone
  have hcollections : (s.collections.map (collectionPart server)).filter Part.isReported =
      s.collections.map (collectionPart server) := by
    refine List.filter_eq_self.2 (List.forall_mem_map.2 fun name hname => ?_)
    simp [Part.isReported, collectionPart, h.collections name hname]
  have hgraphs : (s.graphNames.map (graphPart server s)).filter Part.isReported =
      (s.graphNames.filter server.hasGraph).map (graphPart server s) := by
    rw [List.filter_map]
    refine congrArg _ (List.filter_congr fun name hname => ?_)
    rcases h.graphs name hname with hthere | hnone
    · simp [Part.isReported, graphPart, hthere]
    · cases hthere : server.hasGraph name <;>
        simp [Part.isReported, graphPart, hthere, missingGraph_of_none hnone]
  rw [contentParts, contentReport_back (kind_collectionParts server _) (kind_graphParts server s _)
    line (by simp [hfront]), fates_of_complete hfront, fates_of_complete hback, hcollections,
    hgraphs]
  simp only [List.map_map, endingFault, hback]
  rfl

end

/-! ## Both runs -/

theorem contentReport_error (line : String) (parts : List Part) :
    (contentReport line (fun _ => none) parts).error = none := by
  simp [contentReport, endingFault]

section

variable {db : Database} {name : String} (hname : db.name = .str name) {s : Structure}
include hname

/-- Creating the contents of a database when every call succeeds. -/
theorem returns_provideContents_sure {server : Server}
    (h : server.hasDatabase db.name = true) (s : Structure) (line : String) :
    Returns Server.respond server (db.provideContents s line)
      (contentQuestions db s ++ creations (contentParts server s))
      (contentReport line (fun _ => none) (contentParts server s))
      (server.after (creations (contentParts server s))) := by
  have hscripted : Returns (respond Call.creates) ⟨server, fun _ => none⟩ _ _ _ _ :=
    returns_provideContents hname h s line
  have hrun := hscripted.of_spared
  rwa [succeeding_of_spared fun _ => rfl, List.take_of_length_le (Nat.le_succ _),
    List.take_length] at hrun

/-- A provisioning when every call succeeds, and the server that it leaves. -/
theorem returns_provide_sure (hs : s.collections ≠ []) (server : Server)
    (clearance : Option Clearance) :
    let cleared := ((db.provideDatabase clearance).run Server.respond server).state
    (clearance = none → server.Extends cleared) ∧ cleared.hasDatabase db.name = true ∧
      ∃ calls line, Returns Server.respond server (db.provide (some s) clearance) calls
        (contentReport line (fun _ => none) (contentParts cleared s))
        (cleared.after (creations (contentParts cleared s))) := by
  intro cleared
  obtain ⟨calls, line, st, hdatabase, hthere, hextends⟩ :=
    returns_provideDatabase hname server clearance
  have hcleared : cleared = st := hdatabase.state
  rw [hcleared, provide_eq hs]
  exact ⟨hextends, hthere, _, _, hdatabase.bind (returns_provideContents_sure hname hthere s line)⟩

/-- A provisioning that clears nothing, when nothing is left to be created. -/
theorem returns_provide_complete (hs : s.collections ≠ []) {server : Server}
    (h : server.hasDatabase db.name = true) (hcomplete : Complete server s) :
    Returns Server.respond server (db.provide (some s) none)
      (.hasDatabase db.name :: contentQuestions db s)
      (contentReport "Database found" (fun _ => none) (contentParts server s)) server := by
  have hscripted : Returns (respond Call.creates) ⟨server, fun _ => none⟩ _ _ _ _ :=
    returns_provideDatabase_found h
  have hdatabase := hscripted.of_spared
  have hcontents := returns_provideContents_sure hname h s "Database found"
  rw [hcomplete.creations, List.append_nil, Server.after_nil] at hcontents
  rw [provide_eq hs]
  exact hdatabase.bind hcontents

/-- Checking a structure in a database that is there. -/
theorem returns_validate (hs : s.collections ≠ []) {server : Server}
    (h : server.hasDatabase db.name = true) :
    Returns Server.respond server (db.validate (some s)) (contentQuestions db s)
      (comparison server name s) server := by
  simp only [validate, usable?_some hs]
  exact returns_validateUsable server.surveys hname h s

end

theorem missingMessage_eq_none_iff {collections graphs : Bool} :
    missingMessage collections graphs = none ↔ collections = true ∧ graphs = true := by
  cases collections <;> cases graphs <;> simp [missingMessage]

theorem allFound_presences (names : List String) (existing : List Value) :
    allFound (presences names existing) = true ↔
      ∀ name ∈ names, (existing.any fun v => v.text? = some name) = true := by
  simp only [allFound, presences, List.all_eq_true, List.forall_mem_map]

theorem comparison_message {server : Server} {s : Structure} {name : String}
    (h : ∀ name ∈ s.collections, server.hasCollection name = true) :
    (comparison server name s).message = none ↔
      ∀ name ∈ s.graphNames, server.hasGraph name = true := by
  rw [comparison, missingMessage_eq_none_iff, allFound_presences, allFound_presences]
  refine ⟨fun hfound => hfound.2, fun hgraphs => ⟨fun name hname => ?_, hgraphs⟩⟩
  rw [hasCollection_eq]
  exact h name hname

/-- Provisioning ends with what it can make, and a second one creates nothing: on a server on which
every call succeeds, from any state and with any way of clearing. -/
theorem provide_converges {db : Database} {name : String} (hname : db.name = .str name)
    {s : Structure} (hs : s.collections ≠ []) (clearance : Option Clearance) (server : Server) :
    let cleared := ((db.provideDatabase clearance).run Server.respond server).state
    let first := (db.provide (some s) clearance).run Server.respond server
    let st := first.state
    let second := (db.provide (some s) none).run Server.respond st
    (∃ report, first.result = .ok report ∧ report.error = none) ∧
      st.hasDatabase db.name = true ∧
      (∀ name ∈ s.collections, st.hasCollection name = true) ∧
      (∀ name ∈ s.graphNames, cleared.hasGraph name = true ∨
        (∃ g, s.definition? name = some g ∧ g.edges ≠ []) → st.hasGraph name = true) ∧
      (clearance = none → server.Extends st) ∧
      (∀ c ∈ second.calls, c.creates = false) ∧
      second.result = .ok
        { database := some "Database found"
          collections := s.collections.map fun name => "Collection '" ++ name ++ "' found"
          graphs := (s.graphNames.filter st.hasGraph).map fun name =>
            "Graph '" ++ name ++ "' found" } ∧
      second.state = st ∧
      ∃ report, ((db.validate (some s)).run Server.respond st).result = .ok report ∧
        (report.message = none ↔ ∀ name ∈ s.graphNames, st.hasGraph name = true) := by
  intro cleared first st second
  obtain ⟨hextends, hcleared, calls, line, hfirst⟩ :=
    returns_provide_sure hname hs server clearance
  have hst : st = cleared.after (creations (contentParts cleared s)) := hfirst.state
  have hcreates := creates_contents cleared s
  have hthere : st.hasDatabase db.name = true := by
    rw [hst]
    exact (Server.after_extends hcreates).hasDatabase hcleared
  have hcomplete : Complete st s := by
    rw [hst]
    exact Complete.after cleared s
  have hgraphs := (complete_after cleared s).2
  rw [← hst] at hgraphs
  have hsecond := returns_provide_complete hname hs hthere hcomplete
  refine ⟨⟨_, hfirst.result, contentReport_error line _⟩, hthere, hcomplete.collections,
    fun name hname hwanted => ?_, fun hnone => ?_, fun c hc => ?_, ?_, hsecond.state,
    _, (returns_validate hname hs hthere).result, comparison_message hcomplete.collections⟩
  · refine hgraphs name hname (hwanted.imp_right ?_)
    rintro ⟨g, hg⟩
    exact ⟨g, creatable?_eq_some_iff.2 hg⟩
  · rw [hst]
    exact (hextends hnone).trans (Server.after_extends hcreates)
  · rw [show second.calls = _ from hsecond.calls] at hc
    rcases List.mem_cons.1 hc with rfl | hc
    · rfl
    · exact creates_contentQuestions db s c hc
  · rw [show second.result = _ from hsecond.result, hcomplete.report]

/-- A database that is dropped and created again: of two graphs, the one that has edges is made. -/
theorem cyclists_converge :
    let s : Structure := ⟨["cyclists", "teams"],
      [.named "races", .defined ⟨"members", [⟨"rides", .one "cyclists", .one "teams"⟩]⟩]⟩
    let server : Server := ⟨[.str "cycling"], [⟨.str "teams", none⟩], [.str "races"], 0⟩
    let st := ((cycling.provide (some s) (some .recreate)).run Server.respond server).state
    cycling.name = .str "cycling" ∧ s.collections ≠ [] ∧ st.hasDatabase (.str "cycling") = true ∧
      st.hasCollection "teams" = true ∧ st.hasGraph "members" = true ∧
      ∀ c ∈ ((cycling.provide (some s) none).run Server.respond st).calls, c.creates = false := by
  intro s server st
  have hs : s.collections ≠ [] := List.cons_ne_nil _ _
  obtain ⟨-, hdatabase, hcollections, hgraphs, -, hcalls, -⟩ :=
    @provide_converges cycling _ rfl _ hs (some .recreate) server
  refine ⟨rfl, hs, hdatabase, hcollections "teams" ?_, hgraphs "members" ?_ (.inr ⟨_, rfl, ?_⟩),
    hcalls⟩
  · simp [s]
  · simp [s, Structure.graphNames, Graph.name]
  · exact List.cons_ne_nil _ _

end Database

end DocQuery
