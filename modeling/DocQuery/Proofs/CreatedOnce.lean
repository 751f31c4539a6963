import DocQuery.Proofs.Convergence

/-!
# Collections that are created once

What is missing is decided once, before anything is created: the comparison is a *snapshot*, and
creating a collection does not change it.  A name that is listed twice is missing twice in it, and
its collection is created twice.

A server may refuse to create a collection that is there (`Server.refusing`).  `AsksFor` says how
asking for the missing names one after the other goes on such a server: all are asked for, or one is
refused that was asked for before.  It follows that every missing collection is created once, and
without an error, exactly if no missing name is listed twice (`creates_once_iff`).
-/

namespace DocQuery

open Session

/-! ## Servers that refuse -/

/-- The collection that a call creates. -/
def Call.createdName? : Call → Option String
  | createCollection name => some name
  | _ => none

/-- The collections that some calls create, in order. -/
def createdNames (calls : List Call) : List String := calls.filterMap Call.createdName?

theorem createdNames_append (calls more : List Call) :
    createdNames (calls ++ more) = createdNames calls ++ createdNames more :=
  List.filterMap_append

theorem createdNames_map (names : List String) :
    createdNames (names.map Call.createCollection) = names := by
  rw [createdNames, List.filterMap_map]
  exact List.filterMap_some

theorem createdNames_eq_nil {calls : List Call} (h : ∀ c ∈ calls, c.createdName? = none) :
    createdNames calls = [] := List.filterMap_eq_nil_iff.2 h

namespace Server

/-- Answers a call.  If the server refuses to create a collection that is there, it does so with
some text. -/
def refusing (refusal : Option String) : Responder Server := fun c s => match c, refusal with
  | .createCollection name, some text =>
      if s.hasCollection name then (.error ⟨.server, text⟩, s)
      else respond (.createCollection name) s
  | c, _ => respond c s

variable {refusal : Option String} {c : Call} {s : Server}

theorem refusing_none : refusing none = respond := by
  funext c s
  cases c <;> rfl

theorem refusing_of_other (h : c.createdName? = none) : refusing refusal c s = respond c s := by
  cases c with
  | createCollection name => cases h
  | _ => rfl

theorem refusing_of_free {name : String} (h : refusal = none ∨ s.hasCollection name = false) :
    refusing refusal (.createCollection name) s = respond (.createCollection name) s := by
  rcases h with rfl | h
  · rw [refusing_none]
  · cases refusal with
    | none => rfl
    | some text => simp [refusing, h]

theorem refusing_of_there {name text : String} (h : s.hasCollection name = true) :
    refusing (some text) (.createCollection name) s = (.error ⟨.server, text⟩, s) := by
  simp [refusing, h]

theorem surveys_refusing (refusal : Option String) (s : Server) :
    Surveys (refusing refusal) s s := by
  intro c hc
  have hother : c.createdName? = none := by
    cases c with
    | createCollection name => cases hc
    | _ => rfl
  rw [refusing_of_other hother, s.surveys c hc]

/-- The names that are listed and missing, as often as they are listed. -/
def missing (server : Server) (s : Structure) : List String :=
  s.collections.filter fun name => !server.hasCollection name

end Server

namespace Database

/-! ## Asking for the missing names -/

/-- How asking for some names goes when others are there already: which are asked for, and the fault
that ends it. -/
inductive AsksFor (refusal : Option String) (there names : List String) :
    List String → Option Fault → Prop
  /-- All are asked for: nothing is refused, or no name is asked for twice. -/
  | all (h : refusal = none ∨ (names.Nodup ∧ ∀ name ∈ names, name ∉ there)) :
      AsksFor refusal there names names none
  /-- One is refused, because it is there or was asked for before. -/
  | refused (before after : List String) (name text : String) (hrefusal : refusal = some text)
      (hnames : names = before ++ name :: after) (h : name ∈ there ∨ name ∈ before) :
      AsksFor refusal there names (before ++ [name]) (some ⟨.server, text⟩)

namespace AsksFor

variable {refusal : Option String} {there names asked : List String} {fault : Option Fault}
  {name : String}

/-- A name that is free is asked for first, and is there from then on. -/
theorem cons (hfree : refusal = none ∨ name ∉ there)
    (h : AsksFor refusal (name :: there) names asked fault) :
    AsksFor refusal there (name :: names) (name :: asked) fault := by
  cases h with
  | all h =>
      refine .all ?_
      rcases h with hnone | ⟨hnodup, hother⟩
      · exact .inl hnone
      · rcases hfree with hnone | hfree
        · exact .inl hnone
        · refine .inr ⟨List.nodup_cons.2 ⟨fun hmem => ?_, hnodup⟩, ?_⟩
          · exact hother name hmem List.mem_cons_self
          · exact List.forall_mem_cons.2
              ⟨hfree, fun other hmem hthere => hother other hmem (List.mem_cons_of_mem _ hthere)⟩
  | refused before after other text hrefusal hnames h =>
      refine .refused (name :: before) after other text hrefusal (by rw [hnames]; rfl) ?_
      rcases h with h | h
      · rcases List.mem_cons.1 h with rfl | h
        · exact .inr List.mem_cons_self
        · exact .inl h
      · exact .inr (List.mem_cons_of_mem _ h)

end AsksFor

/-! ## Creating on a server that refuses -/

section

variable (refusal : Option String)

/-- The missing ones of some collections are asked for, as a snapshot has them. -/
theorem returns_createCollections (snapshot : Server) (names : List String) (st : Server)
    (there : List String) (hthere : ∀ name, st.hasCollection name = true ↔
      snapshot.hasCollection name = true ∨ name ∈ there) :
    ∃ asked created st', Returns (Server.refusing refusal) st
        (createParts (names.map (collectionPart snapshot))) (asked.map Call.createCollection)
        created st' ∧
      AsksFor refusal there (names.filter fun name => !snapshot.hasCollection name) asked
        created.fault := by
  induction names generalizing st there with
  | nil => exact ⟨[], {}, st, Returns.done _, .all (.inr ⟨List.nodup_nil, by simp⟩)⟩
  | cons name rest ih =>
      cases hfound : snapshot.hasCollection name with
      | true =>
          have hneed : (collectionPart snapshot name).need = .there := by
            simp [collectionPart, hfound]
          obtain ⟨asked, created, st', hrest, hasked⟩ := ih st there hthere
          have hline := hrest.bind (f := fun c => done (c.after
            ((collectionPart snapshot name).line .found))) (Returns.done _)
          rw [List.append_nil] at hline
          rw [List.filter_cons_of_neg (by simp [hfound])]
          simp only [List.map_cons, createParts, hneed]
          exact ⟨asked, _, st', hline, hasked⟩
      | false =>
          have hneed : (collectionPart snapshot name).need = .missing (.createCollection name) := by
            simp [collectionPart, hfound]
          have hname : st.hasCollection name = true ↔ name ∈ there := by simp [hthere, hfound]
          rw [List.filter_cons_of_pos (by simp [hfound])]
          simp only [List.map_cons, createParts, hneed]
          by_cases hfree : refusal = none ∨ name ∉ there
          · have hanswer : Server.refusing refusal (.createCollection name) st =
                Server.respond (.createCollection name) st :=
              Server.refusing_of_free (hfree.imp_right fun h => by rwa [← Bool.not_eq_true, hname])
            have hlater (other : String) :
                (Server.respond (.createCollection name) st).2.hasCollection other = true ↔
                  snapshot.hasCollection other = true ∨ other ∈ name :: there := by
              rw [Server.respond_hasCollection rfl, hthere, List.mem_cons, or_assoc,
                Call.createCollection.injEq, eq_comm (a := name), or_comm (a := other ∈ there)]
            obtain ⟨asked, created, st', hrest, hasked⟩ := ih _ _ hlater
            have hcreated := returns_createThen_none PartKind.collection.word name hanswer hrest
            exact ⟨name :: asked, _, st', hcreated, hasked.cons hfree⟩
          · obtain ⟨hsome, hmem⟩ := not_or.1 hfree
            obtain ⟨text, rfl⟩ := Option.ne_none_iff_exists'.1 hsome
            have hanswer : Server.refusing (some text) (.createCollection name) st =
                (.error ⟨.server, text⟩, st) :=
              Server.refusing_of_there (hname.2 (Decidable.not_not.1 hmem))
            exact ⟨[name], _, st,
              returns_createThen_some PartKind.collection.word name _ hanswer,
              .refused [] _ name text rfl rfl (.inl (Decidable.not_not.1 hmem))⟩

/-- Graphs are created as on a server that refuses nothing. -/
theorem returns_createGraphs (parts : List Part)
    (h : ∀ c ∈ creations parts, c.createdName? = none) (st : Server) :
    ∃ lines st', Returns (Server.refusing refusal) st (createParts parts) (creations parts)
      ⟨lines, none⟩ st' := by
  induction parts generalizing st with
  | nil => exact ⟨[], st, Returns.done _⟩
  | cons p rest ih =>
      cases hneed : p.need with
      | there =>
          rw [creations_cons (by rw [hneed]; rfl)] at h ⊢
          obtain ⟨lines, st', hrest⟩ := ih h st
          have hline := hrest.bind (f := fun c => done (c.after (p.line .found))) (Returns.done _)
          rw [List.append_nil] at hline
          simp only [createParts, hneed]
          exact ⟨_, st', hline⟩
      | unmade =>
          rw [creations_cons (by rw [hneed]; rfl)] at h ⊢
          obtain ⟨lines, st', hrest⟩ := ih h st
          simp only [createParts, hneed]
          exact ⟨lines, st', hrest.log _⟩
      | missing c =>
          rw [creations_missing hneed] at h ⊢
          obtain ⟨hc, hrest⟩ := List.forall_mem_cons.1 h
          obtain ⟨answer, hanswer⟩ := Server.respond_ok c st
          have hrefusing :
              Server.refusing refusal c st = (.ok answer, (Server.respond c st).2) := by
            rw [Server.refusing_of_other hc, ← hanswer]
          obtain ⟨lines, st', hrest⟩ := ih hrest (Server.respond c st).2
          have hcreated := returns_createThen_none p.kind.word p.name hrefusing hrest
          simp only [createParts, hneed]
          exact ⟨_, st', hcreated⟩

theorem createdName?_graphParts (server : Server) (s : Structure) (names : List String) :
    ∀ c ∈ creations (names.map (graphPart server s)), c.createdName? = none := by
  intro c hc
  obtain ⟨p, hp, hcall⟩ := List.mem_filterMap.1 hc
  obtain ⟨name, -, rfl⟩ := List.mem_map.1 hp
  rw [graphPart] at hcall
  split at hcall
  · cases hcall
  · obtain ⟨g, rfl⟩ := exists_graphCall hcall
    rfl

theorem createdName?_contentQuestions (db : Database) (s : Structure) :
    ∀ c ∈ contentQuestions db s, c.createdName? = none := by
  intro c hc
  rcases List.mem_append.1 hc with hc | hc
  · simp only [List.mem_cons, List.not_mem_nil, or_false] at hc
    rcases hc with rfl | rfl <;> rfl
  · split at hc
    · cases hc
    · rw [List.mem_singleton.1 hc]
      rfl

/-- The contents are created, and graphs only where no collection was refused. -/
theorem returns_createContents_refusing {σ : Type} {respond : Responder σ} {st st' st'' : σ}
    {collections graphs : Session Created} {calls more : List Call} {created : Created}
    {lines : List String} (line : String)
    (hcollections : Returns respond st collections calls created st')
    (hgraphs : Returns respond st' graphs more ⟨lines, none⟩ st'') :
    ∃ rest report last, Returns respond st (createContents line collections graphs) (calls ++ rest)
        report last ∧ (∀ c ∈ rest, c ∈ more) ∧ report.error = created.fault.map Fault.message := by
  obtain ⟨done, fault⟩ := created
  simp only [createContents, bind_eq, pure_eq]
  cases fault with
  | none =>
      have hreport := hgraphs.bind (f := fun graphs => Session.done
        { database := some line
          collections := done
          graphs := graphs.lines
          error := graphs.fault.map Fault.message : ProvisionReport }) (Returns.done _)
      rw [List.append_nil] at hreport
      exact ⟨_, _, _, hcollections.bind hreport, fun c hc => hc, rfl⟩
  | some fault =>
      exact ⟨_, _, _, hcollections.bind (Returns.done _), fun c hc => (List.not_mem_nil hc).elim,
        rfl⟩

/-- The contents of a database that is there: the missing names are asked for, and what ends that
is reported. -/
theorem returns_provideContents_refusing {db : Database} {name : String}
    (hname : db.name = .str name) {server : Server}
    (hdatabase : server.hasDatabase db.name = true) (s : Structure) (line : String) :
    ∃ calls report st' fault,
      Returns (Server.refusing refusal) server (db.provideContents s line) calls report st' ∧
        AsksFor refusal [] (server.missing s) (createdNames calls) fault ∧
        report.error = fault.map Fault.message := by
  obtain ⟨asked, created, st', hcollections, hasked⟩ :=
    returns_createCollections refusal server s.collections server [] (by simp)
  obtain ⟨lines, st'', hgraphs⟩ :=
    returns_createGraphs refusal _ (createdName?_graphParts server s s.graphNames) st'
  rw [← createCollections_eq server (hasCollection_eq server)] at hcollections
  rw [← createGraphs_eq server s (fun _ => rfl)] at hgraphs
  obtain ⟨rest, report, last, hcreated, hrest, herror⟩ :=
    returns_createContents_refusing line hcollections hgraphs
  have hcompared :=
    returns_validateUsable (Server.surveys_refusing refusal server) hname hdatabase s
  refine ⟨_, report, last, created.fault, hcompared.bind hcreated, ?_, herror⟩
  have hquestions := createdNames_eq_nil (createdName?_contentQuestions db s)
  have hgraphNames := createdNames_eq_nil fun c hc =>
    createdName?_graphParts server s s.graphNames c (hrest c hc)
  rw [createdNames_append, createdNames_append, hquestions, createdNames_map, hgraphNames,
    List.nil_append, List.append_nil]
  exact hasked

/-- The database is there after the first step, and the collections are as before. -/
theorem returns_provideDatabase_refusing {db : Database} {name : String}
    (hname : db.name = .str name) (server : Server) :
    ∃ calls line st,
      Returns (Server.refusing refusal) server (db.provideDatabase none) calls (line, none) st ∧
        createdNames calls = [] ∧ st.hasDatabase db.name = true ∧
        st.collections = server.collections := by
  have hfound := returns_exists (Server.surveys_refusing refusal server) db
  cases h : server.hasDatabase db.name with
  | true =>
      rw [h] at hfound
      exact ⟨_, _, _, hfound.bind (Returns.log _ (Returns.done _)), rfl, h, rfl⟩
  | false =>
      rw [h] at hfound
      have hcreated : Returns (Server.refusing refusal) server
          (serverFault? (.createDatabase db.name)) [.createDatabase db.name] none
          (server.after [.createDatabase db.name]) :=
        returns_serverFault_none (Server.refusing_of_other rfl)
      exact ⟨_, _, _, hfound.bind (Returns.log _ (hcreated.bind (Returns.log _ (Returns.done _)))),
        rfl, Server.created_hasDatabase hname, rfl⟩

/-- Whatever a server refuses, the missing names of a structure are asked for when it is
provided. -/
theorem returns_provide_refusing {db : Database} {name : String} (hname : db.name = .str name)
    {s : Structure} (hs : s.collections ≠ []) (server : Server) :
    ∃ calls report st fault,
      Returns (Server.refusing refusal) server (db.provide (some s) none) calls report st ∧
        AsksFor refusal [] (server.missing s) (createdNames calls) fault ∧
        report.error = fault.map Fault.message := by
  obtain ⟨first, line, st, hdatabase, hnone, hthere, hsame⟩ :=
    returns_provideDatabase_refusing refusal hname server
  obtain ⟨calls, report, last, fault, hcontents, hasked, herror⟩ :=
    returns_provideContents_refusing refusal hname hthere s line
  have hmissing : st.missing s = server.missing s := by
    simp only [Server.missing, Server.hasCollection, hsame]
  rw [provide_eq hs]
  refine ⟨_, report, last, fault, hdatabase.bind hcontents, ?_, herror⟩
  rwa [createdNames_append, hnone, List.nil_append, ← hmissing]

end

/-! ## Once each -/

/-- Whether a run creates the missing collections, each of them once, and ends without an error. -/
structure CreatesOnce (missing : List String) (r : Run Server ProvisionReport) : Prop where
  /-- No collection is created twice. -/
  once : (createdNames r.calls).Nodup
  /-- Those are created that are missing, and no others. -/
  exact : ∀ name, name ∈ createdNames r.calls ↔ name ∈ missing
  /-- It returns a report without an error. -/
  ends : ∃ report, r.result = .ok report ∧ report.error = none

/-- Every missing collection is created once, and without an error, exactly if no missing name is
listed twice.  Otherwise a collection is created again, and a server that refuses that ends the
provisioning. -/
theorem creates_once_iff {db : Database} {name : String} (hname : db.name = .str name)
    {s : Structure} (hs : s.collections ≠ []) (server : Server) (refusal : Option String) :
    let r := (db.provide (some s) none).run (Server.refusing refusal) server
    let missing := server.missing s
    (CreatesOnce missing r ↔ missing.Nodup) ∧
      (missing.Nodup ∨ refusal = none → createdNames r.calls = missing) ∧
      (¬ missing.Nodup → ∃ report, r.result = .ok report ∧ report.error = refusal) := by
  intro r missing
  obtain ⟨calls, report, st, fault, hrun, hasked, herror⟩ :=
    returns_provide_refusing refusal hname hs server
  have hcalls : r.calls = calls := hrun.calls
  have hresult : r.result = .ok report := hrun.result
  rw [← hcalls] at hasked
  generalize hnames : createdNames r.calls = asked at hasked
  cases hasked with
  | all h =>
      have hnames : createdNames r.calls = missing := hnames
      refine ⟨⟨fun hr => hnames ▸ hr.once, fun hnodup => ⟨?_, ?_, report, hresult, herror⟩⟩,
        fun _ => rfl, fun hrepeated => ?_⟩
      · rw [hnames]
        exact hnodup
      · intro other
        rw [hnames]
      · rw [h.resolve_right fun hnodup => hrepeated hnodup.1]
        exact ⟨report, hresult, herror⟩
  | refused before after other text hrefusal hmissing h =>
      have hmissing : missing = before ++ other :: after := hmissing
      have hbefore : other ∈ before := h.resolve_left List.not_mem_nil
      have hasked : ¬ (before ++ [other]).Nodup := fun hnodup =>
        (List.nodup_append.1 hnodup).2.2 other hbefore other (List.mem_singleton_self _) rfl
      have hrepeated : ¬ missing.Nodup := fun hnodup =>
        (List.nodup_append.1 (hmissing ▸ hnodup)).2.2 other hbefore other List.mem_cons_self rfl
      refine ⟨⟨fun hr => (hasked (hnames ▸ hr.once)).elim, fun hnodup => (hrepeated hnodup).elim⟩,
        fun hor => ?_, fun _ => ⟨report, hresult, ?_⟩⟩
      · rcases hor with hnodup | hnone
        · exact (hrepeated hnodup).elim
        · rw [hrefusal] at hnone
          cases hnone
      · rw [herror, hrefusal]
        rfl

/-- Of the cyclists, who are there, and the teams and races, which are not, the latter are created
once, although the cyclists are listed twice. -/
theorem cyclists_listed_twice :
    let s : Structure := ⟨["cyclists", "teams", "cyclists", "races"], []⟩
    let server : Server := ⟨[.str "cycling"], [⟨.str "cyclists", none⟩], [], 0⟩
    let r := (cycling.provide (some s) none).run (Server.refusing (some "duplicate name")) server
    cycling.name = .str "cycling" ∧ s.collections ≠ [] ∧ (server.missing s).Nodup ∧
      CreatesOnce ["teams", "races"] r := by
  intro s server r
  have hs : s.collections ≠ [] := List.cons_ne_nil _ _
  have hmissing : server.missing s = ["teams", "races"] := by decide
  obtain ⟨honce, -⟩ := @creates_once_iff cycling _ rfl _ hs server (some "duplicate name")
  rw [hmissing] at honce ⊢
  have hnodup : ["teams", "races"].Nodup := by decide
  exact ⟨rfl, hs, hnodup, honce.2 hnodup⟩

/-- Teams that are missing and listed twice are created twice.  A server that accepts it has them
twice, and on one that refuses it the provisioning ends with an error. -/
theorem teams_created_twice :
    let s : Structure := ⟨["teams", "teams"], []⟩
    let server : Server := ⟨[.str "cycling"], [], [], 0⟩
    let run := fun refusal => (cycling.provide (some s) none).run (Server.refusing refusal) server
    s.collections ≠ [] ∧
      createdNames (run none).calls = ["teams", "teams"] ∧
      ¬ CreatesOnce (server.missing s) (run none) ∧
      (∃ report, (run (some "duplicate name")).result = .ok report ∧
        report.error = some "duplicate name") ∧
      ¬ CreatesOnce (server.missing s) (run (some "duplicate name")) := by
  intro s server run
  have hcreated (refusal : Option String) :
      createdNames (run refusal).calls = ["teams", "teams"] := by
    cases refusal <;> rfl
  have hnot (refusal : Option String) : ¬ CreatesOnce (server.missing s) (run refusal) := by
    intro h
    have honce := h.once
    rw [hcreated] at honce
    revert honce
    decide
  exact ⟨List.cons_ne_nil _ _, hcreated none, hnot none, ⟨_, rfl, rfl⟩, hnot _⟩

end Database

end DocQuery
