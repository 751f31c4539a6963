import DocQuery.Proofs.ScriptedServer
import DocQuery.Structure.Provision

/-!
# The parts of a structure

A structure requires a database, collections and graphs.  `requiredParts` lists them in order, each
with how it stands with the server: it is there, it is missing and a call creates it, or it is a
graph that has no edges and is not made.

`fates` says what becomes of parts when some number of creations succeed and the next one, if there
is one, fails: everything up to it is found or created, and nothing comes after it.  Creating the
parts one after the other on a server that fails by a script gives these fates and makes the calls
up to the first failure (`returns_createParts`).
-/

namespace DocQuery

open Session Scripted

/-! ## Names on a server -/

namespace Server

/-- Whether there is a collection of a name. -/
def hasCollection (s : Server) (name : String) : Bool :=
  s.collections.any fun c => c.name.text? = some name

/-- Whether there is a graph of a name. -/
def hasGraph (s : Server) (name : String) : Bool := s.graphs.any fun v => v.text? = some name

/-- The server after some calls. -/
def after (s : Server) (calls : List Call) : Server :=
  calls.foldl (fun s c => (respond c s).2) s

@[simp] theorem after_nil (s : Server) : s.after [] = s := rfl

@[simp] theorem after_cons (s : Server) (c : Call) (calls : List Call) :
    s.after (c :: calls) = Server.after (respond c s).2 calls := rfl

theorem after_append (s : Server) (calls more : List Call) :
    s.after (calls ++ more) = (s.after calls).after more := List.foldl_append

theorem created_hasDatabase {s : Server} {v : Value} {name : String} (h : v = .str name) :
    (s.after [.createDatabase v]).hasDatabase v = true := by
  subst h
  simp [hasDatabase, respond]

end Server

/-! ## Parts -/

/-- What a structure requires. -/
inductive PartKind where
  | database | collection | graph
deriving DecidableEq

namespace PartKind

/-- The word for a kind. -/
def word : PartKind → String
  | database => "database"
  | collection => "collection"
  | graph => "graph"

/-- The word at the start of a sentence. -/
def title : PartKind → String
  | database => "Database"
  | collection => "Collection"
  | graph => "Graph"

theorem capitalize_word (k : PartKind) : k.word.capitalize = k.title := by
  cases k <;> decide +kernel

end PartKind

/-- How something that is required stands with a server. -/
inductive Need where
  /-- It is there. -/
  | there
  /-- It is missing, and a call creates it. -/
  | missing (c : Call)
  /-- It is missing, and nothing creates it. -/
  | unmade

/-- Something that a structure requires. -/
structure Part where
  /-- Its kind. -/
  kind : PartKind
  /-- Its name. -/
  name : String
  /-- How it stands with the server. -/
  need : Need

/-- What became of a part. -/
inductive Fate where
  /-- It was there. -/
  | found
  /-- It was created. -/
  | created
  /-- Creating it failed. -/
  | failed
deriving DecidableEq

/-- What is reported about a collection or a graph. -/
def Part.line (p : Part) : Fate → String
  | .found => p.kind.title ++ " '" ++ p.name ++ "' found"
  | .created => p.kind.title ++ " '" ++ p.name ++ "' created"
  | .failed => "Failed to create " ++ p.kind.word ++ " '" ++ p.name ++ "'"

/-- What is reported about the database. -/
def databaseLine : Fate → String
  | .found => "Database found"
  | .created => "Database created"
  | .failed => "Failed to create database"

/-- The call that creates what is missing. -/
def Need.call? : Need → Option Call
  | missing c => some c
  | _ => none

/-- The calls that create the missing ones of some parts. -/
def creations (parts : List Part) : List Call := parts.filterMap fun p => p.need.call?

/-- What becomes of parts when a number of creations succeed and the next one fails. -/
def fates : Nat → List Part → List (Part × Fate)
  | _, [] => []
  | count, p :: rest => match p.need with
    | .there => (p, .found) :: fates count rest
    | .unmade => fates count rest
    | .missing _ => match count with
      | 0 => [(p, .failed)]
      | count + 1 => (p, .created) :: fates count rest

/-- What is reported about the parts of a kind. -/
def linesOf (kind : PartKind) (done : List (Part × Fate)) : List String :=
  (done.filter fun d => d.1.kind = kind).map fun d => d.1.line d.2

section

variable {p : Part} {parts more : List Part} {c : Call} {count : Nat}

theorem fates_there (h : p.need = .there) :
    fates count (p :: parts) = (p, .found) :: fates count parts := by
  simp only [fates, h]

theorem fates_unmade (h : p.need = .unmade) : fates count (p :: parts) = fates count parts := by
  simp only [fates, h]

theorem fates_failed (h : p.need = .missing c) : fates 0 (p :: parts) = [(p, .failed)] := by
  simp only [fates, h]

theorem fates_created (h : p.need = .missing c) :
    fates (count + 1) (p :: parts) = (p, .created) :: fates count parts := by
  simp only [fates, h]

theorem creations_cons (h : p.need.call? = none) : creations (p :: parts) = creations parts := by
  simp [creations, h]

theorem creations_missing (h : p.need = .missing c) :
    creations (p :: parts) = c :: creations parts := by
  simp [creations, h, Need.call?]

theorem creations_append : creations (parts ++ more) = creations parts ++ creations more :=
  List.filterMap_append

/-- The parts in front, and those behind them unless a creation in front fails. -/
theorem fates_append :
    fates count (parts ++ more) =
      if count < (creations parts).length then fates count parts
      else fates count parts ++ fates (count - (creations parts).length) more := by
  induction parts generalizing count with
  | nil => simp [creations, fates]
  | cons p rest ih =>
      rw [List.cons_append]
      cases hneed : p.need with
      | there =>
          rw [fates_there hneed, fates_there hneed, ih, creations_cons (by rw [hneed]; rfl)]
          split <;> rfl
      | unmade =>
          rw [fates_unmade hneed, fates_unmade hneed, ih, creations_cons (by rw [hneed]; rfl)]
      | missing c =>
          rw [creations_missing hneed, List.length_cons]
          cases count with
          | zero => simp [fates_failed hneed]
          | succ count =>
              rw [fates_created hneed, fates_created hneed, ih, Nat.add_sub_add_right]
              simp only [Nat.add_lt_add_iff_right]
              split <;> rfl

/-- A failure ends the parts. -/
theorem fates_dropLast : ∀ d ∈ (fates count parts).dropLast, d.2 ≠ .failed := by
  have hcons {d : Part × Fate} {done : List (Part × Fate)} (hd : d.2 ≠ .failed)
      (hdone : ∀ d ∈ done.dropLast, d.2 ≠ .failed) : ∀ e ∈ (d :: done).dropLast, e.2 ≠ .failed := by
    intro e he
    cases done with
    | nil => cases he
    | cons f done =>
        rw [List.dropLast_cons_cons, List.mem_cons] at he
        rcases he with rfl | he
        · exact hd
        · exact hdone e he
  induction parts generalizing count with
  | nil => exact fun _ h => absurd h List.not_mem_nil
  | cons p rest ih =>
      cases hneed : p.need with
      | there =>
          rw [fates_there hneed]
          exact hcons nofun ih
      | unmade =>
          rw [fates_unmade hneed]
          exact ih
      | missing c =>
          cases count with
          | zero =>
              rw [fates_failed hneed]
              exact fun _ h => absurd h List.not_mem_nil
          | succ count =>
              rw [fates_created hneed]
              exact hcons nofun ih

/-- Whether something is reported about a part. -/
def Part.isReported (p : Part) : Bool :=
  match p.need with
  | .unmade => false
  | _ => true

/-- Everything is reported in order, up to where it ends. -/
theorem fates_initial : (fates count parts).map Prod.fst <+: parts.filter Part.isReported := by
  induction parts generalizing count with
  | nil => exact List.prefix_rfl
  | cons p rest ih =>
      cases hneed : p.need with
      | there =>
          rw [fates_there hneed, List.filter_cons_of_pos (by simp [Part.isReported, hneed])]
          exact List.prefix_cons_inj p |>.2 ih
      | unmade =>
          rw [fates_unmade hneed, List.filter_cons_of_neg (by simp [Part.isReported, hneed])]
          exact ih
      | missing c =>
          rw [List.filter_cons_of_pos (by simp [Part.isReported, hneed])]
          cases count with
          | zero =>
              rw [fates_failed hneed]
              exact ⟨_, rfl⟩
          | succ count =>
              rw [fates_created hneed]
              exact List.prefix_cons_inj p |>.2 ih

theorem mem_of_mem_fates {d : Part × Fate} (h : d ∈ fates count parts) : d.1 ∈ parts :=
  (List.mem_filter.1 (fates_initial.subset (List.mem_map_of_mem h))).1

/-- Parts of one kind are all reported among the parts of that kind. -/
theorem linesOf_same {kind : PartKind} (h : ∀ p ∈ parts, p.kind = kind) :
    linesOf kind (fates count parts) = (fates count parts).map fun d => d.1.line d.2 := by
  rw [linesOf, List.filter_eq_self.2]
  intro d hd
  exact decide_eq_true (h d.1 (mem_of_mem_fates hd))

theorem linesOf_other {kind : PartKind} (h : ∀ p ∈ parts, p.kind ≠ kind) :
    linesOf kind (fates count parts) = [] := by
  rw [linesOf, List.filter_eq_nil_iff.2, List.map_nil]
  intro d hd hkind
  exact h d.1 (mem_of_mem_fates hd) (of_decide_eq_true hkind)

theorem linesOf_cons_other {kind : PartKind} (h : p.kind ≠ kind) (f : Fate)
    (done : List (Part × Fate)) : linesOf kind ((p, f) :: done) = linesOf kind done := by
  rw [linesOf, List.filter_cons_of_neg (by simpa using h), linesOf]

theorem linesOf_append (kind : PartKind) (done others : List (Part × Fate)) :
    linesOf kind (done ++ others) = linesOf kind done ++ linesOf kind others := by
  rw [linesOf, List.filter_append, List.map_append, linesOf, linesOf]

/-- Of the parts that are reported, those that were found were there. -/
theorem fates_found {d : Part × Fate} (h : d ∈ fates count parts) :
    d.2 = .found ↔ d.1.need = .there := by
  induction parts generalizing count with
  | nil => cases h
  | cons p rest ih =>
      cases hneed : p.need with
      | there =>
          rw [fates_there hneed] at h
          rcases List.mem_cons.1 h with rfl | h
          · simp [hneed]
          · exact ih h
      | unmade =>
          rw [fates_unmade hneed] at h
          exact ih h
      | missing c =>
          cases count with
          | zero =>
              rw [fates_failed hneed] at h
              rw [List.mem_singleton.1 h]
              simp [hneed]
          | succ count =>
              rw [fates_created hneed] at h
              rcases List.mem_cons.1 h with rfl | h
              · simp [hneed]
              · exact ih h

/-- The parts that are reported and were missing go with the creations that are asked for. -/
theorem fates_calls :
    (fates count parts).filterMap (fun d => d.1.need.call?.map fun c => (c, d.2)) =
      ((creations parts).take count).map (fun c => (c, Fate.created)) ++
        (((creations parts)[count]?).map fun c => (c, Fate.failed)).toList := by
  induction parts generalizing count with
  | nil => simp [fates, creations]
  | cons p rest ih =>
      cases hneed : p.need with
      | there =>
          rw [fates_there hneed, creations_cons (by rw [hneed]; rfl), ← ih]
          simp [hneed, Need.call?]
      | unmade => rw [fates_unmade hneed, creations_cons (by rw [hneed]; rfl), ih]
      | missing c =>
          have hcall : p.need.call? = some c := by rw [hneed]; rfl
          rw [creations_missing hneed]
          cases count with
          | zero => simp [fates_failed hneed, hcall]
          | succ count => simp [fates_created hneed, hcall, ih]

/-- Every part is reported when all creations succeed. -/
theorem fates_all (h : (creations parts).length ≤ count) :
    fates count parts = (parts.filter Part.isReported).map fun p =>
      (p, match p.need with | .there => Fate.found | _ => .created) := by
  induction parts generalizing count with
  | nil => rfl
  | cons p rest ih =>
      cases hneed : p.need with
      | there =>
          rw [creations_cons (by rw [hneed]; rfl)] at h
          rw [fates_there hneed, ih h, List.filter_cons_of_pos (by simp [Part.isReported, hneed])]
          simp [hneed]
      | unmade =>
          rw [creations_cons (by rw [hneed]; rfl)] at h
          rw [fates_unmade hneed, ih h, List.filter_cons_of_neg (by simp [Part.isReported, hneed])]
      | missing c =>
          rw [creations_missing hneed, List.length_cons] at h
          obtain ⟨count, rfl⟩ := Nat.exists_eq_succ_of_ne_zero (Nat.ne_of_gt (Nat.lt_of_lt_of_le
            (Nat.succ_pos _) h))
          rw [Nat.succ_eq_add_one, fates_created hneed, ih (Nat.le_of_succ_le_succ h),
            List.filter_cons_of_pos (by simp [Part.isReported, hneed])]
          simp [hneed]

end

/-! ## Creating parts -/

namespace Database

/-- Creates the missing ones of some parts, one after the other. -/
def createParts : List Part → Session Created
  | [] => done {}
  | p :: rest => match p.need with
    | .there => (createParts rest).bind fun c => done (c.after (p.line .found))
    | .missing c => createThen p.kind.word p.name c (createParts rest)
    | .unmade => log
        ⟨.warning, "Graph '" ++ p.name ++ "' has no edge definitions, not created"⟩
        (createParts rest)

/-- A collection that is required. -/
def collectionPart (server : Server) (name : String) : Part where
  kind := .collection
  name := name
  need := if server.hasCollection name then .there else .missing (.createCollection name)

/-- The call that creates a graph. -/
def graphCall (g : GraphDefinition) : Call :=
  .createGraph g.name (g.edges.map EdgeDefinition.request)

/-- The definition that an entry is, if it defines the graph of a name. -/
def defining? (name : String) : Graph → Option GraphDefinition
  | .defined g => if g.name = name then some g else none
  | .named _ => none

/-- How a graph stands that is missing.  Its first definition says what is made, unless that has no
edges. -/
def missingGraph (s : Structure) (name : String) : Need :=
  match s.graphs.findSome? (defining? name) with
  | some g => if g.edges = [] then .unmade else .missing (graphCall g)
  | none => .unmade

/-- A graph that is required. -/
def graphPart (server : Server) (s : Structure) (name : String) : Part where
  kind := .graph
  name := name
  need := if server.hasGraph name then .there else missingGraph s name

/-- The database that is required. -/
def databasePart (server : Server) (name : String) : Part where
  kind := .database
  name := name
  need := if server.hasDatabase (.str name) then .there else .missing (.createDatabase (.str name))

/-- The collections that a structure requires, and then its graphs. -/
def contentParts (server : Server) (s : Structure) : List Part :=
  s.collections.map (collectionPart server) ++ s.graphNames.map (graphPart server s)

/-- Everything that a structure requires, in order. -/
def requiredParts (server : Server) (name : String) (s : Structure) : List Part :=
  databasePart server name :: contentParts server s

theorem findSome?_defining (s : Structure) (name : String) :
    s.graphs.findSome? (defining? name) = s.definition? name := by
  rw [Structure.definition?]
  induction s.graphs with
  | nil => rfl
  | cons graph rest ih =>
      cases graph with
      | defined g =>
          rw [List.findSome?_cons, defining?, Structure.definitionIn, ← ih]
          by_cases hname : g.name = name
          · rw [if_pos hname, if_pos hname]
          · rw [if_neg hname, if_neg hname]
      | named other => exact ih

theorem missingGraph_of_creatable {s : Structure} {name : String} {g : GraphDefinition}
    (h : creatable? s name = some g) : missingGraph s name = .missing (graphCall g) := by
  obtain ⟨hdefined, hedges⟩ := creatable?_eq_some_iff.1 h
  rw [missingGraph, findSome?_defining, hdefined]
  exact if_neg hedges

theorem missingGraph_of_none {s : Structure} {name : String} (h : creatable? s name = none) :
    missingGraph s name = .unmade := by
  rw [missingGraph, findSome?_defining]
  cases hdefined : s.definition? name with
  | none => rfl
  | some g =>
      refine if_pos (Decidable.byContradiction fun hedges => ?_)
      rw [creatable?_eq_some_iff.2 ⟨hdefined, hedges⟩] at h
      cases h

theorem exists_graphCall {s : Structure} {name : String} {c : Call}
    (h : (missingGraph s name).call? = some c) : ∃ g, c = graphCall g := by
  cases hgraph : creatable? s name with
  | none =>
      rw [missingGraph_of_none hgraph] at h
      cases h
  | some g =>
      rw [missingGraph_of_creatable hgraph] at h
      exact ⟨g, (Option.some.inj h).symm⟩

theorem createCollections_eq (server : Server) {existing : List Value}
    (h : ∀ name, (existing.any fun v => v.text? = some name) = server.hasCollection name)
    (names : List String) :
    createCollections (presences names existing) =
      createParts (names.map (collectionPart server)) := by
  induction names with
  | nil => rfl
  | cons name rest ih =>
      have hcons : presences (name :: rest) existing =
          ⟨name, server.hasCollection name⟩ :: presences rest existing := by simp [presences, h]
      rw [hcons, createCollections, ih, List.map_cons, createParts, collectionPart]
      cases server.hasCollection name <;> rfl

theorem createGraphs_eq (server : Server) (s : Structure) {existing : List Value}
    (h : ∀ name, (existing.any fun v => v.text? = some name) = server.hasGraph name)
    (names : List String) :
    createGraphs s (presences names existing) = createParts (names.map (graphPart server s)) := by
  induction names with
  | nil => rfl
  | cons name rest ih =>
      have hcons : presences (name :: rest) existing =
          ⟨name, server.hasGraph name⟩ :: presences rest existing := by simp [presences, h]
      rw [hcons, createGraphs, ih, List.map_cons, createParts, graphPart]
      cases server.hasGraph name with
      | true => rfl
      | false =>
          cases hgraph : creatable? s name with
          | none => rw [missingGraph_of_none hgraph]; rfl
          | some g => rw [missingGraph_of_creatable hgraph]; rfl

/-! ## Creating one part -/

section

variable {σ : Type} {respond : Responder σ} {c : Call} {st st' : σ}

theorem returns_serverFault_none {answer : c.Answer} (h : respond c st = (.ok answer, st')) :
    Returns respond st (serverFault? c) [c] none st' := by
  have hcall : Returns respond st (Session.attempt c) [c] _ _ := Returns.attempt c
  rw [h] at hcall
  exact hcall.bind (Returns.done none)

theorem returns_serverFault_some {text : String}
    (h : respond c st = (.error (fault text), st')) :
    Returns respond st (serverFault? c) [c] (some (fault text)) st' := by
  have hcall : Returns respond st (Session.attempt c) [c] _ _ := Returns.attempt c
  rw [h] at hcall
  exact hcall.bind (Returns.done (some (fault text)))

theorem returns_createThen_some (what name : String) (rest : Session Created) {text : String}
    (h : respond c st = (.error (fault text), st')) :
    Returns respond st (createThen what name c rest) [c]
      ⟨["Failed to create " ++ what ++ " '" ++ name ++ "'"], some (fault text)⟩ st' :=
  (returns_serverFault_some h).bind (Returns.log _ (Returns.done _))

theorem returns_createThen_none (what name : String) {rest : Session Created} {st'' : σ}
    {answer : c.Answer} (h : respond c st = (.ok answer, st')) {calls : List Call}
    {created : Created} (hrest : Returns respond st' rest calls created st'') :
    Returns respond st (createThen what name c rest) (c :: calls)
      (created.after (what.capitalize ++ " '" ++ name ++ "' created")) st'' := by
  have hline : Returns respond st' (rest.bind fun created => done
      (created.after (what.capitalize ++ " '" ++ name ++ "' created"))) (calls ++ [])
      (created.after (what.capitalize ++ " '" ++ name ++ "' created")) st'' :=
    hrest.bind (Returns.done _)
  rw [List.append_nil] at hline
  exact (returns_serverFault_none h).bind (Returns.log _ hline)

end

/-! ## On a server that fails by a script -/

section

variable {server : Server} {script : Nat → Option String} {c : Call} (h : c.creates = true)
include h

/-- A creation that the script spares is answered as by the server. -/
theorem respond_created (hscript : script 0 = none) :
    ∃ answer, respond Call.creates c ⟨server, script⟩ =
      (.ok answer, ⟨(Server.respond c server).2, later script 1⟩) := by
  obtain ⟨answer, hanswer⟩ := Server.respond_ok c server
  refine ⟨answer, ?_⟩
  rw [respond_spared h hscript, hanswer]

theorem returns_serverFault_failed {text : String} (hscript : script 0 = some text) :
    Returns (respond Call.creates) ⟨server, script⟩ (serverFault? c) [c] (some (fault text))
      ⟨server, later script 1⟩ :=
  returns_serverFault_some (respond_failed h hscript)

theorem returns_serverFault_spared (hscript : script 0 = none) :
    Returns (respond Call.creates) ⟨server, script⟩ (serverFault? c) [c] none
      ⟨(Server.respond c server).2, later script 1⟩ := by
  obtain ⟨_, hanswer⟩ := respond_created h hscript
  exact returns_serverFault_none hanswer

theorem returns_createThen_failed (what name : String) (rest : Session Created) {text : String}
    (hscript : script 0 = some text) :
    Returns (respond Call.creates) ⟨server, script⟩ (createThen what name c rest) [c]
      ⟨["Failed to create " ++ what ++ " '" ++ name ++ "'"], some (fault text)⟩
      ⟨server, later script 1⟩ :=
  returns_createThen_some what name rest (respond_failed h hscript)

theorem returns_createThen_spared (what name : String) {rest : Session Created}
    (hscript : script 0 = none) {calls : List Call} {created : Created} {st : Scripted}
    (hrest : Returns (respond Call.creates) ⟨(Server.respond c server).2, later script 1⟩ rest
      calls created st) :
    Returns (respond Call.creates) ⟨server, script⟩ (createThen what name c rest) (c :: calls)
      (created.after (what.capitalize ++ " '" ++ name ++ "' created")) st := by
  obtain ⟨_, hanswer⟩ := respond_created h hscript
  exact returns_createThen_none what name hanswer hrest

end

/-- The fault that ends creating some parts. -/
def endingFault (script : Nat → Option String) (parts : List Part) : Option Fault :=
  let count := succeeding script (creations parts).length
  if count < (creations parts).length then (script count).map fault else none

section

variable {p : Part} {parts : List Part} {script : Nat → Option String} {c : Call}

theorem endingFault_cons (h : p.need.call? = none) :
    endingFault script (p :: parts) = endingFault script parts := by
  rw [endingFault, creations_cons h, endingFault]

theorem endingFault_failed (h : p.need = .missing c) {text : String}
    (hscript : script 0 = some text) :
    endingFault script (p :: parts) = some (fault text) := by
  simp [endingFault, creations_missing h, succeeding, hscript]

theorem endingFault_created (h : p.need = .missing c) (hscript : script 0 = none) :
    endingFault script (p :: parts) = endingFault (later script 1) parts := by
  simp [endingFault, creations_missing h, succeeding, hscript, later]

end

/-- Parts are created up to the first failure. -/
theorem returns_createParts (parts : List Part) (h : ∀ c ∈ creations parts, c.creates = true)
    (server : Server) (script : Nat → Option String) :
    let count := succeeding script (creations parts).length
    Returns (respond Call.creates) ⟨server, script⟩ (createParts parts)
      ((creations parts).take (count + 1))
      ⟨(fates count parts).map fun d => d.1.line d.2, endingFault script parts⟩
      ⟨server.after ((creations parts).take count),
        later script (min (count + 1) (creations parts).length)⟩ := by
  induction parts generalizing server script with
  | nil =>
      intro count
      exact Returns.done _
  | cons p rest ih =>
      intro count
      cases hneed : p.need with
      | there =>
          have hcall : p.need.call? = none := by rw [hneed]; rfl
          have hsame : creations (p :: rest) = creations rest := creations_cons hcall
          rw [hsame] at h
          have hline := (ih h server script).bind (f := fun c => done (c.after (p.line .found)))
            (Returns.done _)
          rw [List.append_nil] at hline
          simp only [count, createParts, hneed, hsame, fates_there hneed, endingFault_cons hcall,
            List.map_cons]
          exact hline
      | unmade =>
          have hcall : p.need.call? = none := by rw [hneed]; rfl
          have hsame : creations (p :: rest) = creations rest := creations_cons hcall
          rw [hsame] at h
          simp only [count, createParts, hneed, hsame, fates_unmade hneed, endingFault_cons hcall]
          exact (ih h server script).log _
      | missing c =>
          have hcons : creations (p :: rest) = c :: creations rest := creations_missing hneed
          rw [hcons] at h
          have hc : c.creates = true := h c List.mem_cons_self
          have hothers : ∀ c ∈ creations rest, c.creates = true :=
            fun c hmem => h c (List.mem_cons_of_mem _ hmem)
          cases hscript : script 0 with
          | some text =>
              have hcount : succeeding script ((creations rest).length + 1) = 0 := by
                simp [succeeding, hscript]
              simp only [count, createParts, hneed, hcons, List.length_cons, hcount,
                fates_failed hneed, endingFault_failed hneed hscript]
              rw [Nat.zero_add, Nat.min_eq_left (Nat.le_add_left 1 _)]
              exact returns_createThen_failed hc _ _ _ hscript
          | none =>
              have hcount : succeeding script ((creations rest).length + 1) =
                  succeeding (later script 1) (creations rest).length + 1 := by
                simp [succeeding, hscript]
              have hcreated := returns_createThen_spared hc p.kind.word p.name hscript
                (ih hothers (Server.respond c server).2 (later script 1))
              have htaken (m n : Nat) : 1 + min m n = min (m + 1) (n + 1) := by omega
              rw [later_later, PartKind.capitalize_word, htaken] at hcreated
              simp only [count, createParts, hneed, hcons, List.length_cons, hcount,
                fates_created hneed, endingFault_created hneed hscript, List.take_succ_cons]
              exact hcreated

end Database

end DocQuery
