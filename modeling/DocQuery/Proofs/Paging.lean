import DocQuery.Proofs.FirstDocument
import Mathlib

/-!
# Paging

The text of a lookup has a clause between its order and its action that cuts the rows to a page.
`Page.selected` reads this clause as the server documents it: `LIMIT n` leaves at most `n` rows,
`LIMIT o, n` skips `o` rows first, and where there is no clause all rows are left.

A limit and an offset ask for the rows at the positions from the offset on, as many as the limit
says.  The clause selects these for every limit but zero: a limit of zero writes no clause, and so
leaves all rows (`selected_clause`).  What a clause selects is what a lookup hands out
(`fetch_page_iff`).
-/

namespace DocQuery

/-! ## Reading a clause -/

namespace Page

/-- The number that some characters write behind blanks. -/
def number? (cs : List Char) : Option Nat := (String.ofList (cs.dropWhile (· = ' '))).toNat?

/-- The numbers of a clause, in the order in which they stand. -/
def numbers? (clause : String) : Option (List Nat) :=
  if clause = "" then some []
  else (" LIMIT ".toList.isPrefixOf? clause.toList).bind fun rest =>
    (Text.splitOn ',' rest).mapM number?

/-- The rows that a clause leaves; any other text leaves none to speak of. -/
def selected {α : Type} (clause : String) (rows : List α) : Option (List α) :=
  match numbers? clause with
  | some [] => some rows
  | some [taken] => some (rows.take taken)
  | some [skipped, taken] => some ((rows.drop skipped).take taken)
  | _ => none

/-- A written number has no comma in it and is read back, also behind a blank. -/
theorem exists_digits (n : Nat) : ∃ ds : List Char, toString n = String.ofList ds ∧ ',' ∉ ds ∧
    number? ds = some n ∧ number? (' ' :: ds) = some n := by
  have hdigits : ∀ c ∈ (toString n).toList, c.isDigit = true := fun c => isDigit_of_mem_toString
  have hcomma : ',' ∉ (toString n).toList := fun h => absurd (hdigits _ h) (by decide)
  have hblanks : (toString n).toList.dropWhile (· = ' ') = (toString n).toList := by
    cases hcs : (toString n).toList with
    | nil => rfl
    | cons c cs =>
        have hdigit : c.isDigit = true := hdigits c (hcs ▸ List.mem_cons_self)
        have hne : c ≠ ' ' := fun h => absurd (h ▸ hdigit) (by decide)
        simp [hne]
  have hread : number? (toString n).toList = some n := by
    rw [number?, hblanks, String.ofList_toList]
    exact Nat.toNat?_repr n
  exact ⟨_, String.ofList_toList.symm, hcomma, hread, hread⟩

theorem numbers?_limit (rest : List Char) :
    numbers? (" LIMIT " ++ String.ofList rest) = (Text.splitOn ',' rest).mapM number? := by
  have hne : " LIMIT " ++ String.ofList rest ≠ "" := by
    intro h
    have := congrArg String.toList h
    simp at this
  have hrest : " LIMIT ".toList.isPrefixOf? (" LIMIT " ++ String.ofList rest).toList = some rest :=
    List.isPrefixOf?_eq_some_iff_append_eq.2 (by simp)
  rw [numbers?, if_neg hne, hrest, Option.bind_some]

theorem numbers?_text (p : Page) : numbers? p.text = some (p.skipped.toList ++ [p.taken]) := by
  obtain ⟨skipped, taken⟩ := p
  obtain ⟨ds, hds, hcomma, hread, hblank⟩ := exists_digits taken
  cases skipped with
  | none =>
      have htext : text ⟨none, taken⟩ = " LIMIT " ++ String.ofList ds := by
        rw [← hds]
        rfl
      rw [htext, numbers?_limit, Text.splitOn_of_not_mem hcomma]
      simp [hread]
  | some skipped =>
      obtain ⟨es, hes, hcomma', hread', -⟩ := exists_digits skipped
      have htext : text ⟨some skipped, taken⟩ =
          " LIMIT " ++ String.ofList (es ++ ',' :: ' ' :: ds) := by
        show " LIMIT " ++ toString skipped ++ ", " ++ toString taken = _
        rw [hes, hds]
        apply String.toList_injective
        simp
      rw [htext, numbers?_limit, Text.splitOn_append, Text.splitOn_of_not_mem hcomma',
        Text.splitOn_of_not_mem (by simp [hcomma])]
      simp [hread', hblank]

/-- A page leaves the rows behind those it skips, as many as it takes. -/
theorem selected_text {α : Type} (p : Page) (rows : List α) :
    selected p.text rows = some ((rows.drop (p.skipped.getD 0)).take p.taken) := by
  rw [selected, numbers?_text]
  cases p.skipped <;> rfl

/-- The text between the front of a lookup and its end. -/
def between (front text : String) : String :=
  String.ofList ((text.toList.drop front.toList.length).take
    (text.toList.length - front.toList.length - " RETURN d".toList.length))

theorem between_append (front clause : String) :
    between front (front ++ clause ++ " RETURN d") = clause := by
  apply String.toList_injective
  simp [between]

end Page

/-- A server that reads the clause behind the front of a text. -/
def Server.paging (front : String) (rows : List Value) : Session.Responder Server
  | .execute (.str text) .., s =>
      (.ok (cursorOf ((Page.selected (Page.between front text) rows).getD [])), s)
  | c, s => respond c s

/-! ## The clause of options -/

namespace FetchOptions

/-- The clause that options write. -/
def clause (o : FetchOptions) : String := (o.page?.map Page.text).getD ""

/-- Options that ask for no page. -/
def unpaged (o : FetchOptions) : FetchOptions := { o with limit := none, offset := none }

/-- The rows that a limit and an offset ask for. -/
def asked {α : Type} (o : FetchOptions) (limit : Nat) (rows : List α) : List α :=
  (rows.drop (o.offset.getD 0)).take limit

/-- Options for the page with a number, counted from zero, where all pages have one size. -/
def turned (o : FetchOptions) (size number : Nat) : FetchOptions :=
  { o with offset := some (number * size) }

variable {α : Type} {o : FetchOptions} {limit : Nat}

theorem selected_clause (hlimit : o.limit = some limit) (rows : List α) :
    Page.selected o.clause rows = some (if limit = 0 then rows else o.asked limit rows) := by
  cases limit with
  | zero =>
      rw [clause, page?, hlimit]
      rfl
  | succ more =>
      have hoffset : (o.offset.filter (· ≠ 0)).getD 0 = o.offset.getD 0 := by
        rcases o.offset with _ | _ | offset <;> rfl
      have hclause : o.clause = Page.text ⟨o.offset.filter (· ≠ 0), more + 1⟩ := by
        rw [clause, page?, hlimit]
        rfl
      rw [hclause, Page.selected_text, hoffset, if_neg (Nat.succ_ne_zero more), asked]

/-- The clause selects what is asked for exactly if the limit is not zero. -/
theorem selected_eq_asked_iff (hlimit : o.limit = some limit) :
    (∀ rows : List Value, Page.selected o.clause rows = some (o.asked limit rows)) ↔
      limit ≠ 0 := by
  constructor
  · rintro h rfl
    have hall := selected_clause hlimit [Value.null]
    rw [h [Value.null]] at hall
    simp [asked] at hall
  · intro hne rows
    rw [selected_clause hlimit, if_neg hne]

/-- Pages of one size, put together, are the rows up to the end of the last page. -/
theorem flatMap_pages (size count : Nat) (rows : List α) :
    (List.range count).flatMap (fun number => (rows.drop (number * size)).take size) =
      rows.take (count * size) := by
  induction count with
  | zero => simp
  | succ count ih =>
      rw [List.range_succ, List.flatMap_append, ih, List.flatMap_singleton, Nat.succ_mul,
        List.take_add]

/-- The pages that the clauses select give back all rows, if there are enough pages. -/
theorem selected_turned (hlimit : o.limit = some limit) (hne : limit ≠ 0) {rows : List α}
    {count : Nat} (hcount : rows.length ≤ count * limit) :
    ((List.range count).flatMap fun number =>
      (Page.selected (o.turned limit number).clause rows).getD []) = rows := by
  have hpage (number : Nat) : (Page.selected (o.turned limit number).clause rows).getD [] =
      (rows.drop (number * limit)).take limit := by
    have hturned : (o.turned limit number).limit = some limit := hlimit
    rw [selected_clause hturned, if_neg hne]
    rfl
  simp only [hpage]
  rw [flatMap_pages, List.take_of_length_le hcount]

end FetchOptions

/-! ## Lookups -/

/-- A lookup of documents: all of them, those with some values, or those that satisfy a filter. -/
inductive Lookup where
  /-- All documents. -/
  | all (collection : Value)
  /-- The documents with some values. -/
  | byValues (collection : Value) (equalities : Equalities) (join : Join) (input : FilterInput)
  /-- The documents that satisfy a filter. -/
  | byFilter (collection : Value) (input : FilterInput)

namespace Lookup

open Session Database

/-- The lookup in a database. -/
def fetch (db : Database) (options : Option FetchOptions) : Lookup → Session Found
  | all collection => db.fetchAll collection options
  | byValues collection equalities join input =>
      db.fetchByValues collection equalities join options input
  | byFilter collection input => db.fetchByFilter collection input options

/-- The request of a lookup, unless what is handed in is refused. -/
def request (o : FetchOptions) : Lookup → Except Failure Request
  | all collection => .ok (.all collection (some o))
  | byValues collection equalities join input =>
      (criteriaOf input).map fun criteria =>
        .byValues collection equalities join (some o) criteria
  | byFilter collection input =>
      if input.isAbsent then .error (.input .noCriteria)
      else .ok (.byFilter collection input (some o))

/-- The query of a lookup. -/
def query (o : FetchOptions) (l : Lookup) : Except Failure Query :=
  (l.request o).bind Request.query

theorem fetch_eq (db : Database) (options : Option FetchOptions) (l : Lookup) :
    l.fetch db options = (ofExcept (l.request (db.fetchOptions options))).bind fun r =>
      fetchRequest r (db.fetchOptions options) := by
  cases l with
  | all collection => rfl
  | byValues collection equalities join input =>
      show Session.bind (ofExcept (criteriaOf input)) _ =
        Session.bind (ofExcept ((criteriaOf input).map _)) _
      cases criteriaOf input <;> rfl
  | byFilter collection input =>
      rw [fetch, fetchByFilter, request]
      split <;> rfl

/-- What is compiled for a lookup, as its conditions and its parameters. -/
def conditions {α : Type} (filters : α → List Condition) :
    Compiled α → Except Failure (List Condition × Fields)
  | (.ok a, binds) => .ok (filters a, binds)
  | (.error e, _) => .error (.input e)

theorem map_planOf {α : Type} (compiled : Compiled α) (filters : α → List Condition)
    (options : Option FetchOptions) :
    (Request.planOf compiled fun a => Request.lookup (filters a) options).map
        (fun (statement, binds) => statement.query binds) =
      (conditions filters compiled).map fun (filters, binds) =>
        (Request.lookup filters options).query binds := by
  obtain ⟨e | a, binds⟩ := compiled <;> rfl

theorem compileCriteria_qualify (criteria : Option Criteria) (o : FetchOptions) (binds : Fields) :
    Request.compileCriteria criteria (some o) binds =
      Request.compileCriteria criteria (some { qualify := o.qualify }) binds := by
  cases criteria <;> rfl

/-- The conditions and the parameters of a lookup depend on the options only in whether
properties are qualified. -/
theorem exists_conditions (l : Lookup) (qualify : Bool) :
    ∃ outcome : Except Failure (List Condition × Fields), ∀ o : FetchOptions,
      o.qualify = qualify → l.query o = outcome.map fun (filters, binds) =>
        (Request.lookup filters (some o)).query binds := by
  let plain : FetchOptions := { qualify }
  cases l with
  | all collection => exact ⟨.ok ([], Request.baseBinds collection), fun o _ => rfl⟩
  | byValues collection equalities join input =>
      refine ⟨(criteriaOf input).bind fun criteria => conditions (fun c => [c])
        (Request.valuesCondition equalities join (some plain) criteria
          (Request.baseBinds collection)), ?_⟩
      rintro o rfl
      rw [query, request]
      cases criteriaOf input with
      | error e => rfl
      | ok criteria =>
          have hsame : Request.valuesCondition equalities join (some o) criteria
              (Request.baseBinds collection) = Request.valuesCondition equalities join (some plain)
                criteria (Request.baseBinds collection) := by
            simp only [Request.valuesCondition, compileCriteria_qualify criteria o]
            rfl
          show (Request.plan _).map _ = _
          rw [Request.plan, map_planOf, hsame]
          rfl
  | byFilter collection input =>
      refine ⟨if input.isAbsent then .error (.input .noCriteria) else
        (Request.filterCriteria input).bind fun criteria => conditions Option.toList
          (Request.compileCriteria criteria (some plain) (Request.baseBinds collection)), ?_⟩
      rintro o rfl
      rw [query, request]
      split
      · rfl
      · show (Request.plan _).map _ = _
        rw [Request.plan]
        cases Request.filterCriteria input with
        | error e => rfl
        | ok criteria =>
            show (Request.planOf _ _).map _ = _
            rw [map_planOf, compileCriteria_qualify]
            rfl

/-- The text of a lookup before its page. -/
def front (filters : List Condition) (o : FetchOptions) : String :=
  "FOR d IN @@collection" ++ String.join (filters.map Statement.filterText) ++
    (o.sort?.map SortKey.text).getD ""

theorem text_lookup (filters : List Condition) (o : FetchOptions) :
    (Request.lookup filters (some o)).text = front filters o ++ o.clause ++ " RETURN d" := by
  have hfilters : (Request.lookup filters (some o)).filters = filters := rfl
  have hsort : (Request.lookup filters (some o)).sort = o.sort? := rfl
  have hpage : (Request.lookup filters (some o)).page = o.page? := rfl
  have haction : (Request.lookup filters (some o)).action = .documents := rfl
  have hending : " " ++ Action.documents.text = " RETURN d" := by decide
  unfold Statement.text front FetchOptions.clause
  rw [hfilters, hsort, hpage, haction, String.append_assoc, hending]

/-- A lookup that asks for a page writes the clause of its options into the text that it has
without a page, and changes nothing else. -/
theorem query_paged (l : Lookup) (o : FetchOptions) :
    match l.query o.unpaged with
    | .error e => l.query o = .error e
    | .ok q => ∃ front, q.text = front ++ " RETURN d" ∧
        l.query o = .ok ⟨front ++ o.clause ++ " RETURN d", q.binds⟩ := by
  obtain ⟨outcome, houtcome⟩ := l.exists_conditions o.qualify
  rw [houtcome o.unpaged rfl, houtcome o rfl]
  cases outcome with
  | error e => rfl
  | ok conditions =>
      obtain ⟨filters, binds⟩ := conditions
      refine ⟨front filters o, ?_, ?_⟩
      · show (Request.lookup filters (some o.unpaged)).text = _
        rw [text_lookup, show o.unpaged.clause = "" from rfl, String.append_empty]
        rfl
      · show Except.ok ((Request.lookup filters (some o)).query binds) = _
        rw [Statement.query, text_lookup]
        rfl

/-! ## What a lookup hands out -/

section

variable {db : Database} {l : Lookup} {options : Option FetchOptions} {σ : Type}
  {respond : Responder σ} {st : σ} {rows : List Value}

theorem request_of_query {o : FetchOptions} {q : Query} (h : l.query o = .ok q) :
    ∃ r, l.request o = .ok r ∧ r.query = .ok q := by
  rw [query] at h
  cases hr : l.request o with
  | error e => rw [hr] at h; cases h
  | ok r => exact ⟨r, rfl, by rwa [hr] at h⟩

theorem run_fetch_of_error {e : Failure} (h : l.query (db.fetchOptions options) = .error e) :
    ((l.fetch db options).run respond st).result = .error e := by
  rw [query] at h
  rw [fetch_eq]
  cases hr : l.request (db.fetchOptions options) with
  | error e' =>
      rw [hr] at h
      cases h
      rfl
  | ok r =>
      rw [hr] at h
      have hexecuted : executed r (db.fetchOptions options) = .error e := by
        rw [executed, show r.query = .error e from h]
        rfl
      exact (run_fetchRequest_of_error respond st hexecuted).1

/-- A lookup that is executed hands out the rows that the server answers with. -/
theorem run_fetch {q : Query} (h : l.query (db.fetchOptions options) = .ok q)
    (hserver : AnswersWith respond st (.str q.text) rows) :
    match sent q (db.fetchOptions options).execution with
    | .error m => ((l.fetch db options).run respond st).result = .error (.misuse m)
    | .ok _ => ∃ found, ((l.fetch db options).run respond st).result = .ok found ∧
        found.Hands (db.fetchOptions options) rows := by
  obtain ⟨r, hr, hq⟩ := request_of_query h
  have hexecuted : executed r (db.fetchOptions options) =
      ((sent q (db.fetchOptions options).execution).mapError Failure.misuse).map
        fun sent => (q.text, sent.1) := by
    rw [executed, hq]
    rfl
  rw [fetch_eq, hr]
  cases hsent : sent q (db.fetchOptions options).execution with
  | error m =>
      rw [hsent] at hexecuted
      exact (run_fetchRequest_of_error respond st hexecuted).1
  | ok sent =>
      rw [hsent] at hexecuted
      obtain ⟨more, found, st', hreturns, hhands⟩ := returns_fetchRequest hserver hexecuted
      exact ⟨found, hreturns.result, hhands⟩

/-- A server that reads clauses: to a text with a clause before its end it answers with the rows
that the clause leaves. -/
def Pages {σ : Type} (respond : Responder σ) (st : σ) (front : String) (rows : List Value) : Prop :=
  ∀ clause chosen, Page.selected clause rows = some chosen →
    AnswersWith respond st (.str (front ++ clause ++ " RETURN d")) chosen

end

theorem pages_paging (front : String) (rows : List Value) (s : Server) :
    Pages (Server.paging front rows) s front rows := by
  intro clause chosen hchosen binds options
  refine ⟨_, rfl, ?_, Server.counted_cursorOf _⟩
  show (Page.selected (Page.between front (front ++ clause ++ " RETURN d")) rows).getD [] = chosen
  rw [Page.between_append, hchosen]
  rfl

/-- The clause of a lookup leaves what its limit and its offset ask for exactly if the limit is not
zero.  Pages of one size then give back all rows.  A lookup hands out the rows that its clause
leaves, and these are no more than its limit, unless the limit is zero and there are rows. -/
theorem fetch_page_iff (db : Database) (l : Lookup) (options : Option FetchOptions) {limit : Nat}
    {σ : Type} (respond : Responder σ) (st : σ) (rows : List Value)
    (hlimit : (db.fetchOptions options).limit = some limit) :
    let o := db.fetchOptions options
    let run := (l.fetch db options).run respond st
    ((∀ rows : List Value, Page.selected o.clause rows = some (o.asked limit rows)) ↔
      limit ≠ 0) ∧
    (limit ≠ 0 → ∀ count, rows.length ≤ count * limit →
      ((List.range count).flatMap fun number =>
        (Page.selected (o.turned limit number).clause rows).getD []) = rows) ∧
    match l.query o.unpaged with
    | .error e => l.query o = .error e ∧ run.result = .error e
    | .ok q => ∃ front, q.text = front ++ " RETURN d" ∧
        l.query o = .ok ⟨front ++ o.clause ++ " RETURN d", q.binds⟩ ∧
        (Pages respond st front rows →
          match sent q o.execution with
          | .error m => run.result = .error (.misuse m)
          | .ok _ => ∃ found, run.result = .ok found ∧
              found.Hands o (if limit = 0 then rows else o.asked limit rows) ∧
              (found.handed.length ≤ limit ↔ limit ≠ 0 ∨ rows = [])) := by
  intro o run
  refine ⟨FetchOptions.selected_eq_asked_iff hlimit,
    fun hne count hcount => FetchOptions.selected_turned hlimit hne hcount, ?_⟩
  have hpaged := l.query_paged o
  cases hplain : l.query o.unpaged with
  | error e =>
      rw [hplain] at hpaged
      exact ⟨hpaged, run_fetch_of_error hpaged⟩
  | ok q =>
      rw [hplain] at hpaged
      obtain ⟨front, htext, hquery⟩ := hpaged
      refine ⟨front, htext, hquery, fun hserver => ?_⟩
      have hrun := run_fetch hquery
        (hserver o.clause _ (FetchOptions.selected_clause hlimit rows))
      have hbinds : sent ⟨front ++ o.clause ++ " RETURN d", q.binds⟩ o.execution =
          sent q o.execution := rfl
      rw [hbinds] at hrun
      cases hsent : sent q o.execution with
      | error m =>
          rw [hsent] at hrun
          exact hrun
      | ok parameters =>
          rw [hsent] at hrun
          obtain ⟨found, hresult, hhands⟩ := hrun
          refine ⟨found, hresult, hhands, ?_⟩
          rw [hhands.length_eq]
          split
          · next hzero => simp [hzero]
          · next hne => simp [hne, FetchOptions.asked]

/-- The second page of one rider, and both pages put together. -/
theorem secondRider_paged :
    let db : Database := ⟨⟨0, .str "cycling"⟩, none, {}⟩
    let riders : Lookup := .all (.str "riders")
    let options : FetchOptions := { limit := some 1, offset := some 1 }
    let rows : List Value := [.object [("_key", .str "1")], .object [("_key", .str "2")]]
    let run := (riders.fetch db (some options)).run (Server.paging "FOR d IN @@collection" rows) {}
    (db.fetchOptions (some options)).limit = some 1 ∧
    Pages (Server.paging "FOR d IN @@collection" rows) {} "FOR d IN @@collection" rows ∧
    (∃ binds, riders.query options =
      .ok ⟨"FOR d IN @@collection" ++ options.clause ++ " RETURN d", binds⟩) ∧
    Page.selected options.clause rows = some [.object [("_key", .str "2")]] ∧
    ((List.range 2).flatMap fun number =>
      (Page.selected (options.turned 1 number).clause rows).getD []) = rows ∧
    ∃ found, run.result = .ok found ∧ found.handed.length ≤ 1 ∧
      found.Hands options [.object [("_key", .str "2")]] := by
  intro db riders options rows run
  have hserver : Pages (Server.paging "FOR d IN @@collection" rows) {} "FOR d IN @@collection"
      rows := pages_paging _ rows {}
  obtain ⟨hselects, hwhole, hlookup⟩ :=
    fetch_page_iff db riders (some options) (Server.paging "FOR d IN @@collection" rows) {} rows
      (show (db.fetchOptions (some options)).limit = some 1 from rfl)
  obtain ⟨front, htext, hquery, hrun⟩ := hlookup
  have hfront : front = "FOR d IN @@collection" := by
    have hplain : "FOR d IN @@collection" ++ " RETURN d" = front ++ " RETURN d" := htext
    exact (String.append_left_inj _).1 hplain.symm
  subst hfront
  obtain ⟨found, hresult, hhands, hbounded⟩ := hrun hserver
  exact ⟨rfl, hserver, ⟨_, hquery⟩, hselects.2 one_ne_zero rows,
    hwhole one_ne_zero 2 (by decide), found, hresult, hbounded.2 (.inl one_ne_zero), hhands⟩

/-- A limit of zero writes no clause, and all rows are handed out. -/
theorem noRiders_unlimited :
    let db : Database := ⟨⟨0, .str "cycling"⟩, none, {}⟩
    let riders : Lookup := .all (.str "riders")
    let options : FetchOptions := { limit := some 0 }
    let rows : List Value := [.object [("_key", .str "1")], .object [("_key", .str "2")]]
    let run := (riders.fetch db (some options)).run (Server.paging "FOR d IN @@collection" rows) {}
    (db.fetchOptions (some options)).limit = some 0 ∧
    riders.query options = .ok ⟨"FOR d IN @@collection RETURN d",
      [("@collection", .str "riders")]⟩ ∧
    Page.selected options.clause rows ≠ some (options.asked 0 rows) ∧
    ∃ found, run.result = .ok found ∧ ¬ found.handed.length ≤ 0 := by
  intro db riders options rows run
  have hclause : options.clause = "" := rfl
  have hquery : riders.query options = .ok ⟨"FOR d IN @@collection RETURN d",
      [("@collection", .str "riders")]⟩ := rfl
  have hall : Page.selected "" rows = some rows := rfl
  obtain ⟨found, hresult, hhands⟩ := run_fetch
    (show riders.query (db.fetchOptions (some options)) = _ from hquery)
    (pages_paging "FOR d IN @@collection" rows {} "" rows hall)
  refine ⟨rfl, hquery, ?_, found, hresult, ?_⟩
  · rw [hclause, hall]
    simp [FetchOptions.asked, rows]
  · rw [hhands.length_eq]
    decide

end Lookup

end DocQuery
