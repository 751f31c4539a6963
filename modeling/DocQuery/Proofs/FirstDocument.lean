import DocQuery.Database.Server
import DocQuery.Proofs.ReadBack
import DocQuery.Proofs.SessionRun

/-!
# The first document of a lookup

A lookup by values comes in two forms, one for all documents and one for the first.  They build
one request, and then part: the first takes its rows as they come, the other also asks the server
to count, reads the numbers and may hand out a cursor.

*What is sent* depends on the query and on the options of its execution, and asking to count
changes neither the text nor the parameters (`sent_lookupExecution`).  So one plan of what is
executed, or of why nothing is, serves both forms (`planned`).

Where the server gives objects with fields, the first document is the head of all documents, each
trimmed alike (`firstDocument_eq_head`), and so the two forms agree (`fetchOne_eq_head`).
-/

namespace DocQuery

namespace Fields

theorem get?_setDefault_of_ne (fields : Fields) {name other : String} (h : name ≠ other)
    (v : Value) : (fields.setDefault name v).get? other = fields.get? other := by
  rw [setDefault]
  split
  · rfl
  · exact get?_set_of_ne fields h v

end Fields

/-- Numbers as the server documents them: the count is a whole number or none, and so is the full
count, where there are statistics. -/
structure Cursor.Counted (c : Cursor) : Prop where
  count : ∃ n, c.count = ResultSet.wholeToValue n
  stats : c.stats = .null ∨ ∃ fields n, c.stats = .object fields ∧
    Fields.getD fields "full_count" = ResultSet.wholeToValue n

namespace Server

theorem counted_cursorOf (rows : List Value) : (cursorOf rows).Counted where
  count := ⟨some rows.length, rfl⟩
  stats := .inr ⟨_, some rows.length, rfl, rfl⟩

/-- A server that gives some rows for every query. -/
def giving (rows : List Value) : Session.Responder Server
  | .execute .., s => (.ok (cursorOf rows), s)
  | c, s => respond c s

end Server

namespace Database

open Session

/-! ## What is sent -/

/-- The parameters and the options with which a query is executed. -/
def sent (q : Query) (execution : Fields) : Except Misuse (Value × Fields) :=
  (splitExecution execution).bind fun (added, options) =>
    (mergedBinds q.binds added).map fun binds => (binds, options)

theorem executeWith_prebuilt (q : Query) (execution : Fields) :
    executeWith (.prebuilt q) execution =
      (ofUse (sent q execution)).bind fun (binds, options) =>
        ask (.execute (.str q.text) binds options) := by
  unfold sent executeWith
  cases splitExecution execution with
  | error m => rfl
  | ok split =>
      obtain ⟨added, options⟩ := split
      show (ofUse (mergedBinds q.binds added)).bind _ = (ofUse (Except.map _ _)).bind _
      cases mergedBinds q.binds added <;> rfl

/-- Setting an option by default does not touch the parameters, nor the options that are taken. -/
theorem splitExecution_setDefault (execution : Fields) {name : String}
    (hbinds : name ≠ "bind_vars") (htaken : name ∉ takenOptions) (v : Value) :
    (splitExecution (execution.setDefault name v)).map Prod.fst =
      (splitExecution execution).map Prod.fst := by
  have hhas {other : String} (hother : other ∈ takenOptions) :
      (execution.setDefault name v).has other = execution.has other := by
    have hne : name ≠ other := fun heq => htaken (heq ▸ hother)
    rw [Fields.has, Fields.has, Fields.get?_setDefault_of_ne _ hne]
  have hfound : takenOptions.find? (execution.setDefault name v).has =
      takenOptions.find? execution.has := by
    simp only [takenOptions, List.find?_cons, hhas (show "query" ∈ takenOptions by decide),
      hhas (show "self" ∈ takenOptions by decide), List.find?_nil]
  rw [splitExecution, splitExecution, hfound]
  cases takenOptions.find? execution.has with
  | some other => rfl
  | none =>
      show Except.ok _ = Except.ok _
      rw [Fields.getD, Fields.getD, Fields.get?_setDefault_of_ne _ hbinds]

theorem splitExecution_lookupExecution (options : FetchOptions) :
    (splitExecution (lookupExecution options)).map Prod.fst =
      (splitExecution options.execution).map Prod.fst := by
  rw [lookupExecution]
  split
  · rw [splitExecution_setDefault _ (by decide) (by decide),
      splitExecution_setDefault _ (by decide) (by decide)]
  · rfl

theorem map_fst_sent (q : Query) (execution : Fields) :
    (sent q execution).map Prod.fst =
      ((splitExecution execution).map Prod.fst).bind (mergedBinds q.binds) := by
  rw [sent]
  cases splitExecution execution with
  | error m => rfl
  | ok split =>
      show ((mergedBinds q.binds split.1).map _).map _ = mergedBinds q.binds split.1
      cases mergedBinds q.binds split.1 <;> rfl

/-- Asking to count changes neither the parameters nor whether anything is sent. -/
theorem sent_lookupExecution (q : Query) (options : FetchOptions) :
    (sent q (lookupExecution options)).map Prod.fst = (sent q options.execution).map Prod.fst := by
  rw [map_fst_sent, map_fst_sent, splitExecution_lookupExecution]

theorem sent_lookupExecution_of_ok {q : Query} {options : FetchOptions} {binds : Value}
    {more : Fields} (h : sent q options.execution = .ok (binds, more)) :
    ∃ counting, sent q (lookupExecution options) = .ok (binds, counting) := by
  have hsame := sent_lookupExecution q options
  rw [h] at hsame
  cases hasked : sent q (lookupExecution options) with
  | error m =>
      rw [hasked] at hsame
      cases hsame
  | ok asked =>
      rw [hasked] at hsame
      obtain ⟨binds', counting⟩ := asked
      obtain rfl : binds' = binds := Except.ok.inj hsame
      exact ⟨counting, rfl⟩

theorem sent_lookupExecution_of_misuse {q : Query} {options : FetchOptions} {m : Misuse}
    (h : sent q options.execution = .error m) :
    sent q (lookupExecution options) = .error m := by
  have hsame := sent_lookupExecution q options
  rw [h] at hsame
  cases hasked : sent q (lookupExecution options) with
  | error m' =>
      rw [hasked] at hsame
      obtain rfl : m' = m := Except.error.inj hsame
      rfl
  | ok asked =>
      rw [hasked] at hsame
      cases hsame

/-! ## What comes back -/

/-- A server that answers a query with some rows, however it is executed. -/
def AnswersWith {σ : Type} (respond : Responder σ) (st : σ) (text : Value) (rows : List Value) :
    Prop :=
  ∀ binds options, ∃ cursor, (respond (.execute text binds options) st).1 = .ok cursor ∧
    cursor.rows = rows ∧ cursor.Counted

/-- The documents or the rows that are handed out. -/
def Found.handed : Found → List Value
  | .documents r => r.documents
  | .cursor c => c.rows

/-- What is found hands out some rows as the options say: in a cursor, or as trimmed documents. -/
def Found.Hands (options : FetchOptions) (rows : List Value) : Found → Prop
  | .documents r => options.returnCursor = false ∧ r.documents = Trim.documents options.trim rows
  | .cursor c => options.returnCursor = true ∧ c.rows = rows

theorem Found.Hands.length_eq {options : FetchOptions} {rows : List Value} {found : Found}
    (h : found.Hands options rows) : found.handed.length = rows.length := by
  cases found with
  | documents r => rw [handed, h.2, Trim.documents, List.length_map]
  | cursor c => rw [handed, h.2]

theorem answersWith_giving (rows : List Value) (s : Server) (text : Value) :
    AnswersWith (Server.giving rows) s text rows :=
  fun _ _ => ⟨Server.cursorOf rows, rfl, rfl, Server.counted_cursorOf rows⟩

section

variable {σ : Type} {respond : Responder σ} {st : σ} {rows : List Value} {q : Query}
  {options : FetchOptions}

theorem fullCount_of_counted {c : Cursor} (h : c.Counted) :
    ∃ n, fullCount c.stats = .ok (ResultSet.wholeToValue n) := by
  obtain hnull | ⟨fields, n, hfields, hcount⟩ := h.stats
  · exact ⟨none, by rw [hnull]; rfl⟩
  · rw [fullCount, hfields]
    split
    · exact ⟨n, congrArg Except.ok hcount⟩
    · exact ⟨none, rfl⟩

theorem resultSet_wholeToValue (documents : List Value) (size total : Option Int) :
    resultSet documents (ResultSet.wholeToValue size) (ResultSet.wholeToValue total) =
      .ok ⟨documents, size, total⟩ :=
  congrArg (Failure.ofChecked "QueryResult") (ResultSet.read_toValue ⟨documents, size, total⟩)

theorem returns_executeWith (hserver : AnswersWith respond st (.str q.text) rows) {execution : Fields}
    {binds : Value} {more : Fields} (hsent : sent q execution = .ok (binds, more)) :
    ∃ cursor st', Returns respond st (executeWith (.prebuilt q) execution)
      [.execute (.str q.text) binds more] cursor st' ∧ cursor.rows = rows ∧ cursor.Counted := by
  obtain ⟨cursor, hanswer, hrows, hcounted⟩ := hserver binds more
  rw [executeWith_prebuilt, hsent]
  exact ⟨cursor, _, Returns.ask hanswer, hrows, hcounted⟩

theorem executeWith_of_misuse {execution : Fields} {m : Misuse} (h : sent q execution = .error m) :
    executeWith (.prebuilt q) execution = .fail (.misuse m) := by
  rw [executeWith_prebuilt, h]
  rfl

theorem returns_returnOne (hserver : AnswersWith respond st (.str q.text) rows) {binds : Value}
    {more : Fields} (hsent : sent q options.execution = .ok (binds, more)) :
    ∃ st', Returns respond st (returnOne (.prebuilt q) options)
      [.execute (.str q.text) binds more] (firstDocument options.trim rows) st' := by
  obtain ⟨cursor, st', hreturns, hrows, -⟩ := returns_executeWith hserver hsent
  refine ⟨st', ?_⟩
  rw [← hrows]
  exact hreturns.bind (Returns.done _)

theorem returns_fetch (hserver : AnswersWith respond st (.str q.text) rows) {binds : Value}
    {more : Fields} (hsent : sent q (lookupExecution options) = .ok (binds, more)) :
    ∃ found st', Returns respond st (fetch q options) [.execute (.str q.text) binds more]
      found st' ∧ found.Hands options rows := by
  obtain ⟨cursor, st', hreturns, hrows, hcounted⟩ := returns_executeWith hserver hsent
  cases hcursor : options.returnCursor with
  | true =>
      refine ⟨.cursor cursor, st', hreturns.bind ?_, hcursor, hrows⟩
      simp only [hcursor, if_true]
      exact Returns.done _
  | false =>
      obtain ⟨size, hsize⟩ := hcounted.count
      obtain ⟨counted, htotal⟩ := fullCount_of_counted hcounted
      have htotals : ∃ total, (if ((lookupExecution options).getD "full_count").isTrue then
          fullCount cursor.stats else .ok .null) = .ok (ResultSet.wholeToValue total) := by
        split
        · exact ⟨counted, htotal⟩
        · exact ⟨none, rfl⟩
      obtain ⟨total, htotal⟩ := htotals
      refine ⟨.documents ⟨Trim.documents options.trim rows, size, total⟩, st',
        hreturns.bind ?_, hcursor, rfl⟩
      simp only [hcursor, Bool.false_eq_true, if_false, htotal, hsize, hrows, bind_eq, ofUse_ok,
        done_bind, resultSet_wholeToValue, ofExcept_ok, map_eq]
      exact Returns.done _

end

/-! ## The first document -/

/-- The first of some objects with fields is the head of all of them. -/
theorem firstDocument_eq_head (trim : Option TrimOptions) {rows : List Value}
    (h : ∀ v ∈ rows, ∃ fields, v = .object fields ∧ fields ≠ []) :
    firstDocument trim rows = (Trim.documents trim rows).head?.getD .null := by
  cases rows with
  | nil => rfl
  | cons first rest =>
      obtain ⟨fields, rfl, hfields⟩ := h first List.mem_cons_self
      have htrue : (Value.object fields).isTrue = true := by simp [Value.isTrue, hfields]
      simp [firstDocument, htrue, Trim.documents]

/-! ## Both forms of a lookup -/

/-- The text and the parameters that a request executes, or why it executes nothing. -/
def executed (r : Request) (options : FetchOptions) : Except Failure (String × Value) :=
  r.query.bind fun q =>
    ((sent q options.execution).mapError Failure.misuse).map fun sent => (q.text, sent.1)

section

variable {σ : Type} {respond : Responder σ} {st : σ} {rows : List Value} {r : Request}
  {options : FetchOptions} {e : Failure} {text : String} {binds : Value}

theorem executed_eq_ok (h : executed r options = .ok (text, binds)) :
    ∃ q more, r.query = .ok q ∧ q.text = text ∧ sent q options.execution = .ok (binds, more) := by
  rw [executed] at h
  cases hq : r.query with
  | error e => rw [hq] at h; cases h
  | ok q =>
      rw [hq] at h
      replace h : ((sent q options.execution).mapError Failure.misuse).map
        (fun sent => (q.text, sent.1)) = .ok (text, binds) := h
      cases hsent : sent q options.execution with
      | error m => rw [hsent] at h; cases h
      | ok sent =>
          rw [hsent] at h
          cases h
          exact ⟨q, sent.2, rfl, rfl, hsent⟩

theorem executed_eq_error (h : executed r options = .error e) :
    r.query = .error e ∨
      ∃ q m, r.query = .ok q ∧ sent q options.execution = .error m ∧ e = .misuse m := by
  rw [executed] at h
  cases hq : r.query with
  | error e' =>
      rw [hq] at h
      cases h
      exact .inl rfl
  | ok q =>
      rw [hq] at h
      replace h : ((sent q options.execution).mapError Failure.misuse).map
        (fun sent => (q.text, sent.1)) = .error e := h
      cases hsent : sent q options.execution with
      | error m =>
          rw [hsent] at h
          cases h
          exact .inr ⟨q, m, rfl, hsent, rfl⟩
      | ok sent => rw [hsent] at h; cases h

/-- A request that executes nothing ends with the reason for it, whatever its rows were for. -/
theorem run_refused {α : Type} {f : Query → Session α}
    (hf : ∀ q m, sent q options.execution = .error m → f q = .fail (.misuse m))
    (h : executed r options = .error e) :
    (((build r).bind f).run respond st).result = .error e ∧
      (((build r).bind f).run respond st).calls = [] := by
  obtain hq | ⟨q, m, hq, hsent, rfl⟩ := executed_eq_error h
  · have hbuild : ((build r).run respond st).result = .error e := by rw [run_build, hq]
    obtain ⟨hresult, hcalls, -⟩ := run_bind_of_error respond hbuild f
    rw [run_build] at hcalls
    exact ⟨hresult, hcalls⟩
  · obtain ⟨hresult, hcalls, -⟩ := (returns_build respond hq st).run_bind f
    rw [hf q m hsent] at hresult hcalls
    exact ⟨hresult, hcalls⟩

theorem run_fetchRequest_of_error (respond : Responder σ) (st : σ)
    (h : executed r options = .error e) :
    ((fetchRequest r options).run respond st).result = .error e ∧
      ((fetchRequest r options).run respond st).calls = [] :=
  run_refused (f := fun q => fetch q options) (fun q m hm => by
    rw [fetch, executeWith_of_misuse (sent_lookupExecution_of_misuse hm)]
    rfl) h

theorem run_firstOfRequest_of_error (respond : Responder σ) (st : σ)
    (h : executed r options = .error e) :
    ((firstOfRequest r options).run respond st).result = .error e ∧
      ((firstOfRequest r options).run respond st).calls = [] :=
  run_refused (f := fun q => returnOne (.prebuilt q) options) (fun q m hm => by
    rw [returnOne, executeWith_of_misuse hm]
    rfl) h

theorem returns_fetchRequest (hserver : AnswersWith respond st (.str text) rows)
    (h : executed r options = .ok (text, binds)) :
    ∃ more found st', Returns respond st (fetchRequest r options)
      [.execute (.str text) binds more] found st' ∧ found.Hands options rows := by
  obtain ⟨q, first, hq, rfl, hsent⟩ := executed_eq_ok h
  obtain ⟨more, hasked⟩ := sent_lookupExecution_of_ok hsent
  obtain ⟨found, st', hfetch, hhands⟩ := returns_fetch hserver hasked
  exact ⟨more, found, st', (returns_build respond hq st).bind hfetch, hhands⟩

theorem returns_firstOfRequest (hserver : AnswersWith respond st (.str text) rows)
    (h : executed r options = .ok (text, binds)) :
    ∃ more st', Returns respond st (firstOfRequest r options) [.execute (.str text) binds more]
      (firstDocument options.trim rows) st' := by
  obtain ⟨q, more, hq, rfl, hsent⟩ := executed_eq_ok h
  obtain ⟨st', hfirst⟩ := returns_returnOne hserver hsent
  exact ⟨more, st', (returns_build respond hq st).bind hfirst⟩

end

/-! ## Lookups by values -/

/-- The text and the parameters that a lookup by values executes, or why it executes nothing. -/
def planned (db : Database) (collection : Value) (equalities : Equalities) (join : Join)
    (options : Option FetchOptions) (input : FilterInput) : Except Failure (String × Value) :=
  (criteriaOf input).bind fun criteria =>
    executed (.byValues collection equalities join (some (db.fetchOptions options)) criteria)
      (db.fetchOptions options)

/-- The lookup for the first document executes the text and the parameters that the lookup for all
documents does, is refused for the same reason, and gives the head of what the other gives. -/
theorem fetchOne_eq_head (db : Database) (collection : Value) (equalities : Equalities)
    (join : Join) (options : Option FetchOptions) (input : FilterInput) {σ : Type}
    (respond : Responder σ) (st : σ) {rows : List Value}
    (hdocuments : (db.fetchOptions options).returnCursor = false)
    (hrows : ∀ v ∈ rows, ∃ fields, v = .object fields ∧ fields ≠ [])
    (hserver : ∀ text, AnswersWith respond st text rows) :
    let one := (db.fetchOneByValues collection equalities join options input).run respond st
    let all := (db.fetchByValues collection equalities join options input).run respond st
    match db.planned collection equalities join options input with
    | .error e =>
        one.result = .error e ∧ all.result = .error e ∧ one.calls = [] ∧ all.calls = []
    | .ok (text, binds) => ∃ first more found,
        one.calls = [.execute (.str text) binds first] ∧
        all.calls = [.execute (.str text) binds more] ∧
        all.result = .ok (.documents found) ∧
        found.documents = Trim.documents (db.fetchOptions options).trim rows ∧
        one.result = .ok (found.documents.head?.getD .null) := by
  intro one all
  cases hcriteria : criteriaOf input with
  | error e =>
      have hone : one = ⟨.error e, [], [], st⟩ := by
        simp only [one, fetchOneByValues, hcriteria]
        rfl
      have hall : all = ⟨.error e, [], [], st⟩ := by
        simp only [all, fetchByValues, hcriteria]
        rfl
      rw [planned, hcriteria, hone, hall]
      exact ⟨rfl, rfl, rfl, rfl⟩
  | ok criteria =>
      let o := db.fetchOptions options
      let r := Request.byValues collection equalities join (some o) criteria
      have hone : one = (firstOfRequest r o).run respond st := by
        simp only [one, fetchOneByValues, hcriteria]
        rfl
      have hmany : all = (fetchRequest r o).run respond st := by
        simp only [all, fetchByValues, hcriteria]
        rfl
      have hplan : db.planned collection equalities join options input = executed r o := by
        rw [planned, hcriteria]
        rfl
      rw [hplan, hone, hmany]
      cases hexecuted : executed r o with
      | error e =>
          obtain ⟨hresult, hcalls⟩ := run_firstOfRequest_of_error respond st hexecuted
          obtain ⟨hresult', hcalls'⟩ := run_fetchRequest_of_error respond st hexecuted
          exact ⟨hresult, hresult', hcalls, hcalls'⟩
      | ok query =>
          obtain ⟨first, left, hfirst⟩ := returns_firstOfRequest (hserver _) hexecuted
          obtain ⟨more, found, left', hall, hhands⟩ :=
            returns_fetchRequest (hserver _) hexecuted
          cases found with
          | cursor c => exact absurd (hdocuments.symm.trans hhands.1) Bool.false_ne_true
          | documents found =>
              refine ⟨first, more, found, hfirst.calls, hall.calls, hall.result, hhands.2, ?_⟩
              rw [hfirst.result, firstDocument_eq_head _ hrows, hhands.2]

/-- Of two riders of a team whose age is known, the first is found, without its private fields. -/
theorem skyRider_first :
    let db : Database := ⟨⟨0, .str "cycling"⟩, none, {}⟩
    let team : Equalities := .many [⟨"team", .str "Sky", true⟩]
    let options : FetchOptions := { limit := some 2, trim := some { stripPrivate := true } }
    let aged : FilterInput := .criteria { search := some ⟨.one "age", .one "!null", .any⟩ }
    let rows : List Value := [.object [("_key", .str "1"), ("_seen", .int 3), ("team", .str "Sky")],
      .object [("_key", .str "2"), ("team", .str "Sky")]]
    let text := "FOR d IN @@collection FILTER ( d.@team_key_1 == @team_val_1 )" ++
      " && ( d.@search_prop_1 != null ) LIMIT 2 RETURN d"
    let binds : Value := .object
      [("@collection", .str "riders"), ("team_key_1", .str "team"), ("team_val_1", .str "Sky"),
        ("search_prop_1", .str "age")]
    (db.fetchOptions (some options)).returnCursor = false ∧
    (∀ v ∈ rows, ∃ fields, v = .object fields ∧ fields ≠ []) ∧
    (∀ query, AnswersWith (Server.giving rows) {} query rows) ∧
    db.planned (.str "riders") team .all (some options) aged = .ok (text, binds) ∧
    ∃ first more found,
      ((db.fetchOneByValues (.str "riders") team .all (some options) aged).run
        (Server.giving rows) {}).calls = [.execute (.str text) binds first] ∧
      ((db.fetchByValues (.str "riders") team .all (some options) aged).run
        (Server.giving rows) {}).calls = [.execute (.str text) binds more] ∧
      ((db.fetchByValues (.str "riders") team .all (some options) aged).run
        (Server.giving rows) {}).result = .ok (.documents found) ∧
      found.documents.length = 2 ∧
      ((db.fetchOneByValues (.str "riders") team .all (some options) aged).run
        (Server.giving rows) {}).result = .ok (.object [("_key", .str "1"), ("team", .str "Sky")])
    := by
  intro db team options aged rows text binds
  have hrows : ∀ v ∈ rows, ∃ fields, v = .object fields ∧ fields ≠ [] := by
    simp [rows]
  have hplan : db.planned (.str "riders") team .all (some options) aged =
      .ok (text, binds) := by
    simp only [db, team, options, aged, text, binds]
    rfl
  have hlookup := fetchOne_eq_head db (.str "riders") team .all (some options) aged
    (Server.giving rows) {} rfl hrows (answersWith_giving rows {})
  rw [hplan] at hlookup
  obtain ⟨first, more, found, hone, hall, hdocuments, hfound, hfirst⟩ := hlookup
  refine ⟨rfl, hrows, answersWith_giving rows {}, hplan, first, more, found, hone, hall,
    hdocuments, ?_, ?_⟩
  · rw [hfound]
    rfl
  · rw [hfirst, hfound]
    rfl

end Database

end DocQuery
