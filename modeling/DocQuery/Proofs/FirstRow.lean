import DocQuery.Proofs.FirstDocument
import DocQuery.Proofs.TrimmedFields

/-!
# The first row of a query

A query can be run for its first row alone, or for all of its rows.  Either way one and the same
execution is sent (`executeWith_eq`).  A row is any value: a document, a list, a count, a truth
value.

*Standing for the first row.*  `FirstOf` says what the first of some rows is to come out as.  Null
is left for the want of a row and for a row that is null, so that a caller can tell the two from a
row that is there.

*Null instead of a row.*  A first row that counts as false is not looked at
(`firstDocument_cons_of_false`).  So zero, `false` and what is empty come out as null, and what is
given stands for the first row exactly when that row is null or counts as true
(`firstOf_firstDocument_iff`, and `firstRow_iff` for the runs of both operations).
-/

namespace DocQuery

namespace Trim

theorem document_eq_null_iff {trim : Option TrimOptions} {v : Value} :
    document trim v = .null ↔ v = .null := by
  cases v with
  | object fields => cases trim <;> simp [document]
  | _ => rfl

theorem isList_document (trim : Option TrimOptions) (v : Value) :
    (document trim v).isList = v.isList := by
  cases v with
  | object fields => cases trim <;> rfl
  | _ => rfl

end Trim

namespace Database

open Session

/-! ## One execution -/

/-- The text, the parameters and the options with which a query is executed. -/
def dispatched (q : QueryInput) (execution : Fields) : Except Misuse (Value × Value × Fields) :=
  match q with
  | .bare v => (splitExecution execution).map fun (added, options) =>
      (v, if added.isTrue then added else .object [], options)
  | .prebuilt q => (sent q execution).map fun (binds, options) => (.str q.text, binds, options)

theorem executeWith_eq (q : QueryInput) (execution : Fields) :
    executeWith q execution = (ofUse (dispatched q execution)).bind fun (text, binds, options) =>
      ask (.execute text binds options) := by
  cases q with
  | bare v =>
      rw [executeWith, dispatched]
      cases splitExecution execution <;> rfl
  | prebuilt q =>
      rw [executeWith_prebuilt, dispatched]
      cases sent q execution <;> rfl

/-- A server that answers every query with some rows. -/
def GivesRows {σ : Type} (respond : Responder σ) (st : σ) (rows : List Value) : Prop :=
  ∀ text binds options, ∃ cursor,
    (respond (.execute text binds options) st).1 = .ok cursor ∧ cursor.rows = rows

theorem givesRows_giving (rows : List Value) (s : Server) :
    GivesRows (Server.giving rows) s rows :=
  fun _ _ _ => ⟨Server.cursorOf rows, rfl, rfl⟩

section

variable {σ : Type} {respond : Responder σ} {st : σ} {rows : List Value} {q : QueryInput}
  {execution : Fields}

theorem executeWith_of_refused {m : Misuse} (h : dispatched q execution = .error m) :
    executeWith q execution = .fail (.misuse m) := by
  rw [executeWith_eq, h]
  rfl

theorem returns_dispatched (hserver : GivesRows respond st rows) {text binds : Value}
    {more : Fields} (h : dispatched q execution = .ok (text, binds, more)) :
    ∃ cursor st', Returns respond st (executeWith q execution) [.execute text binds more]
      cursor st' ∧ cursor.rows = rows := by
  obtain ⟨cursor, hanswer, hrows⟩ := hserver text binds more
  rw [executeWith_eq, h]
  exact ⟨cursor, _, Returns.ask hanswer, hrows⟩

end

/-! ## The first row and all rows -/

theorem resultSet_of_documents (documents : List Value) :
    ResultSet.readFields [("data", .list documents)] = .ok ⟨documents, none, none⟩ := by
  rw [ResultSet.readFields, Schema.optional_self, Schema.each_anything]
  rfl

section

variable {σ : Type} {respond : Responder σ} {st : σ} {rows : List Value} {q : QueryInput}
  {text binds : Value} {more : Fields} (options : FetchOptions)

theorem returns_first (hserver : GivesRows respond st rows)
    (h : dispatched q options.execution = .ok (text, binds, more)) :
    ∃ st', Returns respond st (returnOne q options) [.execute text binds more]
      (firstDocument options.trim rows) st' := by
  obtain ⟨cursor, st', hreturns, hrows⟩ := returns_dispatched hserver h
  refine ⟨st', ?_⟩
  rw [← hrows]
  exact hreturns.bind (Returns.done _)

theorem returns_all (hserver : GivesRows respond st rows)
    (h : dispatched q options.execution = .ok (text, binds, more)) :
    ∃ st', Returns respond st (returnAll q options) [.execute text binds more]
      ⟨Trim.documents options.trim rows, none, none⟩ st' := by
  obtain ⟨cursor, st', hreturns, hrows⟩ := returns_dispatched hserver h
  refine ⟨st', hreturns.bind ?_⟩
  rw [hrows, resultSet_of_documents]
  exact Returns.done _

end

/-! ## What stands for the first row -/

/-- What the first of some rows comes out as, beside all documents.  Null stands for no row and for
a row that is null; an object is trimmed, a list is trimmed item by item, and any other row is
itself. -/
structure FirstOf (trim : Option TrimOptions) (rows documents : List Value) (first : Value) :
    Prop where
  null_iff : first = .null ↔ rows.head? = none ∨ rows.head? = some .null
  object : ∀ fields, rows.head? = some (.object fields) →
    first = Trim.document trim (.object fields)
  list : ∀ items, rows.head? = some (.list items) → first = .list (items.map (Trim.document trim))
  other : ∀ row, rows.head? = some row → row.isObject = false → row.isList = false → first = row
  head : ∀ document, documents.head? = some document → document.isList = false → first = document

section

variable {trim : Option TrimOptions} {row : Value} {rest : List Value}

theorem firstDocument_cons_of_false (h : row.isTrue = false) :
    firstDocument trim (row :: rest) = .null := by
  simp [firstDocument, h]

theorem firstDocument_cons_of_list {items : List Value}
    (h : (Value.list items).isTrue = true) :
    firstDocument trim (.list items :: rest) = .list (Trim.documents trim items) := by
  rw [firstDocument, if_pos h]

/-- A row that is no list comes out as its document. -/
theorem firstDocument_cons_of_not_list (h : row.isTrue = true) (hlist : row.isList = false) :
    firstDocument trim (row :: rest) = Trim.document trim row := by
  cases row with
  | list items => cases hlist
  | _ => exact if_pos h

theorem firstDocument_ne_null (h : row.isTrue = true) :
    firstDocument trim (row :: rest) ≠ .null := by
  cases hlist : row.isList with
  | false =>
      rw [firstDocument_cons_of_not_list h hlist, ne_eq, Trim.document_eq_null_iff]
      rintro rfl
      cases h
  | true =>
      cases row with
      | list items =>
          rw [firstDocument_cons_of_list h]
          exact Value.noConfusion
      | _ => cases hlist

theorem firstOf_of_true (h : row.isTrue = true) :
    FirstOf trim (row :: rest) (Trim.documents trim (row :: rest))
      (firstDocument trim (row :: rest)) where
  null_iff := by
    have hrow : row ≠ .null := by
      rintro rfl
      cases h
    simpa [hrow] using firstDocument_ne_null h
  object fields hfields := by
    obtain rfl := Option.some.inj hfields
    exact firstDocument_cons_of_not_list h rfl
  list items hitems := by
    obtain rfl := Option.some.inj hitems
    exact firstDocument_cons_of_list h
  other v hv hobject hlist := by
    obtain rfl := Option.some.inj hv
    rw [firstDocument_cons_of_not_list h hlist, Trim.document_of_not_object trim hobject]
  head document hdocument hlist := by
    obtain rfl := Option.some.inj hdocument
    rw [Trim.isList_document] at hlist
    exact firstDocument_cons_of_not_list h hlist

end

theorem firstOf_nil (trim : Option TrimOptions) : FirstOf trim [] (Trim.documents trim []) .null :=
  ⟨by simp, nofun, nofun, nofun, nofun⟩

theorem firstOf_null (trim : Option TrimOptions) (rest : List Value) :
    FirstOf trim (.null :: rest) (Trim.documents trim (.null :: rest)) .null where
  null_iff := by simp
  object _ h := nomatch h
  list _ h := nomatch h
  other _ h _ _ := Option.some.inj h
  head _ h _ := Option.some.inj h

/-- What is given stands for the first row exactly when that row, if there is one, is null or
counts as true. -/
theorem firstOf_firstDocument_iff {trim : Option TrimOptions} {rows : List Value} :
    FirstOf trim rows (Trim.documents trim rows) (firstDocument trim rows) ↔
      ∀ row, rows.head? = some row → row = .null ∨ row.isTrue = true := by
  constructor
  · intro h row hrow
    by_contra hlost
    rw [not_or, Bool.not_eq_true] at hlost
    obtain ⟨hne, hfalse⟩ := hlost
    obtain ⟨rest, rfl⟩ := List.head?_eq_some_iff.1 hrow
    rcases h.null_iff.1 (firstDocument_cons_of_false hfalse) with hnone | hnull
    · cases hnone
    · exact hne (Option.some.inj hnull)
  · intro h
    cases rows with
    | nil => exact firstOf_nil trim
    | cons row rest =>
        rcases h row rfl with rfl | htrue
        · exact firstOf_null trim rest
        · exact firstOf_of_true htrue

/-! ## Both operations -/

/-- Run for its first row and for all of its rows, a query is refused for the same reason, or is
executed alike.  Then all rows come out as documents, and the first row is stood for exactly when it
is null or counts as true. -/
theorem firstRow_iff (q : QueryInput) (options : FetchOptions) {σ : Type} (respond : Responder σ)
    (st : σ) {rows : List Value} (hserver : GivesRows respond st rows) :
    let one := (returnOne q options).run respond st
    let all := (returnAll q options).run respond st
    match dispatched q options.execution with
    | .error m =>
        one.result = .error (.misuse m) ∧ all.result = .error (.misuse m) ∧ one.calls = [] ∧
          all.calls = []
    | .ok (text, binds, more) => ∃ first found,
        one.calls = [.execute text binds more] ∧ all.calls = [.execute text binds more] ∧
        one.result = .ok first ∧ all.result = .ok found ∧
        found.documents = rows.map (Trim.document options.trim) ∧
        (FirstOf options.trim rows found.documents first ↔
          ∀ row, rows.head? = some row → row = .null ∨ row.isTrue = true) := by
  intro one all
  cases h : dispatched q options.execution with
  | error m =>
      have hone : returnOne q options = .fail (.misuse m) := by
        rw [returnOne, executeWith_of_refused h]
        rfl
      have hall : returnAll q options = .fail (.misuse m) := by
        rw [returnAll, executeWith_of_refused h]
        rfl
      simp only [one, all, hone, hall]
      exact ⟨rfl, rfl, rfl, rfl⟩
  | ok execution =>
      obtain ⟨text, binds, more⟩ := execution
      obtain ⟨_, hfirst⟩ := returns_first options hserver h
      obtain ⟨_, hfound⟩ := returns_all options hserver h
      exact ⟨_, _, hfirst.calls, hfound.calls, hfirst.result, hfound.result, rfl,
        firstOf_firstDocument_iff⟩

/-- The riders of a team come as one row, a list.  Each is trimmed, and what stands beside them in
the list is left alone. -/
theorem teamList_first :
    let q : QueryInput := .prebuilt ⟨"RETURN (FOR d IN riders FILTER d.team == @team RETURN d)",
      [("team", .str "Sky")]⟩
    let options : FetchOptions :=
      { trim := some { stripPrivate := true }, execution := [("batch_size", .int 5)] }
    let rows : List Value := [.list [.object [("name", .str "Chris"), ("_seen", .int 3)], .int 0],
      .bool false]
    GivesRows (Server.giving rows) {} rows ∧
    (∀ row, rows.head? = some row → row = .null ∨ row.isTrue = true) ∧
    ∃ first found,
      ((returnOne q options).run (Server.giving rows) {}).result = .ok first ∧
      ((returnAll q options).run (Server.giving rows) {}).result = .ok found ∧
      FirstOf options.trim rows found.documents first ∧
      first = .list [.object [("name", .str "Chris")], .int 0] := by
  intro q options rows
  have hrow : ∀ row, rows.head? = some row → row = .null ∨ row.isTrue = true := by
    rintro _ ⟨⟩
    exact .inr rfl
  have hserver : GivesRows (Server.giving rows) {} rows := givesRows_giving rows {}
  obtain ⟨first, found, -, -, hone, hall, -, hfirst⟩ :=
    firstRow_iff q options (Server.giving rows) {} hserver
  have hstands := hfirst.2 hrow
  exact ⟨hserver, hrow, first, found, hone, hall, hstands, hstands.list _ rfl⟩

/-- A count of zero is among all rows, but the first row comes out as null. -/
theorem zeroCount_lost :
    let q : QueryInput := .bare (.str "RETURN LENGTH(riders)")
    let rows : List Value := [.int 0]
    ∃ found, ((returnAll q {}).run (Server.giving rows) {}).result = .ok found ∧
      found.documents = rows ∧
      ((returnOne q {}).run (Server.giving rows) {}).result = .ok .null ∧
      ¬ FirstOf none rows found.documents .null := by
  refine ⟨⟨[.int 0], none, none⟩, rfl, rfl, rfl, fun h => ?_⟩
  exact Value.noConfusion (h.other (.int 0) rfl rfl rfl)

end Database

end DocQuery
