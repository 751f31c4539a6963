import DocQuery.Proofs.ListGuard
import DocQuery.Proofs.SharedDocument

/-!
# Properties that are set

A property is set by a patch: the value, wrapped into an object for each part of the path.  A
query that sets a property names its position twice, by the patch and by a parameter, whose
position is what the query reports (`Query.AddressesPatch`).

The patch has all parts of the path, as reading the property does, and the parameter has those
that are not empty.  So the value is read where it was written, whatever the path is, and it is
reported exactly for paths without empty parts (`property_read_where_written`).
-/

namespace DocQuery

open Request Session

/-! ## The position of a value in a patch -/

namespace Value

/-- With empty parts, a path does not lead where it leads without them: nothing is written
there. -/
theorem follow_written_dropped {v : Value} (hobject : v.isObject = false) {parts : List String}
    (hempty : "" ∈ parts) {old : Value} (h : old.follow (parts.filter (· ≠ "")) ≠ v) :
    (old.written parts v).follow (parts.filter (· ≠ "")) ≠ v := by
  induction parts generalizing old with
  | nil => cases hempty
  | cons part rest ih =>
      by_cases hpart : part = ""
      · -- What is written goes below the empty name; the other way passes it by.
        rw [List.filter_cons_of_neg (by simpa using hpart)] at h ⊢
        cases hsegments : rest.filter (· ≠ "") with
        | nil =>
            intro heq
            rw [← heq, follow, isObject_written] at hobject
            cases hobject
        | cons first others =>
            have hfirst : first ∈ rest.filter (· ≠ "") := by
              rw [hsegments]
              exact List.mem_cons_self
            have hne : part ≠ first := by
              rintro rfl
              simp [hpart] at hfirst
            rw [hsegments, follow_cons] at h
            rwa [follow_cons, field_written, if_neg hne]
      · have hrest : "" ∈ rest := (List.mem_cons.1 hempty).resolve_left (Ne.symm hpart)
        rw [List.filter_cons_of_pos (by simpa using hpart), follow_cons] at h ⊢
        rw [field_written, if_pos rfl]
        exact ih hrest h

theorem sizeOf_lt_nestedValue (part : String) (rest : List String) (v : Value) :
    sizeOf v < sizeOf (nestedValue (part :: rest) v) := by
  induction rest generalizing part with
  | nil =>
      simp only [nestedValue, object.sizeOf_spec, List.cons.sizeOf_spec, Prod.mk.sizeOf_spec]
      omega
  | cons next rest ih =>
      have hnext := ih next
      rw [nestedValue]
      simp only [object.sizeOf_spec, List.cons.sizeOf_spec, Prod.mk.sizeOf_spec]
      omega

/-- A patch carries a value at one position only. -/
theorem nestedValue_inj {parts others : List String} {v : Value}
    (h : nestedValue parts v = nestedValue others v) : parts = others := by
  induction parts generalizing others with
  | nil =>
      cases others with
      | nil => rfl
      | cons part rest =>
          have hsize := sizeOf_lt_nestedValue part rest v
          rw [← h] at hsize
          exact absurd hsize (Nat.lt_irrefl _)
  | cons part rest ih =>
      cases others with
      | nil =>
          have hsize := sizeOf_lt_nestedValue part rest v
          rw [h] at hsize
          exact absurd hsize (Nat.lt_irrefl _)
      | cons other more =>
          simp only [nestedValue, object.injEq, List.cons.injEq, Prod.mk.injEq, and_true] at h
          obtain ⟨rfl, hrest⟩ := h
          rw [ih hrest]

theorem pathParts_eq_segments_iff {path : String} :
    pathParts path = segments path ↔ "" ∉ pathParts path := by
  rw [eq_comm, segments, List.filter_eq_self]
  constructor
  · intro h hmem
    simpa using h "" hmem
  · intro h part hpart
    simp only [decide_not, Bool.not_eq_eq_eq_not, Bool.not_true, decide_eq_false_iff_not]
    rintro rfl
    exact h hpart

end Value

/-! ## Setting a property -/

/-- The call that sets a property. -/
def patchCall (collection key : Value) (path : String) (v : Value) : Call :=
  .execute (.str patchStatement.text)
    (.object (baseBinds collection ++
      [("key", key), ("patch", nestedValue (Value.pathParts path) v),
        ("property", attributePath path)])) []

/-- The parameter of a query addresses the position at which its patch carries a value. -/
def Query.AddressesPatch (q : Query) (v : Value) : Prop :=
  ∃ parts, pathBound? (Fields.getD q.binds "property") = some parts ∧
    Fields.getD q.binds "patch" = nestedValue parts v

/-- The two positions are one exactly where the path has no empty parts. -/
theorem Request.addressesPatch_iff {path : String} (hpath : segments path ≠ [])
    (collection key v : Value) :
    ∃ q, (Request.setProperty collection key path v).query = .ok q ∧
      (q.AddressesPatch v ↔ Value.pathParts path = segments path) := by
  refine ⟨_, rfl, ?_⟩
  have hproperty := pathBound?_attributePath hpath
  constructor
  · rintro ⟨parts, hparts, hpatch⟩
    obtain rfl : segments path = parts := Option.some.inj (hproperty.symm.trans hparts)
    exact Value.nestedValue_inj hpatch
  · intro hsame
    exact ⟨segments path, hproperty, congrArg (nestedValue · v) hsame⟩

namespace Database

open SharedDocument

section

variable (equal : Value → Value → Bool) {fields : Fields} {key : Value}
  (hkey : fields.get? "_key" = some key) (db : Database) (collection : Value)
  {selector : Selector} (hread : Readable equal db collection selector (.object fields))

include hkey hread

/-- What is selected is read, and left as it is. -/
theorem returns_readExisting :
    ∃ calls, (∀ c ∈ calls, c.mutates = false) ∧
      Returns (serve equal) (.object fields) (readExisting db collection selector) calls
        (.object fields) (.object fields) := by
  have hquiet := quiet_readExisting db collection selector
  refine ⟨_, (Meets.run (serve equal) hquiet (.object fields)).1, ?_, rfl,
    state_serve equal hquiet _⟩
  obtain ⟨v, hselect⟩ := hread
  rw [run_serve equal hquiet, result_readExisting equal hkey, hselect]
  rfl

theorem result_readProperty (path : String) :
    ((readProperty db collection selector (.str path)).run (serve equal) (.object fields)).result =
      .ok ((Value.object fields).atPath path) := by
  obtain ⟨calls, -, hreturns⟩ := returns_readExisting equal hkey db collection hread
  exact (hreturns.run_bind _).1

/-- The same selector reads another document that has a key. -/
theorem Readable.again {later : Fields} {key' : Value} (hkey' : later.get? "_key" = some key') :
    Readable equal db collection selector (.object later) := by
  obtain ⟨outcome, houtcome⟩ := select_outcome equal db collection selector
  obtain ⟨v, hv⟩ := hread
  rw [houtcome hkey] at hv
  refine ⟨.object later, ?_⟩
  rw [houtcome hkey']
  cases outcome with
  | error e => cases hv
  | ok _ => rfl

end

section

variable (equal : Value → Value → Bool) {fields : Fields} {key : String}
  (hkey : fields.get? "_key" = some (.str key))

include hkey

/-- The server merges the patch into the document that has the key, and reports what stands at
the position of the parameter. -/
theorem serve_patchCall {path : String} (hpath : segments path ≠ []) (collection v : Value) :
    let changed := (Value.object fields).written (Value.pathParts path) v
    serve equal (patchCall collection (.str key) path v) (.object fields) =
      (.ok (Server.cursorOf [.object [("_key", changed.follow ["_key"]),
        ("value", changed.follow (segments path))]]), changed) := by
  intro changed
  have hsame : (Value.str key).same ((Value.object fields).follow ["_key"]) = true := by
    simp [Value.follow, Fields.getD, hkey, Value.same, Value.text?]
  have hpatch := patch?_patch (.object fields) (baseBinds collection ++
    [("key", .str key), ("patch", nestedValue (Value.pathParts path) v),
      ("property", attributePath path)])
  rw [if_pos (by exact hsame)] at hpatch
  have hproperty : pathBound? (attributePath path) = some (segments path) :=
    pathBound?_attributePath hpath
  simp only [patchCall, serve, hpatch]
  simp [hproperty, changed, Value.written, Fields.getD, Fields.get?, baseBinds,
    collectionParameter]

theorem returns_setProperty (db : Database) (collection : Value) {selector : Selector}
    (hread : Readable equal db collection selector (.object fields)) {path : String}
    (hpath : segments path ≠ []) (v : Value) :
    let changed := (Value.object fields).written (Value.pathParts path) v
    ∃ calls, (∀ c ∈ calls, c.mutates = false) ∧
      Returns (serve equal) (.object fields) (setProperty db collection selector (.str path) v)
        (calls ++ [patchCall collection (.str key) path v])
        (.list [.object [("_key", changed.follow ["_key"]),
          ("value", changed.follow (segments path))]]) changed := by
  intro changed
  obtain ⟨calls, hquiet, hexisting⟩ := returns_readExisting equal hkey db collection hread
  refine ⟨calls, hquiet, hexisting.bind ?_⟩
  have hanswer := serve_patchCall equal hkey hpath collection v
  have hquery : (Request.setProperty collection (.str key) path v).query = .ok
      ⟨patchStatement.text, baseBinds collection ++
        [("key", .str key), ("patch", nestedValue (Value.pathParts path) v),
          ("property", attributePath path)]⟩ := rfl
  have hkeyOf : keyOf (.object fields) = .ok (.str key) := by
    simp [keyOf, Value.named, hkey]
  have hrows := returns_rowsOf (serve equal) hquery hanswer
  simp only [hkeyOf, ofExcept_ok, bind_eq, done_bind]
  exact hrows.bind (Returns.done _)

end

/-- A value that is set is read where it was written, and it is reported exactly where the path
has no empty parts: the parameter of the query then addresses the position in the patch. -/
theorem property_read_where_written (equal : Value → Value → Bool) (db : Database)
    (collection : Value) {fields : Fields} {key path : String}
    (hkey : fields.get? "_key" = some (.str key)) (hpath : segments path ≠ [])
    {selector : Selector} (hread : Readable equal db collection selector (.object fields))
    {v : Value} (hnull : v.isNull = false) (hobject : v.isObject = false) :
    (∃ q, (Request.setProperty collection (.str key) path v).query = .ok q ∧
      (q.AddressesPatch v ↔ Value.pathParts path = segments path)) ∧
    let run := (setProperty db collection selector (.str path) v).run (serve equal) (.object fields)
    (∀ again, Readable equal db collection again (.object fields) →
      ((readProperty db collection again (.str path)).run (serve equal) run.state).result =
        .ok v) ∧
    ∃ reported, run.result = .ok (.list [.object [("_key", run.state.follow ["_key"]),
        ("value", reported)]]) ∧
      (Value.pathParts path = segments path → reported = v) ∧
      ((Value.object fields).follow (segments path) ≠ v → reported = v →
        Value.pathParts path = segments path) := by
  obtain ⟨calls, -, hreturns⟩ := returns_setProperty equal hkey db collection hread hpath v
  refine ⟨addressesPatch_iff hpath collection _ v, ?_⟩
  intro run
  have hresult : run.result = _ := hreturns.result
  have hstate : run.state = _ := hreturns.state
  have hwritten (parts : List String) :
      ((Value.object fields).written parts v).follow parts = v := by
    rw [Value.follow_written, Value.revised_of_other hobject]
  rw [hresult, hstate]
  refine ⟨fun again hagain => ?_, _, rfl, fun hsame => ?_, fun hold hreported => ?_⟩
  · -- Whatever is written, the document has a key afterwards.
    obtain ⟨later, hlater, w, hw⟩ := Value.exists_written hkey path hnull
    have hagain' := Readable.again equal hkey db collection hagain hw
    rw [hlater, result_readProperty equal hw db collection hagain', ← hlater, Value.atPath,
      hwritten]
  · rw [← hsame]
    exact hwritten _
  · by_contra hdiffer
    rw [Value.pathParts_eq_segments_iff, Decidable.not_not] at hdiffer
    exact Value.follow_written_dropped hobject hdiffer hold hreported

/-- A cyclist with a number of wins. -/
def winner (wins : Int) : Fields :=
  [("_key", .str "1"), ("results", .object [("wins", .int wins), ("podiums", .int 7)])]

theorem wins_read_where_written :
    let run := (setProperty cycling (.str "cyclists") (.value (.str "1")) (.str "results.wins")
      (.int 3)).run (serve Value.same) (.object (winner 2))
    ((readProperty cycling (.str "cyclists") (.value (.str "1")) (.str "results.wins")).run
        (serve Value.same) run.state).result = .ok (.int 3) ∧
      run.result = .ok (.list [.object [("_key", run.state.follow ["_key"]),
        ("value", .int 3)]]) := by
  have hkey : (winner 2).get? "_key" = some (.str "1") := rfl
  have hpath : segments "results.wins" ≠ [] := by decide
  have hread : Readable Value.same cycling (.str "cyclists") (.value (.str "1"))
      (.object (winner 2)) := ⟨_, rfl⟩
  have hsame : Value.pathParts "results.wins" = segments "results.wins" := by decide
  obtain ⟨-, hagain, reported, hresult, hreported, -⟩ := property_read_where_written Value.same
    cycling (.str "cyclists") hkey hpath hread (v := .int 3) rfl rfl
  rw [hreported hsame] at hresult
  exact ⟨hagain _ hread, hresult⟩

/-- An empty part is in the patch and not in the parameter: what is set is not reported. -/
theorem empty_part_unreported :
    segments ".tags" ≠ [] ∧
    (∃ q, (Request.setProperty (.str "cyclists") (.str "1") ".tags" (.str "x")).query = .ok q ∧
      ¬ q.AddressesPatch (.str "x")) ∧
    let run := (setProperty cycling (.str "cyclists") (.value (.str "1")) (.str ".tags")
      (.str "x")).run (serve Value.same) (.object [("_key", .str "1")])
    run.state.atPath ".tags" = .str "x" ∧
      run.result = .ok (.list [.object [("_key", .str "1"), ("value", .null)]]) := by
  have hkey : Fields.get? [("_key", .str "1")] "_key" = some (.str "1") := rfl
  have hpath : segments ".tags" ≠ [] := by decide
  have hread : Readable Value.same cycling (.str "cyclists") (.value (.str "1"))
      (.object [("_key", .str "1")]) := ⟨_, rfl⟩
  obtain ⟨q, hq, haddresses⟩ := addressesPatch_iff hpath (.str "cyclists") (.str "1") (.str "x")
  obtain ⟨calls, -, hreturns⟩ := returns_setProperty Value.same hkey cycling (.str "cyclists")
    hread hpath (.str "x")
  have hparts : Value.pathParts ".tags" = ["", "tags"] := by decide
  have hsegments : segments ".tags" = ["tags"] := by decide
  rw [hparts, hsegments] at hreturns haddresses
  refine ⟨hpath, ⟨q, hq, fun h => ?_⟩, ?_, hreturns.result⟩
  · have hsame := haddresses.1 h
    revert hsame
    decide
  · rw [hreturns.state, Value.atPath, hparts]
    rfl

end Database

end DocQuery
