import DocQuery.Catalogue
import DocQuery.Proofs.Qualify
import DocQuery.Proofs.Reading
import DocQuery.Proofs.WrittenText

/-!
# Records read back from their values

`Record.toValue` writes a record as a value, and the kind of the record reads it from there.

*Reading back.*  What is written is read without a conversion: a text as a text, a number as that
number, and a member of a union as that member.  So reading gives the record back, whatever was
converted when the record itself was read.

*Names.*  The type of a named value does not say what reading makes sure of in its name
(`NamedValue.Proper`).  Reading gives proper names only (`RecordKind.proper_of_read`), and a proper
name is read as it stands (`NamedValue.Proper.readName`); every other record is read back for its
type alone.
-/

namespace DocQuery

open Schema

/-! ## Members of unions -/

@[simp] theorem Texts.read_toValue (texts : Texts) : Texts.read texts.toValue = .ok texts := by
  cases texts with
  | one s => rfl
  | many texts =>
      rw [Texts.read, toValue, each_text]
      rfl

@[simp] theorem KeyValue.read_toValue (key : KeyValue) : KeyValue.read key.toValue = .ok key := by
  cases key <;> rfl

/-! ## Options and results -/

@[simp] theorem TrimOptions.nullable_texts (o : Option Texts) :
    nullable Texts.read (textsToValue o) = .ok o := by
  refine nullable_write textsToValue rfl (fun texts => ⟨?_, Texts.read_toValue texts⟩) o
  cases texts <;> exact Value.noConfusion

@[simp] theorem TrimOptions.read_toValue (o : TrimOptions) : read o.toValue = .ok o := by
  simp [read, readFields, toValue]

@[simp] theorem LogOptions.read_toValue (o : LogOptions) : read o.toValue = .ok o := by
  simp [read, readFields, toValue]

@[simp] theorem FetchOptions.nullable_count (o : Option Nat) :
    nullable count (countToValue o) = .ok o :=
  nullable_write countToValue rfl (fun n => ⟨Value.noConfusion, count_int n⟩) o

@[simp] theorem FetchOptions.nullable_trim (o : Option TrimOptions) :
    nullable TrimOptions.read (trimToValue o) = .ok o :=
  nullable_write trimToValue rfl (fun o => ⟨Value.noConfusion, o.read_toValue⟩) o

@[simp] theorem FetchOptions.read_toValue (o : FetchOptions) : read o.toValue = .ok o := by
  simp [read, readFields, toValue]

/-- The bounds of fetch options are the whole numbers that the options' value says. -/
theorem FetchOptions.bounds_of_read {v : Value} {o : FetchOptions} (h : read v = .ok o) :
    ∃ fields, v = .object fields ∧
      nullableField whole fields "limit" = .ok (o.limit.map Int.ofNat) ∧
      nullableField whole fields "offset" = .ok (o.offset.map Int.ofNat) := by
  obtain ⟨fields, rfl, hfields⟩ := record_eq_ok h
  obtain ⟨_, _, hdebug, -, rfl⟩ := Checked.seq_eq_ok hfields
  obtain ⟨_, _, hprint, -, rfl⟩ := Checked.seq_eq_ok hdebug
  obtain ⟨_, _, hqualify, -, rfl⟩ := Checked.seq_eq_ok hprint
  obtain ⟨_, _, hcursor, -, rfl⟩ := Checked.seq_eq_ok hqualify
  obtain ⟨_, _, htrim, -, rfl⟩ := Checked.seq_eq_ok hcursor
  obtain ⟨_, _, hpaged, -, rfl⟩ := Checked.seq_eq_ok htrim
  obtain ⟨_, _, hlimited, hoffset, rfl⟩ := Checked.seq_eq_ok hpaged
  obtain ⟨_, _, hsorted, hlimit, rfl⟩ := Checked.seq_eq_ok hlimited
  obtain ⟨_, _, hsortBy, -, rfl⟩ := Checked.seq_eq_ok hsorted
  obtain ⟨_, -, rfl⟩ := Checked.map_eq_ok hsortBy
  exact ⟨fields, rfl, nullableField_whole_of_count hlimit, nullableField_whole_of_count hoffset⟩

@[simp] theorem ResultSet.nullable_whole (o : Option Int) :
    nullable whole (wholeToValue o) = .ok o :=
  nullable_write wholeToValue rfl (fun _ => ⟨Value.noConfusion, rfl⟩) o

@[simp] theorem ResultSet.read_toValue (r : ResultSet) : read r.toValue = .ok r := by
  simp [read, readFields, toValue]

/-! ## Selecting and updating documents -/

@[simp] theorem Occurrence.read_toValue (o : Occurrence) : read o.toValue = .ok o := by
  simp [read, readFields, toValue]

@[simp] theorem Identifier.read_toValue (i : Identifier) : read i.toValue = .ok i := by
  simp [read, readFields, toValue]

@[simp] theorem UpdateKey.read_toValue (key : UpdateKey) : read key.toValue = .ok key := by
  cases key with
  | key s => rfl
  | identifier i =>
      rw [read, toValue, Identifier.read_toValue]
      rfl

@[simp] theorem DocumentUpdate.read_toValue (u : DocumentUpdate) : read u.toValue = .ok u := by
  simp [read, readFields, toValue]

/-! ## Searches and filters -/

@[simp] theorem Query.read_toValue (q : Query) : read q.toValue = .ok q := by
  simp [read, readFields, toValue]

@[simp] theorem Join.readField_self (j : Join) (rest : Fields) :
    readField (("match", .str j.text) :: rest) = .ok j := by
  simp [readField]

@[simp] theorem Join.readField_of_ne {key : String} (h : key ≠ "match") (v : Value)
    (rest : Fields) :
    readField ((key, v) :: rest) = readField rest :=
  optional_of_ne _ _ _ _ h

@[simp] theorem Search.read_toValue (s : Search) : read s.toValue = .ok s := by
  simp [read, readFields, toValue, shown, Shown.plain, Shown.plainFields]

@[simp] theorem ClauseList.read_toValue (l : ClauseList) : read l.toValue = .ok l := by
  simp [read, readFields, toValue, shown, Shown.plain, Shown.plainFields]

/-- A list of conditions and a query are told apart by their fields. -/
theorem Filter.read_toValue (f : Filter) : read f.shown.plain = .ok f := by
  cases f with
  | text s => rfl
  | clauses l =>
      have hclauses : ClauseList.read l.shown.plain = .ok l := l.read_toValue
      have hprebuilt : ∃ issues, Query.read l.shown.plain = .bad issues := ⟨_, rfl⟩
      obtain ⟨issues, hprebuilt⟩ := hprebuilt
      rw [read, shown, hclauses, hprebuilt]
      rfl
  | prebuilt q =>
      have hprebuilt : Query.read (Shown.value q.toValue).plain = .ok q := q.read_toValue
      have hclauses : ∃ issues, ClauseList.read (Shown.value q.toValue).plain = .bad issues :=
        ⟨_, rfl⟩
      obtain ⟨issues, hclauses⟩ := hclauses
      rw [read, shown, hprebuilt, hclauses]
      rfl

@[simp] theorem Criteria.nullable_filter (o : Option Filter) :
    nullable Filter.read (Shown.ofOption Filter.shown o).plain = .ok o := by
  refine nullable_write (fun o => (Shown.ofOption Filter.shown o).plain) rfl
    (fun f => ⟨?_, f.read_toValue⟩) o
  cases f <;> exact Value.noConfusion

@[simp] theorem Criteria.nullable_search (o : Option Search) :
    nullable Search.read (Shown.ofOption Search.shown o).plain = .ok o :=
  nullable_write (fun o => (Shown.ofOption Search.shown o).plain) rfl
    (fun s => ⟨Value.noConfusion, s.read_toValue⟩) o

@[simp] theorem Criteria.read_toValue (c : Criteria) : read c.toValue = .ok c := by
  simp [read, readFields, toValue, shown, Shown.plain, Shown.plainFields]

/-! ## Structures -/

/-- Where an edge begins is read from the second spelling when the first is not there. -/
theorem readOrigin_second {α : Type} (read : Value → Checked α) (fields : Fields) {v : Value}
    (absent : Checked α) (hfirst : fields.get? "from" = none)
    (hsecond : fields.get? "from_" = some v) :
    readOrigin read fields absent = (read v).under (.key "from_") := by
  simp [readOrigin, originField?, originSpellings, hfirst, hsecond]

@[simp] theorem EdgeDefinition.read_toValue (e : EdgeDefinition) : read e.toValue = .ok e := by
  have horigin := readOrigin_second Texts.read
    [("collection", .str e.collection), ("from_", e.origins.toValue), ("to", e.targets.toValue)]
    (.issue .missing) rfl rfl
  simp [read, readFields, toValue, horigin]

@[simp] theorem Edge.read_toValue (e : Edge) : read e.toValue = .ok e := by
  have horigin := readOrigin_second (nullable text)
    [("from_", .ofText? e.origin), ("to", .ofText? e.target), ("data", .object e.data)]
    (.ok none) rfl rfl
  simp [read, readFields, toValue, horigin]

@[simp] theorem GraphDefinition.read_toValue (g : GraphDefinition) : read g.toValue = .ok g := by
  simp [read, readFields, toValue, each_list]

@[simp] theorem Graph.read_toValue (g : Graph) : read g.toValue = .ok g := by
  cases g with
  | defined g =>
      rw [read, toValue, GraphDefinition.read_toValue]
      rfl
  | named name => rfl

@[simp] theorem Structure.read_toValue (s : Structure) : read s.toValue = .ok s := by
  simp [read, readFields, toValue, each_list]

@[simp] theorem Presence.read_toValue (p : Presence) : read p.toValue = .ok p := by
  simp [read, readFields, toValue]

@[simp] theorem Presence.nullable_toValue? (o : Option Presence) :
    nullable read (toValue? o) = .ok o :=
  nullable_write toValue? rfl (fun p => ⟨Value.noConfusion, p.read_toValue⟩) o

@[simp] theorem StructureReport.read_toValue (r : StructureReport) : read r.toValue = .ok r := by
  simp [read, readFields, toValue, each_list]

@[simp] theorem ProvisionReport.read_toValue (r : ProvisionReport) : read r.toValue = .ok r := by
  simp [read, readFields, toValue]

@[simp] theorem UniquenessReport.read_toValue (r : UniquenessReport) : read r.toValue = .ok r := by
  simp [read, readFields, toValue]

/-! ## Names -/

namespace NamedValue

/-- What reading makes sure of in the name of a named value. -/
structure Proper (p : NamedValue) : Prop where
  /-- The name is not blank. -/
  notBlank : Text.isBlank p.name = false
  /-- No white space is around it. -/
  trimmed : Text.trimmed p.name = p.name

/-- A text that is not blank is not blank when it is trimmed. -/
theorem isBlank_trimmed {s : String} (h : Text.isBlank s = false) :
    Text.isBlank (Text.trimmed s) = false := by
  obtain ⟨before, after, hbefore, hafter, hs⟩ := Text.trim_between s.toList
  rw [← Bool.not_eq_true, Text.isBlank, List.all_eq_true] at h ⊢
  refine fun hblank => h fun c hc => ?_
  rw [Text.trimmed, String.toList_ofList] at hblank
  rw [hs, List.mem_append, List.mem_append] at hc
  rcases hc with hc | hc | hc
  · exact hbefore c hc
  · exact hblank c hc
  · exact hafter c hc

theorem trimmed_trimmed (s : String) : Text.trimmed (Text.trimmed s) = Text.trimmed s := by
  have htrim := Text.trim_eq_self (Text.solidStart_trim s.toList) (Text.solidEnd_trim s.toList)
  rw [Text.trimmed, Text.trimmed, String.toList_ofList, htrim]

/-- What is read as a name is a text, and the name is the text without white space around. -/
theorem readName_eq_ok {v : Value} {name : String} (h : readName v = .ok name) :
    ∃ s, v = .str s ∧ Text.isBlank s = false ∧ name = Text.trimmed s := by
  obtain ⟨s, hs, hname⟩ := Checked.andThen_eq_ok h
  cases v with
  | str t =>
      cases hs
      split at hname
      · cases hname
      · split at hname
        · cases hname
        · rename_i hblank
          cases hname
          exact ⟨_, rfl, Bool.eq_false_iff.2 hblank, rfl⟩
  | _ => cases hs

theorem Proper.ne_empty {p : NamedValue} (h : p.Proper) : p.name ≠ "" := by
  intro hname
  have hblank := h.notBlank
  rw [hname] at hblank
  cases hblank

/-- A proper name is read as it stands. -/
theorem Proper.readName {p : NamedValue} (h : p.Proper) :
    readName (.str p.name) = .ok p.name := by
  simp [NamedValue.readName, Checked.andThen, h.ne_empty, h.notBlank, h.trimmed]

theorem Proper.read_toValue {p : NamedValue} (h : p.Proper) : read p.toValue = .ok p := by
  simp [read, readFields, toValue, h.readName]

/-- A named value that was read has a proper name. -/
theorem read_proper {v : Value} {p : NamedValue} (h : read v = .ok p) : p.Proper := by
  obtain ⟨fields, -, hfields⟩ := record_eq_ok h
  obtain ⟨_, _, hcase, -, rfl⟩ := Checked.seq_eq_ok hfields
  obtain ⟨_, _, hvalue, -, rfl⟩ := Checked.seq_eq_ok hcase
  obtain ⟨name, hfield, rfl⟩ := Checked.map_eq_ok hvalue
  obtain ⟨w, -, hname⟩ := required_eq_ok hfield
  obtain ⟨s, -, hblank, rfl⟩ := readName_eq_ok hname
  exact ⟨isBlank_trimmed hblank, trimmed_trimmed s⟩

end NamedValue

/-! ## Uniqueness constraints -/

namespace CompositeKey

/-- The members of a composite key are what the items of a list are read as. -/
theorem each_of_readMembers {v : Value} {k : CompositeKey} (h : readMembers v = .ok k) :
    each NamedValue.read v = .ok k.members := by
  obtain ⟨members, hmembers, hk⟩ := Checked.andThen_eq_ok h
  cases members with
  | nil => cases hk
  | cons first others =>
      cases hk
      exact hmembers

theorem members_of_readFields {fields : Fields} {k : CompositeKey} (h : readFields fields = .ok k) :
    ∃ v, fields.get? "composite" = some v ∧ each NamedValue.read v = .ok k.members := by
  obtain ⟨_, _, htag, hmembers, rfl⟩ := Checked.seq_eq_ok h
  obtain ⟨_, -, rfl⟩ := Checked.map_eq_ok htag
  obtain ⟨v, hv, hk⟩ := required_eq_ok hmembers
  exact ⟨v, hv, each_of_readMembers hk⟩

theorem readFields_proper {fields : Fields} {k : CompositeKey} (h : readFields fields = .ok k) :
    ∀ p ∈ k.members, p.Proper := by
  obtain ⟨v, -, hmembers⟩ := members_of_readFields h
  intro p hp
  obtain ⟨w, hw⟩ := each_eq_ok hmembers p hp
  exact NamedValue.read_proper hw

/-- A composite key has the members that its value lists. -/
theorem listed_of_read {v : Value} {k : CompositeKey} (h : read v = .ok k) :
    ∃ fields items, v = .object fields ∧ Fields.get? fields "composite" = some (.list items) ∧
      each NamedValue.read (.list items) = .ok k.members := by
  obtain ⟨fields, rfl, hfields⟩ := record_eq_ok h
  obtain ⟨w, hw, hmembers⟩ := members_of_readFields hfields
  cases w with
  | list items => exact ⟨fields, items, rfl, hw, hmembers⟩
  | _ => cases hmembers

theorem readMembers_toValue {k : CompositeKey} (h : ∀ p ∈ k.members, p.Proper) :
    readMembers (.list (k.members.map NamedValue.toValue)) = .ok k := by
  rw [readMembers, each_list NamedValue.toValue fun p hp => (h p hp).read_toValue]
  rfl

theorem readFields_toValue {k : CompositeKey} (h : ∀ p ∈ k.members, p.Proper) :
    readFields [("kind", .str tag), ("composite", .list (k.members.map NamedValue.toValue))] =
      .ok k := by
  simp [readFields, readMembers_toValue h, readTag, Value.text?]

end CompositeKey

theorem readSingleFields_proper {fields : Fields} {p : NamedValue}
    (h : readSingleFields fields = .ok p) : p.Proper := by
  obtain ⟨_, _, htag, hp, rfl⟩ := Checked.seq_eq_ok h
  obtain ⟨_, -, rfl⟩ := Checked.map_eq_ok htag
  obtain ⟨w, -, hp⟩ := required_eq_ok hp
  exact NamedValue.read_proper hp

theorem NamedValue.Proper.readSingleFields {p : NamedValue} (h : p.Proper) :
    readSingleFields [("kind", .str singleTag), ("unique", p.toValue)] = .ok p := by
  simp [DocQuery.readSingleFields, h.read_toValue, readTag, Value.text?]

namespace Constraint

/-- The composite key, if it is one. -/
def composite? : Constraint → Option CompositeKey
  | single _ => none
  | composite k => some k

theorem read_proper {v : Value} {c : Constraint} (h : read v = .ok c) :
    ∀ p ∈ c.members, p.Proper := by
  cases v with
  | object fields =>
      simp only [read] at h
      split at h
      · cases h
      · obtain ⟨k, hk, rfl⟩ := Checked.map_eq_ok h
        exact CompositeKey.readFields_proper (Checked.under_eq_ok hk)
      · obtain ⟨q, hq, rfl⟩ := Checked.map_eq_ok h
        intro p hp
        rw [List.mem_singleton.1 hp]
        exact readSingleFields_proper (Checked.under_eq_ok hq)
      · cases h
  | _ => cases h

theorem read_toValue {c : Constraint} (h : ∀ p ∈ c.members, p.Proper) :
    read c.toValue = .ok c := by
  cases c with
  | single p =>
      have hp := (h p (List.mem_singleton_self p)).readSingleFields
      have hread : read (toValue (.single p)) =
          single <$> (readSingleFields _).under (.key "unique") := rfl
      rw [hread, hp]
      rfl
  | composite k =>
      have hread : read (toValue (.composite k)) =
          composite <$> (CompositeKey.readFields _).under (.key "composite") := rfl
      rw [hread, CompositeKey.readFields_toValue h]
      rfl

end Constraint

namespace Uniqueness

theorem read_proper {v : Value} {u : Uniqueness} (h : read v = .ok u) :
    ∀ c ∈ u.constraints, ∀ p ∈ c.members, p.Proper := by
  obtain ⟨fields, -, hfields⟩ := record_eq_ok h
  obtain ⟨_, _, hcase, -, rfl⟩ := Checked.seq_eq_ok hfields
  obtain ⟨_, _, hkey, -, rfl⟩ := Checked.seq_eq_ok hcase
  obtain ⟨_, _, hconstraints, -, rfl⟩ := Checked.seq_eq_ok hkey
  obtain ⟨_, constraints, hcollection, hfield, rfl⟩ := Checked.seq_eq_ok hconstraints
  obtain ⟨collection, -, rfl⟩ := Checked.map_eq_ok hcollection
  intro c hc
  rcases optional_eq_ok hfield with rfl | ⟨w, hw⟩
  · exact nomatch hc
  · obtain ⟨x, hx⟩ := each_eq_ok hw c hc
    exact Constraint.read_proper hx

theorem read_toValue {u : Uniqueness} (h : ∀ c ∈ u.constraints, ∀ p ∈ c.members, p.Proper) :
    read u.toValue = .ok u := by
  have hconstraints := each_list Constraint.toValue fun c hc => Constraint.read_toValue (h c hc)
  simp [read, readFields, toValue, shown, Shown.plain, Shown.plainFields, hconstraints]

end Uniqueness

/-! ## All records -/

namespace Record

/-- The kind of a record. -/
def kind : Record → RecordKind
  | occurrence _ => .occurrence
  | namedValue _ => .namedValue
  | compositeKey _ => .compositeKey
  | singleValue _ => .singleValue
  | query _ => .query
  | search _ => .search
  | clauses _ => .clauses
  | criteria _ => .criteria
  | uniqueness _ => .uniqueness
  | uniquenessReport _ => .uniquenessReport
  | trimOptions _ => .trimOptions
  | logOptions _ => .logOptions
  | fetchOptions _ => .fetchOptions
  | resultSet _ => .resultSet
  | identifier _ => .identifier
  | documentUpdate _ => .documentUpdate
  | edgeDefinition _ => .edgeDefinition
  | edge _ => .edge
  | graphDefinition _ => .graphDefinition
  | structure_ _ => .structure_
  | presence _ => .presence
  | structureReport _ => .structureReport
  | provisionReport _ => .provisionReport

/-- The named values in a record. -/
def namedValues : Record → List NamedValue
  | namedValue p | singleValue p => [p]
  | compositeKey k => k.members
  | uniqueness u => u.constraints.flatMap Constraint.members
  | _ => []

/-- The composite keys in a record. -/
def compositeKeys : Record → List CompositeKey
  | compositeKey k => [k]
  | uniqueness u => u.constraints.filterMap Constraint.composite?
  | _ => []

/-- A record whose named values have proper names is read back. -/
theorem read_toValue {r : Record} (h : ∀ p ∈ r.namedValues, p.Proper) :
    r.kind.read r.toValue = .ok r := by
  cases r with
  | namedValue p => exact Checked.map_of_ok _ (h p (List.mem_singleton_self p)).read_toValue
  | singleValue p => exact Checked.map_of_ok _ (h p (List.mem_singleton_self p)).readSingleFields
  | compositeKey k => exact Checked.map_of_ok _ (CompositeKey.readFields_toValue h)
  | uniqueness u =>
      refine Checked.map_of_ok _ (Uniqueness.read_toValue fun c hc p hp => ?_)
      exact h p (List.mem_flatMap.2 ⟨c, hc, hp⟩)
  | occurrence o => exact Checked.map_of_ok _ o.read_toValue
  | query q => exact Checked.map_of_ok _ q.read_toValue
  | search s => exact Checked.map_of_ok _ s.read_toValue
  | clauses l => exact Checked.map_of_ok _ l.read_toValue
  | criteria c => exact Checked.map_of_ok _ c.read_toValue
  | uniquenessReport r => exact Checked.map_of_ok _ r.read_toValue
  | trimOptions o => exact Checked.map_of_ok _ o.read_toValue
  | logOptions o => exact Checked.map_of_ok _ o.read_toValue
  | fetchOptions o => exact Checked.map_of_ok _ o.read_toValue
  | resultSet r => exact Checked.map_of_ok _ r.read_toValue
  | identifier i => exact Checked.map_of_ok _ i.read_toValue
  | documentUpdate u => exact Checked.map_of_ok _ u.read_toValue
  | edgeDefinition e => exact Checked.map_of_ok _ e.read_toValue
  | edge e => exact Checked.map_of_ok _ e.read_toValue
  | graphDefinition g => exact Checked.map_of_ok _ g.read_toValue
  | structure_ s => exact Checked.map_of_ok _ s.read_toValue
  | presence p => exact Checked.map_of_ok _ p.read_toValue
  | structureReport r => exact Checked.map_of_ok _ r.read_toValue
  | provisionReport r => exact Checked.map_of_ok _ r.read_toValue

end Record

namespace RecordKind

variable {kind : RecordKind} {v : Value} {r : Record}

theorem kind_of_read (h : kind.read v = .ok r) : r.kind = kind := by
  cases kind <;>
    · obtain ⟨_, -, rfl⟩ := Checked.map_eq_ok h
      rfl

/-- The named values in a record that was read have proper names. -/
theorem proper_of_read (h : kind.read v = .ok r) : ∀ p ∈ r.namedValues, p.Proper := by
  cases kind with
  | namedValue =>
      obtain ⟨p, hp, rfl⟩ := Checked.map_eq_ok h
      exact List.forall_mem_singleton.2 (NamedValue.read_proper hp)
  | singleValue =>
      obtain ⟨p, hp, rfl⟩ := Checked.map_eq_ok h
      obtain ⟨fields, -, hfields⟩ := record_eq_ok hp
      exact List.forall_mem_singleton.2 (readSingleFields_proper hfields)
  | compositeKey =>
      obtain ⟨k, hk, rfl⟩ := Checked.map_eq_ok h
      obtain ⟨fields, -, hfields⟩ := record_eq_ok hk
      exact CompositeKey.readFields_proper hfields
  | uniqueness =>
      obtain ⟨u, hu, rfl⟩ := Checked.map_eq_ok h
      intro p hp
      obtain ⟨c, hc, hp⟩ := List.mem_flatMap.1 hp
      exact Uniqueness.read_proper hu c hc p hp
  | _ =>
      obtain ⟨_, -, rfl⟩ := Checked.map_eq_ok h
      exact fun _ hp => nomatch hp

/-- A record that was read is read back from its own value.  The names in it are neither blank nor
have white space around them, and the composite keys in it have a member.  The members of a
composite key are the items that its value lists, and the bounds of fetch options are the whole
numbers that their value says, if any, so that none is negative. -/
theorem read_again (h : kind.read v = .ok r) :
    kind.read r.toValue = .ok r ∧
      (∀ p ∈ r.namedValues,
        p.name ≠ "" ∧ Text.isBlank p.name = false ∧ Text.trimmed p.name = p.name) ∧
      (∀ k ∈ r.compositeKeys, k.members ≠ []) ∧
      (∀ k, r = .compositeKey k → ∃ fields items, v = .object fields ∧
        Fields.get? fields "composite" = some (.list items) ∧
        each NamedValue.read (.list items) = .ok k.members) ∧
      ∀ o, r = .fetchOptions o → ∃ fields, v = .object fields ∧
        nullableField whole fields "limit" = .ok (o.limit.map Int.ofNat) ∧
        nullableField whole fields "offset" = .ok (o.offset.map Int.ofNat) := by
  have hproper := proper_of_read h
  refine ⟨?_, fun p hp => ?_, fun k _ => List.cons_ne_nil _ _, ?_, ?_⟩
  · have hback := Record.read_toValue hproper
    rwa [kind_of_read h] at hback
  · exact ⟨(hproper p hp).ne_empty, (hproper p hp).notBlank, (hproper p hp).trimmed⟩
  · rintro k rfl
    obtain rfl : .compositeKey = kind := kind_of_read h
    obtain ⟨_, hk, ⟨⟩⟩ := Checked.map_eq_ok h
    exact CompositeKey.listed_of_read hk
  · rintro o rfl
    obtain rfl : .fetchOptions = kind := kind_of_read h
    obtain ⟨_, ho, ⟨⟩⟩ := Checked.map_eq_ok h
    exact FetchOptions.bounds_of_read ho

/-- Converted and trimmed once, a uniqueness constraint with both forms of parts stays as it is. -/
theorem read_again_uniqueness :
    let v : Value := .object [("collection", .str "riders"),
      ("constraints", .list [
        .object [("kind", .str "composite"), ("composite", .list [
          .object [("name", .str " team.name\t"), ("value", .str "1_0"),
            ("case_sensitive", .str "Off")],
          .object [("name", .str "age"), ("value", .bool true)]])],
        .object [("kind", .str "unique"), ("unique", .object [("name", .str "email ")])]]),
      ("case_insensitive", .int 1),
      ("search", .object [("properties", .str "name, team"), ("terms", .list [.str "an"])])]
    let u : Uniqueness :=
      { collection := "riders"
        constraints := [.composite ⟨⟨"team.name", .str "1_0", false⟩, [⟨"age", .bool true, true⟩]⟩,
          .single ⟨"email", .null, true⟩]
        caseInsensitive := true
        search := some ⟨.one "name, team", .many ["an"], .any⟩ }
    RecordKind.uniqueness.read v = .ok (.uniqueness u) ∧
      RecordKind.uniqueness.read (Record.uniqueness u).toValue = .ok (.uniqueness u) ∧
      ∀ p ∈ (Record.uniqueness u).namedValues,
        p.name ≠ "" ∧ Text.isBlank p.name = false ∧ Text.trimmed p.name = p.name := by
  intro v u
  have hread : RecordKind.uniqueness.read v = .ok (.uniqueness u) := by with_unfolding_all rfl
  obtain ⟨hagain, hnames, -⟩ := read_again hread
  exact ⟨hread, hagain, hnames⟩

end RecordKind

end DocQuery
