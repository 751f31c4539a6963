import DocQuery.Schema.Scalar

/-!
# Reading what was written

What a record holds is written into the fields of an object and read from there.

*Reading a written field.*  A field is read where it stands (`required_self`, `optional_self`), and
the fields in front of it do not count (`required_of_ne`, `optional_of_ne`).  A list is read back
when its items are (`each_list`), and what may be null when what is there is (`nullable_write`).

*What was read.*  In the other direction, a reading that gives a record takes it from a field or an
item that gives a part of it (`required_eq_ok`, `optional_eq_ok`, `each_eq_ok`).
-/

namespace DocQuery

namespace Schema

variable {α β : Type}

/-! ## Outcomes -/

theorem Checked.map_of_ok {c : Checked α} {a : α} (f : α → β) (h : c = .ok a) :
    f <$> c = .ok (f a) := by rw [h, Checked.map_ok]

theorem Checked.andThen_eq_ok {c : Checked α} {f : α → Checked β} {b : β}
    (h : c.andThen f = .ok b) : ∃ a, c = .ok a ∧ f a = .ok b := by
  cases c with
  | ok a => exact ⟨a, rfl, h⟩
  | bad issues => cases h

/-! ## Values -/

@[simp] theorem text_str (s : String) : text (.str s) = .ok s := rfl

@[simp] theorem truth_bool (b : Bool) : truth (.bool b) = .ok b := rfl

@[simp] theorem whole_int (n : Int) : whole (.int n) = .ok n := rfl

@[simp] theorem fieldsOf_object (fields : Fields) : fieldsOf (.object fields) = .ok fields := rfl

@[simp] theorem anything_ok (v : Value) : anything v = .ok v := rfl

@[simp] theorem record_object (read : Fields → Checked α) (fields : Fields) :
    record read (.object fields) = read fields := rfl

@[simp] theorem count_int (n : Nat) : count (.int n) = .ok n := by
  have hn : ¬ (n : Int) < 0 := Int.not_lt.2 (Int.natCast_nonneg n)
  simp [count, Checked.andThen, countOfWhole, hn]

/-- A list is read when each of its items is. -/
theorem each_list {read : Value → Checked α} (write : α → Value) {items : List α}
    (h : ∀ a ∈ items, read (write a) = .ok a) :
    each read (.list (items.map write)) = .ok items := by
  have hfrom (n : Nat) : eachFrom read n (items.map write) = .ok items := by
    induction items generalizing n with
    | nil => rfl
    | cons a rest ih =>
        obtain ⟨ha, hrest⟩ := List.forall_mem_cons.1 h
        simp [eachFrom, ha, ih hrest]
  exact hfrom 0

@[simp] theorem each_text (texts : List String) : each text (.ofTexts texts) = .ok texts :=
  each_list .str fun _ _ => rfl

@[simp] theorem each_anything (items : List Value) : each anything (.list items) = .ok items := by
  have hid : items.map id = items := List.map_id items
  rw [← hid]
  exact (each_list id fun _ _ => rfl).trans (congrArg _ hid.symm)

/-! ## Fields -/

section

variable (read : Value → Checked α) (rest : Fields) {key name : String} (v : Value) (absent : α)

@[simp] theorem required_self :
    required read ((name, v) :: rest) name = (read v).under (.key name) := by
  simp [required, Fields.get?]

@[simp] theorem required_of_ne (h : key ≠ name) :
    required read ((key, v) :: rest) name = required read rest name := by
  simp [required, Fields.get?, h]

@[simp] theorem optional_self :
    optional read ((name, v) :: rest) name absent = (read v).under (.key name) := by
  simp [optional, Fields.get?]

@[simp] theorem optional_of_ne (h : key ≠ name) :
    optional read ((key, v) :: rest) name absent = optional read rest name absent := by
  simp [optional, Fields.get?, h]

@[simp] theorem nullableField_self :
    nullableField read ((name, v) :: rest) name = (nullable read v).under (.key name) :=
  optional_self ..

@[simp] theorem nullableField_of_ne (h : key ≠ name) :
    nullableField read ((key, v) :: rest) name = nullableField read rest name :=
  optional_of_ne _ _ _ _ h

end

/-- What may be null is read when it is null or is read. -/
theorem nullable_write {read : Value → Checked α} (write : Option α → Value)
    (hnone : write none = .null)
    (hsome : ∀ a, write (some a) ≠ .null ∧ read (write (some a)) = .ok a) (o : Option α) :
    nullable read (write o) = .ok o := by
  cases o with
  | none => rw [hnone, nullable]
  | some a =>
      obtain ⟨hne, hread⟩ := hsome a
      rw [nullable, hread, Checked.map_ok]
      exact hne

@[simp] theorem nullable_text (o : Option String) : nullable text (.ofText? o) = .ok o :=
  nullable_write Value.ofText? rfl (fun _ => ⟨Value.noConfusion, rfl⟩) o

/-! ## What was read -/

theorem record_eq_ok {read : Fields → Checked α} {v : Value} {a : α} (h : record read v = .ok a) :
    ∃ fields, v = .object fields ∧ read fields = .ok a := by
  cases v with
  | object fields => exact ⟨fields, rfl, h⟩
  | _ => cases h

theorem required_eq_ok {read : Value → Checked α} {fields : Fields} {name : String} {a : α}
    (h : required read fields name = .ok a) :
    ∃ v, fields.get? name = some v ∧ read v = .ok a := by
  unfold required at h
  split at h
  case h_1 v hv => exact ⟨v, hv, Checked.under_eq_ok h⟩
  case h_2 => cases h

theorem optional_eq_ok {read : Value → Checked α} {fields : Fields} {name : String} {absent a : α}
    (h : optional read fields name absent = .ok a) : a = absent ∨ ∃ v, read v = .ok a := by
  unfold optional at h
  split at h
  case h_1 v _ => exact .inr ⟨v, Checked.under_eq_ok h⟩
  case h_2 =>
    cases h
    exact .inl rfl

theorem each_eq_ok {read : Value → Checked α} {v : Value} {items : List α}
    (h : each read v = .ok items) : ∀ a ∈ items, ∃ w, read w = .ok a := by
  have hfrom (values : List Value) (n : Nat) (items : List α)
      (h : eachFrom read n values = .ok items) : ∀ a ∈ items, ∃ w, read w = .ok a := by
    induction values generalizing n items with
    | nil =>
        cases h
        exact fun _ ha => nomatch ha
    | cons w rest ih =>
        obtain ⟨_, others, hfirst, hrest, rfl⟩ := Checked.seq_eq_ok h
        obtain ⟨first, hread, rfl⟩ := Checked.map_eq_ok hfirst
        exact List.forall_mem_cons.2 ⟨⟨w, Checked.under_eq_ok hread⟩, ih _ _ hrest⟩
  cases v with
  | list values => exact hfrom values 0 items h
  | _ => cases h

theorem countOfWhole_eq_ok {i : Int} {n : Nat} (h : countOfWhole i = .ok n) : i = n := by
  unfold countOfWhole at h
  split at h
  case isTrue => cases h
  case isFalse hi =>
    cases h
    exact (Int.toNat_of_nonneg (Int.not_lt.1 hi)).symm

/-- A bound is the whole number that its field says, if any. -/
theorem nullableField_whole_of_count {fields : Fields} {name : String} {n : Option Nat}
    (h : nullableField count fields name = .ok n) :
    nullableField whole fields name = .ok (n.map Int.ofNat) := by
  unfold nullableField Schema.optional at h ⊢
  split at h
  case h_2 =>
    cases h
    rfl
  case h_1 v hv =>
    have hcount := Checked.under_eq_ok h
    cases v with
    | null =>
        cases hcount
        rfl
    | _ =>
        obtain ⟨m, hm, rfl⟩ := Checked.map_eq_ok hcount
        obtain ⟨i, hi, hcount⟩ := Checked.andThen_eq_ok hm
        rw [countOfWhole_eq_ok hcount] at hi
        simp only [nullable, hi, Checked.map_ok, Checked.under_ok]
        rfl

end Schema

end DocQuery
