import DocQuery.Value

/-!
# Parts of values

A value is plain, a list of values or an object of values, and so on to any depth.

*Induction.*  `Value.byParts` proves a property of every value from its items and its fields, so
that a function that goes through lists and objects is followed without a recursion for each.

*Parts.*  `PartOf v w` says that `w` is `v` or holds `v` at some depth.  A bound on all texts or on
all lists of a value is a bound on its parts that are texts or lists; the parts of a list are the
list and the parts of its items (`partOf_list`), and likewise for an object (`partOf_object`).
-/

namespace DocQuery

namespace Value

/-- Whether a value is neither a list nor an object. -/
def isPlain (v : Value) : Bool := !v.isList && !v.isObject

theorem eq_of_text? {v : Value} {s : String} (h : v.text? = some s) : v = .str s := by
  cases v with
  | str s => exact congrArg _ (Option.some.inj h)
  | _ => cases h

/-- A property of plain values holds of every value if lists and objects take it over from what
they hold. -/
@[elab_as_elim]
theorem byParts {motive : Value → Prop} (plain : ∀ v : Value, v.isPlain = true → motive v)
    (list : ∀ items : List Value, (∀ v ∈ items, motive v) → motive (.list items))
    (object : ∀ fields : Fields, (∀ entry ∈ fields, motive entry.2) → motive (.object fields))
    (v : Value) : motive v :=
  @Value.rec motive (fun items => ∀ v ∈ items, motive v)
    (fun fields => ∀ entry ∈ fields, motive entry.2) (fun entry => motive entry.2)
    (plain _ rfl) (fun _ => plain _ rfl) (fun _ => plain _ rfl) (fun _ => plain _ rfl)
    (fun _ => plain _ rfl) list object
    nofun (fun _ _ hv hrest => List.forall_mem_cons.2 ⟨hv, hrest⟩)
    nofun (fun _ _ hentry hrest => List.forall_mem_cons.2 ⟨hentry, hrest⟩) (fun _ _ hv => hv) v

/-! ## What a value holds -/

/-- A value, or one that it holds at some depth. -/
inductive PartOf : Value → Value → Prop where
  /-- The value itself. -/
  | self (v : Value) : PartOf v v
  /-- A part of an item. -/
  | item {v w : Value} {items : List Value} (hw : w ∈ items) (h : PartOf v w) :
      PartOf v (.list items)
  /-- A part of what is in a field. -/
  | field {v : Value} {entry : String × Value} {fields : Fields} (hentry : entry ∈ fields)
      (h : PartOf v entry.2) : PartOf v (.object fields)

theorem partOf_plain {v w : Value} (h : w.isPlain = true) : PartOf v w ↔ v = w := by
  constructor
  · intro hpart
    cases hpart with
    | self => rfl
    | item => cases h
    | field => cases h
  · rintro rfl
    exact .self v

theorem partOf_list {v : Value} {items : List Value} :
    PartOf v (.list items) ↔ v = .list items ∨ ∃ w ∈ items, PartOf v w := by
  constructor
  · intro hpart
    cases hpart with
    | self => exact .inl rfl
    | item hw h => exact .inr ⟨_, hw, h⟩
  · rintro (rfl | ⟨w, hw, h⟩)
    · exact .self _
    · exact .item hw h

theorem partOf_object {v : Value} {fields : Fields} :
    PartOf v (.object fields) ↔ v = .object fields ∨ ∃ entry ∈ fields, PartOf v entry.2 := by
  constructor
  · intro hpart
    cases hpart with
    | self => exact .inl rfl
    | field hentry h => exact .inr ⟨_, hentry, h⟩
  · rintro (rfl | ⟨entry, hentry, h⟩)
    · exact .self _
    · exact .field hentry h

end Value

end DocQuery
