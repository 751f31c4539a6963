import DocQuery.Proofs.MergedPatch
import DocQuery.Proofs.ValueParts
import Mathlib.Data.List.Forall2

/-!
# Copies of values

What is stored and read again is a copy.  It is the value that was stored, except that a `nan` in it
may be another object than before (`Value.copied`).

*Copies.*  Copying commutes with reading and setting fields, with following a path and with writing
where one leads (`follow_copied`, `written_copied`).  A value is its own copy exactly when every
`nan` in it is kept (`copied_eq_self_iff`).

*Equality.*  A value is the same as itself unless it is `nan` (`same_self`).  A list or an object
is compared with its copy item by item, and a `nan` in it is found to be one object or else is not
equal.  So a value is the same as its copy exactly when it is not `nan` and every `nan` in it is
kept (`same_copied_iff`).  What is the same as a value has no other `nan` in it than the value has
(`Kept.of_same`).
-/

namespace DocQuery

open Request

namespace Value

/-! ## Copies -/

mutual

/-- A copy of a value, in which each `nan` is the object that stands for it. -/
def copied (copy : Nat → Nat) : Value → Value
  | .float (.nan o) => .float (.nan (copy o))
  | .list items => .list (copiedItems copy items)
  | .object fields => .object (copiedFields copy fields)
  | v => v
termination_by structural v => v

/-- Copies of items. -/
def copiedItems (copy : Nat → Nat) : List Value → List Value
  | [] => []
  | v :: rest => copied copy v :: copiedItems copy rest
termination_by structural vs => vs

/-- Copies of fields, under their names. -/
def copiedFields (copy : Nat → Nat) : List (String × Value) → List (String × Value)
  | [] => []
  | (name, v) :: rest => (name, copied copy v) :: copiedFields copy rest
termination_by structural vs => vs

end

end Value

/-- Copies of fields, under their names. -/
def Fields.copied (copy : Nat → Nat) (fields : Fields) : Fields :=
  fields.map fun entry => (entry.1, entry.2.copied copy)

namespace Value

/-- Whether a value is `nan`. -/
def isNan : Value → Bool
  | .float (.nan _) => true
  | _ => false

/-- Whether a copy has each `nan` of a value as the object that it is. -/
def Kept (copy : Nat → Nat) (v : Value) : Prop :=
  ∀ o, PartOf (.float (.nan o)) v → copy o = o

/-- Whether no object in a value has two fields of one name. -/
def Proper (v : Value) : Prop :=
  ∀ fields : Fields, PartOf (.object fields) v → fields.names.Nodup

section

variable {copy : Nat → Nat} {v w : Value} {items others : List Value} {fields : Fields}

theorem copied_list : (Value.list items).copied copy = .list (items.map (copied copy)) := by
  have hitems (items : List Value) : copiedItems copy items = items.map (copied copy) := by
    induction items with
    | nil => rfl
    | cons v rest ih => rw [copiedItems, ih, List.map_cons]
  rw [copied, hitems]

theorem copied_object :
    (Value.object fields).copied copy = .object (Fields.copied copy fields) := by
  have hfields (fields : Fields) : copiedFields copy fields = Fields.copied copy fields := by
    induction fields with
    | nil => rfl
    | cons entry rest ih =>
        rw [copiedFields, ih]
        rfl
  rw [copied, hfields]

theorem copied_plain (h : v.isPlain = true) (hnan : v.isNan = false) : v.copied copy = v := by
  cases v with
  | float x => cases x <;> first | rfl | cases hnan
  | list items => cases h
  | object fields => cases h
  | _ => rfl

theorem kept_list : (Value.list items).Kept copy ↔ ∀ v ∈ items, v.Kept copy := by
  constructor
  · exact fun h v hv o hpart => h o (.item hv hpart)
  · rintro h o hpart
    obtain hself | ⟨v, hv, hpart⟩ := partOf_list.1 hpart
    · cases hself
    · exact h v hv o hpart

theorem kept_object : (Value.object fields).Kept copy ↔ ∀ entry ∈ fields, entry.2.Kept copy := by
  constructor
  · exact fun h entry hentry o hpart => h o (.field hentry hpart)
  · rintro h o hpart
    obtain hself | ⟨entry, hentry, hpart⟩ := partOf_object.1 hpart
    · cases hself
    · exact h entry hentry o hpart

theorem kept_plain (h : v.isPlain = true) (hnan : v.isNan = false) : v.Kept copy := by
  intro o hpart
  rw [← (partOf_plain h).1 hpart] at hnan
  cases hnan

theorem kept_nan {o : Nat} : (Value.float (.nan o)).Kept copy ↔ copy o = o := by
  constructor
  · exact fun h => h o (.self _)
  · rintro h other hpart
    obtain rfl : other = o := by simpa using (partOf_plain rfl).1 hpart
    exact h

theorem eq_of_isNan (h : v.isNan = true) : ∃ o, v = .float (.nan o) := by
  cases v with
  | float x => cases x <;> first | exact ⟨_, rfl⟩ | cases h
  | _ => cases h

theorem map_eq_self_iff {α : Type} {f : α → α} {xs : List α} :
    xs.map f = xs ↔ ∀ x ∈ xs, f x = x := by
  have hmap := List.map_inj_left (l := xs) (f := f) (g := id)
  rwa [List.map_id] at hmap

/-- A value is its own copy exactly when every `nan` in it is kept. -/
theorem copied_eq_self_iff : v.copied copy = v ↔ v.Kept copy := by
  induction v using Value.byParts with
  | plain v hplain =>
      cases hnan : v.isNan with
      | false => exact iff_of_true (copied_plain hplain hnan) (kept_plain hplain hnan)
      | true =>
          obtain ⟨o, rfl⟩ := eq_of_isNan hnan
          rw [kept_nan, copied, float.injEq, Double.nan.injEq]
  | list items ih =>
      rw [copied_list, kept_list, list.injEq, map_eq_self_iff]
      exact forall₂_congr ih
  | object fields ih =>
      rw [copied_object, kept_object, object.injEq, Fields.copied, map_eq_self_iff]
      refine forall₂_congr fun entry hentry => ?_
      rw [← ih entry hentry, Prod.ext_iff]
      simp

theorem copied_copied (h : ∀ o, copy (copy o) = copy o) (v : Value) :
    (v.copied copy).copied copy = v.copied copy := by
  induction v using Value.byParts with
  | plain v hplain =>
      cases hnan : v.isNan with
      | false => rw [copied_plain hplain hnan, copied_plain hplain hnan]
      | true =>
          obtain ⟨o, rfl⟩ := eq_of_isNan hnan
          rw [copied, copied, h]
  | list items ih =>
      rw [copied_list, copied_list, List.map_map]
      exact congrArg Value.list (List.map_congr_left ih)
  | object fields ih =>
      rw [copied_object, copied_object, Fields.copied, Fields.copied, List.map_map]
      exact congrArg Value.object (List.map_congr_left fun entry hentry =>
        Prod.ext rfl (ih entry hentry))

theorem kept_id (v : Value) : v.Kept id := fun _ _ => rfl

@[simp] theorem copied_id (v : Value) : v.copied id = v := copied_eq_self_iff.2 (kept_id v)

theorem isNull_copied (copy : Nat → Nat) (v : Value) : (v.copied copy).isNull = v.isNull := by
  cases v with
  | float x => cases x <;> rfl
  | _ => rfl

theorem isObject_copied (copy : Nat → Nat) (v : Value) :
    (v.copied copy).isObject = v.isObject := by
  cases v with
  | float x => cases x <;> rfl
  | _ => rfl

theorem isList_copied (copy : Nat → Nat) (v : Value) : (v.copied copy).isList = v.isList := by
  cases v with
  | float x => cases x <;> rfl
  | _ => rfl

end

end Value

/-! ## Copies of fields -/

namespace Fields

variable (copy : Nat → Nat) (fields : Fields) (name : String)

theorem copied_copied (h : ∀ o, copy (copy o) = copy o) :
    (fields.copied copy).copied copy = fields.copied copy := by
  have hobject := Value.copied_copied h (.object fields)
  rwa [Value.copied_object, Value.copied_object, Value.object.injEq] at hobject

theorem get?_copied :
    (fields.copied copy).get? name = (fields.get? name).map (Value.copied copy) := by
  induction fields with
  | nil => rfl
  | cons entry rest ih =>
      obtain ⟨key, v⟩ := entry
      by_cases hkey : key = name
      · simp [copied, get?, hkey]
      · simpa [copied, get?, hkey] using ih

theorem getD_copied : (fields.copied copy).getD name = (fields.getD name).copied copy := by
  rw [getD, getD, get?_copied]
  cases fields.get? name <;> rfl

theorem set_copied (v : Value) :
    (fields.set name v).copied copy = (fields.copied copy).set name (v.copied copy) := by
  induction fields with
  | nil => rfl
  | cons entry rest ih =>
      obtain ⟨key, old⟩ := entry
      by_cases hkey : key = name
      · simp [copied, set, hkey]
      · simpa [copied, set, hkey] using ih

theorem without_copied : (fields.without name).copied copy = (fields.copied copy).without name := by
  rw [without, copied, copied, without, List.filter_map]
  rfl

theorem merge_copied (more : Fields) :
    (fields.merge more).copied copy = (fields.copied copy).merge (more.copied copy) := by
  induction more generalizing fields with
  | nil => rfl
  | cons entry rest ih =>
      rw [merge_cons, ih, set_copied]
      rfl

end Fields

/-! ## Copies along a path -/

namespace Value

variable (copy : Nat → Nat)

theorem entries_copied (v : Value) : (v.copied copy).entries = v.entries.copied copy := by
  cases v with
  | object fields => rw [copied_object]; rfl
  | float x => cases x <;> rfl
  | _ => rfl

theorem field_copied (v : Value) (name : String) :
    (v.copied copy).field name = (v.field name).copied copy := by
  rw [field, entries_copied, Fields.getD_copied, field]

/-- What a copy has at a path is a copy of what is there. -/
theorem follow_copied (v : Value) (parts : List String) :
    (v.copied copy).follow parts = (v.follow parts).copied copy := by
  induction parts generalizing v with
  | nil => cases v <;> rfl
  | cons part rest ih => rw [follow_cons, follow_cons, field_copied, ih]

theorem Kept.follow {copy : Nat → Nat} {v : Value} (h : v.Kept copy) (parts : List String) :
    (v.follow parts).Kept copy := by
  rw [← copied_eq_self_iff] at h ⊢
  rw [← follow_copied, h]

/-- To write a copy into a copy is to copy what is written. -/
theorem written_copied {v : Value} (hobject : v.isObject = false) (old : Value)
    (parts : List String) :
    (old.written parts v).copied copy = (old.copied copy).written parts (v.copied copy) := by
  induction parts generalizing old with
  | nil =>
      rw [written, nestedValue, revised_of_other hobject, written, nestedValue,
        revised_of_other ((isObject_copied copy v).trans hobject)]
  | cons part rest ih =>
      have hnull : (nestedValue rest (v.copied copy)).isNull = (nestedValue rest v).isNull := by
        cases rest with
        | nil => exact isNull_copied copy v
        | cons next others => rfl
      rw [written_cons, written_cons, copied_object, hnull, entries_copied, field_copied, ← ih]
      split
      · rw [Fields.without_copied]
      · rw [Fields.set_copied]

/-! ## Equality -/

section

variable {copy : Nat → Nat} {v w : Value} {items others : List Value} {fields more : Fields}

theorem sameItems_iff :
    sameItems items others = true ↔ List.Forall₂ (fun v w => v.alike w = true) items others := by
  induction items generalizing others with
  | nil => cases others <;> simp [sameItems]
  | cons v rest ih =>
      cases others with
      | nil => simp [sameItems]
      | cons w rest' =>
          rw [List.forall₂_cons, ← ih, sameItems, Bool.and_eq_true]
          rfl

theorem sameFields_iff :
    sameFields fields more = true ↔
      ∀ entry ∈ fields, ∃ w, more.get? entry.1 = some w ∧ entry.2.alike w = true := by
  induction fields with
  | nil => simp [sameFields]
  | cons entry rest ih =>
      obtain ⟨name, v⟩ := entry
      rw [sameFields, Bool.and_eq_true, ih, List.forall_mem_cons]
      refine and_congr_left fun _ => ?_
      cases more.get? name with
      | none => simp
      | some w => simp [alike]

theorem nan_same (o : Nat) (w : Value) : (Value.float (.nan o)).same w = false := by
  cases w with
  | float y => cases y <;> rfl
  | _ => rfl

theorem alike_nan_iff {o : Nat} : (Value.float (.nan o)).alike w = true ↔ w = .float (.nan o) := by
  rw [alike, nan_same, Bool.or_false]
  cases w with
  | float y =>
      cases y with
      | nan other =>
          rw [oneNan, Double.oneNan, beq_iff_eq, float.injEq, Double.nan.injEq, eq_comm]
      | _ => simp [oneNan, Double.oneNan]
  | _ => simp [oneNan]

theorem alike_eq_same (h : w.isNan = false) (v : Value) : v.alike w = v.same w := by
  have hdiffer : oneNan v w = false := by
    cases v with
    | float x =>
        cases w with
        | float y => cases x <;> cases y <;> first | rfl | cases h
        | _ => rfl
    | _ => rfl
  rw [alike, hdiffer, Bool.false_or]

theorem same_self_of_isPlain (h : v.isPlain = true) (hnan : v.isNan = false) :
    v.same v = true := by
  cases v with
  | null => rfl
  | bool b => simp [same, sameWorth, worth?, Worth.same]
  | int n => simp [same, sameWorth, worth?, Worth.same]
  | float x =>
      cases x with
      | nan o => cases hnan
      | _ => simp [same, sameWorth, worth?, Worth.same, Double.same]
  | str s => exact same_str_self s
  | list items => cases h
  | object fields => cases h

theorem same_list : (Value.list items).same w = true ↔
    ∃ others, w = .list others ∧ List.Forall₂ (fun v w => v.alike w = true) items others := by
  cases w with
  | list others => simp [same, sameItems_iff]
  | _ => simp [same]

theorem same_object : (Value.object fields).same w = true ↔ ∃ more : Fields, w = .object more ∧
    fields.length = more.length ∧
      ∀ entry ∈ fields, ∃ w, more.get? entry.1 = some w ∧ entry.2.alike w = true := by
  cases w with
  | object more => simp [same, sameFields_iff]
  | _ => simp [same]

theorem proper_plain (h : v.isPlain = true) : v.Proper := by
  intro fields hpart
  rw [← (partOf_plain h).1 hpart] at h
  cases h

theorem proper_list : (Value.list items).Proper ↔ ∀ v ∈ items, v.Proper := by
  constructor
  · exact fun h v hv fields hpart => h fields (.item hv hpart)
  · rintro h fields hpart
    obtain hself | ⟨v, hv, hpart⟩ := partOf_list.1 hpart
    · cases hself
    · exact h v hv fields hpart

theorem proper_object : (Value.object fields).Proper ↔
    fields.names.Nodup ∧ ∀ entry ∈ fields, entry.2.Proper := by
  constructor
  · exact fun h => ⟨h fields (.self _),
      fun entry hentry others hpart => h others (.field hentry hpart)⟩
  · rintro ⟨hdistinct, hentries⟩ others hpart
    obtain hself | ⟨entry, hentry, hpart⟩ := partOf_object.1 hpart
    · rwa [Value.object.inj hself]
    · exact hentries entry hentry others hpart

/-- What a list or an object holds is alike to its copy exactly when every `nan` in it is kept. -/
theorem alike_copied_iff (h : v.Proper) : (v.copied copy).alike v = true ↔ v.Kept copy := by
  induction v using Value.byParts with
  | plain v hplain =>
      cases hnan : v.isNan with
      | false =>
          refine iff_of_true ?_ (kept_plain hplain hnan)
          rw [copied_plain hplain hnan, alike_eq_same hnan, same_self_of_isPlain hplain hnan]
      | true =>
          obtain ⟨o, rfl⟩ := eq_of_isNan hnan
          rw [copied, alike_nan_iff, kept_nan, float.injEq, Double.nan.injEq, eq_comm]
  | list items ih =>
      rw [alike_eq_same rfl, copied_list, same_list, kept_list]
      simp only [list.injEq, exists_eq_left', List.forall₂_map_left_iff, List.forall₂_same]
      exact forall₂_congr fun v hv => ih v hv (proper_list.1 h v hv)
  | object fields ih =>
      obtain ⟨hdistinct, hproper⟩ := proper_object.1 h
      rw [alike_eq_same rfl, copied_object, same_object, kept_object]
      simp only [object.injEq, exists_eq_left', Fields.copied, List.length_map, true_and,
        List.forall_mem_map]
      refine forall₂_congr fun entry hentry => ?_
      rw [(Fields.get?_eq_some_iff hdistinct).2 hentry]
      simpa using ih entry hentry (hproper entry hentry)

/-- A value is the same as its copy exactly when it is not `nan` and every `nan` in it is kept. -/
theorem same_copied_iff (h : v.Proper) :
    (v.copied copy).same v = true ↔ v.isNan = false ∧ v.Kept copy := by
  cases hnan : v.isNan with
  | false => rw [← alike_eq_same hnan, alike_copied_iff h, and_iff_right rfl]
  | true =>
      obtain ⟨o, rfl⟩ := eq_of_isNan hnan
      rw [copied, nan_same]
      simp

/-- A value is the same as itself unless it is `nan`. -/
theorem same_self (h : v.Proper) : v.same v = !v.isNan := by
  have hself : (v.copied id).same v = true ↔ _ := same_copied_iff h
  rw [copied_id, and_iff_left (kept_id v)] at hself
  rw [Bool.eq_iff_iff, hself, Bool.not_eq_true']

theorem exists_alike (h : List.Forall₂ (fun v w => v.alike w = true) items others)
    (hv : v ∈ items) : ∃ w ∈ others, v.alike w = true := by
  induction h with
  | nil => cases hv
  | cons halike _ ih =>
      rcases List.mem_cons.1 hv with rfl | hrest
      · exact ⟨_, List.mem_cons_self, halike⟩
      · obtain ⟨w, hw, hvw⟩ := ih hrest
        exact ⟨w, List.mem_cons_of_mem _ hw, hvw⟩

/-- What is alike to a value has no `nan` in it that the value has not. -/
theorem Kept.of_alike (h : v.alike w = true) (hkept : w.Kept copy) : v.Kept copy := by
  induction v using Value.byParts generalizing w with
  | plain v hplain =>
      cases hnan : v.isNan with
      | false => exact kept_plain hplain hnan
      | true =>
          obtain ⟨o, rfl⟩ := eq_of_isNan hnan
          rwa [← alike_nan_iff.1 h]
  | list items ih =>
      have hsame : (Value.list items).same w = true := h
      obtain ⟨others, rfl, halike⟩ := same_list.1 hsame
      rw [kept_list] at hkept ⊢
      intro v hv
      obtain ⟨w, hw, hvw⟩ := exists_alike halike hv
      exact ih v hv hvw (hkept w hw)
  | object fields ih =>
      have hsame : (Value.object fields).same w = true := h
      obtain ⟨more, rfl, -, hfound⟩ := same_object.1 hsame
      rw [kept_object] at hkept ⊢
      intro entry hentry
      obtain ⟨w, hw, hvw⟩ := hfound entry hentry
      exact ih entry hentry hvw (hkept _ (Fields.mem_of_get? hw))

theorem Kept.of_same (h : v.same w = true) (hkept : w.Kept copy) : v.Kept copy :=
  .of_alike (by rw [alike, h, Bool.or_true]) hkept

end

end Value

end DocQuery
