import DocQuery.Proofs.Fields
import DocQuery.Proofs.StoredDocument

/-!
# Patches

A patch is an object that is merged into a document: objects are merged field by field, null
removes a field, and anything else is replaced (`Value.revised`).

A patch that is made of a path and a value writes the value where the path leads
(`Value.written`).  Everything about such a merge follows from one equation for the fields of what
comes out (`Value.field_written`): the first part of the path leads to where the rest is written,
and every other field is as before.  A field that is null and one that is not there are read
alike, so the equation has no case of its own for a value that is removed.
-/

namespace DocQuery

open Request

/-- The fields without one of a name. -/
def Fields.without (fields : Fields) (name : String) : Fields :=
  fields.filter fun entry => entry.1 ≠ name

theorem Fields.get?_without (fields : Fields) (name other : String) :
    (fields.without name).get? other = if name = other then none else fields.get? other := by
  rw [without, get?_filter fun key => decide (key ≠ name)]
  by_cases h : name = other
  · simp [h]
  · simp [h, Ne.symm h]

/-! ## Merging a patch -/

namespace Value

mutual

/-- A value with a patch merged into it: objects field by field, and anything else replaced. -/
def revised (old : Value) : Value → Value
  | .object patch => match old with
    | .object fields => .object (revisedFields fields patch)
    | _ => .object (revisedFields [] patch)
  | v => v
termination_by structural v => v

/-- Fields with a patch merged into them; null removes a field. -/
def revisedFields (fields : List (String × Value)) : List (String × Value) → List (String × Value)
  | [] => fields
  | (name, v) :: rest =>
      revisedFields (if v.isNull then Fields.without fields name
        else Fields.set fields name (revised (Fields.getD fields name) v)) rest
termination_by structural patch => patch

end

/-! ## Fields of what is no object -/

/-- The fields of an object; what is no object has none. -/
def entries (v : Value) : Fields := v.fields?.getD []

/-- What stands in a field; null where there is none. -/
def field (v : Value) (name : String) : Value := v.entries.getD name

theorem follow_cons (v : Value) (part : String) (rest : List String) :
    v.follow (part :: rest) = (v.field part).follow rest := by
  cases v with
  | object fields => rfl
  | _ => exact (follow_null rest).symm

/-! ## Writing at a path -/

/-- A value with another merged into it where a path leads. -/
def written (old : Value) (parts : List String) (v : Value) : Value :=
  old.revised (nestedValue parts v)

theorem revised_of_other {v : Value} (h : v.isObject = false) (old : Value) :
    old.revised v = v := by
  cases v with
  | object fields => cases h
  | _ => rfl

theorem written_cons (old : Value) (part : String) (rest : List String) (v : Value) :
    old.written (part :: rest) v = .object (if (nestedValue rest v).isNull
      then old.entries.without part
      else old.entries.set part ((old.field part).written rest v)) := by
  cases old <;> rfl

theorem isObject_written (old : Value) (part : String) (rest : List String) (v : Value) :
    (old.written (part :: rest) v).isObject = true := by
  rw [written_cons]
  rfl

/-- A patch is null only if null is set by it as a whole. -/
theorem isNull_nestedValue {parts : List String} {v : Value} (h : parts ≠ [] ∨ v.isNull = false) :
    (nestedValue parts v).isNull = false := by
  cases parts with
  | nil => exact h.resolve_left fun hne => hne rfl
  | cons part rest => rfl

theorem get?_written (old : Value) (part : String) (rest : List String) (v : Value)
    (name : String) :
    (old.written (part :: rest) v).entries.get? name =
      if part = name then
        if (nestedValue rest v).isNull then none else some ((old.field part).written rest v)
      else old.entries.get? name := by
  rw [written_cons]
  show Fields.get? (if _ then _ else _) name = _
  by_cases hnull : (nestedValue rest v).isNull = true
  · rw [if_pos hnull, if_pos hnull, Fields.get?_without]
  · rw [if_neg hnull, if_neg hnull, Fields.get?_set]

theorem has_written (old : Value) (part : String) (rest : List String) (v : Value)
    (name : String) :
    (old.written (part :: rest) v).entries.has name =
      if part = name then !(nestedValue rest v).isNull else old.entries.has name := by
  rw [Fields.has, get?_written]
  by_cases hpart : part = name
  · rw [if_pos hpart, if_pos hpart]
    cases (nestedValue rest v).isNull <;> rfl
  · rw [if_neg hpart, if_neg hpart]
    rfl

/-- A document that is written to is still one, with the other fields it had. -/
theorem written_object (fields : Fields) (part : String) (rest : List String) (v : Value) :
    ∃ later : Fields, (object fields).written (part :: rest) v = .object later ∧
      ∀ name, later.get? name =
        if part = name then
          if (nestedValue rest v).isNull then none
          else some (((object fields).field part).written rest v)
        else fields.get? name := by
  have hget := get?_written (.object fields) part rest v
  rw [written_cons] at hget ⊢
  exact ⟨_, rfl, hget⟩

theorem pathParts_ne_nil (path : String) : pathParts path ≠ [] := by
  rw [pathParts, Text.split, Ne, List.map_eq_nil_iff]
  exact Text.splitOn_ne_nil _ _

/-- What a document has it has after a value other than null was written. -/
theorem exists_written {fields : Fields} {name : String} {w : Value}
    (hname : fields.get? name = some w) (path : String) {v : Value} (hnull : v.isNull = false) :
    ∃ later : Fields, (object fields).written (pathParts path) v = .object later ∧
      ∃ w, later.get? name = some w := by
  cases hparts : pathParts path with
  | nil => exact absurd hparts (pathParts_ne_nil path)
  | cons part rest =>
      obtain ⟨later, hlater, hget⟩ := written_object fields part rest v
      refine ⟨later, hlater, ?_⟩
      rw [hget, isNull_nestedValue (.inr hnull)]
      by_cases hpart : part = name
      · exact ⟨_, if_pos hpart⟩
      · exact ⟨_, (if_neg hpart).trans hname⟩

theorem written_of_isNull {parts : List String} {v : Value} (h : (nestedValue parts v).isNull = true)
    (old : Value) : old.written parts v = .null := by
  cases hpatch : nestedValue parts v with
  | null => rw [written, hpatch, revised_of_other rfl]
  | _ =>
      rw [hpatch] at h
      cases h

/-- Only the field that the path begins with is written. -/
theorem field_written (old : Value) (part : String) (rest : List String) (v : Value)
    (name : String) :
    (old.written (part :: rest) v).field name =
      if part = name then (old.field part).written rest v else old.field name := by
  rw [field, Fields.getD, get?_written]
  by_cases hpart : part = name
  · rw [if_pos hpart, if_pos hpart]
    by_cases hnull : (nestedValue rest v).isNull = true
    · rw [if_pos hnull, written_of_isNull hnull, Option.getD_none]
    · rw [if_neg hnull, Option.getD_some]
  · rw [if_neg hpart, if_neg hpart]
    rfl

/-- What is written at a path is merged into what stood there. -/
theorem follow_written (old : Value) (parts : List String) (v : Value) :
    (old.written parts v).follow parts = (old.follow parts).revised v := by
  induction parts generalizing old with
  | nil => rfl
  | cons part rest ih => rw [follow_cons, field_written, if_pos rfl, ih, follow_cons]

/-! ## Writing what stands there -/

section

variable {old v : Value} {parts : List String} (hnull : v.isNull = false)
include hnull

/-- What leads to something is an object, with a field for the first part of the path. -/
theorem field_of_follow {part : String} {rest : List String}
    (h : old.follow (part :: rest) = v) :
    ∃ (fields : Fields) (w : Value), old = .object fields ∧ fields.get? part = some w ∧
      w.follow rest = v := by
  cases old with
  | object fields =>
      rw [follow, Fields.getD] at h
      cases hget : Fields.get? fields part with
      | none =>
          rw [hget, Option.getD_none, follow_null] at h
          rw [← h] at hnull
          cases hnull
      | some w =>
          rw [hget, Option.getD_some] at h
          exact ⟨fields, w, rfl, hget, h⟩
  | _ =>
      rw [← h] at hnull
      cases hnull

variable (hobject : v.isObject = false)
include hobject

/-- Writing what stands at a path changes nothing. -/
theorem written_of_follow (h : old.follow parts = v) : old.written parts v = old := by
  induction parts generalizing old with
  | nil => exact (revised_of_other hobject old).trans h.symm
  | cons part rest ih =>
      obtain ⟨fields, w, rfl, hget, hrest⟩ := field_of_follow hnull h
      have hfield : (Value.object fields).field part = w := by
        rw [field, Fields.getD]
        exact congrArg (Option.getD · _) hget
      rw [written_cons, isNull_nestedValue (.inr hnull), if_neg Bool.false_ne_true, hfield,
        ih hrest]
      exact congrArg Value.object (Fields.set_of_get? hget)

/-- What stood at a path before a change there may be written back. -/
theorem written_patched (h : old.follow parts = v) (new : Value) :
    (old.patched (nestedValue parts new)).written parts v = old := by
  induction parts generalizing old with
  | nil => exact (revised_of_other hobject _).trans h.symm
  | cons part rest ih =>
      obtain ⟨fields, w, rfl, hget, hrest⟩ := field_of_follow hnull h
      have hold : fields.getD part = w := by rw [Fields.getD, hget, Option.getD_some]
      rw [patched_nestedValue, hold, written_cons, isNull_nestedValue (.inr hnull),
        if_neg Bool.false_ne_true]
      have hfield : (Value.object (fields.set part (w.patched (nestedValue rest new)))).field part =
          w.patched (nestedValue rest new) := by
        rw [field, Fields.getD]
        exact congrArg (Option.getD · _) (Fields.get?_set_self _ _ _)
      rw [hfield, ih hrest]
      exact congrArg Value.object ((Fields.set_set _ _ _ _).trans (Fields.set_of_get? hget))

end

end Value

end DocQuery
