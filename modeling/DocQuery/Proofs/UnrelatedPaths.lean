import DocQuery.Proofs.PropertyPatch

/-!
# Unrelated paths

Two paths are *unrelated* if neither leads to where the other begins (`Unrelated`).  What is set at
one is not seen at the other, however long the way is that they have in common
(`Value.follow_written_of_unrelated`).

Properties at unrelated paths may be set in either order.  The documents that come out are not the
same terms, since a field that is new stands behind the others.  They are *alike* (`Value.Alike`):
objects in them have the same names, and alike values under each.  Alike documents have alike
values at every path (`Value.Alike.follow`), and equal ones where these are no objects.
-/

namespace DocQuery

open Request Session

/-! ## Alike values -/

/-- Equal values, apart from the order of the fields of objects.  Other than `Value.same`, every
value is alike to itself, also a double that is no number. -/
inductive Value.Alike : Value → Value → Prop where
  /-- A value and itself. -/
  | refl (v : Value) : Alike v v
  /-- Two objects with the same names and alike values under them. -/
  | object {fields others : Fields} (names : ∀ name, fields.has name = others.has name)
      (values : ∀ name, Alike (fields.getD name) (others.getD name)) :
      Alike (.object fields) (.object others)

namespace Value

namespace Alike

theorem of_entries {v w : Value} (hv : v.isObject = true) (hw : w.isObject = true)
    (names : ∀ name, v.entries.has name = w.entries.has name)
    (values : ∀ name, (v.field name).Alike (w.field name)) : v.Alike w := by
  cases v with
  | object fields =>
      cases w with
      | object others => exact .object names values
      | _ => cases hw
  | _ => cases hv

/-- Along every path, alike values lead to alike values. -/
theorem follow {v w : Value} (h : v.Alike w) (parts : List String) :
    (v.follow parts).Alike (w.follow parts) := by
  induction parts generalizing v w with
  | nil => exact h
  | cons part rest ih =>
      rw [follow_cons, follow_cons]
      cases h with
      | refl v => exact .refl _
      | object names values => exact ih (values part)

theorem eq_of_other {v w : Value} (h : v.Alike w) (hv : v.isObject = false) : v = w := by
  cases h with
  | refl v => rfl
  | object names values => cases hv

end Alike

/-! ## Writing at unrelated paths -/

/-- Where two paths part, the one that is written does not lead to the other. -/
theorem follow_written_of_unrelated {parts others : List String} (h : ¬ parts <+: others)
    (h' : ¬ others <+: parts) (old v : Value) :
    (old.written parts v).follow others = old.follow others := by
  induction parts generalizing others old with
  | nil => exact absurd List.nil_prefix h
  | cons part rest ih =>
      cases others with
      | nil => exact absurd List.nil_prefix h'
      | cons other more =>
          rw [follow_cons, follow_cons, field_written]
          by_cases hpart : part = other
          · -- They go the same way for one part more.
            subst hpart
            rw [List.prefix_cons_inj] at h h'
            rw [if_pos rfl, ih h h']
          · rw [if_neg hpart]

/-- What is written at paths that part at once may be written in either order. -/
theorem alike_written_of_ne {part other : String} (hpart : part ≠ other)
    (rest more : List String) (old v w : Value) :
    ((old.written (part :: rest) v).written (other :: more) w).Alike
      ((old.written (other :: more) w).written (part :: rest) v) := by
  have hother : other ≠ part := Ne.symm hpart
  refine .of_entries (isObject_written _ _ _ _) (isObject_written _ _ _ _) ?_ ?_
  · intro name
    simp only [has_written]
    by_cases hname : other = name
    · subst hname
      simp only [if_neg hpart, if_true]
    · simp only [if_neg hname]
  · intro name
    simp only [field_written, if_neg hpart, if_neg hother]
    by_cases hname : other = name
    · subst hname
      simp only [if_neg hpart, if_true]
      exact .refl _
    · simp only [if_neg hname]
      exact .refl _

/-- What is written at unrelated paths may be written in either order. -/
theorem alike_written {parts others : List String} (h : ¬ parts <+: others)
    (h' : ¬ others <+: parts) (old v w : Value) :
    ((old.written parts v).written others w).Alike ((old.written others w).written parts v) := by
  induction parts generalizing others old with
  | nil => exact absurd List.nil_prefix h
  | cons part rest ih =>
      cases others with
      | nil => exact absurd List.nil_prefix h'
      | cons other more =>
          by_cases hpart : part = other
          · subst hpart
            rw [List.prefix_cons_inj] at h h'
            refine .of_entries (isObject_written _ _ _ _) (isObject_written _ _ _ _) ?_ ?_
            · -- Both leave an object in the field that they have in common.
              have hrest : rest ≠ [] := by
                rintro rfl
                exact h List.nil_prefix
              have hmore : more ≠ [] := by
                rintro rfl
                exact h' List.nil_prefix
              intro name
              simp only [has_written, isNull_nestedValue (.inl hrest),
                isNull_nestedValue (.inl hmore)]
            · intro name
              simp only [field_written]
              by_cases hname : part = name
              · simp only [if_pos hname, if_true]
                exact ih h h' (old.field part)
              · simp only [if_neg hname]
                exact .refl _
          · exact alike_written_of_ne hpart rest more old v w

end Value

/-! ## Setting properties at unrelated paths -/

/-- Neither of two paths leads to where the other begins. -/
def Unrelated (path other : String) : Prop :=
  ¬ Value.pathParts path <+: Value.pathParts other ∧
    ¬ Value.pathParts other <+: Value.pathParts path

instance (path other : String) : Decidable (Unrelated path other) :=
  inferInstanceAs (Decidable (_ ∧ _))

/-- The patch that the query of a request binds; null if there is none. -/
def Request.patch (r : Request) : Value :=
  match r.query with
  | .ok q => q.binds.getD "patch"
  | .error _ => .null

namespace Database

open SharedDocument

/-- The document after a property of it was set. -/
def setting (equal : Value → Value → Bool) (db : Database) (collection : Value)
    (selector : Selector) (path : String) (v document : Value) : Value :=
  ((setProperty db collection selector (.str path) v).run (serve equal) document).state

section

variable {equal : Value → Value → Bool} {db : Database} {collection : Value} {selector : Selector}
  {key path : String} {fields : Fields} (hkey : fields.get? "_key" = some (.str key))
  (hread : Readable equal db collection selector (.object fields)) (hpath : segments path ≠ [])
  (hhead : (Value.pathParts path).head? ≠ some "_key")

include hkey hread hpath

theorem setting_eq (v : Value) :
    setting equal db collection selector path v (.object fields) =
      (Value.object fields).written (Value.pathParts path) v := by
  obtain ⟨calls, -, hreturns⟩ := returns_setProperty equal hkey db collection hread hpath v
  exact hreturns.state

include hhead

/-- At a path that does not lead to the key, the document keeps its key and is read again. -/
theorem setting_readable (v : Value) :
    ∃ later : Fields, setting equal db collection selector path v (.object fields) = .object later ∧
      later.get? "_key" = some (.str key) ∧
      ∀ again, Readable equal db collection again (.object fields) →
        Readable equal db collection again (.object later) := by
  rw [setting_eq hkey hread hpath]
  cases hparts : Value.pathParts path with
  | nil => exact absurd (by rw [segments, hparts]; rfl) hpath
  | cons part rest =>
      obtain ⟨later, hlater, hget⟩ := Value.written_object fields part rest v
      have hkey' : later.get? "_key" = some (.str key) := by
        rw [hget, if_neg (by rintro rfl; exact hhead (by rw [hparts]; rfl)), hkey]
      exact ⟨later, hlater, hkey', fun again hagain =>
        hagain.again equal hkey db collection hkey'⟩

/-- What is read afterwards is read of the merged document. -/
theorem reading_setting (v : Value) (any : String) :
    ((readProperty db collection selector (.str any)).run (serve equal)
        (setting equal db collection selector path v (.object fields))).result =
      .ok (((Value.object fields).written (Value.pathParts path) v).atPath any) := by
  obtain ⟨later, hlater, hkey', hagain⟩ := setting_readable hkey hread hpath hhead v
  rw [← setting_eq hkey hread hpath, hlater]
  exact result_readProperty equal hkey' db collection (hagain _ hread) any

/-- What is read after two properties were set is read of a document that both patches were
merged into. -/
theorem reading_setting_twice {other : String} (hother : segments other ≠ [])
    (hhead' : (Value.pathParts other).head? ≠ some "_key") (v w : Value) (any : String) :
    ((readProperty db collection selector (.str any)).run (serve equal)
        (setting equal db collection selector other w
          (setting equal db collection selector path v (.object fields)))).result =
      .ok ((((Value.object fields).written (Value.pathParts path) v).written
        (Value.pathParts other) w).atPath any) := by
  obtain ⟨first, hfirst, hkeyFirst, hreadFirst⟩ := setting_readable hkey hread hpath hhead v
  rw [← setting_eq hkey hread hpath, hfirst]
  exact reading_setting hkeyFirst (hreadFirst _ hread) hother hhead' w any

end

/-- Setting a property touches no unrelated one, and properties at unrelated paths may be set in
either order: by the patches that are merged into any document, and by the operations on a
document that has a key. -/
theorem unrelated_properties (equal : Value → Value → Bool) (db : Database) (collection : Value)
    {path other : String} (h : Unrelated path other) (v w : Value) :
    let patch (path : String) (v : Value) (key : Value) : Value :=
      (Request.setProperty collection key path v).patch
    (∀ (document key : Value), (document.revised (patch path v key)).atPath other =
      document.atPath other) ∧
    (∀ (document key : Value) (any : String),
      (((document.revised (patch path v key)).revised (patch other w key)).atPath any).Alike
        (((document.revised (patch other w key)).revised (patch path v key)).atPath any)) ∧
    ∀ (fields : Fields) (key : String) (selector : Selector),
      fields.get? "_key" = some (.str key) →
      Readable equal db collection selector (.object fields) →
      segments path ≠ [] → (Value.pathParts path).head? ≠ some "_key" →
      segments other ≠ [] → (Value.pathParts other).head? ≠ some "_key" →
        let set := setting equal db collection selector
        let reading (any : String) (document : Value) : Except Failure Value :=
          ((readProperty db collection selector (.str any)).run (serve equal) document).result
        reading other (set path v (.object fields)) = reading other (.object fields) ∧
        ∀ any, ∃ one two, reading any (set other w (set path v (.object fields))) = .ok one ∧
          reading any (set path v (set other w (.object fields))) = .ok two ∧ one.Alike two ∧
          (one.isObject = false → one = two) := by
  intro patch
  have hframe (document : Value) :
      (document.written (Value.pathParts path) v).atPath other = document.atPath other :=
    Value.follow_written_of_unrelated h.1 h.2 document v
  have horder (document : Value) (any : String) :
      (((document.written (Value.pathParts path) v).written (Value.pathParts other) w).atPath
          any).Alike
        (((document.written (Value.pathParts other) w).written (Value.pathParts path) v).atPath
          any) :=
    (Value.alike_written h.1 h.2 document v w).follow (Value.pathParts any)
  refine ⟨fun document key => hframe document, fun document key any => horder document any, ?_⟩
  intro fields key selector hkey hread hpath hhead hother hhead' set reading
  refine ⟨?_, fun any => ?_⟩
  · have hbefore : reading other (.object fields) = .ok ((Value.object fields).atPath other) :=
      result_readProperty equal hkey db collection hread other
    rw [hbefore, ← hframe (.object fields)]
    exact reading_setting hkey hread hpath hhead v other
  · exact ⟨_, _, reading_setting_twice hkey hread hpath hhead hother hhead' v w any,
      reading_setting_twice hkey hread hother hhead' hpath hhead w v any,
      horder (.object fields) any, (horder (.object fields) any).eq_of_other⟩

/-- Wins and podiums of a cyclist, one of which is removed. -/
theorem wins_and_podiums :
    let set := setting Value.same cycling (.str "cyclists") (.value (.str "1"))
    Unrelated "results.wins" "results.podiums" ∧
      ((readProperty cycling (.str "cyclists") (.value (.str "1")) (.str "results.podiums")).run
          (serve Value.same) (set "results.wins" .null (.object (winner 2)))).result =
        .ok (.int 7) := by
  have hunrelated : Unrelated "results.wins" "results.podiums" := by decide
  have hread : Readable Value.same cycling (.str "cyclists") (.value (.str "1"))
      (.object (winner 2)) := ⟨_, rfl⟩
  obtain ⟨-, -, hserved⟩ := unrelated_properties Value.same cycling (.str "cyclists") hunrelated
    .null (.int 8)
  obtain ⟨hkept, -⟩ := hserved (winner 2) "1" (.value (.str "1")) rfl hread (by decide) (by decide)
    (by decide) (by decide)
  refine ⟨hunrelated, hkept.trans ?_⟩
  rfl

end Database

end DocQuery
