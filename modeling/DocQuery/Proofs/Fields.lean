import DocQuery.Value

/-!
# Laws of fields

`Fields` is a list in the order of setting, read as a dictionary.  The laws here say
what a name is bound to after setting, choosing and merging.

* *Lookup* after a merge: the value in the second dictionary where it has the name,
  otherwise the value in the first (`get?_merge`).  The second must not bind a name
  twice, which no dictionary does.
* *Choosing* fields by their names leaves the bindings of the chosen names (`get?_filter`).
* *Presence* after a merge: the name is in one of the two (`has_merge`).
* *Order* after a merge: names that are new stand behind the others (`merge_of_fresh`).
* *Keeping*: `Keeps out base` says that every binding of `base` is one of `out`, and
  `Agree` that two dictionaries have equal values wherever both have one.  A merge keeps
  the first dictionary exactly when the two agree (`keeps_merge_iff`).
* *Repeating*: to set or to merge what is there already changes nothing (`set_of_get?`,
  `merge_of_keeps`), so a merge done twice is done once (`merge_merge`).
-/

namespace DocQuery

namespace Fields

/-! ## Names -/

@[simp] theorem names_nil : names [] = [] := rfl

@[simp] theorem names_cons (name : String) (value : Value) (rest : Fields) :
    names ((name, value) :: rest) = name :: rest.names := rfl

@[simp] theorem names_append (fields more : Fields) :
    names (fields ++ more) = fields.names ++ more.names := List.map_append

theorem get?_eq_none_iff {fields : Fields} {name : String} :
    fields.get? name = none ↔ name ∉ fields.names := by
  induction fields with
  | nil => simp
  | cons entry rest ih =>
      obtain ⟨key, value⟩ := entry
      by_cases h : key = name
      · simp [get?, h]
      · simpa [get?, h, Ne.symm h] using ih

theorem get?_eq_some_iff {fields : Fields} (h : fields.names.Nodup) {name : String} {v : Value} :
    fields.get? name = some v ↔ (name, v) ∈ fields := by
  induction fields with
  | nil => simp
  | cons entry rest ih =>
      obtain ⟨key, value⟩ := entry
      obtain ⟨hkey, hrest⟩ := List.nodup_cons.1 h
      rw [get?, List.mem_cons, Prod.mk.injEq, ← ih hrest]
      by_cases hn : key = name
      · subst hn
        rw [if_pos rfl, get?_eq_none_iff.2 hkey]
        simp [eq_comm]
      · simp [hn, Ne.symm hn]

theorem mem_of_get? {fields : Fields} {name : String} {v : Value} (h : fields.get? name = some v) :
    (name, v) ∈ fields := by
  induction fields with
  | nil => cases h
  | cons entry rest ih =>
      obtain ⟨key, value⟩ := entry
      rw [get?] at h
      split at h
      case isTrue hkey =>
        obtain rfl := Option.some.inj h
        rw [hkey]
        exact List.mem_cons_self
      case isFalse => exact List.mem_cons_of_mem _ (ih h)

/-- Choosing fields by their names leaves what is bound to the chosen names. -/
theorem get?_filter (p : String → Bool) (fields : Fields) (name : String) :
    get? (fields.filter fun entry => p entry.1) name =
      if p name then fields.get? name else none := by
  induction fields with
  | nil => simp
  | cons entry rest ih =>
      obtain ⟨key, value⟩ := entry
      by_cases hkey : key = name
      · subst hkey
        cases hp : p key <;> simp_all [get?]
      · cases hp : p key <;> simp [hp, get?, hkey, ih]

theorem names_filter (p : String → Bool) (fields : Fields) :
    names (fields.filter fun entry => p entry.1) = fields.names.filter p := by
  rw [names, names, List.filter_map]
  rfl

theorem has_iff_mem {fields : Fields} {name : String} :
    fields.has name = true ↔ name ∈ fields.names := by
  rw [has, Option.isSome_iff_ne_none, ne_eq, get?_eq_none_iff, Decidable.not_not]

theorem has_of_get? {fields : Fields} {name : String} {v : Value} (h : fields.get? name = some v) :
    fields.has name = true := by
  rw [has, h]
  rfl

@[simp] theorem has_set (fields : Fields) (name other : String) (value : Value) :
    (fields.set name value).has other = true ↔ other = name ∨ fields.has other = true := by
  rw [has, get?_set]
  by_cases h : name = other
  · simp [h]
  · simp [h, Ne.symm h, has]

/-! ## Merging -/

@[simp] theorem merge_nil (fields : Fields) : fields.merge [] = fields := rfl

@[simp] theorem merge_cons (fields more : Fields) (name : String) (value : Value) :
    fields.merge ((name, value) :: more) = (fields.set name value).merge more := rfl

theorem merge_append (fields more most : Fields) :
    fields.merge (more ++ most) = (fields.merge more).merge most := by
  rw [merge, List.foldl_append]
  rfl

theorem has_merge (fields more : Fields) (name : String) :
    (fields.merge more).has name = true ↔ fields.has name = true ∨ name ∈ more.names := by
  induction more generalizing fields with
  | nil => simp
  | cons entry more ih =>
      obtain ⟨key, value⟩ := entry
      rw [merge_cons, ih, has_set, names_cons, List.mem_cons, or_comm (a := name = key), or_assoc]

/-- A merge binds a name as the second dictionary does, or else as the first. -/
theorem get?_merge (fields : Fields) {more : Fields} (h : more.names.Nodup) (name : String) :
    (fields.merge more).get? name = (more.get? name).or (fields.get? name) := by
  induction more generalizing fields with
  | nil => simp
  | cons entry more ih =>
      obtain ⟨key, value⟩ := entry
      obtain ⟨hkey, hmore⟩ := List.nodup_cons.1 h
      rw [merge_cons, ih _ hmore, get?_set, get?]
      by_cases hn : key = name
      · subst hn
        rw [get?_eq_none_iff.2 hkey, if_pos rfl, if_pos rfl]
        rfl
      · rw [if_neg hn, if_neg hn]

/-- A merge leaves the names alone that it does not bring along. -/
theorem get?_merge_of_not_mem (fields : Fields) {more : Fields} {name : String}
    (h : name ∉ more.names) : (fields.merge more).get? name = fields.get? name := by
  induction more generalizing fields with
  | nil => rfl
  | cons entry more ih =>
      obtain ⟨key, value⟩ := entry
      rw [names_cons, List.mem_cons, not_or] at h
      rw [merge_cons, ih _ h.2, get?_set, if_neg (Ne.symm h.1)]

/-- A name that is not there is put behind the others. -/
theorem set_of_not_mem {fields : Fields} {name : String} (h : name ∉ fields.names)
    (value : Value) : fields.set name value = fields ++ [(name, value)] := by
  induction fields with
  | nil => rfl
  | cons entry rest ih =>
      obtain ⟨key, old⟩ := entry
      rw [names_cons, List.mem_cons, not_or] at h
      rw [set, if_neg (Ne.symm h.1), ih h.2, List.cons_append]

/-- A merge with names that are all new puts them behind the others. -/
theorem merge_of_fresh {fields more : Fields} (hdistinct : more.names.Nodup)
    (hfresh : ∀ name ∈ more.names, name ∉ fields.names) :
    fields.merge more = fields ++ more := by
  induction more generalizing fields with
  | nil => simp
  | cons entry more ih =>
      obtain ⟨key, value⟩ := entry
      obtain ⟨hkey, hmore⟩ := List.nodup_cons.1 hdistinct
      obtain ⟨hnew, hrest⟩ := List.forall_mem_cons.1 hfresh
      rw [merge_cons, set_of_not_mem hnew, ih hmore, List.append_assoc, List.singleton_append]
      intro name hname hmem
      rw [names_append, List.mem_append] at hmem
      rcases hmem with hmem | hmem
      · exact hrest name hname hmem
      · obtain rfl := List.mem_singleton.1 hmem
        exact hkey hname

/-! ## Keeping bindings -/

/-- Every binding of `base` is one of `out`. -/
def Keeps (out base : Fields) : Prop :=
  ∀ name v, base.get? name = some v → out.get? name = some v

/-- Two dictionaries have equal values wherever both have one. -/
def Agree (one other : Fields) : Prop :=
  ∀ name v w, one.get? name = some v → other.get? name = some w → v = w

/-- A merge keeps the second dictionary. -/
theorem keeps_merge_right (fields : Fields) {more : Fields} (h : more.names.Nodup) :
    Keeps (fields.merge more) more := by
  intro name v hv
  rw [get?_merge fields h, hv]
  rfl

/-- A merge keeps the bindings of what the first dictionary keeps, exactly where they
agree with the second. -/
theorem keeps_merge_iff {fields base more : Fields} (h : more.names.Nodup)
    (hkeeps : Keeps fields base) : Keeps (fields.merge more) base ↔ Agree more base := by
  constructor
  · intro hmerge name v w hv hw
    have hout := hmerge name w hw
    rw [get?_merge fields h, hv] at hout
    exact Option.some.inj hout
  · intro hagree name w hw
    rw [get?_merge fields h]
    cases hv : more.get? name with
    | none => exact hkeeps name w hw
    | some v => rw [hagree name v w hv hw]; rfl

/-! ## Setting what is there -/

/-- Setting a value that is there already changes nothing. -/
theorem set_of_get? {fields : Fields} {name : String} {v : Value} (h : fields.get? name = some v) :
    fields.set name v = fields := by
  induction fields with
  | nil => cases h
  | cons entry rest ih =>
      obtain ⟨key, old⟩ := entry
      rw [get?] at h
      rw [set]
      by_cases hkey : key = name
      · rw [if_pos hkey] at h ⊢
        rw [Option.some.inj h]
      · rw [if_neg hkey] at h ⊢
        rw [ih h]

/-- Of two values under a name, the later one stays. -/
theorem set_set (fields : Fields) (name : String) (v w : Value) :
    (fields.set name v).set name w = fields.set name w := by
  induction fields with
  | nil => simp [set]
  | cons entry rest ih =>
      obtain ⟨key, old⟩ := entry
      by_cases hkey : key = name
      · simp [set, hkey]
      · simp [set, hkey, ih]

theorem names_set (fields : Fields) (name : String) (v : Value) :
    (fields.set name v).names =
      if name ∈ fields.names then fields.names else fields.names ++ [name] := by
  by_cases hname : name ∈ fields.names
  · rw [if_pos hname]
    induction fields with
    | nil => cases hname
    | cons entry rest ih =>
        obtain ⟨key, old⟩ := entry
        by_cases hkey : key = name
        · simp [set, hkey]
        · rw [names_cons, List.mem_cons, or_iff_right (Ne.symm hkey)] at hname
          rw [set, if_neg hkey, names_cons, names_cons, ih hname]
  · rw [if_neg hname, set_of_not_mem hname, names_append, names_cons, names_nil]

/-- Setting a value binds no name twice. -/
theorem nodup_names_set {fields : Fields} (h : fields.names.Nodup) (name : String) (v : Value) :
    (fields.set name v).names.Nodup := by
  rw [names_set]
  split
  · exact h
  · rename_i hname
    refine List.nodup_append.2 ⟨h, by simp, fun other hother last hlast => ?_⟩
    rw [List.mem_singleton.1 hlast]
    exact ne_of_mem_of_not_mem hother hname

/-- A merge with what is kept already changes nothing. -/
theorem merge_of_keeps {fields more : Fields} (hdistinct : more.names.Nodup)
    (h : Keeps fields more) : fields.merge more = fields := by
  induction more with
  | nil => rfl
  | cons entry more ih =>
      obtain ⟨key, v⟩ := entry
      obtain ⟨hkey, hmore⟩ := List.nodup_cons.1 hdistinct
      have hfirst : fields.get? key = some v := h key v (by rw [get?, if_pos rfl])
      rw [merge_cons, set_of_get? hfirst]
      refine ih hmore fun name w hw => h name w ?_
      have hne : key ≠ name := by
        rintro rfl
        rw [get?_eq_none_iff.2 hkey] at hw
        cases hw
      rw [get?, if_neg hne, hw]

/-- A second merge with the same changes nothing. -/
theorem merge_merge (fields : Fields) {more : Fields} (h : more.names.Nodup) :
    (fields.merge more).merge more = fields.merge more :=
  merge_of_keeps h (keeps_merge_right fields h)

theorem merge_self {fields : Fields} (h : fields.names.Nodup) : fields.merge fields = fields :=
  merge_of_keeps h fun _ _ hv => hv

end Fields

end DocQuery
