import DocQuery.Proofs.Resolution

/-!
# Names of parameters do not meet

Parameters are called by a stem, a word and a number.  The number is the longest row of
digits at the end, so both the number and what stands in front of it can be read off the
name (`append_toString_inj`).

* Two named values never share a parameter, as they have different numbers; the property
  and the value of one have different words (`NamedValue.bindingsFrom_nodup`).
* Parameters of named values are none of a search, even when a property is called
  `search`, because of their words (`Numbered.not_mem_search`).
* The fixed names have no number, so they are none of them (`append_toString_ne`).

So what the parts of a query bind survives the merging with what later parts bind
(`Gives.merge`).
-/

namespace DocQuery

/-! ## Numbers at the end of names -/

/-- A text that does not end with a digit. -/
def EndsWordlike (s : String) : Prop := ∀ c ∈ s.toList.getLast?, c.isDigit = false

theorem EndsWordlike.append {word : String} (h : EndsWordlike word) (hne : word ≠ "")
    (stem : String) : EndsWordlike (stem ++ word) := by
  intro c hc
  have hword : word.toList ≠ [] := fun hnil => hne (String.toList_eq_nil_iff.1 hnil)
  rw [String.toList_append, List.getLast?_append_of_ne_nil _ hword] at hc
  exact h c hc

theorem reverse_numbered (s : String) (number : Nat) :
    (s ++ toString number).toList.reverse =
      (toString number).toList.reverse ++ s.toList.reverse := by
  rw [String.toList_append, List.reverse_append]

theorem takeWhile_numbered {s : String} (h : EndsWordlike s) (number : Nat) :
    (s ++ toString number).toList.reverse.takeWhile Char.isDigit =
      (toString number).toList.reverse := by
  have hdigits : ∀ c ∈ (toString number).toList.reverse, c.isDigit = true :=
    fun c hc => isDigit_of_mem_toString (List.mem_reverse.1 hc)
  rw [reverse_numbered, List.takeWhile_append_of_pos hdigits]
  cases hs : s.toList.reverse with
  | nil => simp
  | cons c rest =>
      have hlast : c.isDigit = false := h c (by rw [← List.head?_reverse, hs]; rfl)
      rw [List.takeWhile_cons_of_neg (by simp [hlast]), List.append_nil]

/-- The number of a name and what stands in front of it can be read off the name. -/
theorem append_toString_inj {s t : String} {m n : Nat} (hs : EndsWordlike s) (ht : EndsWordlike t)
    (h : s ++ toString m = t ++ toString n) : s = t ∧ m = n := by
  have hdigits := takeWhile_numbered hs m
  rw [h, takeWhile_numbered ht n, List.reverse_inj, String.toList_inj] at hdigits
  obtain rfl : n = m := Nat.repr_injective hdigits
  exact ⟨String.append_left_inj _ |>.1 h, rfl⟩

theorem append_toString_ne {s fixed : String} {number : Nat} (h : EndsWordlike fixed) :
    s ++ toString number ≠ fixed := by
  rintro rfl
  have hne : (toString number).toList ≠ [] := fun hnil =>
    (isName_toString number).1 (String.toList_eq_nil_iff.1 hnil)
  have hlast : (s ++ toString number).toList.getLast? =
      some ((toString number).toList.getLast hne) := by
    rw [String.toList_append, List.getLast?_append_of_ne_nil _ hne, List.getLast?_eq_some_getLast]
  have hdigit := isDigit_of_mem_toString (List.getLast_mem hne)
  rw [h _ hlast] at hdigit
  cases hdigit

/-- A parameter of the named value of a number. -/
def Numbered (number : Nat) (name : String) : Prop :=
  ∃ stem, ∃ word ∈ ["_key_", "_val_"], name = stem ++ word ++ toString number

theorem endsWordlike_word {word : String} (h : word ∈ ["_key_", "_val_"]) (stem : String) :
    EndsWordlike (stem ++ word) := by
  have hword : EndsWordlike word ∧ word ≠ "" := by
    simp only [List.mem_cons, List.not_mem_nil, or_false] at h
    obtain rfl | rfl := h
    · exact ⟨by intro c hc; cases hc; rfl, by decide⟩
    · exact ⟨by intro c hc; cases hc; rfl, by decide⟩
  exact hword.1.append hword.2 stem

namespace Numbered

theorem number_eq {i j : Nat} {name : String} (h : Numbered i name) (h' : Numbered j name) :
    i = j := by
  obtain ⟨stem, word, hword, rfl⟩ := h
  obtain ⟨stem', word', hword', hname⟩ := h'
  exact (append_toString_inj (endsWordlike_word hword stem) (endsWordlike_word hword' stem')
    hname).2

theorem ne_of_endsWordlike {number : Nat} {name fixed : String} (h : Numbered number name)
    (hfixed : EndsWordlike fixed) : name ≠ fixed := by
  obtain ⟨stem, word, -, rfl⟩ := h
  exact append_toString_ne hfixed

/-- A stem and a word never are the beginning that a search gives its parameters. -/
theorem ne_search {stem word beginning : String} (hword : word ∈ ["_key_", "_val_"])
    (hbeginning : beginning ∈ ["search_prop_", "search_term_"]) : stem ++ word ≠ beginning := by
  intro h
  -- the letters in front of the last underscore are y, l, p and m
  have hletter := congrArg (fun s => s.toList.reverse[1]?) h
  simp only [List.mem_cons, List.not_mem_nil, or_false] at hword hbeginning
  obtain rfl | rfl := hword <;> obtain rfl | rfl := hbeginning <;> simp at hletter

theorem ne_parameter {i j : Nat} {name : String} (h : Numbered i name) :
    name ≠ Search.propertyParameter j ∧ name ≠ Search.termParameter j := by
  obtain ⟨stem, word, hword, rfl⟩ := h
  have hsearch : EndsWordlike "search_prop_" ∧ EndsWordlike "search_term_" := by
    constructor <;> (intro c hc; cases hc; rfl)
  constructor
  · intro hname
    exact ne_search hword (by simp)
      (append_toString_inj (endsWordlike_word hword stem) hsearch.1 hname).1
  · intro hname
    exact ne_search hword (by simp)
      (append_toString_inj (endsWordlike_word hword stem) hsearch.2 hname).1

end Numbered

/-! ## Names that named values bind -/

namespace NamedValue

theorem numbered_of_mem {ignoreCase : Bool} {number : Nat} {ps : List NamedValue} {name : String}
    (h : name ∈ (bindingsFrom ignoreCase number ps).names) :
    ∃ k, number ≤ k ∧ Numbered k name := by
  induction ps generalizing number with
  | nil => cases h
  | cons p rest ih =>
      rw [bindingsFrom, Fields.names_append, List.mem_append] at h
      obtain h | h := h
      · refine ⟨number, le_refl number, bindName p.name, ?_⟩
        simpa [bindings, parameters] using h
      · obtain ⟨k, hk, hname⟩ := ih h
        exact ⟨k, by omega, hname⟩

/-- No two named values share a parameter. -/
theorem bindingsFrom_nodup (ignoreCase : Bool) (number : Nat) (ps : List NamedValue) :
    (bindingsFrom ignoreCase number ps).names.Nodup := by
  induction ps generalizing number with
  | nil => exact List.nodup_nil
  | cons p rest ih =>
      have hboth : (p.parameters number).1 ≠ (p.parameters number).2 := by
        intro h
        have hword := String.append_right_inj _ |>.1 (String.append_left_inj _ |>.1 h)
        revert hword
        decide
      rw [bindingsFrom, Fields.names_append, List.nodup_append]
      refine ⟨by simpa [bindings] using hboth, ih (number + 1), ?_⟩
      intro name hfirst _ hlater hsame
      subst hsame
      have hnumber : Numbered number name := by
        refine ⟨bindName p.name, ?_⟩
        simpa [bindings, parameters] using hfirst
      obtain ⟨k, hk, hname⟩ := numbered_of_mem hlater
      have hequal := hnumber.number_eq hname
      omega

theorem bindingsFrom_append (ignoreCase : Bool) (number : Nat) (ps qs : List NamedValue) :
    bindingsFrom ignoreCase number (ps ++ qs) =
      bindingsFrom ignoreCase number ps ++ bindingsFrom ignoreCase (number + ps.length) qs := by
  induction ps generalizing number with
  | nil => rfl
  | cons p rest ih =>
      rw [List.cons_append, bindingsFrom, ih, bindingsFrom, List.length_cons, List.append_assoc]
      congr 3
      omega

end NamedValue

/-- The parts of a constraint bind what their named values do, in a row. -/
theorem Constraint.bindingsFrom_eq (ignoreCase : Bool) (number : Nat) (cs : List Constraint) :
    bindingsFrom ignoreCase number cs =
      NamedValue.bindingsFrom ignoreCase number (cs.flatMap members) := by
  induction cs generalizing number with
  | nil => rfl
  | cons c rest ih =>
      rw [bindingsFrom, ih, List.flatMap_cons, NamedValue.bindingsFrom_append]

/-- A name that a search binds is called by its beginning and a number. -/
theorem Search.exists_parameter {s : Search} {name : String} (h : name ∈ s.bindings.names) :
    ∃ k, name = propertyParameter k ∨ name = termParameter k := by
  obtain ⟨⟨other, v⟩, hmem, hname⟩ := List.mem_map.1 h
  obtain rfl : other = name := hname
  obtain ⟨k, property, term, -, hbinds⟩ := mem_bindingsFrom.1 hmem
  obtain ⟨hname, -⟩ | ⟨-, hname, -⟩ := hbinds
  · exact ⟨_, .inl hname⟩
  · exact ⟨_, .inr hname⟩

theorem Search.not_mem_of_endsWordlike {fixed : String} (h : EndsWordlike fixed) (s : Search) :
    fixed ∉ s.bindings.names := by
  intro hmem
  obtain ⟨k, hname | hname⟩ := exists_parameter hmem
  · exact append_toString_ne h hname.symm
  · exact append_toString_ne h hname.symm

theorem Numbered.not_mem_search {number : Nat} {name : String} (h : Numbered number name)
    (s : Search) : name ∉ s.bindings.names := by
  intro hmem
  obtain ⟨k, hname | hname⟩ := Search.exists_parameter hmem
  · exact h.ne_parameter.1 hname
  · exact h.ne_parameter.2 hname

/-- A name that no search gives out is not bound by a search that may be there. -/
theorem Search.not_mem_option {name : String} (h : ∀ s : Search, name ∉ s.bindings.names)
    (search : Option Search) : name ∉ ((search.map bindings).getD []).names := by
  cases search with
  | none => exact List.not_mem_nil
  | some s => exact h s

/-! ## Merging -/

theorem gives_of_nodup {fields : Fields} (h : fields.names.Nodup) : Gives fields.get? fields :=
  fun _ hmem => (Fields.get?_eq_some_iff h).2 hmem

/-- What is merged in is bound. -/
theorem gives_merge (fields : Fields) {more : Fields} (h : more.names.Nodup) :
    Gives (fields.merge more).get? more :=
  fun entry hmem => Fields.keeps_merge_right fields h entry.1 entry.2 (gives_of_nodup h entry hmem)

/-- What was bound stays so where other names are merged in. -/
theorem Gives.merge {fields entries : Fields} (h : Gives fields.get? entries) {more : Fields}
    (hmore : ∀ name ∈ entries.names, name ∉ more.names) :
    Gives (fields.merge more).get? entries := by
  intro entry hmem
  rw [Fields.get?_merge_of_not_mem fields (hmore entry.1 (List.mem_map_of_mem hmem))]
  exact h entry hmem

end DocQuery
