import DocQuery.Proofs.JsonCharacters

/-!
# Commas in JSON texts

The JSON text of a value has a comma for two reasons only.  A text that it holds, or a name, has
one; or a list or an object has two entries, with a comma between them.  `Value.Commaless` says
that neither is so, and `not_mem_write_iff` that this is what it takes: numbers are written without
commas (`not_mem_of_isNumberChar`), and an escaped character is a comma only if the character is one
(`mem_escapedChar_iff`).
-/

namespace DocQuery

namespace Value

/-- No text and no name has a comma, and no list and no object has two entries, at any depth. -/
structure Commaless (v : Value) : Prop where
  texts : ∀ s, PartOf (.str s) v → ',' ∉ s.toList
  lists : ∀ items, PartOf (.list items) v → items.length ≤ 1
  objects : ∀ fields : Fields, PartOf (.object fields) v →
    fields.length ≤ 1 ∧ ∀ entry ∈ fields, ',' ∉ entry.1.toList

theorem commaless_text {s : String} : (Value.str s).Commaless ↔ ',' ∉ s.toList := by
  refine ⟨fun h => h.texts s (.self _), fun h => ⟨fun t ht => ?_, fun items hitems => ?_,
    fun fields hfields => ?_⟩⟩
  · obtain rfl := Value.str.inj ((partOf_plain rfl).1 ht)
    exact h
  · exact nomatch (partOf_plain rfl).1 hitems
  · exact nomatch (partOf_plain rfl).1 hfields

theorem commaless_plain {v : Value} (h : v.isPlain = true) (htext : v.text? = none) :
    v.Commaless := by
  refine ⟨fun s hs => ?_, fun items hitems => ?_, fun fields hfields => ?_⟩
  · rw [← (partOf_plain h).1 hs] at htext
    cases htext
  · rw [← (partOf_plain h).1 hitems] at h
    cases h
  · rw [← (partOf_plain h).1 hfields] at h
    cases h

theorem commaless_list {items : List Value} :
    (Value.list items).Commaless ↔ items.length ≤ 1 ∧ ∀ v ∈ items, v.Commaless := by
  constructor
  · intro h
    exact ⟨h.lists items (.self _), fun v hv => ⟨fun s hs => h.texts s (.item hv hs),
      fun others hothers => h.lists others (.item hv hothers),
      fun fields hfields => h.objects fields (.item hv hfields)⟩⟩
  · rintro ⟨hfew, hitems⟩
    refine ⟨fun s hs => ?_, fun others hothers => ?_, fun fields hfields => ?_⟩
    · obtain hself | ⟨v, hv, hpart⟩ := partOf_list.1 hs
      · cases hself
      · exact (hitems v hv).texts s hpart
    · obtain hself | ⟨v, hv, hpart⟩ := partOf_list.1 hothers
      · rwa [Value.list.inj hself]
      · exact (hitems v hv).lists others hpart
    · obtain hself | ⟨v, hv, hpart⟩ := partOf_list.1 hfields
      · cases hself
      · exact (hitems v hv).objects fields hpart

theorem commaless_object {fields : Fields} :
    (Value.object fields).Commaless ↔
      fields.length ≤ 1 ∧ ∀ entry ∈ fields, ',' ∉ entry.1.toList ∧ entry.2.Commaless := by
  constructor
  · intro h
    obtain ⟨hfew, hnames⟩ := h.objects fields (.self _)
    exact ⟨hfew, fun entry hentry => ⟨hnames entry hentry,
      fun s hs => h.texts s (.field hentry hs),
      fun items hitems => h.lists items (.field hentry hitems),
      fun others hothers => h.objects others (.field hentry hothers)⟩⟩
  · rintro ⟨hfew, hentries⟩
    refine ⟨fun s hs => ?_, fun items hitems => ?_, fun others hothers => ?_⟩
    · obtain hself | ⟨entry, hentry, hpart⟩ := partOf_object.1 hs
      · cases hself
      · exact (hentries entry hentry).2.texts s hpart
    · obtain hself | ⟨entry, hentry, hpart⟩ := partOf_object.1 hitems
      · cases hself
      · exact (hentries entry hentry).2.lists items hpart
    · obtain hself | ⟨entry, hentry, hpart⟩ := partOf_object.1 hothers
      · rw [Value.object.inj hself]
        exact ⟨hfew, fun entry hentry => (hentries entry hentry).1⟩
      · exact (hentries entry hentry).2.objects others hpart

end Value

namespace Json

/-! ## Numbers -/

theorem not_mem_of_isNumberChar {cs : List Char} (h : ∀ c ∈ cs, isNumberChar c = true) :
    ',' ∉ cs := fun hc => absurd (h _ hc) (by decide)

/-! ## Texts -/

theorem not_mem_hex (width n : Nat) : ',' ∉ Text.hex width n := by
  induction width generalizing n with
  | zero => exact List.not_mem_nil
  | succ width ih =>
      rw [Text.hex, List.mem_append, List.mem_singleton, not_or]
      refine ⟨ih _, fun h => ?_⟩
      have hdigit : ∀ digit < 16, ',' ≠ Text.hexDigit digit := by decide
      exact hdigit _ (Nat.mod_lt n (by decide)) h

theorem not_mem_codeUnits (c : Char) : ',' ∉ codeUnits c := by
  rw [codeUnits]
  split
  · simp [not_mem_hex]
  · split <;> simp [not_mem_hex]

/-- An escaped character has a comma only if it is one. -/
theorem mem_escapedChar_iff {c : Char} : ',' ∈ escapedChar c ↔ c = ',' := by
  by_cases hc : c = ','
  · subst hc
    decide
  · refine iff_of_false (fun h => ?_) hc
    rw [escapedChar] at h
    repeat' split at h
    all_goals simp [Ne.symm hc, not_mem_codeUnits] at h

theorem mem_writeText_iff {s : String} : ',' ∈ (writeText s).toList ↔ ',' ∈ s.toList := by
  rw [writeText, String.toList_ofList]
  simp [mem_escapedChar_iff]

/-! ## Lists and objects -/

/-- Texts are joined without a comma exactly when there is at most one, and it has none. -/
theorem not_mem_intercalate_iff {texts : List String} :
    ',' ∉ (", ".intercalate texts).toList ↔
      texts.length ≤ 1 ∧ ∀ text ∈ texts, ',' ∉ text.toList := by
  rw [String.toList_intercalate]
  match texts with
  | [] => simp
  | [text] => simp [List.intercalate]
  | first :: second :: rest => simp [List.intercalate]

theorem writeItems_eq_map (items : List Value) : writeItems items = items.map write := by
  induction items with
  | nil => rfl
  | cons v rest ih => rw [writeItems, ih, List.map_cons]

theorem writeFields_eq_map (fields : Fields) :
    writeFields fields = fields.map fun entry => writeText entry.1 ++ ": " ++ write entry.2 := by
  induction fields with
  | nil => rfl
  | cons entry rest ih => rw [writeFields, ih, List.map_cons]

theorem not_mem_write_list_iff {items : List Value} :
    ',' ∉ (write (.list items)).toList ↔
      items.length ≤ 1 ∧ ∀ v ∈ items, ',' ∉ (write v).toList := by
  rw [write, writeItems_eq_map, String.toList_append, String.toList_append]
  have hends : ',' ∉ "[".toList ∧ ',' ∉ "]".toList := by decide
  rw [List.mem_append, List.mem_append, not_or, not_or, and_iff_left hends.2,
    and_iff_right hends.1, not_mem_intercalate_iff, List.length_map, List.forall_mem_map]

theorem not_mem_write_object_iff {fields : Fields} :
    ',' ∉ (write (.object fields)).toList ↔ fields.length ≤ 1 ∧
      ∀ entry ∈ fields, ',' ∉ entry.1.toList ∧ ',' ∉ (write entry.2).toList := by
  rw [write, writeFields_eq_map, String.toList_append, String.toList_append]
  have hends : ',' ∉ "\x7b".toList ∧ ',' ∉ "\x7d".toList ∧ ',' ∉ ": ".toList := by decide
  rw [List.mem_append, List.mem_append, not_or, not_or, and_iff_left hends.2.1,
    and_iff_right hends.1, not_mem_intercalate_iff, List.length_map, List.forall_mem_map]
  refine and_congr_right fun _ => forall₂_congr fun entry _ => ?_
  rw [String.toList_append, String.toList_append, List.mem_append, List.mem_append, not_or, not_or,
    and_iff_left hends.2.2, mem_writeText_iff]

/-- The JSON text of a value has no comma exactly when no text and no name in it has one, and no
list and no object in it has two entries. -/
theorem not_mem_write_iff {v : Value} : ',' ∉ (write v).toList ↔ v.Commaless := by
  induction v using Value.byParts with
  | plain v hplain =>
      cases htext : v.text? with
      | some s =>
          obtain rfl := Value.eq_of_text? htext
          rw [Value.commaless_text]
          exact not_congr mem_writeText_iff
      | none =>
          refine iff_of_true ?_ (Value.commaless_plain hplain htext)
          cases v with
          | null => decide
          | bool b => cases b <;> decide
          | int n => exact not_mem_of_isNumberChar (isNumberChar_toString n)
          | float x => exact not_mem_of_isNumberChar (isNumberChar_textIn x)
          | str s => cases htext
          | list items => cases hplain
          | object fields => cases hplain
  | list items ih =>
      rw [not_mem_write_list_iff, Value.commaless_list]
      exact and_congr_right fun _ => forall₂_congr ih
  | object fields ih =>
      rw [not_mem_write_object_iff, Value.commaless_object]
      exact and_congr_right fun _ => forall₂_congr fun entry hentry =>
        and_congr_right fun _ => ih entry hentry

end Json

end DocQuery
