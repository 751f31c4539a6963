import DocQuery.Proofs.ValueParts
import DocQuery.Shown
import Mathlib.Algebra.Ring.Nat
import Mathlib.Data.List.Basic

/-!
# Shortened values

Values in messages are shortened: texts to their two halves, long lists to a note.

*Texts.*  A shortened text is a little longer than the limit, since three full stops stand between
its halves.  So it is shortened again the second time, but to itself: its first half and its last
half are the halves that it is made of (`shortenText_shortenText`).

*Values.*  `Shortens` relates a value to its shortened form, part by part: which text stands for
which, that a list has few items or is a note, that an object keeps its names in order, and that
nothing else changes.  `Value.shortens_shortened` says that shortening is one of its instances, and
`Value.length_le_of_partOf_shortened` that no long list is left at any depth.

*Again.*  A list that is replaced by a note is a text the second time.  The note has as many digits
as the list's size has, so it is short enough for any list that there can be
(`Value.shortened_listNote`), and shortening twice is shortening once
(`Value.shortened_shortened`).
-/

namespace DocQuery

namespace Value

/-! ## Texts -/

theorem shortenText_of_le {limit : Int} {cs : List Char} (h : (cs.length : Int) ≤ limit) :
    shortenText limit cs = cs := by
  rw [shortenText, if_neg (Int.not_lt.2 h)]

/-- The number of characters at either end of a shortened text. -/
def halfOf (limit : Int) : Nat := (max (limit / 2) 1).toNat

theorem shortenText_of_lt {limit : Int} {cs : List Char} (h : limit < (cs.length : Int)) :
    shortenText limit cs = cs.take (halfOf limit) ++ ['.', '.', '.']
      ++ cs.drop (cs.length - halfOf limit) := by
  rw [shortenText, if_pos h]
  rfl

/-- What has two halves with three full stops between them is shortened to itself. -/
theorem shortenText_halves {limit : Int} {first last : List Char}
    (hfirst : first.length = halfOf limit) (hlast : last.length = halfOf limit) :
    shortenText limit (first ++ ['.', '.', '.'] ++ last) = first ++ ['.', '.', '.'] ++ last := by
  have hlength : (first ++ ['.', '.', '.'] ++ last).length = (halfOf limit + 3) + halfOf limit := by
    simp only [List.length_append, hfirst, hlast, List.length_cons, List.length_nil]
  have hlong : limit < ((first ++ ['.', '.', '.'] ++ last).length : Int) := by
    rw [hlength, halfOf]
    omega
  rw [shortenText_of_lt hlong, hlength, Nat.add_sub_cancel]
  have htake : (first ++ ['.', '.', '.'] ++ last).take (halfOf limit) = first := by
    rw [List.append_assoc, ← hfirst, List.take_left]
  have hdrop : (first ++ ['.', '.', '.'] ++ last).drop (halfOf limit + 3) = last := by
    refine List.drop_left' ?_
    simp [hfirst]
  rw [htake, hdrop]

/-- To shorten a shortened text changes nothing. -/
theorem shortenText_shortenText {limit : Int} (hlimit : 0 ≤ limit) (cs : List Char) :
    shortenText limit (shortenText limit cs) = shortenText limit cs := by
  by_cases h : (cs.length : Int) ≤ limit
  · rw [shortenText_of_le h, shortenText_of_le h]
  · have hhalf : halfOf limit ≤ cs.length := by
      rw [halfOf]
      omega
    rw [shortenText_of_lt (Int.not_le.1 h)]
    refine shortenText_halves (List.length_take_of_le hhalf) ?_
    rw [List.length_drop]
    omega

/-- A text that stands for another in messages: the other itself if it has at most a hundred
characters, or else its first and its last fifty with three full stops between them. -/
structure StandsFor (short s : String) : Prop where
  bound : short.length ≤ 103
  whole : s.length ≤ 100 → short = s
  halves : 100 < s.length →
    short.toList = s.toList.take 50 ++ ['.', '.', '.'] ++ s.toList.drop (s.length - 50)

theorem standsFor_shortened (s : String) :
    StandsFor (String.ofList (shortenText textLimit s.toList)) s := by
  have hshort (h : s.length ≤ 100) : shortenText textLimit s.toList = s.toList :=
    shortenText_of_le (by rw [String.length_toList, textLimit]; omega)
  have hlong (h : 100 < s.length) : shortenText textLimit s.toList =
      s.toList.take 50 ++ ['.', '.', '.'] ++ s.toList.drop (s.length - 50) := by
    rw [shortenText_of_lt (by rw [String.length_toList, textLimit]; omega), String.length_toList]
    rfl
  constructor
  case whole => intro h; rw [hshort h, String.ofList_toList]
  case halves => intro h; rw [hlong h, String.toList_ofList]
  case bound =>
    rw [String.length_ofList]
    by_cases h : s.length ≤ 100
    · rw [hshort h, String.length_toList]
      omega
    · rw [hlong (Nat.lt_of_not_le h)]
      simp only [List.length_append, List.length_take, List.length_drop, List.length_cons,
        List.length_nil, String.length_toList]
      omega

/-! ## Lists and objects -/

theorem shortenedItems_eq_map (textLimit listLimit : Int) (items : List Value) :
    shortenedItems textLimit listLimit items = items.map (shortenedTo textLimit listLimit) := by
  induction items with
  | nil => rfl
  | cons v rest ih => rw [shortenedItems, ih, List.map_cons]

theorem shortenedFields_eq_map (textLimit listLimit : Int) (fields : Fields) :
    shortenedFields textLimit listLimit fields =
      fields.map fun entry => (entry.1, shortenedTo textLimit listLimit entry.2) := by
  induction fields with
  | nil => rfl
  | cons entry rest ih => rw [shortenedFields, ih, List.map_cons]

theorem shortened_text (s : String) :
    (Value.str s).shortened = .str (String.ofList (shortenText textLimit s.toList)) := rfl

theorem shortened_plain {v : Value} (h : v.isPlain = true) (htext : v.text? = none) :
    v.shortened = v := by
  cases v with
  | str s => cases htext
  | list items => cases h
  | object fields => cases h
  | _ => rfl

theorem shortened_list {items : List Value} (h : items.length ≤ 10) :
    (Value.list items).shortened = .list (items.map shortened) := by
  cases items with
  | nil => rfl
  | cons first rest =>
      have hfew : ¬ ((rest.length + 1 : Nat) : Int) > listLimit :=
        Int.not_lt.2 (Int.ofNat_le.2 h)
      rw [shortened, shortenedTo, if_neg hfew, shortenedItems_eq_map]
      rfl

theorem shortened_manyItems {first : Value} {rest : List Value} (h : 10 < (first :: rest).length) :
    (Value.list (first :: rest)).shortened =
      listNote (first :: rest).length first.kindName :=
  if_pos (Int.ofNat_lt.2 h)

theorem shortened_object (fields : Fields) :
    (Value.object fields).shortened =
      .object (fields.map fun entry => (entry.1, entry.2.shortened)) := by
  rw [shortened, shortenedTo, shortenedFields_eq_map]
  rfl

theorem few_or_many (items : List Value) :
    items.length ≤ 10 ∨ ∃ first rest, items = first :: rest ∧ 10 < (first :: rest).length := by
  cases items with
  | nil => exact .inl (Nat.zero_le _)
  | cons first rest =>
      exact (Nat.lt_or_ge 10 (first :: rest).length).symm.imp_right fun h => ⟨first, rest, rfl, h⟩

/-! ## What stands for what -/

mutual

/-- What stands for a value in messages. -/
inductive Shortens : Value → Value → Prop where
  /-- A text that stands for a text. -/
  | text {s short : String} (h : StandsFor short s) : Shortens (.str s) (.str short)
  /-- What is neither a text nor holds values stands for itself. -/
  | plain {v : Value} (h : v.isPlain = true) (htext : v.text? = none) : Shortens v v
  /-- A list of few items, each standing for its own. -/
  | list {items short : List Value} (hfew : items.length ≤ 10) (h : ShortensItems items short) :
      Shortens (.list items) (.list short)
  /-- A note of how many items there are, and of what kind the first is. -/
  | note {items : List Value} {first : Value} (hmany : 10 < items.length)
      (hfirst : items.head? = some first) :
      Shortens (.list items)
        (.str ("[<" ++ toString items.length ++ " " ++ first.kindName ++ " elements>]"))
  /-- An object, its fields standing for the fields. -/
  | object {fields short : List (String × Value)} (h : ShortensFields fields short) :
      Shortens (.object fields) (.object short)

/-- Items that stand for items one by one. -/
inductive ShortensItems : List Value → List Value → Prop where
  | nil : ShortensItems [] []
  | cons {v short : Value} {rest others : List Value} (h : Shortens v short)
      (hrest : ShortensItems rest others) : ShortensItems (v :: rest) (short :: others)

/-- Fields that stand for fields one by one, under the same names. -/
inductive ShortensFields : List (String × Value) → List (String × Value) → Prop where
  | nil : ShortensFields [] []
  | cons {name : String} {v short : Value} {rest others : List (String × Value)}
      (h : Shortens v short) (hrest : ShortensFields rest others) :
      ShortensFields ((name, v) :: rest) ((name, short) :: others)

end

theorem shortensItems_map {f : Value → Value} {items : List Value}
    (h : ∀ v ∈ items, Shortens v (f v)) : ShortensItems items (items.map f) := by
  induction items with
  | nil => exact .nil
  | cons v rest ih =>
      obtain ⟨hv, hrest⟩ := List.forall_mem_cons.1 h
      exact .cons hv (ih hrest)

theorem shortensFields_map {f : Value → Value} {fields : Fields}
    (h : ∀ entry ∈ fields, Shortens entry.2 (f entry.2)) :
    ShortensFields fields (fields.map fun entry => (entry.1, f entry.2)) := by
  induction fields with
  | nil => exact .nil
  | cons entry rest ih =>
      obtain ⟨hentry, hrest⟩ := List.forall_mem_cons.1 h
      exact .cons hentry (ih hrest)

/-- A shortened value stands for the value. -/
theorem shortens_shortened (v : Value) : Shortens v v.shortened := by
  induction v using byParts with
  | plain v hplain =>
      cases htext : v.text? with
      | none =>
          rw [shortened_plain hplain htext]
          exact .plain hplain htext
      | some s =>
          obtain rfl := eq_of_text? htext
          exact .text (standsFor_shortened s)
  | list items ih =>
      rcases few_or_many items with hfew | ⟨first, rest, rfl, hmany⟩
      · rw [shortened_list hfew]
        exact .list hfew (shortensItems_map ih)
      · rw [shortened_manyItems hmany]
        exact .note hmany rfl
  | object fields ih =>
      rw [shortened_object]
      exact .object (shortensFields_map ih)

/-! ## Short lists -/

/-- No list of a shortened value is long, at any depth. -/
theorem length_le_of_partOf_shortened {v : Value} {items : List Value}
    (h : PartOf (.list items) v.shortened) : items.length ≤ 10 := by
  induction v using byParts with
  | plain v hplain =>
      cases htext : v.text? with
      | none =>
          rw [shortened_plain hplain htext, partOf_plain hplain] at h
          rw [← h] at hplain
          cases hplain
      | some s =>
          obtain rfl := eq_of_text? htext
          rw [shortened_text, partOf_plain rfl] at h
          cases h
  | list others ih =>
      rcases few_or_many others with hfew | ⟨first, rest, rfl, hmany⟩
      · rw [shortened_list hfew, partOf_list] at h
        rcases h with hself | ⟨w, hw, h⟩
        · rw [Value.list.inj hself, List.length_map]
          exact hfew
        · obtain ⟨v, hv, rfl⟩ := List.mem_map.1 hw
          exact ih v hv h
      · rw [shortened_manyItems hmany, listNote, partOf_plain rfl] at h
        cases h
  | object fields ih =>
      rw [shortened_object, partOf_object] at h
      rcases h with hself | ⟨entry, hentry, h⟩
      · cases hself
      · obtain ⟨original, horiginal, rfl⟩ := List.mem_map.1 hentry
        exact ih original horiginal h

/-! ## Values that are short already -/

/-- No text and no list of a value is over the limits, at any depth. -/
structure IsShort (v : Value) : Prop where
  texts : ∀ s, PartOf (.str s) v → s.length ≤ 100
  lists : ∀ items, PartOf (.list items) v → items.length ≤ 10

theorem IsShort.item {items : List Value} (h : IsShort (.list items)) {v : Value}
    (hv : v ∈ items) : IsShort v :=
  ⟨fun s hs => h.texts s (.item hv hs), fun others hothers => h.lists others (.item hv hothers)⟩

theorem IsShort.field {fields : Fields} (h : IsShort (.object fields)) {entry : String × Value}
    (hentry : entry ∈ fields) : IsShort entry.2 :=
  ⟨fun s hs => h.texts s (.field hentry hs),
    fun items hitems => h.lists items (.field hentry hitems)⟩

/-- A value that is short already stays as it is. -/
theorem shortened_of_isShort {v : Value} (h : v.IsShort) : v.shortened = v := by
  induction v using byParts with
  | plain v hplain =>
      cases htext : v.text? with
      | none => exact shortened_plain hplain htext
      | some s =>
          obtain rfl := eq_of_text? htext
          rw [shortened_text, (standsFor_shortened s).whole (h.texts s (.self _))]
  | list items ih =>
      rw [shortened_list (h.lists items (.self _))]
      exact congrArg _ ((List.map_congr_left fun v hv => ih v hv (h.item hv)).trans
        (List.map_id items))
  | object fields ih =>
      rw [shortened_object]
      exact congrArg _ ((List.map_congr_left fun entry hentry =>
        congrArg (entry.1, ·) (ih entry hentry (h.field hentry))).trans (List.map_id fields))

/-! ## Shortening again -/

theorem length_kindName_le (v : Value) : v.kindName.length ≤ 8 := by
  cases v <;> (rw [kindName]; decide)

/-- The note of a list whose size has at most sixty digits stays as it is. -/
theorem shortened_listNote {size : Nat} (hsize : size < 10 ^ 60) (v : Value) :
    (listNote size v.kindName).shortened = listNote size v.kindName := by
  refine shortened_of_isShort ⟨fun s hs => ?_, fun items hitems => ?_⟩
  · rw [listNote, partOf_plain rfl] at hs
    obtain rfl := Value.str.inj hs
    have hdigits : (toString size).length ≤ 60 := by
      rw [Nat.toString_eq_ofList_toDigits, String.length_ofList]
      exact (Nat.length_toDigits_le_iff (by decide) (by decide)).2 hsize
    have hkind := length_kindName_le v
    have hrest : ("[<" : String).length + (" " : String).length + (" elements>]" : String).length
        = 14 := by decide
    simp only [String.length_append]
    omega
  · rw [listNote, partOf_plain rfl] at hitems
    cases hitems

/-- To shorten a shortened value changes nothing. -/
theorem shortened_shortened {v : Value}
    (h : ∀ items, PartOf (.list items) v → items.length < 10 ^ 60) :
    v.shortened.shortened = v.shortened := by
  induction v using byParts with
  | plain v hplain =>
      cases htext : v.text? with
      | none => rw [shortened_plain hplain htext, shortened_plain hplain htext]
      | some s =>
          obtain rfl := eq_of_text? htext
          rw [shortened_text, shortened_text, String.toList_ofList,
            shortenText_shortenText (by decide)]
  | list items ih =>
      rcases few_or_many items with hfew | ⟨first, rest, rfl, hmany⟩
      · rw [shortened_list hfew, shortened_list (by rwa [List.length_map]), List.map_map]
        exact congrArg _ (List.map_congr_left fun v hv =>
          ih v hv fun others hothers => h others (.item hv hothers))
      · rw [shortened_manyItems hmany]
        exact shortened_listNote (h _ (.self _)) first
  | object fields ih =>
      rw [shortened_object, shortened_object, List.map_map]
      exact congrArg _ (List.map_congr_left fun entry hentry => congrArg (entry.1, ·)
        (ih entry hentry fun items hitems => h items (.field hentry hitems)))

/-! ## All laws -/

/-- Shortening leaves what is short, stands for the value part by part, leaves no long list, and is
done once. -/
theorem shortening_laws (v : Value) :
    (v.IsShort → v.shortened = v) ∧ Shortens v v.shortened ∧
    (∀ items, PartOf (.list items) v.shortened → items.length ≤ 10) ∧
    ((∀ items, PartOf (.list items) v → items.length < 10 ^ 60) →
      v.shortened.shortened = v.shortened) :=
  ⟨shortened_of_isShort, shortens_shortened v, fun _ => length_le_of_partOf_shortened,
    shortened_shortened⟩

/-- A long text keeps its ends and a long list becomes a note, once. -/
theorem standings_shortened :
    let v : Value := .object [("note", .str (String.ofList (List.replicate 120 'a'))),
      ("laps", .list (List.replicate 12 .null))]
    (∀ items, PartOf (.list items) v → items.length < 10 ^ 60) ∧
      v.shortened = .object
        [("note", .str (String.ofList
          (List.replicate 50 'a' ++ ['.', '.', '.'] ++ List.replicate 50 'a'))),
          ("laps", .str "[<12 NoneType elements>]")] ∧
      v.shortened.shortened = v.shortened := by
  intro v
  have hlists : ∀ items, PartOf (.list items) v → items.length < 10 ^ 60 := by
    intro items h
    rcases partOf_object.1 h with hself | ⟨entry, hentry, h⟩
    · cases hself
    · rcases List.mem_pair.1 hentry with rfl | rfl
      · cases (partOf_plain rfl).1 h
      · rcases partOf_list.1 h with hself | ⟨w, hw, h⟩
        · rw [Value.list.inj hself, List.length_replicate]
          decide
        · rw [List.eq_of_mem_replicate hw] at h
          cases (partOf_plain rfl).1 h
  have hnote : (Value.str (String.ofList (List.replicate 120 'a'))).shortened = .str
      (String.ofList (List.replicate 50 'a' ++ ['.', '.', '.'] ++ List.replicate 50 'a')) := by
    have hlong : textLimit < ((List.replicate 120 'a').length : Int) := by
      rw [List.length_replicate]
      decide
    rw [shortened_text, String.toList_ofList, shortenText_of_lt hlong, List.take_replicate,
      List.drop_replicate, List.length_replicate]
    rfl
  have hlaps : (Value.list (List.replicate 12 .null)).shortened =
      .str "[<12 NoneType elements>]" := by rfl
  refine ⟨hlists, ?_, (shortening_laws v).2.2.2 hlists⟩
  rw [shortened_object, List.map_cons, List.map_cons, List.map_nil, hnote, hlaps]

end Value

end DocQuery
