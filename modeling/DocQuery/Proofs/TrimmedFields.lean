import DocQuery.Proofs.Fields
import DocQuery.Trim
import Mathlib.Data.List.Basic
import Mathlib.Data.List.Induction

/-!
# What trimming selects

Trim options choose fields of a document by their names.  An option lists names if it is a text
that is not empty, which is one name, or a list that is not empty (`Lists`).  `Selects` says which
fields are chosen, and in which order.

*Fields to keep.*  Keeping goes through the listed names and sets each that the document has.  What
is kept under a name is what the document has there, if the name is listed (`get?_keep`), and the
names stand as they are first listed, though a name may be listed more than once
(`pairwise_names_keep`).

*Fields to drop.*  Dropping the listed fields and then the private ones is one choice made for each
field by its name, `Spares` (`fields_eq_filter`).

*Again.*  What is kept depends on the document only through the listed names (`keep_congr`), and
these bindings are not lost; a choice made for each field by its name is made alike the second
time.  So trimming a trimmed document changes nothing (`fields_fields`).
-/

namespace DocQuery

namespace Trim

/-! ## Options -/

/-- What an option lists: the one name that a text is, or the names of a list.  An empty text or
list lists nothing, as an option does that is not given. -/
inductive Lists : Option Texts → List String → Prop
  | one {name : String} (h : name ≠ "") : Lists (some (.one name)) [name]
  | many {names : List String} (h : names ≠ []) : Lists (some (.many names)) names

theorem lists_iff {texts : Option Texts} {names : List String} :
    Lists texts names ↔ names? texts = some names := by
  constructor
  · rintro (h | h)
    · simp [names?, Texts.isEmpty, Texts.toList, h]
    · simp [names?, Texts.isEmpty, Texts.toList, h]
  · intro h
    obtain ⟨t, ht, rfl⟩ := Option.map_eq_some_iff.1 h
    obtain ⟨rfl, hsome⟩ := Option.filter_eq_some_iff.1 ht
    cases t with
    | one name => exact .one (by simpa [Texts.isEmpty] using hsome)
    | many names => exact .many (by simpa [Texts.isEmpty] using hsome)

/-- An option that lists nothing. -/
theorem names?_eq_none_iff {texts : Option Texts} :
    names? texts = none ↔ ∀ names, ¬ Lists texts names := by
  simp only [lists_iff, Option.eq_none_iff_forall_ne_some, ne_eq]

/-! ## Fields to keep -/

section

variable {names : List String} {document other : Fields}

@[simp] theorem keep_nil (document : Fields) : keep [] document = [] := rfl

theorem keep_append_of_get? {name : String} {v : Value} (h : document.get? name = some v) :
    keep (names ++ [name]) document = (keep names document).set name v := by
  simp only [keep, List.foldl_append, List.foldl_cons, List.foldl_nil, h]

theorem keep_append_of_absent {name : String} (h : document.get? name = none) :
    keep (names ++ [name]) document = keep names document := by
  simp only [keep, List.foldl_append, List.foldl_cons, List.foldl_nil, h]

/-- What is kept under a name is what the document has there, if the name is listed. -/
theorem get?_keep (names : List String) (document : Fields) (name : String) :
    (keep names document).get? name = if name ∈ names then document.get? name else none := by
  induction names using List.reverseRecOn with
  | nil => simp
  | append_singleton names last ih =>
      cases hlast : document.get? last with
      | some v =>
          rw [keep_append_of_get? hlast, Fields.get?_set, ih]
          by_cases hname : last = name
          · subst hname
            simp [hlast]
          · simp [hname, Ne.symm hname]
      | none =>
          rw [keep_append_of_absent hlast, ih]
          by_cases hname : name = last
          · subst hname
            simp [hlast]
          · simp [hname]

theorem mem_names_keep {name : String} :
    name ∈ (keep names document).names ↔ name ∈ names ∧ name ∈ document.names := by
  rw [← Fields.has_iff_mem, ← Fields.has_iff_mem, Fields.has, Fields.has, get?_keep]
  by_cases hname : name ∈ names <;> simp [hname]

/-- The kept names stand in the order in which they are first listed. -/
theorem pairwise_names_keep (names : List String) (document : Fields) :
    (keep names document).names.Pairwise fun a b => names.idxOf a < names.idxOf b := by
  induction names using List.reverseRecOn with
  | nil => exact .nil
  | append_singleton names last ih =>
      -- A name listed before `last` keeps its first place, and `last` stands behind them all.
      have hplace : ∀ a ∈ (keep names document).names,
          (names ++ [last]).idxOf a = names.idxOf a ∧ names.idxOf a < names.length := fun a ha =>
        have hlisted := (mem_names_keep.1 ha).1
        ⟨List.idxOf_append_of_mem hlisted, List.idxOf_lt_length_of_mem hlisted⟩
      have hbefore : (keep names document).names.Pairwise fun a b =>
          (names ++ [last]).idxOf a < (names ++ [last]).idxOf b :=
        ih.imp_of_mem fun ha hb hab => by rwa [(hplace _ ha).1, (hplace _ hb).1]
      cases hlast : document.get? last with
      | none => rwa [keep_append_of_absent hlast]
      | some v =>
          rw [keep_append_of_get? hlast, Fields.names_set]
          split
          case isTrue => exact hbefore
          case isFalse hnew =>
            have hunlisted : last ∉ names := fun hlisted =>
              hnew (mem_names_keep.2 ⟨hlisted, Fields.has_iff_mem.1 (Fields.has_of_get? hlast)⟩)
            refine List.pairwise_append.2 ⟨hbefore, List.pairwise_singleton _ _, ?_⟩
            intro a ha b hb
            obtain rfl := List.mem_singleton.1 hb
            rw [(hplace a ha).1, List.idxOf_append_of_notMem hunlisted, List.idxOf_cons_self]
            exact (hplace a ha).2

/-- What is kept depends on what the document has under the listed names. -/
theorem keep_congr (h : ∀ name ∈ names, document.get? name = other.get? name) :
    keep names document = keep names other := by
  induction names using List.reverseRecOn with
  | nil => rfl
  | append_singleton names last ih =>
      obtain ⟨hnames, hlast⟩ := List.forall_mem_append.1 h
      have hlast : document.get? last = other.get? last := hlast last List.mem_cons_self
      cases hv : other.get? last with
      | some v =>
          rw [keep_append_of_get? (hlast.trans hv), keep_append_of_get? hv, ih hnames]
      | none =>
          rw [keep_append_of_absent (hlast.trans hv), keep_append_of_absent hv, ih hnames]

theorem keep_keep (names : List String) (document : Fields) :
    keep names (keep names document) = keep names document :=
  keep_congr fun name hname => by rw [get?_keep, if_pos hname]

end

/-! ## Fields to drop -/

/-- Options that list no fields to keep spare a field when it is not listed to be dropped, and when
it does not begin with an underscore, if such fields are dropped, or else is one of those that
stay. -/
def Spares (o : TrimOptions) (name : String) : Prop :=
  (∀ names, Lists o.omitted names → name ∉ names) ∧
    (o.stripPrivate = true → name.toList.head? = some '_' → name ∈ ["_key", "_id", "_rev"])

theorem spares_iff {o : TrimOptions} {name : String} :
    Spares o name ↔ name ∉ (names? o.omitted).getD [] ∧
      (o.stripPrivate = true → isPrivate name = true → name ∈ metaFields) := by
  have hlisted : (∀ names, Lists o.omitted names → name ∉ names) ↔
      name ∉ (names? o.omitted).getD [] := by
    simp only [lists_iff]
    cases names? o.omitted <;> simp
  rw [Spares, hlisted, isPrivate, decide_eq_true_iff, metaFields]

instance (o : TrimOptions) (name : String) : Decidable (Spares o name) :=
  decidable_of_iff _ spares_iff.symm

/-- Dropping the listed fields and then the private ones is one choice for each field. -/
theorem fields_eq_filter {o : TrimOptions} (h : names? o.kept = none) (document : Fields) :
    fields o document = document.filter fun entry => decide (Spares o entry.1) := by
  have hdropped : fields o document =
      let rest := drop ((names? o.omitted).getD []) document
      if o.stripPrivate then dropPrivate metaFields rest else rest := by
    rw [fields, h]
    cases names? o.omitted with
    | some names => rfl
    | none => simp only [Option.getD_none, drop, List.contains_nil, Bool.not_false, List.filter_true]
  rw [hdropped]
  cases hprivate : o.stripPrivate with
  | false => simp [drop, spares_iff, hprivate]
  | true =>
      simp only [if_true, drop, dropPrivate, List.filter_filter]
      refine List.filter_congr fun entry _ => ?_
      rw [Bool.eq_iff_iff]
      simp [spares_iff, hprivate, imp_iff_not_or, and_comm]

/-! ## All options -/

theorem fields_of_kept {o : TrimOptions} {names : List String} (h : names? o.kept = some names)
    (document : Fields) : fields o document = keep names document := by
  rw [fields, h]

/-- Trimming trimmed fields changes nothing. -/
theorem fields_fields (o : TrimOptions) (document : Fields) :
    fields o (fields o document) = fields o document := by
  cases h : names? o.kept with
  | some names => rw [fields_of_kept h, fields_of_kept h, keep_keep]
  | none => simp [fields_eq_filter h, List.filter_filter]

/-- What options select of a document.  The listed fields to keep that it has, in the order in
which they are first listed; or else the fields that are spared, in the order of the document.
Either way the document's own values. -/
structure Selects (o : TrimOptions) (document trimmed : Fields) : Prop where
  kept : ∀ names, Lists o.kept names →
    (∀ name, name ∈ trimmed.names ↔ name ∈ names ∧ name ∈ document.names) ∧
      trimmed.names.Pairwise fun a b => names.idxOf a < names.idxOf b
  spared : (∀ names, ¬ Lists o.kept names) →
    trimmed = document.filter fun entry => decide (Spares o entry.1)
  own : ∀ name ∈ trimmed.names, trimmed.get? name = document.get? name

theorem selects_fields (o : TrimOptions) (document : Fields) :
    Selects o document (fields o document) where
  kept names h := by
    rw [fields_of_kept (lists_iff.1 h)]
    exact ⟨fun _ => mem_names_keep, pairwise_names_keep names document⟩
  spared h := fields_eq_filter (names?_eq_none_iff.2 h) document
  own name hname := by
    cases h : names? o.kept with
    | some names =>
        rw [fields_of_kept h] at hname ⊢
        rw [get?_keep, if_pos (mem_names_keep.1 hname).1]
    | none =>
        rw [fields_eq_filter h] at hname ⊢
        rw [Fields.names_filter (fun name => decide (Spares o name)), List.mem_filter] at hname
        rw [Fields.get?_filter (fun name => decide (Spares o name)), if_pos hname.2]

theorem document_of_fields (o : TrimOptions) (document : Fields) :
    Trim.document (some o) (.object document) = .object (fields o document) := rfl

theorem document_of_not_object (trim : Option TrimOptions) {v : Value} (h : v.isObject = false) :
    document trim v = v := by
  cases v with
  | object fields => cases h
  | _ => rfl

theorem document_document (o : TrimOptions) (v : Value) :
    document (some o) (document (some o) v) = document (some o) v := by
  cases v with
  | object document => rw [document_of_fields, document_of_fields, fields_fields]
  | _ => rfl

/-! ## Documents of a list -/

theorem listedDocuments_list (o : Option TrimOptions) (vs : List Value) :
    listedDocuments o (.list vs) = .ok (.list (documents o vs)) := by
  cases vs with
  | nil => rfl
  | cons v rest => rfl

theorem documents_documents (o : TrimOptions) (vs : List Value) :
    documents (some o) (documents (some o) vs) = documents (some o) vs := by
  rw [documents, documents, List.map_map]
  exact List.map_congr_left fun v _ => document_document o v

/-- Of an object, options select the listed fields to keep or else the spared ones; of a list they
select in each object by itself, and leave what is no object.  To trim once more changes nothing. -/
theorem trimming_selects (o : TrimOptions) :
    (∀ fields, ∃ trimmed, document (some o) (.object fields) = .object trimmed ∧
      Selects o fields trimmed ∧ document (some o) (.object trimmed) = .object trimmed) ∧
    ∀ vs, ∃ ws, listedDocuments (some o) (.list vs) = .ok (.list ws) ∧ ws.length = vs.length ∧
      (∀ (i : Nat) v, vs[i]? = some v → ws[i]? = some (document (some o) v)) ∧
      (∀ (i : Nat) v, vs[i]? = some v → v.isObject = false → ws[i]? = some v) ∧
      listedDocuments (some o) (.list ws) = .ok (.list ws) := by
  have heach (vs : List Value) (i : Nat) (v : Value) (hv : vs[i]? = some v) :
      (documents (some o) vs)[i]? = some (document (some o) v) := by
    rw [documents, List.getElem?_map, hv]
    rfl
  constructor
  · intro fields
    exact ⟨_, document_of_fields o fields, selects_fields o fields,
      document_document o (.object fields)⟩
  · intro vs
    refine ⟨documents (some o) vs, listedDocuments_list _ vs, List.length_map .., heach vs, ?_, ?_⟩
    · intro i v hv hobject
      rw [heach vs i v hv, document_of_not_object _ hobject]
    · rw [listedDocuments_list, documents_documents]

/-- A cyclist's document. -/
def cyclist : Fields :=
  [("_key", .str "1"), ("_seen", .int 3), ("name", .str "Chris"), ("team", .str "Sky")]

/-- A text keeps one field, and a list those that it lists; an empty list keeps none of its own, so
that fields are dropped. -/
theorem cyclist_trimmed :
    (∃ trimmed : Fields, document (some { kept := some (.one "name") }) (.object cyclist) =
        .object trimmed ∧
      (∀ name, name ∈ trimmed.names ↔ name = "name") ∧
      trimmed.get? "name" = some (.str "Chris")) ∧
    (∃ trimmed : Fields, document (some { kept := some (.many ["team", "age", "name", "team"]) })
        (.object cyclist) = .object trimmed ∧
      (∀ name, name ∈ trimmed.names ↔ name = "team" ∨ name = "name") ∧
      trimmed.names.Pairwise fun a b =>
        ["team", "age", "name", "team"].idxOf a < ["team", "age", "name", "team"].idxOf b) ∧
    document (some { kept := some (.many []), omitted := some (.one "team"), stripPrivate := true })
      (.object cyclist) = .object [("_key", .str "1"), ("name", .str "Chris")] := by
  obtain ⟨one, hone, hname, -⟩ := (trimming_selects { kept := some (.one "name") }).1 cyclist
  obtain ⟨many, hmany, hnames, -⟩ :=
    (trimming_selects { kept := some (.many ["team", "age", "name", "team"]) }).1 cyclist
  obtain ⟨rest, hrest, hspared, -⟩ := (trimming_selects
    { kept := some (.many []), omitted := some (.one "team"), stripPrivate := true }).1 cyclist
  have hlisted := (hname.kept _ (.one (by decide))).1
  obtain ⟨hboth, horder⟩ := hnames.kept _ (.many (by simp))
  have hnone : ∀ names, ¬ Lists (some (.many [])) names := by
    rintro _ (_ | h)
    exact h rfl
  refine ⟨⟨one, hone, fun name => ?_, ?_⟩, ⟨many, hmany, fun name => ?_, horder⟩, ?_⟩
  · rw [hlisted, List.mem_singleton]
    exact and_iff_left_of_imp fun h => h ▸ by decide
  · rw [hname.own "name" ((hlisted "name").2 (by decide))]
    rfl
  · have hcyclist : cyclist.names = ["_key", "_seen", "name", "team"] := rfl
    rw [hboth, hcyclist]
    grind
  · rw [hrest, hspared.spared hnone]
    rfl

/-- A name listed twice is kept where it is first listed. -/
example : fields { kept := some (.many ["team", "name", "team", "age"]), stripPrivate := true }
    [("_seen", .int 3), ("name", .str "Chris"), ("team", .str "Sky")] =
      [("team", .str "Sky"), ("name", .str "Chris")] := by rfl

end Trim

end DocQuery
