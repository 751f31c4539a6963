import DocQuery.Proofs.KeptText
import DocQuery.Proofs.LookupMeaning

/-!
# Criteria that ask for nothing

Criteria that compile to nothing leave a lookup without a filter, so that it returns all
documents.  Those without a filter and without a search do so, but they are not the only ones:
a filter may be blank, and a search may name no property or no term.

`Filter.Vacuous` and `Search.Vacuous` say which these are, in terms of what is written in them.
A filter that is qualified is never among them unless its text is empty, as the qualifier alone
is text already (`Clause.qualified_ne_empty`, `composed_ne_empty`), and neither are several
conditions, as the operator between them is (`Condition.text_joined_eq_empty`).

The main result is that these criteria compile to nothing and no others do, that a lookup has
no filter exactly where they or nothing at all is handed in, and that this is recorded whenever
something is handed in (`Request.vacuous_left_out`).
-/

namespace DocQuery

/-! ## Blank texts -/

namespace Text

theorem trim_eq_nil {cs : List Char} : trim cs = [] ↔ ∀ c ∈ cs, isSpace c = true := by
  constructor
  · intro h
    obtain ⟨before, after, hbefore, hafter, hcs⟩ := trim_between cs
    rw [h, List.nil_append] at hcs
    intro c hc
    rw [hcs, List.mem_append] at hc
    exact hc.elim (hbefore c) (hafter c)
  · intro h
    rw [trim, trimStart_blank h]
    rfl

theorem trimmed_eq_empty {s : String} : trimmed s = "" ↔ isBlank s = true := by
  rw [trimmed, isBlank, List.all_eq_true, ← trim_eq_nil, ← String.toList_inj,
    String.toList_ofList]
  rfl

/-- What holds of all characters of the parts holds of all that are no marks. -/
theorem forall_splitOn {mark : Char} {P : Char → Prop} {cs : List Char} :
    (∀ part ∈ splitOn mark cs, ∀ c ∈ part, P c) ↔ ∀ c ∈ cs, c = mark ∨ P c := by
  induction cs with
  | nil => simp [splitOn]
  | cons c rest ih =>
      rw [List.forall_mem_cons, ← ih, splitOn]
      split
      next hmark => simp [hmark]
      next hmark =>
        cases hparts : splitOn mark rest with
        | nil => exact absurd hparts (splitOn_ne_nil mark rest)
        | cons part parts =>
            rw [List.forall_mem_cons, List.forall_mem_cons, List.forall_mem_cons, and_assoc]
            simp [hmark]

end Text

/-! ## Searches -/

namespace Search

/-- No property is named: the text is white space and commas, or all texts are blank. -/
def NamesNothing : Texts → Prop
  | .one s => ∀ c ∈ s.toList, c = ',' ∨ isSpace c = true
  | .many texts => ∀ s ∈ texts, Text.isBlank s = true

/-- A search that names no property or lists no term.  A text always is a term, even if it is
empty. -/
def Vacuous (s : Search) : Prop := NamesNothing s.properties ∨ s.terms = .many []

theorem propertyList_eq_nil {s : Search} : s.propertyList = [] ↔ NamesNothing s.properties := by
  have hparts : s.propertyList = [] ↔ ∀ part ∈ parts s.properties, part = "" := by
    rw [propertyList, List.filter_eq_nil_iff]
    simp
  rw [hparts]
  cases s.properties with
  | one t =>
      rw [parts, Text.split, List.map_map, List.forall_mem_map, NamesNothing,
        ← Text.forall_splitOn]
      refine forall₂_congr fun part _ => ?_
      show Text.trimmed (String.ofList part) = "" ↔ _
      rw [Text.trimmed_eq_empty, Text.isBlank, String.toList_ofList, List.all_eq_true]
  | many texts =>
      rw [parts, List.forall_mem_map]
      exact forall₂_congr fun t _ => Text.trimmed_eq_empty

theorem termList_eq_nil {s : Search} : s.termList = [] ↔ s.terms = .many [] := by
  rw [termList]
  cases s.terms with
  | one t => simp [parts, Text.split, Text.splitOn_ne_nil]
  | many texts => simp [parts]

/-- A search has no pair exactly when it is vacuous. -/
theorem pairs_eq_nil {s : Search} : s.pairs = [] ↔ s.Vacuous := by
  rw [Vacuous, ← propertyList_eq_nil, ← termList_eq_nil, pairs, List.flatMap_eq_nil_iff]
  cases s.propertyList with
  | nil => simp
  | cons property rest =>
      simp only [List.map_eq_nil_iff, List.forall_mem_cons, List.cons_ne_nil, false_or]
      exact ⟨fun h => h.1, fun h => ⟨h, fun _ _ => h⟩⟩

end Search

/-! ## Filters -/

/-- A qualified condition has the qualifier at least. -/
theorem Clause.qualified_ne_empty (s : String) : qualified s ≠ "" := by
  intro hempty
  have h := inserted_qualify s.toList
  have hnil : qualify s.toList = [] := by
    rw [← String.toList_ofList (l := qualify s.toList), ← qualified, hempty]
    rfl
  rw [hnil] at h
  exact h.ne_nil rfl

/-- Joined conditions have no text when there are none, or one that has none. -/
theorem Condition.text_joined_eq_empty {j : Join} {parts : List Condition} :
    (joined j parts).text = "" ↔ parts = [] ∨ ∃ c, parts = [c] ∧ c.text = "" := by
  match parts with
  | [] => simp [text, texts]
  | [c] => simp [text, texts]
  | c :: d :: rest => simp [text, texts]

namespace Filter

/-- A filter without text: an empty text, what is blank and not qualified, or a blank query. -/
def Vacuous (qualify : Bool) : Filter → Prop
  | text s => s = "" ∨ (qualify = false ∧ Text.isBlank s = true)
  | clauses l => l.qualify = false ∧ ∃ s, l.clauses = [s] ∧ Text.isBlank s = true
  | prebuilt q => Text.isBlank q.text = true

theorem vacuous_of_not_given {f : Filter} (h : f.isGiven = false) (qualify : Bool) :
    f.Vacuous qualify := by
  cases f with
  | text s => exact .inl (by simpa [isGiven] using h)
  | clauses l => cases h
  | prebuilt q => cases h

end Filter

/-- A condition of a list has no text exactly when it is blank and not qualified. -/
theorem ClauseList.text_clause_eq_empty {l : ClauseList} {s : String} :
    (l.clause s).text = "" ↔ l.qualify = false ∧ Text.isBlank s = true := by
  rw [clause, Condition.text]
  cases l.qualify with
  | true => simp [Clause.qualified_ne_empty]
  | false => simp [Text.trimmed_eq_empty]

/-- A filter that is given compiles to no text exactly when it is vacuous. -/
theorem Filter.text_compile_eq_empty {f : Filter} {before out : Fields} {qualify : Bool}
    {e : Condition} (hgiven : f.isGiven = true) (h : f.compile before qualify = (.ok e, out)) :
    e.text = "" ↔ f.Vacuous qualify := by
  cases f with
  | text s =>
      have hs : s ≠ "" := by simpa [isGiven] using hgiven
      cases h
      cases qualify with
      | true => simp [Condition.text, composed_ne_empty, Vacuous, hs]
      | false => simp [Condition.text, Text.trimmed_eq_empty, Vacuous, hs]
  | clauses l =>
      obtain ⟨hcompile, -⟩ := Prod.mk.inj h
      rw [ClauseList.compile] at hcompile
      split at hcompile
      next => cases hcompile
      next hne =>
        cases hcompile
        have hnil : l.clauses ≠ [] := by simpa using hne
        rw [Condition.text_joined_eq_empty, Vacuous, List.map_eq_nil_iff]
        constructor
        · rintro (hempty | ⟨c, hone, hc⟩)
          · exact absurd hempty hnil
          · obtain ⟨s, hs, rfl⟩ := List.map_eq_singleton_iff.1 hone
            obtain ⟨hqualify, hblank⟩ := ClauseList.text_clause_eq_empty.1 hc
            exact ⟨hqualify, s, hs, hblank⟩
        · rintro ⟨hqualify, s, hs, hblank⟩
          refine .inr ⟨l.clause s, by rw [hs, List.map_singleton], ?_⟩
          exact ClauseList.text_clause_eq_empty.2 ⟨hqualify, hblank⟩
  | prebuilt q =>
      simp only [compile] at h
      split at h
      next =>
        cases h
        exact Text.trimmed_eq_empty
      next => cases h

/-! ## Criteria -/

namespace Criteria

/-- Criteria whose filter, if they have one, has no text, and whose search, if they have one,
has no pair. -/
structure Vacuous (c : Criteria) (qualify : Bool) : Prop where
  /-- The filter has no text. -/
  filter : ∀ f ∈ c.filter, f.Vacuous qualify
  /-- The search has no pair. -/
  search : ∀ s ∈ c.search, s.Vacuous

variable {c : Criteria} {before out : Fields} {qualify : Bool} {e : Option Condition}

theorem compileFilter_eq_none (h : c.compileFilter before qualify = (.ok e, out)) :
    e = none ↔ ∀ f ∈ c.filter, f.Vacuous qualify := by
  rcases compileFilter_cases h with ⟨rfl, -, hgiven⟩ | ⟨f, written, hf, hgiven, hcompile, rfl⟩
  · exact iff_of_true rfl fun f hf => f.vacuous_of_not_given (hgiven f hf) qualify
  · rw [hf, ite_eq_left_iff]
    simp [← Filter.text_compile_eq_empty hgiven hcompile]

theorem compileSearch_eq_none : (c.compileSearch before).1 = none ↔ ∀ s ∈ c.search, s.Vacuous := by
  rw [compileSearch_fst, Option.map_eq_none_iff, search?, Option.filter_eq_none_iff]
  simp [Search.pairs_eq_nil]

/-- Criteria compile to nothing exactly when they are vacuous. -/
theorem compile_eq_none (h : c.compile before qualify = (.ok e, out)) :
    e = none ↔ c.Vacuous qualify := by
  obtain ⟨f, middle, hf, rfl, -⟩ := compile_cases h
  constructor
  · intro hnone
    obtain ⟨rfl, hsearch⟩ := combine_eq_none hnone
    exact ⟨(compileFilter_eq_none hf).1 rfl, compileSearch_eq_none.1 hsearch⟩
  · rintro ⟨hfilter, hsearch⟩
    rw [(compileFilter_eq_none hf).2 hfilter, compileSearch_eq_none.2 hsearch]
    rfl

end Criteria

/-! ## Lookups -/

namespace Request

theorem filterCriteria_eq_ok {input : FilterInput} {criteria : Option Criteria}
    (h : filterCriteria input = .ok criteria) :
    (input.isGiven = false ∧ criteria = none) ∨
      (input.isGiven = true ∧ ∃ c, input.toCriteria = .ok c ∧ criteria = some c) := by
  rw [filterCriteria] at h
  split at h
  next hgiven =>
    cases hread : input.toCriteria with
    | ok c =>
        rw [hread] at h
        cases h
        exact .inr ⟨hgiven, c, rfl, rfl⟩
    | bad issues =>
        rw [hread] at h
        cases h
  next hgiven =>
    cases h
    exact .inl ⟨Bool.eq_false_iff.2 hgiven, rfl⟩

/-- A statement with a filter is longer than one without. -/
theorem text_lookup_ne (c : Condition) (options : Option FetchOptions) :
    (lookup [c] options).text ≠ (lookup [] options).text := by
  intro h
  have hlength := congrArg List.length (congrArg String.toList h)
  have hending : (lookup [] options).ending = lookupEnding options := rfl
  rw [toList_text_lookup, Statement.text_eq_ending, hending] at hlength
  simp [lookup] at hlength
  omega

/-- Nothing that counts is handed in, or criteria that ask for nothing. -/
def AsksNothing (input : FilterInput) (qualify : Bool) : Prop :=
  input.isGiven = false ∨ ∃ c, input.toCriteria = .ok c ∧ c.Vacuous qualify

/-- A lookup by filter has a filter unless nothing is asked, and it is recorded when criteria
ask for nothing. -/
theorem byFilter_cases {collection : Value} {input : FilterInput} {options : Option FetchOptions}
    {q : Query} (h : (byFilter collection input options).query = .ok q) :
    (AsksNothing input (qualifies options) ∧ q.text = (lookup [] options).text ∧
        (byFilter collection input options).criteriaRecords =
          if input.isGiven then [Log.emptyCriteria] else []) ∨
      (¬ AsksNothing input (qualifies options) ∧ (∃ c, q.text = (lookup [c] options).text) ∧
        (byFilter collection input options).criteriaRecords = []) := by
  obtain ⟨s, binds, hplan, rfl⟩ := query_eq_ok h
  rw [plan] at hplan
  cases hcriteria : filterCriteria input with
  | error e =>
      rw [hcriteria] at hplan
      cases hplan
  | ok criteria =>
      rw [hcriteria] at hplan
      obtain ⟨e, hcompile, rfl⟩ := planOf_eq_ok hplan
      rw [criteriaRecords, hcriteria]
      rcases filterCriteria_eq_ok hcriteria with ⟨hgiven, rfl⟩ | ⟨hgiven, c, hread, rfl⟩
      · cases hcompile
        exact .inl ⟨.inl hgiven, rfl, by rw [hgiven]; rfl⟩
      · rw [compileCriteria] at hcompile
        have hnothing : AsksNothing input (qualifies options) ↔ c.Vacuous (qualifies options) := by
          simp [AsksNothing, hgiven, hread]
        rw [hnothing, ← Criteria.compile_eq_none hcompile, if_pos hgiven]
        simp only [emptinessRecords, compileCriteria, hcompile]
        cases e with
        | none => exact .inl ⟨rfl, rfl, rfl⟩
        | some e => exact .inr ⟨Option.some_ne_none e, ⟨e, rfl⟩, rfl⟩

/-- Criteria compile to nothing exactly when they ask for nothing.  A lookup by filter has no
filter, as one of all documents, exactly when such criteria or nothing that counts is handed
in, and for criteria it is recorded. -/
theorem vacuous_left_out :
    (∀ (c : Criteria) (before : Fields) (qualify : Bool) e out,
      c.compile before qualify = (.ok e, out) → (e = none ↔ c.Vacuous qualify)) ∧
    ∀ (collection : Value) (input : FilterInput) (options : Option FetchOptions) (q : Query),
      (byFilter collection input options).query = .ok q →
        (q.text = (lookup [] options).text ↔ AsksNothing input (qualifies options)) ∧
        (q.text ≠ (lookup [] options).text → ∃ c, q.text = (lookup [c] options).text) ∧
        ((byFilter collection input options).criteriaRecords = [Log.emptyCriteria] ↔
          input.isGiven = true ∧ q.text = (lookup [] options).text) := by
  refine ⟨fun c before qualify e out h => Criteria.compile_eq_none h, ?_⟩
  intro collection input options q h
  rcases byFilter_cases h with ⟨hnothing, htext, hrecords⟩ | ⟨hasks, ⟨c, htext⟩, hrecords⟩
  · rw [hrecords]
    refine ⟨iff_of_true htext hnothing, fun hne => absurd htext hne, ?_⟩
    cases input.isGiven with
    | true => exact iff_of_true rfl ⟨rfl, htext⟩
    | false => exact iff_of_false (List.cons_ne_nil _ _).symm fun h => (by cases h.1)
  · rw [hrecords, htext]
    have hne := text_lookup_ne c options
    exact ⟨iff_of_false hne hasks, fun _ => ⟨c, rfl⟩,
      iff_of_false (List.cons_ne_nil _ _).symm fun h => hne h.2⟩

/-- A condition that is blank, and a search in properties that are. -/
def blankParts : Criteria where
  filter := some (.clauses { clauses := [" "] })
  search := some ⟨.many ["", " "], .one "lan", .all⟩

theorem blankParts_left_out :
    ∃ q, (byFilter (.str "cyclists") (.criteria blankParts) none).query = .ok q ∧
      q.text = "FOR d IN @@collection RETURN d" ∧
      (byFilter (.str "cyclists") (.criteria blankParts) none).criteriaRecords =
        [Log.emptyCriteria] ∧
      ∀ e out, blankParts.compile [] = (.ok e, out) → e = none := by
  have hvacuous : blankParts.Vacuous true := by
    refine ⟨fun f hf => ?_, fun s hs => ?_⟩
    · cases hf
      exact ⟨rfl, " ", rfl, by decide⟩
    · cases hs
      have hblank : ∀ t ∈ ["", " "], Text.isBlank t = true := by decide
      exact .inl hblank
  obtain ⟨hcriteria, hlookup⟩ := vacuous_left_out
  obtain ⟨htext, -, hrecords⟩ := hlookup (.str "cyclists") (.criteria blankParts) none _ rfl
  have hnone := htext.2 (.inr ⟨blankParts, rfl, hvacuous⟩)
  refine ⟨_, rfl, hnone, hrecords.2 ⟨rfl, hnone⟩, fun e out h => ?_⟩
  exact (hcriteria blankParts [] true e out h).2 hvacuous

/-- A search for a term in no property. -/
def commaSearch : Criteria where
  search := some ⟨.one ",", .one "lan", .any⟩

/-- A blank filter text. -/
def blankFilter : Criteria where
  filter := some (.text " ")

/-- The search and the filter are there and compile to nothing all the same, the filter where
it is not qualified, and a lookup by them returns all documents. -/
theorem given_and_left_out :
    commaSearch.search.isSome = true ∧ commaSearch.compile [] = (.ok none, []) ∧
      (byFilter (.str "cyclists") (.criteria commaSearch) none).query =
        .ok ⟨"FOR d IN @@collection RETURN d", [("@collection", .str "cyclists")]⟩ ∧
      (∃ f ∈ blankFilter.filter, f.isGiven = true) ∧
      blankFilter.compile [] false = (.ok none, []) :=
  ⟨rfl, rfl, rfl, ⟨_, rfl, rfl⟩, rfl⟩

end Request

end DocQuery
