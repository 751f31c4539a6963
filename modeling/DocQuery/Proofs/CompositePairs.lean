import DocQuery.Cli.Run
import DocQuery.Proofs.JsonCommas
import DocQuery.Proofs.ReadBack
import Mathlib

/-!
# Composite keys on the command line

A named value is given on the command line as a name, an equals sign and the JSON text of the value
(`Cli.pairText`), a composite key as several of them with commas between (`Cli.compositeText`).

*One pair.*  It is cut at its first equals sign, which is the one behind the name, whatever is in
the value (`splitValue_append`).  So every pair is read back (`Written.readPair`).

*Several pairs.*  They are cut at every comma, and a text has one part more than commas
(`Text.length_splitOn`).  Where the values have no commas the parts are the pairs.  Where one has,
there are more parts than pairs, and whatever they are read as is not the key that was written
(`readGroup_compositeText_iff`).

`composite_readBack_iff` says it of the arguments of the program: the option for composite keys
gives back what the option for single values gives for each pair exactly when all values are
`Value.Commaless`.  A text with a comma and an equals sign is read as two members and not refused
(`comma_cuts_value`).
-/

namespace DocQuery

namespace Text

/-- A text has one part more than marks. -/
theorem length_splitOn (mark : Char) (cs : List Char) :
    (splitOn mark cs).length = cs.count mark + 1 := by
  induction cs with
  | nil => rfl
  | cons c rest ih =>
      by_cases hc : c = mark
      · rw [splitOn, if_pos hc, List.length_cons, ih, hc, List.count_cons_self]
      · rw [splitOn, if_neg hc, List.count_cons_of_ne hc, ← ih]
        cases hparts : splitOn mark rest with
        | nil => exact absurd hparts (splitOn_ne_nil mark rest)
        | cons part parts => rfl

/-- The parts of texts with marks between them are the parts of each. -/
theorem splitOn_intercalate (mark : Char) {texts : List (List Char)} (h : texts ≠ []) :
    splitOn mark ([mark].intercalate texts) = texts.flatMap (splitOn mark) := by
  induction texts with
  | nil => exact absurd rfl h
  | cons first rest ih =>
      cases rest with
      | nil => simp [List.intercalate]
      | cons second others =>
          have hjoin : [mark].intercalate (first :: second :: others) =
              first ++ mark :: [mark].intercalate (second :: others) := by
            simp [List.intercalate]
          have hothers := ih (List.cons_ne_nil second others)
          rw [hjoin, splitOn_append, hothers, ← List.flatMap_cons]

end Text

namespace Cli

/-! ## Results of several readings -/

section

variable {ε α β : Type} {f : α → Except ε β}

theorem mapM_eq_ok_map {g : α → β} {xs : List α} (h : ∀ x ∈ xs, f x = .ok (g x)) :
    xs.mapM f = .ok (xs.map g) := by
  induction xs with
  | nil => rfl
  | cons x rest ih =>
      obtain ⟨hx, hrest⟩ := List.forall_mem_cons.1 h
      rw [List.mapM_cons, hx, ih hrest]
      rfl

theorem length_of_mapM {xs : List α} {ys : List β} (h : xs.mapM f = .ok ys) :
    ys.length = xs.length := by
  induction xs generalizing ys with
  | nil =>
      cases h
      rfl
  | cons x rest ih =>
      rw [List.mapM_cons] at h
      cases hx : f x with
      | error e => rw [hx] at h; cases h
      | ok y =>
          cases hrest : rest.mapM f with
          | error e => rw [hx, hrest] at h; cases h
          | ok others =>
              rw [hx, hrest] at h
              cases h
              rw [List.length_cons, List.length_cons, ih hrest]

end

/-! ## One pair -/

/-- The named value that a pair stands for. -/
def named (entry : String × Value) : NamedValue := ⟨entry.1, entry.2, true⟩

/-- How a pair is written. -/
def pairText (entry : String × Value) : String := entry.1 ++ "=" ++ Json.write entry.2

/-- The name of a pair can be written in front of an equals sign and between commas. -/
structure Written (entry : String × Value) : Prop extends (named entry).Proper where
  /-- It has no equals sign. -/
  noEquals : '=' ∉ entry.1.toList
  /-- It has no comma. -/
  noComma : ',' ∉ entry.1.toList

theorem toList_pairText (entry : String × Value) :
    (pairText entry).toList = entry.1.toList ++ '=' :: (Json.write entry.2).toList := by
  simp [pairText]

/-- A text is cut behind a name without equals signs, whatever comes then. -/
theorem splitValue_append {name : List Char} (h : '=' ∉ name) (value : List Char) :
    splitValue (name ++ '=' :: value) = (name, some value) := by
  have hname : ∀ c ∈ name, decide (c ≠ '=') = true := fun c hc =>
    decide_eq_true fun heq => h (heq ▸ hc)
  rw [splitValue, List.dropWhile_append_of_pos hname, List.takeWhile_append_of_pos hname]
  simp

theorem readValue_write {v : Value} (h : Json.read (Json.write v) = .ok v) :
    readValue (Json.write v) = .ok v := by
  rw [readValue, h]

/-- A pair is read back, whatever its value is. -/
theorem Written.readPair {entry : String × Value} (hentry : Written entry)
    (hread : Json.read (Json.write entry.2) = .ok entry.2) :
    readPair (pairText entry) = .ok (named entry) := by
  have hblank : entry.1.toList.all isSpace = false := hentry.notBlank
  have htrim : String.ofList (Text.trim entry.1.toList) = entry.1 := hentry.trimmed
  rw [Cli.readPair, toList_pairText, splitValue_append hentry.noEquals]
  simp only [hblank, String.ofList_toList, readValue_write hread, htrim]
  rfl

theorem Written.not_mem_pairText_iff {entry : String × Value} (hentry : Written entry) :
    ',' ∉ (pairText entry).toList ↔ entry.2.Commaless := by
  rw [← Json.not_mem_write_iff, toList_pairText]
  simp [hentry.noComma]

/-! ## Several pairs -/

/-- How a composite key is written. -/
def compositeText (pairs : Fields) : String := ",".intercalate (pairs.map pairText)

/-- The parts of a composite key are those of its pairs. -/
theorem split_compositeText {pairs : Fields} (hne : pairs ≠ []) :
    Text.split ',' (compositeText pairs) =
      pairs.flatMap fun entry => Text.split ',' (pairText entry) := by
  have htexts : pairs.map (fun entry => (pairText entry).toList) ≠ [] := by simpa using hne
  have hjoin : (compositeText pairs).toList =
      [','].intercalate (pairs.map fun entry => (pairText entry).toList) := by
    rw [compositeText, String.toList_intercalate, List.map_map]
    rfl
  rw [Text.split, hjoin, Text.splitOn_intercalate ',' htexts, List.flatMap_map, List.map_flatMap]
  rfl

theorem split_pairText {entry : String × Value} (h : ',' ∉ (pairText entry).toList) :
    Text.split ',' (pairText entry) = [pairText entry] := by
  rw [Text.split, Text.splitOn_of_not_mem h, List.map_singleton, String.ofList_toList]

/-- There are as many parts as pairs and commas in them together. -/
theorem length_split_compositeText {pairs : Fields} (hne : pairs ≠ []) :
    (Text.split ',' (compositeText pairs)).length =
      (pairs.map fun entry => (pairText entry).toList.count ',').sum + pairs.length := by
  have hpart (entry : String × Value) :
      (Text.split ',' (pairText entry)).length = (pairText entry).toList.count ',' + 1 := by
    rw [Text.split, List.length_map, Text.length_splitOn]
  rw [split_compositeText hne, List.length_flatMap]
  simp [hpart, List.sum_map_add]

/-- Whatever is read has a member more for every comma in a pair. -/
theorem length_of_readGroup {pairs : Fields} {members : List NamedValue} (hne : pairs ≠ [])
    (h : readGroup (compositeText pairs) = .ok members) :
    members.length =
      (pairs.map fun entry => (pairText entry).toList.count ',').sum + pairs.length := by
  rw [length_of_mapM h, length_split_compositeText hne]

/-- The pairs are read back exactly when no value has a comma in its text. -/
theorem readGroup_compositeText_iff {pairs : Fields} (hne : pairs ≠ [])
    (hpairs : ∀ entry ∈ pairs, Written entry)
    (hread : ∀ entry ∈ pairs, Json.read (Json.write entry.2) = .ok entry.2) :
    readGroup (compositeText pairs) = .ok (pairs.map named) ↔
      ∀ entry ∈ pairs, entry.2.Commaless := by
  constructor
  · intro h entry hentry
    rw [← (hpairs entry hentry).not_mem_pairText_iff, ← List.count_eq_zero]
    have hlength := length_of_readGroup hne h
    rw [List.length_map] at hlength
    have hsum : (pairs.map fun entry => (pairText entry).toList.count ',').sum = 0 := by omega
    exact List.sum_eq_zero_iff.1 hsum _ (List.mem_map_of_mem hentry)
  · intro h
    have hparts : Text.split ',' (compositeText pairs) = pairs.map pairText := by
      rw [split_compositeText hne, List.map_eq_flatMap]
      refine List.flatMap_congr fun entry hentry => split_pairText ?_
      exact (hpairs entry hentry).not_mem_pairText_iff.2 (h entry hentry)
    rw [readGroup, hparts, List.mapM_map]
    exact mapM_eq_ok_map fun entry hentry => (hpairs entry hentry).readPair (hread entry hentry)

/-! ## The arguments of the program -/

/-- The arguments that give one option and the collection. -/
def uniqueArguments (option text collection : String) : List String :=
  ["query", "unique", option, text, "--", collection]

/-- What arguments ask to check, if they ask for a check of uniqueness. -/
def requested? (settings : Settings) (args : List String) :
    Option (Except PairError (List Constraint)) :=
  match Invocation.read settings args with
  | .ok { command := .ok (.unique o), .. } => some o.readConstraints
  | _ => none

theorem requested?_single (settings : Settings) (text collection : String) :
    requested? settings (uniqueArguments "--unique" text collection) =
      some ((readPair text).map fun p => [.single p]) := by
  have hread : Invocation.read settings (uniqueArguments "--unique" text collection) =
      .ok ⟨settings.level, .ok (.unique
        { collection, pairs := [text], target := readTarget settings {} })⟩ := rfl
  rw [requested?, hread]
  dsimp only [UniqueOptions.readConstraints]
  rw [List.mapM_cons]
  cases readPair text <;> rfl

theorem requested?_composite (settings : Settings) (text collection : String) :
    requested? settings (uniqueArguments "--composite" text collection) =
      some ((readGroup text).map fun members => match members with
        | first :: others => [.composite ⟨first, others⟩]
        | [] => []) := by
  have hread : Invocation.read settings (uniqueArguments "--composite" text collection) =
      .ok ⟨settings.level, .ok (.unique
        { collection, groups := [text], target := readTarget settings {} })⟩ := rfl
  rw [requested?, hread]
  dsimp only [UniqueOptions.readConstraints]
  rw [List.mapM_cons]
  cases readGroup text with
  | error e => rfl
  | ok members => cases members <;> rfl

/-- A composite key gives back its pairs exactly when no value has a comma in its text; a single
value always gives back its pair. -/
theorem composite_readBack_iff (settings : Settings) (collection : String) {pairs : Fields}
    (hne : pairs ≠ []) (hpairs : ∀ entry ∈ pairs, Written entry)
    (hread : ∀ entry ∈ pairs, Json.read (Json.write entry.2) = .ok entry.2) :
    ((∃ key : CompositeKey, key.members = pairs.map named ∧
        requested? settings (uniqueArguments "--composite" (compositeText pairs) collection) =
          some (.ok [.composite key])) ↔ ∀ entry ∈ pairs, entry.2.Commaless) ∧
      ∀ entry ∈ pairs,
        requested? settings (uniqueArguments "--unique" (pairText entry) collection) =
          some (.ok [.single (named entry)]) := by
  constructor
  · rw [← readGroup_compositeText_iff hne hpairs hread, requested?_composite]
    constructor
    · rintro ⟨key, hmembers, hkey⟩
      cases hgroup : readGroup (compositeText pairs) with
      | error e =>
          rw [hgroup] at hkey
          cases hkey
      | ok members =>
          rw [hgroup] at hkey
          cases members with
          | nil => cases hkey
          | cons first others =>
              cases hkey
              exact congrArg Except.ok hmembers
    · intro hgroup
      obtain ⟨entry, rest, rfl⟩ := List.exists_cons_of_ne_nil hne
      exact ⟨⟨named entry, rest.map named⟩, rfl, by rw [hgroup]; rfl⟩
  · intro entry hentry
    rw [requested?_single, (hpairs entry hentry).readPair (hread entry hentry)]
    rfl

/-- An equals sign in a text, a list of one item and an object of one name are read back. -/
theorem riderKey_readBack :
    let pairs : Fields := [("team.name", .str "a=b"), ("tags", .list [.str "=x"]),
      ("born", .object [("year", .int 1971)])]
    pairs ≠ [] ∧ (∀ entry ∈ pairs, Written entry) ∧
      (∀ entry ∈ pairs, Json.read (Json.write entry.2) = .ok entry.2) ∧
      compositeText pairs = "team.name=\"a=b\",tags=[\"=x\"],born=\x7b\"year\": 1971\x7d" ∧
      (∃ key : CompositeKey, key.members = pairs.map named ∧
        requested? {} (uniqueArguments "--composite" (compositeText pairs) "riders") =
          some (.ok [.composite key])) ∧
      requested? {} (uniqueArguments "--unique" "team.name=\"a=b\"" "riders") =
        some (.ok [.single ⟨"team.name", .str "a=b", true⟩]) := by
  intro pairs
  have hne : pairs ≠ [] := List.cons_ne_nil _ _
  have hpairs : ∀ entry ∈ pairs, Written entry := by
    have hteam : Written ("team.name", .str "a=b") :=
      ⟨⟨by decide, by decide⟩, by decide, by decide⟩
    have htags : Written ("tags", .list [.str "=x"]) :=
      ⟨⟨by decide, by decide⟩, by decide, by decide⟩
    have hborn : Written ("born", .object [("year", .int 1971)]) :=
      ⟨⟨by decide, by decide⟩, by decide, by decide⟩
    simp [pairs, hteam, htags, hborn]
  have hread : ∀ entry ∈ pairs, Json.read (Json.write entry.2) = .ok entry.2 := by
    have hteam : Json.read (Json.write (.str "a=b")) = .ok (.str "a=b") := by cbv
    have htags : Json.read (Json.write (.list [.str "=x"])) = .ok (.list [.str "=x"]) := by cbv
    have hborn : Json.read (Json.write (.object [("year", .int 1971)])) =
        .ok (.object [("year", .int 1971)]) := by cbv
    simp [pairs, hteam, htags, hborn]
  have hcommaless : ∀ entry ∈ pairs, entry.2.Commaless := by
    have hteam : (Value.str "a=b").Commaless := Json.not_mem_write_iff.1 (by decide)
    have htags : (Value.list [.str "=x"]).Commaless := Json.not_mem_write_iff.1 (by decide)
    have hborn : (Value.object [("year", .int 1971)]).Commaless :=
      Json.not_mem_write_iff.1 (by decide)
    simp [pairs, hteam, htags, hborn]
  obtain ⟨hcomposite, hsingle⟩ := composite_readBack_iff {} "riders" hne hpairs hread
  exact ⟨hne, hpairs, hread, by cbv, hcomposite.2 hcommaless, hsingle _ List.mem_cons_self⟩

/-- The text `x,y=z` as the value of a name is given back by the option for single values, and
falls into two members in a composite key. -/
theorem comma_cuts_value :
    let pairs : Fields := [("name", .str "x,y=z")]
    compositeText pairs = "name=\"x,y=z\"" ∧
      requested? {} (uniqueArguments "--unique" "name=\"x,y=z\"" "riders") =
        some (.ok [.single ⟨"name", .str "x,y=z", true⟩]) ∧
      requested? {} (uniqueArguments "--composite" "name=\"x,y=z\"" "riders") =
        some (.ok [.composite ⟨⟨"name", .str "\"x", true⟩, [⟨"y", .str "z\"", true⟩]⟩]) ∧
      ¬ ∃ key : CompositeKey, key.members = pairs.map named ∧
        requested? {} (uniqueArguments "--composite" (compositeText pairs) "riders") =
          some (.ok [.composite key]) := by
  intro pairs
  have htext : compositeText pairs = "name=\"x,y=z\"" := by cbv
  have hpair : readPair "name=\"x,y=z\"" = .ok ⟨"name", .str "x,y=z", true⟩ := by cbv
  have hgroup : readGroup "name=\"x,y=z\"" =
      .ok [⟨"name", .str "\"x", true⟩, ⟨"y", .str "z\"", true⟩] := by cbv
  refine ⟨htext, ?_, ?_, ?_⟩
  · rw [requested?_single, hpair]
    rfl
  · rw [requested?_composite, hgroup]
    rfl
  · rintro ⟨key, hmembers, hkey⟩
    rw [htext, requested?_composite, hgroup] at hkey
    cases hkey
    cases congrArg List.length hmembers

end Cli

end DocQuery
