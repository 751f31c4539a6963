import DocQuery.Proofs.ParameterNames
import DocQuery.Proofs.StatementParts

/-!
# What a uniqueness check accepts

The query of a uniqueness constraint is read back from its text, with no use of how it was
made: the filters hold together, `&&` binds tighter than `||`, brackets count, and each
placeholder is the value bound for it.  The documents that it then accepts are those that
the constraint is about (`Request.conflicts_accepts`):

* the key is not the one left out, if one is;
* all named values of some part are there;
* the search is satisfied, if it has a pair.

The filters are taken one at a time, as a `Says` for each.  The branches of all parts share
one counter and one dictionary with the search, so what a branch says rests on its
parameters being bound by no one else.
-/

namespace DocQuery

/-! ## Filters of a uniqueness check -/

/-- What the branches of a constraint bind. -/
def Uniqueness.branchBinds (u : Uniqueness) : Fields :=
  Constraint.bindingsFrom u.caseInsensitive 1 u.constraints

/-- What the search of a constraint binds. -/
def Uniqueness.searchBinds (u : Uniqueness) : Fields := (u.search.map Search.bindings).getD []

namespace Request

variable {look : String → Option Value}

theorem says_exclusion (u : Uniqueness) (binds : Fields)
    (h : ∀ key, excluded? u = some key → look excludedParameter = some (.str key)) :
    Says look (exclusion u binds).1 fun I =>
      ∀ key ∈ u.excludedKey, key ≠ "" → I (Fact.keyIsNot (.str key)).slots := by
  have hexcluded (key : String) : excluded? u = some key ↔ key ∈ u.excludedKey ∧ key ≠ "" := by
    simp [excluded?, Option.filter_eq_some_iff]
  unfold exclusion
  cases hkey : excluded? u with
  | none =>
      refine Says.nil.congr fun I => ⟨fun _ key hmem hne => ?_, fun _ => trivial⟩
      have hsome := (hexcluded key).2 ⟨hmem, hne⟩
      rw [hkey] at hsome
      cases hsome
  | some key =>
      have hnamed : (Test.keyIsNot excludedParameter).Named := by decide
      have hfact : (Test.keyIsNot excludedParameter).fact? look = some (.keyIsNot (.str key)) := by
        simp [Test.fact?, h key hkey]
      refine .piece (.test hnamed) fun I => ?_
      rw [Test.holds_iff hnamed hfact]
      constructor
      · intro hI other hmem hne
        have hsame := (hexcluded other).2 ⟨hmem, hne⟩
        rw [hkey] at hsame
        cases hsame
        exact hI
      · obtain ⟨hmem, hne⟩ := (hexcluded key).1 hkey
        exact fun hall => hall key hmem hne

theorem says_branches {u : Uniqueness} (hne : u.constraints ≠ [])
    (h : Gives look (Constraint.bindingsFrom u.caseInsensitive 1 u.constraints)) :
    Says look
      [.joined .any (Constraint.branches 1 (u.constraints.map (Constraint.form u.caseInsensitive)))]
      fun I => ∃ c ∈ u.constraints, ∀ p ∈ c.members, I (p.fact u.caseInsensitive).slots := by
  refine .joined ?_ (Constraint.pieces_branches u.caseInsensitive 1 u.constraints)
    fun I => Constraint.combines_branches h .any I
  cases hconstraints : u.constraints with
  | nil => exact absurd hconstraints hne
  | cons c rest => exact List.cons_ne_nil _ _

theorem says_searchFilter (u : Uniqueness) (binds : Fields) (h : Gives look u.searchBinds) :
    Says look (searchFilter u binds).1 fun I => ∀ s ∈ u.search, s.pairs ≠ [] → s.Asks I := by
  unfold searchFilter
  unfold Uniqueness.searchBinds at h
  cases hsearch : u.search with
  | none =>
      refine Says.nil.congr fun I => ⟨?_, fun _ => trivial⟩
      rintro - s hs
      cases hs
  | some s =>
      rw [hsearch] at h
      obtain ⟨hempty, hnone⟩ | ⟨hpairs, htests, hsome⟩ := s.compile?_cases binds
      · cases hcompile : s.compile? binds with
        | mk c after =>
            rw [hcompile] at hnone
            obtain rfl : c = none := hnone
            simp only [hcompile]
            refine Says.nil.congr fun I => ⟨fun _ other hother hne => ?_, fun _ => trivial⟩
            cases hother
            exact absurd hempty hne
      · cases hcompile : s.compile? binds with
        | mk c after =>
            rw [hcompile] at hsome
            obtain rfl : c = some _ := hsome
            simp only [hcompile]
            have hreadable := Condition.readable_joined htests (Search.pieces_testsOf 1 s.kinds)
              s.join
            refine .piece (.group hreadable) fun I => ?_
            rw [Condition.Holds, Search.holds_joined h]
            constructor
            · rintro hasks other hother -
              cases hother
              exact hasks
            · exact fun hall => hall s rfl hpairs

/-! ## The query -/

theorem searchFilter_snd (u : Uniqueness) (binds : Fields) :
    (searchFilter u binds).2 = binds.merge u.searchBinds := by
  unfold searchFilter Uniqueness.searchBinds
  cases u.search with
  | none => rfl
  | some s =>
      have hbinds := s.compile?_snd binds
      cases hcompile : s.compile? binds with
      | mk c after =>
          rw [hcompile] at hbinds
          simp only [hcompile]
          cases c with
          | none => exact hbinds
          | some c => exact hbinds

/-- The query of a constraint binds the collection, the excluded key, what the branches bind
and what the search binds, in this order. -/
theorem conflictPlan_snd (u : Uniqueness) :
    (conflictPlan u).2 =
      ((exclusion u (baseBinds (.str u.collection))).2.merge u.branchBinds).merge
        u.searchBinds := by
  simp only [conflictPlan, Constraint.branchesFrom_eq, searchFilter_snd, Uniqueness.branchBinds]

theorem conflictPlan_filters (u : Uniqueness) : ∃ binds,
    (conflictPlan u).1.filters =
      (exclusion u (baseBinds (.str u.collection))).1 ++
        [.joined .any (Constraint.branches 1
          (u.constraints.map (Constraint.form u.caseInsensitive)))] ++
        (searchFilter u binds).1 := by
  simp only [conflictPlan, Constraint.branchesFrom_eq]
  exact ⟨_, rfl⟩

/-- The parameters of the branches are numbered. -/
theorem numbered_branchBinds {u : Uniqueness} {name : String} (h : name ∈ u.branchBinds.names) :
    ∃ k, Numbered k name := by
  rw [Uniqueness.branchBinds, Constraint.bindingsFrom_eq] at h
  obtain ⟨k, -, hk⟩ := NamedValue.numbered_of_mem h
  exact ⟨k, hk⟩

theorem branchBinds_nodup (u : Uniqueness) : u.branchBinds.names.Nodup := by
  rw [Uniqueness.branchBinds, Constraint.bindingsFrom_eq]
  exact NamedValue.bindingsFrom_nodup ..

theorem gives_search (u : Uniqueness) : Gives (conflictPlan u).2.get? u.searchBinds := by
  rw [conflictPlan_snd]
  exact gives_merge _ (Search.nodup_of_option u.search)

theorem gives_branches (u : Uniqueness) : Gives (conflictPlan u).2.get? u.branchBinds := by
  rw [conflictPlan_snd]
  refine (gives_merge _ (branchBinds_nodup u)).merge fun name hname => ?_
  obtain ⟨k, hk⟩ := numbered_branchBinds hname
  exact Search.not_mem_option hk.not_mem_search u.search

theorem endsWordlike_excludedParameter : EndsWordlike excludedParameter := by
  intro c hc
  cases hc
  rfl

theorem gives_excluded (u : Uniqueness) (key : String) (h : excluded? u = some key) :
    (conflictPlan u).2.get? excludedParameter = some (.str key) := by
  have hbranches : excludedParameter ∉ u.branchBinds.names := by
    intro hmem
    obtain ⟨k, hk⟩ := numbered_branchBinds hmem
    exact hk.ne_of_endsWordlike endsWordlike_excludedParameter rfl
  have hsearch : excludedParameter ∉ u.searchBinds.names :=
    Search.not_mem_option (Search.not_mem_of_endsWordlike endsWordlike_excludedParameter) u.search
  rw [conflictPlan_snd, Fields.get?_merge_of_not_mem _ hsearch,
    Fields.get?_merge_of_not_mem _ hbranches, exclusion, h]
  exact Fields.get?_set_self ..

/-- The filters of a constraint, one after the other. -/
theorem says_conflictPlan {u : Uniqueness} (h : u.constraints ≠ []) :
    Says (conflictPlan u).2.get? (conflictPlan u).1.filters fun I =>
      ((∀ key ∈ u.excludedKey, key ≠ "" → I (Fact.keyIsNot (.str key)).slots) ∧
        ∃ c ∈ u.constraints, ∀ p ∈ c.members, I (p.fact u.caseInsensitive).slots) ∧
      ∀ s ∈ u.search, s.pairs ≠ [] → s.Asks I := by
  obtain ⟨binds, hfilters⟩ := conflictPlan_filters u
  rw [hfilters]
  exact ((says_exclusion u _ (gives_excluded u)).append (says_branches h (gives_branches u))).append
    (says_searchFilter u binds (gives_search u))

/-- A document is in conflict with a uniqueness constraint exactly when its key is not the
one left out, all named values of some part are there, and the search is satisfied. -/
theorem conflicts_accepts (u : Uniqueness) (options : Option FetchOptions)
    (h : u.constraints ≠ []) :
    ∃ q, (conflicts (some u) options).query = .ok q ∧
      (∀ e ∈ filtersOf q.text.toList, WellFormed e) ∧
      ∀ I, q.Accepts I ↔
        (∀ key ∈ u.excludedKey, key ≠ "" → I (Fact.keyIsNot (.str key)).slots) ∧
        (∃ c ∈ u.constraints, ∀ p ∈ c.members, I (p.fact u.caseInsensitive).slots) ∧
        ∀ s ∈ u.search, s.pairs ≠ [] →
          s.join.Combines (fun pair => I (Search.fact pair.1 pair.2).slots) s.pairs := by
  have husable : usable? (some u) = some u := by
    simp [usable?, Option.filter, h]
  have hquery : (conflicts (some u) options).query =
      .ok ((conflictPlan u).1.query (conflictPlan u).2) := by
    rw [query, plan, husable]
    rfl
  obtain ⟨hwell, haccepts⟩ := Statement.accepts_iff (says_conflictPlan h)
    (Statement.filtersOf_ending rfl fun k hk => absurd hk (Option.not_mem_none k))
  refine ⟨_, hquery, hwell, fun I => ?_⟩
  rw [haccepts I, and_assoc]
  rfl

/-- A name compared without regard to case, a composite key, an excluded document and a
search for two terms. -/
def taken : Uniqueness where
  collection := "people"
  constraints :=
    [.single ⟨"mail", .str "A@B", false⟩,
      .composite ⟨⟨"name", .str "Lance", true⟩, [⟨"team.id", .int 3, true⟩]⟩]
  excludedKey := some "42"
  search := some ⟨.one "team", .many ["null", "post"], .all⟩

theorem taken_accepts : ∃ q, (conflicts (some taken) none).query = .ok q ∧
    (∀ e ∈ filtersOf q.text.toList, WellFormed e) ∧
    ∀ I, q.Accepts I ↔
      I (Fact.keyIsNot (.str "42")).slots ∧
      (I (Fact.equalLower (.str "mail") (.str "a@b")).slots ∨
        I (Fact.equal (.str "name") (.str "Lance")).slots ∧
          I (Fact.equal (.list [.str "team", .str "id"]) (.int 3)).slots) ∧
      I (Fact.isNull (.str "team")).slots ∧
        I (Fact.like (.str "team") (.str "%post%")).slots := by
  obtain ⟨q, hq, hwell, haccepts⟩ := conflicts_accepts taken none (List.cons_ne_nil _ _)
  refine ⟨q, hq, hwell, fun I => ?_⟩
  have hmail : NamedValue.fact false ⟨"mail", .str "A@B", false⟩ =
      .equalLower (.str "mail") (.str "a@b") := by cbv
  have hname : NamedValue.fact false ⟨"name", .str "Lance", true⟩ =
      .equal (.str "name") (.str "Lance") := by cbv
  have hteam : NamedValue.fact false ⟨"team.id", .int 3, true⟩ =
      .equal (.list [.str "team", .str "id"]) (.int 3) := by cbv
  have hpairs : (⟨.one "team", .many ["null", "post"], .all⟩ : Search).pairs =
      [("team", "null"), ("team", "post")] := by cbv
  have hnull : Search.fact "team" "null" = .isNull (.str "team") := by cbv
  have hpost : Search.fact "team" "post" = .like (.str "team") (.str "%post%") := by cbv
  rw [haccepts]
  simp [taken, Constraint.members, CompositeKey.members, Join.combines_cons, Join.Both, hmail,
    hname, hteam, hpairs, hnull, hpost]

end Request

end DocQuery
