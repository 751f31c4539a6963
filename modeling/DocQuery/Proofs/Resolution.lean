import DocQuery.Proofs.Closure
import DocQuery.Proofs.ConditionMeaning

/-!
# Resolving placeholders

`resolve` puts the bound value in the place of every placeholder of a text.  What remains
is a row of slots, in which only characters and values stand, so nothing depends on how a
parameter is called.  An interpretation of such rows says which tests a document passes.

A `Fact` is a test about values: this property equals that value, that property is null.
The text of a test, resolved, is the fact that it states of the values of its parameters
(`Test.resolve_text`).

*Numbered tests.*  Named values and searches number the parameters of their tests.  Where
the parameters have the values that the compiler binds (`Gives`), their tests state the
facts that one reads off the named values, the parts of a constraint and the pairs of a
search without any number: `NamedValue.combines_formTests`, `Constraint.combines_branches`
and `Search.combines_testsOf`.
-/

namespace DocQuery

/-- A piece of a resolved text. -/
inductive Slot where
  /-- A character. -/
  | char (c : Char)
  /-- The value of a parameter. -/
  | value (v : Value)
  /-- A parameter without a value. -/
  | unbound (name : String)
deriving Repr

/-- The slot of a parameter. -/
def Slot.ofName (look : String → Option Value) (name : String) : Slot :=
  match look name with
  | some v => value v
  | none => unbound name

/-- Puts values in the places of placeholders; a second sign belongs to the name. -/
def resolve (look : String → Option Value) : List Char → List Slot
  | [] => []
  | '@' :: '@' :: rest =>
      .ofName look (String.ofList ('@' :: rest.takeWhile isNameChar)) ::
        resolve look (rest.dropWhile isNameChar)
  | '@' :: rest =>
      .ofName look (String.ofList (rest.takeWhile isNameChar)) ::
        resolve look (rest.dropWhile isNameChar)
  | c :: rest => .char c :: resolve look rest
termination_by cs => cs.length
decreasing_by
  · have hlength := (List.dropWhile_suffix (l := rest) isNameChar).length_le
    simp only [List.length_cons]
    omega
  · have hlength := (List.dropWhile_suffix (l := rest) isNameChar).length_le
    simp only [List.length_cons]
    omega
  · simp

section

variable {look : String → Option Value}

theorem resolve_cons_of_ne {c : Char} (h : c ≠ '@') (rest : List Char) :
    resolve look (c :: rest) = .char c :: resolve look rest := by
  rw [resolve]
  · rintro more rfl
    exact absurd rfl h
  · rintro rfl
    exact absurd rfl h

theorem resolve_skip {cs : List Char} (h : '@' ∉ cs) (rest : List Char) :
    resolve look (cs ++ rest) = cs.map Slot.char ++ resolve look rest := by
  induction cs with
  | nil => rfl
  | cons c cs ih =>
      simp only [List.mem_cons, not_or] at h
      rw [List.cons_append, resolve_cons_of_ne (Ne.symm h.1), ih h.2]
      rfl

theorem resolve_of_not_mem {cs : List Char} (h : '@' ∉ cs) :
    resolve look cs = cs.map Slot.char := by
  have hskip : resolve look (cs ++ []) = _ := resolve_skip h []
  rw [List.append_nil, resolve, List.append_nil] at hskip
  exact hskip

theorem dropWhile_append_apart {name : String} (h : IsName name) {rest : List Char}
    (hrest : Apart rest) : (name.toList ++ rest).dropWhile isNameChar = rest := by
  rw [List.dropWhile_append_of_pos h.2]
  cases rest with
  | nil => rfl
  | cons c rest => rw [List.dropWhile_cons_of_neg (by simp [(hrest c rfl).2])]

/-- A placeholder is resolved to the value of its name. -/
theorem resolve_sign {name : String} (h : IsName name) {v : Value} (hv : look name = some v)
    {rest : List Char} (hrest : Apart rest) :
    resolve look ('@' :: (name.toList ++ rest)) = .value v :: resolve look rest := by
  have hword : (name.toList ++ rest).takeWhile isNameChar = name.toList := by
    rw [takeWhile_append_apart _ hrest, List.takeWhile_eq_self_iff]
    exact h.2
  have hslot : Slot.ofName look (String.ofList name.toList) = .value v := by
    rw [String.ofList_toList, Slot.ofName, hv]
  rw [resolve]
  · rw [hword, dropWhile_append_apart h hrest, hslot]
  · intro more hmore
    obtain ⟨c, cs, hcs⟩ := List.exists_cons_of_ne_nil fun hnil =>
      h.1 (String.toList_eq_nil_iff.1 hnil)
    rw [hcs, List.cons_append] at hmore
    obtain ⟨rfl, -⟩ := List.cons.inj hmore
    exact absurd (hcs ▸ List.mem_cons_self) h.not_mem

theorem resolve_sign_last {name : String} (h : IsName name) {v : Value}
    (hv : look name = some v) : resolve look ('@' :: name.toList) = [.value v] := by
  have hsign := resolve_sign h hv apart_nil
  rwa [List.append_nil, resolve] at hsign

end

/-! ## Facts -/

/-- A test about values. -/
inductive Fact where
  /-- The property is the value. -/
  | equal (property value : Value)
  /-- The lower case of the property is the value. -/
  | equalLower (property value : Value)
  /-- The property matches the pattern, without regard to case. -/
  | like (property pattern : Value)
  /-- The property is null. -/
  | isNull (property : Value)
  /-- The property is not null. -/
  | notNull (property : Value)
  /-- The document has the key. -/
  | keyIs (key : Value)
  /-- The document has another key. -/
  | keyIsNot (key : Value)
deriving Repr

namespace Fact

/-- The slots of a text without placeholders. -/
def chars (s : String) : List Slot := s.toList.map .char

/-- The row of slots that a fact is written as. -/
def slots : Fact → List Slot
  | equal property value => chars "d." ++ .value property :: (chars " == " ++ [.value value])
  | equalLower property value =>
      chars "LOWER(d." ++ .value property :: (chars ") == " ++ [.value value])
  | like property pattern =>
      chars "LIKE(d." ++ .value property :: (chars ", " ++ .value pattern :: chars ", true)")
  | isNull property => chars "d." ++ .value property :: chars " == null"
  | notNull property => chars "d." ++ .value property :: chars " != null"
  | keyIs key => chars "d._key == " ++ [.value key]
  | keyIsNot key => chars "d._key != " ++ [.value key]

end Fact

namespace Test

/-- The fact that a test states where its parameters have values. -/
def fact? (look : String → Option Value) : Test → Option Fact
  | equal property value => return .equal (← look property) (← look value)
  | equalLower property value => return .equalLower (← look property) (← look value)
  | like property pattern => return .like (← look property) (← look pattern)
  | isNull property => return .isNull (← look property)
  | notNull property => return .notNull (← look property)
  | keyIs key => return .keyIs (← look key)
  | keyIsNot key => return .keyIsNot (← look key)

/-- The text of a test, resolved, is the fact that the test states. -/
theorem resolve_text {look : String → Option Value} {t : Test} (h : t.Named) {f : Fact}
    (hf : t.fact? look = some f) : resolve look t.text.toList = f.slots := by
  cases t with
  | equal property value =>
      obtain ⟨p, hp, hf⟩ := Option.bind_eq_some_iff.1 hf
      obtain ⟨v, hv, hf⟩ := Option.bind_eq_some_iff.1 hf
      cases hf
      have htext : (equal property value).text.toList = "d.".toList ++
          '@' :: (property.toList ++ (" == ".toList ++ '@' :: value.toList)) := by
        simp [text]
      rw [htext, resolve_skip (by decide),
        resolve_sign (h property (by simp [parameters])) hp (by simp [isNameChar]),
        resolve_skip (by decide), resolve_sign_last (h value (by simp [parameters])) hv]
      rfl
  | equalLower property value =>
      obtain ⟨p, hp, hf⟩ := Option.bind_eq_some_iff.1 hf
      obtain ⟨v, hv, hf⟩ := Option.bind_eq_some_iff.1 hf
      cases hf
      have htext : (equalLower property value).text.toList = "LOWER(d.".toList ++
          '@' :: (property.toList ++ (") == ".toList ++ '@' :: value.toList)) := by
        simp [text]
      rw [htext, resolve_skip (by decide),
        resolve_sign (h property (by simp [parameters])) hp (by simp [isNameChar]),
        resolve_skip (by decide), resolve_sign_last (h value (by simp [parameters])) hv]
      rfl
  | like property pattern =>
      obtain ⟨p, hp, hf⟩ := Option.bind_eq_some_iff.1 hf
      obtain ⟨q, hq, hf⟩ := Option.bind_eq_some_iff.1 hf
      cases hf
      have htext : (like property pattern).text.toList = "LIKE(d.".toList ++
          '@' :: (property.toList ++ (", ".toList ++
            '@' :: (pattern.toList ++ ", true)".toList))) := by
        simp [text]
      rw [htext, resolve_skip (by decide),
        resolve_sign (h property (by simp [parameters])) hp (by simp [isNameChar]),
        resolve_skip (by decide),
        resolve_sign (h pattern (by simp [parameters])) hq (by simp [isNameChar]),
        resolve_of_not_mem (by decide)]
      rfl
  | isNull property =>
      obtain ⟨p, hp, hf⟩ := Option.bind_eq_some_iff.1 hf
      cases hf
      have htext : (isNull property).text.toList = "d.".toList ++
          '@' :: (property.toList ++ " == null".toList) := by
        simp [text]
      rw [htext, resolve_skip (by decide),
        resolve_sign (h property (by simp [parameters])) hp (by simp [isNameChar]),
        resolve_of_not_mem (by decide)]
      rfl
  | notNull property =>
      obtain ⟨p, hp, hf⟩ := Option.bind_eq_some_iff.1 hf
      cases hf
      have htext : (notNull property).text.toList = "d.".toList ++
          '@' :: (property.toList ++ " != null".toList) := by
        simp [text]
      rw [htext, resolve_skip (by decide),
        resolve_sign (h property (by simp [parameters])) hp (by simp [isNameChar]),
        resolve_of_not_mem (by decide)]
      rfl
  | keyIs key =>
      obtain ⟨k, hk, hf⟩ := Option.bind_eq_some_iff.1 hf
      cases hf
      have htext : (keyIs key).text.toList = "d._key == ".toList ++ '@' :: key.toList := by
        simp [text]
      rw [htext, resolve_skip (by decide), resolve_sign_last (h key (by simp [parameters])) hk]
      rfl
  | keyIsNot key =>
      obtain ⟨k, hk, hf⟩ := Option.bind_eq_some_iff.1 hf
      cases hf
      have htext : (keyIsNot key).text.toList = "d._key != ".toList ++ '@' :: key.toList := by
        simp [text]
      rw [htext, resolve_skip (by decide), resolve_sign_last (h key (by simp [parameters])) hk]
      rfl

theorem holds_iff {look : String → Option Value} {t : Test} (h : t.Named) {f : Fact}
    (hf : t.fact? look = some f) (I : List Slot → Prop) :
    (Condition.test t).Holds (fun cs => I (resolve look cs)) ↔ I f.slots := by
  rw [Condition.Holds, resolve_text h hf]

end Test

/-! ## Numbered tests -/

/-- Whether parameters have the values of some bindings. -/
def Gives (look : String → Option Value) (entries : Fields) : Prop :=
  ∀ entry ∈ entries, look entry.1 = some entry.2

section

variable {look : String → Option Value}

theorem gives_append {entries more : Fields} :
    Gives look (entries ++ more) ↔ Gives look entries ∧ Gives look more := List.forall_mem_append

namespace NamedValue

/-- What a named value says of a document.  Texts are compared in lower case when case
does not count for all or for this one. -/
def fact (ignoreCase : Bool) (p : NamedValue) : Fact :=
  match p.value with
  | .str s =>
      if ignoreCase || !p.caseSensitive then
        .equalLower (attributePath p.name) (.str (Text.lowered s))
      else .equal (attributePath p.name) (.str s)
  | v => .equal (attributePath p.name) v

theorem fact?_testOf (ignoreCase : Bool) (p : NamedValue) {key value : String}
    (h : Gives look (p.bindings ignoreCase key value)) :
    (testOf (p.form ignoreCase).lowered key value).fact? look = some (p.fact ignoreCase) := by
  obtain ⟨hkey, hothers⟩ := List.forall_mem_cons.1 h
  have hvalue := hothers _ List.mem_cons_self
  obtain ⟨name, v, caseSensitive⟩ := p
  cases v with
  | str s =>
      cases hcase : ignoreCase || !caseSensitive with
      | true =>
          simp only [comparedValue, lowerText?, hcase, Value.text?, if_true] at hkey hvalue
          simp [testOf, form, lowerText?, fact, hcase, Value.text?, Test.fact?, hkey, hvalue]
      | false =>
          simp only [comparedValue, lowerText?, hcase, Bool.false_eq_true, if_false] at hkey hvalue
          simp [testOf, form, lowerText?, fact, hcase, Test.fact?, hkey, hvalue]
  | _ =>
      simp only [comparedValue, lowerText?, Value.text?, ite_self] at hkey hvalue
      simp [testOf, form, lowerText?, fact, Value.text?, Test.fact?, hkey, hvalue]

/-- The tests of named values state their facts. -/
theorem combines_formTests {ignoreCase : Bool} {number : Nat} {ps : List NamedValue}
    (h : Gives look (bindingsFrom ignoreCase number ps)) (j : Join) (I : List Slot → Prop) :
    j.Combines (Condition.Holds fun cs => I (resolve look cs))
        (formTests number (ps.map (form ignoreCase))) ↔
      j.Combines (fun p => I (p.fact ignoreCase).slots) ps := by
  induction ps generalizing number with
  | nil => cases j <;> simp [formTests]
  | cons p rest ih =>
      obtain ⟨hfirst, hrest⟩ := gives_append.1 h
      have hnamed : ((p.form ignoreCase).test number).Named :=
        named_formTests ignoreCase number (p :: rest) _ List.mem_cons_self
      have hfact : ((p.form ignoreCase).test number).fact? look = some (p.fact ignoreCase) :=
        p.fact?_testOf ignoreCase hfirst
      rw [List.map_cons, formTests, Join.combines_cons, Join.combines_cons, ih hrest,
        Test.holds_iff hnamed hfact]

end NamedValue

namespace Constraint

theorem holds_branch {ignoreCase : Bool} {number : Nat} {c : Constraint}
    (h : Gives look (NamedValue.bindingsFrom ignoreCase number c.members))
    (I : List Slot → Prop) :
    ((c.form ignoreCase).branch number).Holds (fun cs => I (resolve look cs)) ↔
      ∀ p ∈ c.members, I (p.fact ignoreCase).slots := by
  have hall := NamedValue.combines_formTests h .all I
  cases c with
  | single p =>
      have hone : NamedValue.formTests number ((Constraint.single p).members.map
          (NamedValue.form ignoreCase)) = [.test ((p.form ignoreCase).test number)] := rfl
      rw [hone, Join.combines_singleton] at hall
      exact hall
  | composite k =>
      rw [form, Form.branch, Condition.Holds, Condition.holds_joined]
      exact hall

/-- The branches of the parts of a constraint say that all named values of some part are
there. -/
theorem combines_branches {ignoreCase : Bool} {number : Nat} {cs : List Constraint}
    (h : Gives look (bindingsFrom ignoreCase number cs)) (j : Join) (I : List Slot → Prop) :
    j.Combines (Condition.Holds fun cs => I (resolve look cs))
        (branches number (cs.map (form ignoreCase))) ↔
      j.Combines (fun c => ∀ p ∈ c.members, I (p.fact ignoreCase).slots) cs := by
  induction cs generalizing number with
  | nil => cases j <;> simp [branches]
  | cons c rest ih =>
      obtain ⟨hfirst, hrest⟩ := gives_append.1 h
      rw [List.map_cons, branches, size_form, Join.combines_cons, Join.combines_cons, ih hrest,
        holds_branch hfirst]

end Constraint

namespace Search

/-- What a pair of a property and a term asks of a document. -/
def fact (property term : String) : Fact :=
  match kind term with
  | .null => .isNull (attributePath property)
  | .notNull => .notNull (attributePath property)
  | .inside => .like (attributePath property) (.str (pattern term))

theorem fact?_testOf {number : Nat} {property term : String}
    (h : Gives look (bindingsOf number property term)) :
    (testOf number (kind term)).fact? look = some (fact property term) := by
  obtain ⟨hproperty, hterm⟩ := List.forall_mem_cons.1 h
  unfold fact
  cases hkind : kind term with
  | null => simp [testOf, Test.fact?, hproperty]
  | notNull => simp [testOf, Test.fact?, hproperty]
  | inside =>
      rw [if_pos hkind] at hterm
      have hpattern := hterm _ List.mem_cons_self
      simp [testOf, Test.fact?, hproperty, hpattern]

/-- The tests of a search state the facts of its pairs. -/
theorem combines_testsOf {number : Nat} {pairs : List (String × String)}
    (h : Gives look (bindingsFrom number pairs)) (j : Join) (I : List Slot → Prop) :
    j.Combines (Condition.Holds fun cs => I (resolve look cs))
        (testsOf number (pairs.map fun pair => kind pair.2)) ↔
      j.Combines (fun pair => I (fact pair.1 pair.2).slots) pairs := by
  induction pairs generalizing number with
  | nil => cases j <;> simp [testsOf]
  | cons pair rest ih =>
      obtain ⟨property, term⟩ := pair
      obtain ⟨hfirst, hrest⟩ := gives_append.1 h
      have hnamed : (testOf number (kind term)).Named :=
        named_testsOf number [kind term] _ List.mem_cons_self
      rw [List.map_cons, testsOf, Join.combines_cons, Join.combines_cons, ih hrest,
        Test.holds_iff hnamed (fact?_testOf hfirst)]

end Search

end

/-! ## Tests are pieces -/

theorem NamedValue.pieces_formTests {number : Nat} {forms : List Form}
    (hnamed : ∀ c ∈ formTests number forms, c.Named) : ∀ c ∈ formTests number forms, c.Piece := by
  induction forms generalizing number with
  | nil => exact fun c hc => absurd hc List.not_mem_nil
  | cons f rest ih =>
      obtain ⟨hf, hrest⟩ := List.forall_mem_cons.1 hnamed
      exact List.forall_mem_cons.2 ⟨.test hf, ih hrest⟩

theorem Search.pieces_testsOf (number : Nat) (kinds : List TermKind) :
    ∀ c ∈ testsOf number kinds, c.Piece := by
  have hnamed := named_testsOf number kinds
  induction kinds generalizing number with
  | nil => exact fun c hc => absurd hc List.not_mem_nil
  | cons k rest ih =>
      obtain ⟨hk, hrest⟩ := List.forall_mem_cons.1 hnamed
      exact List.forall_mem_cons.2 ⟨.test hk, ih (number + 1) hrest⟩

/-- The branch of a part is a test or several in brackets. -/
theorem Constraint.piece_branch (ignoreCase : Bool) (number : Nat) (c : Constraint) :
    ((c.form ignoreCase).branch number).Piece := by
  have hpieces :=
    NamedValue.pieces_formTests (NamedValue.named_formTests ignoreCase number c.members)
  cases c with
  | single p => exact hpieces _ List.mem_cons_self
  | composite k => exact .group (Condition.readable_joined (List.cons_ne_nil _ _) hpieces .all)

theorem Constraint.pieces_branches (ignoreCase : Bool) (number : Nat) (cs : List Constraint) :
    ∀ c ∈ branches number (cs.map (form ignoreCase)), c.Piece := by
  induction cs generalizing number with
  | nil => exact fun c hc => absurd hc List.not_mem_nil
  | cons c rest ih =>
      exact List.forall_mem_cons.2 ⟨c.piece_branch ignoreCase number, ih _⟩

/-! ## Searches -/

namespace Search

/-- A search has a condition exactly when it has a pair. -/
theorem compile?_cases (s : Search) (binds : Fields) :
    (s.pairs = [] ∧ (s.compile? binds).1 = none) ∨
      (s.pairs ≠ [] ∧ testsOf 1 s.kinds ≠ [] ∧
        (s.compile? binds).1 = some (.joined s.join (testsOf 1 s.kinds))) := by
  rw [compile?, tests_eq, kinds]
  cases s.pairs with
  | nil => exact .inl ⟨rfl, rfl⟩
  | cons pair rest => exact .inr ⟨List.cons_ne_nil _ _, List.cons_ne_nil _ _, rfl⟩

/-- What a search asks of a document. -/
def Asks (s : Search) (I : List Slot → Prop) : Prop :=
  s.join.Combines (fun pair => I (fact pair.1 pair.2).slots) s.pairs

variable {look : String → Option Value}

theorem holds_joined {s : Search} (h : Gives look s.bindings) (I : List Slot → Prop) :
    (Condition.joined s.join (testsOf 1 s.kinds)).Holds (fun cs => I (resolve look cs)) ↔
      s.Asks I := by
  rw [Condition.holds_joined, kinds, combines_testsOf h, Asks]

end Search

end DocQuery
