import DocQuery.Proofs.AddedValue

/-!
# The guard of lists

Before a value is added to a list, what stands at the path is looked at.  Two rules follow a
path, though.  What is looked at counts the empty parts of the path and is nothing as soon as
an object is missing; what is written leaves the empty parts out and puts objects where none
are.

*The way is clear* when objects, or nothing at all, lead to a list, or to nothing
(`Value.Clear`).  Exactly then does adding a value extend the document
(`adding_extends_iff`).  The guard sees to the end of a path without empty parts; it sees
neither what is in the way before the end, nor the end of a path with empty parts.
-/

namespace DocQuery

open Request StoredDocument

namespace Value

/-- Objects, or nothing, lead to a list, or to nothing. -/
def Clear : Value → List String → Prop
  | .null, _ => True
  | .list _, [] => True
  | .object fields, part :: rest => (Fields.getD fields part).Clear rest
  | _, _ => False

/-- Apart from the list at the end of a path, which is made or made longer, and the objects
that lead to it where nothing was, a value is as another. -/
def Extends : List String → Value → Value → Prop
  | parts, .null, new => ∃ items, new = nestedValue parts (.list items)
  | [], .list items, new => ∃ more, new = .list (items ++ more)
  | part :: rest, .object fields, new => ∃ changed, new = .object changed ∧
      (∀ name, name ≠ part → Fields.get? changed name = Fields.get? fields name) ∧
      Extends rest (Fields.getD fields part) (Fields.getD changed part)
  | _, _, _ => False

/-- What is written extends a value exactly where the way is clear. -/
theorem extends_patched_iff (equal : Value → Value → Bool) (v : Value) (unique : Bool)
    (parts : List String) (old : Value) :
    Extends parts old (old.patched (nestedValue parts
      ((ListChange.adding v).applied equal v unique (old.follow parts)))) ↔ old.Clear parts := by
  induction parts generalizing old with
  | nil =>
      cases old with
      | null => exact iff_of_true ⟨_, rfl⟩ trivial
      | list items =>
          have hlonger := congrArg Value.list (ListChange.changed_adding equal v unique items)
          exact iff_of_true ⟨_, hlonger⟩ trivial
      | _ => exact iff_of_false id id
  | cons part rest ih =>
      cases old with
      | null => exact iff_of_true ⟨_, rfl⟩ trivial
      | object fields =>
          have hrest := ih (Fields.getD fields part)
          have hpart (v : Value) : Fields.getD (Fields.set fields part v) part = v := by
            rw [Fields.getD, Fields.get?_set_self]
            rfl
          rw [patched_nestedValue]
          constructor
          · rintro ⟨changed, ⟨⟩, -, hextends⟩
            rw [hpart] at hextends
            exact hrest.1 hextends
          · intro hclear
            refine ⟨_, rfl, fun name hname => Fields.get?_set_of_ne _ (Ne.symm hname) _, ?_⟩
            rw [hpart]
            exact hrest.2 hclear
      | _ => exact iff_of_false id id

end Value

namespace Database

open Session

variable (equal : Value → Value → Bool)

/-- What the guard makes of a run that adds at a path of a document. -/
structure Guards (document : Value) (path : String) (readable : Prop) (r : Run Value Value) :
    Prop where
  /-- Without a change, the document is as it was. -/
  kept : r.calls.any Call.mutates = false → r.state = document
  /-- With one, it is extended just where the way is clear. -/
  extends_iff : r.calls.any Call.mutates = true →
    (Value.Extends (segments path) document r.state ↔ document.Clear (segments path))
  /-- What stands at the end and is no list is refused, unless the path has empty parts. -/
  refused : readable → Value.pathParts path = segments path →
    (document.follow (segments path)).isNull = false →
    (document.follow (segments path)).isList = false →
      r.calls.any Call.mutates = false ∧ ∃ e, r.result = .error (.input e)

theorem listAt_of_other {document : Value} {path : String} (action : String)
    (hnull : (document.atPath path).isNull = false) (hlist : (document.atPath path).isList = false) :
    listAt action document path = .error (.notAList action) := by
  unfold listAt
  revert hnull hlist
  cases document.atPath path <;> simp [Value.isNull, Value.isList, Value.items?]

section

variable {fields : Fields} {key path : String} (hkey : fields.get? "_key" = some (.str key))
  (hpath : segments path ≠ []) (db : Database) (collection : Value) (selector : Selector)
include hkey hpath

/-- Whether the document is read, by whatever selects it. -/
abbrev Readable (document : Value) : Prop :=
  ∃ v, ((select db collection selector).run (respond equal) document).result = .ok v

theorem guards_addToList (value : Value) (allowDuplicates : Bool) (field : Value) :
    Guards (.object fields) path (Readable equal db collection selector (.object fields))
      ((addToList db collection selector (.str path) value allowDuplicates field).run
        (respond equal) (.object fields)) := by
  have hadds := adds_addToList equal hkey hpath db collection selector value allowDuplicates field
  refine ⟨fun hquiet => ?_, fun hmutates => ?_, ?_⟩
  · cases hadds with
    | kept _ _ _ state => exact state
    | changed _ _ _ calls _ => rw [hquiet] at calls; cases calls
  · cases hadds with
    | kept _ _ calls _ =>
        obtain ⟨c, hc, hchanges⟩ := List.any_eq_true.1 hmutates
        rw [calls c hc] at hchanges
        cases hchanges
    | changed _ _ _ _ state =>
        rw [state]
        exact Value.extends_patched_iff equal value _ (segments path) (.object fields)
  · rintro ⟨v, hselect⟩ hparts hnull hlist
    rw [← hparts] at hnull hlist
    obtain ⟨hresult, hcalls⟩ := addToList_refused equal hkey db collection selector value
      allowDuplicates field hselect (listAt_of_other addAction hnull hlist)
    exact ⟨List.any_eq_false.2 fun c hc => by simp [hcalls c hc], _, hresult⟩

theorem adding_extends_iff (value : Value) :
    (∀ allowDuplicates field,
      Guards (.object fields) path (Readable equal db collection selector (.object fields))
        ((addToList db collection selector (.str path) value allowDuplicates field).run
          (respond equal) (.object fields))) ∧
    ∀ field,
      Guards (.object fields) path (Readable equal db collection selector (.object fields))
        ((addObject db collection selector (.str path) value field).run
          (respond equal) (.object fields)) := by
  have hguards := guards_addToList equal hkey hpath db collection selector value
  refine ⟨hguards, fun field => ?_⟩
  by_cases hobject : value.isObject = true
  · simpa only [addObject, hobject, if_true] using hguards field.isNull field
  · simp only [addObject, hobject, Bool.false_eq_true, if_false]
    exact ⟨fun _ => rfl, nofun, fun _ _ _ _ => ⟨rfl, _, rfl⟩⟩

end

/-- A cyclist with tags. -/
def tagged (tags : Value) : Fields := [("_key", .str "1"), ("tags", tags)]

theorem tagged_extended :
    let r := (addToList cycling (.str "cyclists") (.value (.str "1")) (.str "tags") (.str "y")
      false .null).run (respond Value.same) (.object (tagged (.list [.str "x"])))
    r.calls.any Call.mutates = true ∧
      Value.Extends (segments "tags") (.object (tagged (.list [.str "x"]))) r.state := by
  have hkey : (tagged (.list [.str "x"])).get? "_key" = some (.str "1") := rfl
  have hread : ((readList cycling (.str "cyclists") (.value (.str "1")) (.str "tags")
      addAction).run (respond Value.same) (.object (tagged (.list [.str "x"])))).result =
      .ok ⟨.str "1", "tags", some [.str "x"]⟩ := result_readList Value.same hkey _ _ _ _ _
  obtain ⟨hmutates, -⟩ := addToList_changes Value.same hkey (by decide) _ _ _ (.str "y")
    false .null hread rfl
  have hpath : segments "tags" ≠ [] := by decide
  have hguards := (adding_extends_iff Value.same hkey hpath cycling (.str "cyclists")
    (.value (.str "1")) (.str "y")).1 false .null
  exact ⟨hmutates, (hguards.extends_iff hmutates).2 trivial⟩

/-- An empty part hides a text from the guard, and the text is lost. -/
theorem hidden_replaced :
    let r := (addToList cycling (.str "cyclists") (.value (.str "1")) (.str ".tags") (.str "y")
      false .null).run (respond Value.same) (.object (tagged (.str "x")))
    r.calls.any Call.mutates = true ∧ r.state.follow ["tags"] = .null ∧
      ¬ Value.Extends (segments ".tags") (.object (tagged (.str "x"))) r.state := by
  have hkey : (tagged (.str "x")).get? "_key" = some (.str "1") := rfl
  have hread : ((readList cycling (.str "cyclists") (.value (.str "1")) (.str ".tags")
      addAction).run (respond Value.same) (.object (tagged (.str "x")))).result =
      .ok ⟨.str "1", ".tags", none⟩ := result_readList Value.same hkey _ _ _ _ _
  obtain ⟨hmutates, hstate⟩ := addToList_changes Value.same hkey (by decide) _ _ _ (.str "y")
    false .null hread rfl
  intro r
  have hlost := Value.extends_patched_iff Value.same (.str "y") true ["tags"]
    (.object (tagged (.str "x")))
  refine ⟨hmutates, ?_, ?_⟩
  · rw [hstate]
    rfl
  · rw [hstate]
    exact fun hextends => hlost.1 hextends

end Database

end DocQuery
