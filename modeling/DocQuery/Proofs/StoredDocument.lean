import DocQuery.Database.Lists
import DocQuery.Database.Server
import DocQuery.Proofs.ParameterNames

/-!
# A stored document

A server that holds one document, and what changing a list does to it.

* An update merges an object into the document: objects are merged field by field, and
  anything else is replaced (`Value.patched`).
* A list is changed where the path of the property leads.  Nothing counts as the empty list
  there, and what is no list becomes null.  Values that have to be unique are left out when
  they equal one that is in the list already; what the server takes for equal is left open.

The server knows a change by its text alone (`changeOf?_text`): texts of different changes
are different, since an object literal opens for every part of the path.
-/

namespace DocQuery

/-! ## Merging into a document -/

namespace Value

mutual

/-- A value with another one merged into it. -/
def patched (old : Value) : Value → Value
  | .object patch => match old with
    | .object fields => .object (patchedFields fields patch)
    | _ => .object patch
  | v => v
termination_by structural v => v

/-- Fields with others merged into them. -/
def patchedFields (fields : List (String × Value)) : List (String × Value) → List (String × Value)
  | [] => fields
  | (name, v) :: rest =>
      patchedFields (Fields.set fields name (patched (Fields.getD fields name) v)) rest
termination_by structural patch => patch

end

theorem patched_nestedValue (fields : Fields) (part : String) (rest : List String) (v : Value) :
    (object fields).patched (Request.nestedValue (part :: rest) v) =
      .object (fields.set part ((fields.getD part).patched (Request.nestedValue rest v))) := by
  simp [Request.nestedValue, patched, patchedFields]

/-- An object replaces what is no object. -/
theorem patched_replaced {old : Value} (h : old.isObject = false) (v : Value) :
    old.patched v = v := by
  cases v with
  | object patch => cases old <;> first | rfl | cases h
  | _ => simp [patched]

theorem follow_cons_of_other {v : Value} (h : v.isObject = false) (part : String)
    (rest : List String) : v.follow (part :: rest) = .null := by
  cases v <;> first | rfl | cases h

theorem follow_null (parts : List String) : null.follow parts = .null := by
  cases parts <;> rfl

/-- What is written at a path is read there. -/
theorem follow_patched (parts : List String) (new old : Value) :
    (old.patched (Request.nestedValue parts new)).follow parts = (old.follow parts).patched new := by
  have hnull (v : Value) : null.patched v = v := patched_replaced rfl v
  induction parts generalizing old with
  | nil => simp [Request.nestedValue, follow]
  | cons part rest ih =>
      cases hobject : old.isObject with
      | false =>
          have hrest := ih .null
          rw [hnull, follow_null, hnull] at hrest
          rw [patched_replaced hobject, follow_cons_of_other hobject, hnull]
          simpa [Request.nestedValue, follow, Fields.getD, Fields.get?] using hrest
      | true =>
          cases old with
          | object fields =>
              rw [patched_nestedValue, follow, follow, Fields.getD, Fields.get?_set_self, ← ih]
              rfl
          | _ => cases hobject

end Value

/-! ## Changing a list -/

/-- The values that are added to the end of some items: those of a list are left out that
have to be unique and equal one before them. -/
def addedTo (equal : Value → Value → Bool) (unique : Bool) :
    List Value → List Value → List Value
  | _, [] => []
  | items, v :: rest =>
      if unique && items.any (equal v) then addedTo equal unique items rest
      else v :: addedTo equal unique (items ++ [v]) rest

namespace ListChange

/-- The values that a change adds. -/
def values : ListChange → Value → List Value
  | .append, .list vs => vs
  | .remove, _ => []
  | _, v => [v]

/-- The items after a change. -/
def changed (equal : Value → Value → Bool) (c : ListChange) (v : Value) (unique : Bool)
    (items : List Value) : List Value :=
  match c with
  | .remove => items.filter fun item => !equal v item
  | c => items ++ addedTo equal unique items (c.values v)

/-- What becomes of a value at which a list is changed. -/
def applied (equal : Value → Value → Bool) (c : ListChange) (v : Value) (unique : Bool) :
    Value → Value
  | .null => .list (c.changed equal v unique [])
  | .list items => .list (c.changed equal v unique items)
  | _ => .null

/-- The change by which a value is added. -/
def adding (v : Value) : ListChange := if v.isList then .append else .push

theorem changed_adding (equal : Value → Value → Bool) (v : Value) (unique : Bool)
    (items : List Value) :
    (adding v).changed equal v unique items =
      items ++ addedTo equal unique items ((adding v).values v) := by
  unfold adding
  split <;> rfl

/-- The statement that changes a list of the document with a key. -/
def statement (c : ListChange) (depth : Nat) : Statement where
  filters := [.test (.keyIs "key")]
  action := .changeList c depth

end ListChange

/-! ## The text of a change -/

/-- The changes at the ends of paths of fewer parts than a bound. -/
def changesBelow (bound : Nat) : List (ListChange × Nat) :=
  (List.range bound).flatMap fun depth =>
    [(.push, depth), (.append, depth), (.remove, depth)]

/-- The change that a text writes. -/
def changeOf? (text : String) : Option (ListChange × Nat) :=
  (changesBelow text.length).find? fun (c, depth) => (c.statement depth).text = text

theorem mem_changesBelow {bound depth : Nat} (c : ListChange) (h : depth < bound) :
    (c, depth) ∈ changesBelow bound := by
  refine List.mem_flatMap.2 ⟨depth, List.mem_range.2 h, ?_⟩
  cases c <;> simp

/-- What stands in front of the object literal of a change. -/
def changeHead : String := "FOR d IN @@collection FILTER d._key == @key UPDATE d WITH "

theorem statement_text (c : ListChange) (depth : Nat) :
    (c.statement depth).text =
      changeHead ++ nestedText c.text 1 depth ++ (" IN @@collection " ++ newValueText) := by
  show _ ++ " " ++ ("UPDATE d WITH " ++ nestedText c.text 1 depth ++ " IN @@collection "
    ++ newValueText) = _
  simp only [← String.append_assoc]
  rfl

theorem ListChange.text_inj {c c' : ListChange} (h : c.text = c'.text) : c = c' := by
  revert h
  cases c <;> cases c' <;> decide

/-- An object literal opens the text of every path with parts, and no change. -/
theorem ListChange.text_ne_nestedText (c : ListChange) (value : String) (number depth : Nat) :
    c.text ≠ nestedText value number (depth + 1) := by
  intro h
  have hfirst := congrArg (fun s : String => s.toList.head?) h
  simp only [nestedText, String.toList_append, List.append_assoc] at hfirst
  have hopen : c.text.toList.head? = some '\x7b' := hfirst
  revert hopen
  cases c <;> decide

theorem nestedText_inj {c c' : ListChange} {number depth depth' : Nat}
    (h : nestedText c.text number depth = nestedText c'.text number depth') :
    c = c' ∧ depth = depth' := by
  induction depth generalizing number depth' with
  | zero =>
      cases depth' with
      | zero => exact ⟨ListChange.text_inj h, rfl⟩
      | succ depth' => exact (c.text_ne_nestedText _ _ _ h).elim
  | succ depth ih =>
      cases depth' with
      | zero => exact (c'.text_ne_nestedText _ _ _ h.symm).elim
      | succ depth' =>
          rw [nestedText, nestedText, String.append_left_inj, String.append_right_inj] at h
          obtain ⟨hc, hdepth⟩ := ih h
          exact ⟨hc, congrArg Nat.succ hdepth⟩

theorem le_length_nestedText (value : String) (number depth : Nat) :
    depth ≤ (nestedText value number depth).length := by
  induction depth generalizing number with
  | zero => exact Nat.zero_le _
  | succ depth ih =>
      have hrest := ih (number + 1)
      have hclosing : " \x7d".length = 2 := rfl
      simp only [nestedText, String.length_append, hclosing]
      omega

/-- A change is known by its text. -/
theorem changeOf?_text (c : ListChange) (depth : Nat) :
    changeOf? (c.statement depth).text = some (c, depth) := by
  have hbound : depth < (c.statement depth).text.length := by
    have hnested := le_length_nestedText c.text 1 depth
    have hhead : 0 < changeHead.length := by decide
    rw [statement_text, String.length_append, String.length_append]
    omega
  cases hfound : changeOf? (c.statement depth).text with
  | none =>
      have hmissed := List.find?_eq_none.1 hfound (c, depth) (mem_changesBelow c hbound)
      simp at hmissed
  | some found =>
      obtain ⟨c', depth'⟩ := found
      have htext : (c'.statement depth').text = (c.statement depth).text := by
        simpa using List.find?_some hfound
      rw [statement_text, statement_text, String.append_left_inj, String.append_right_inj] at htext
      obtain ⟨rfl, rfl⟩ := nestedText_inj htext
      rfl

/-! ## What the parameters of a change say -/

theorem fieldParameter_inj {m n : Nat} (h : fieldParameter m = fieldParameter n) : m = n :=
  have hword : EndsWordlike "field_" := by
    rintro c ⟨⟩
    rfl
  (append_toString_inj hword hword h).2

theorem Request.get?_bindSegments_of_ne {name : String} (h : ∀ n, fieldParameter n ≠ name)
    (number : Nat) (parts : List String) (binds : Fields) :
    (bindSegments number parts binds).get? name = binds.get? name := by
  induction parts generalizing number with
  | nil => rfl
  | cons part rest ih =>
      rw [bindSegments, Fields.get?_set_of_ne _ (h number), ih]

theorem Request.get?_bindSegments (number : Nat) {parts : List String} {binds : Fields} {i : Nat}
    (h : i < parts.length) :
    (bindSegments number parts binds).get? (fieldParameter (number + i)) =
      some (.str parts[i]) := by
  induction parts generalizing number i with
  | nil => cases h
  | cons part rest ih =>
      cases i with
      | zero => exact Fields.get?_set_self _ _ _
      | succ i =>
          have hne : fieldParameter number ≠ fieldParameter (number + (i + 1)) := fun heq =>
            absurd (fieldParameter_inj heq) (by omega)
          have hrest := ih (number + 1) (Nat.lt_of_succ_lt_succ h)
          rw [bindSegments, Fields.get?_set_of_ne _ hne, List.getElem_cons_succ, ← hrest]
          congr 2
          omega

/-- The parts of a path as parameters bind them. -/
def partsBound? (binds : Fields) (depth : Nat) : Option (List String) :=
  (List.range' 1 depth).mapM fun number => (binds.getD (fieldParameter number)).text?

/-- The parts of a property's path as a parameter binds it. -/
def pathBound? : Value → Option (List String)
  | .str name => some [name]
  | .list parts => parts.mapM Value.text?
  | _ => none

theorem mapM_range' {f : Nat → Option String} (number : Nat) {parts : List String}
    (h : ∀ (i : Nat) (hi : i < parts.length), f (number + i) = some parts[i]) :
    (List.range' number parts.length).mapM f = some parts := by
  induction parts generalizing number with
  | nil => rfl
  | cons part rest ih =>
      have hfirst : f number = some part := h 0 (Nat.succ_pos _)
      have hrest := ih (number + 1) fun i hi => by
        have := h (i + 1) (Nat.succ_lt_succ hi)
        rwa [← Nat.add_assoc, Nat.add_right_comm, List.getElem_cons_succ] at this
      simp [List.range'_succ, List.mapM_cons, hfirst, hrest]

theorem partsBound?_bindSegments (parts : List String) (binds : Fields) :
    partsBound? (Request.bindSegments 1 parts binds) parts.length = some parts := by
  refine mapM_range' 1 fun i hi => ?_
  rw [Fields.getD, Request.get?_bindSegments 1 hi]
  rfl

theorem pathBound?_attributePath {path : String} (h : segments path ≠ []) :
    pathBound? (attributePath path) = some (segments path) := by
  by_cases hdot : path.toList.contains '.' = true
  · rw [attributePath, if_pos hdot, Value.ofTexts, pathBound?, List.mapM_map]
    show (segments path).mapM (fun part => some part) = some (segments path)
    generalize segments path = parts
    induction parts with
    | nil => rfl
    | cons part rest ih => simp [List.mapM_cons, ih]
  · have hparts : Value.pathParts path = [path] := by
      rw [Value.pathParts, Text.split, Text.splitOn_of_not_mem (by simpa using hdot)]
      simp
    have hpath : segments path = [path] := by
      rw [segments, hparts, List.filter_eq_self]
      intro part hpart
      rw [segments, hparts] at h
      simp_all
    rw [attributePath, if_neg hdot, hpath]
    rfl

/-! ## The server -/

namespace StoredDocument

/-- The document after a query changes a list in it, and the path of the property. -/
def change? (equal : Value → Value → Bool) (document : Value) :
    Value → Value → Option (List String × Value)
  | .str text, .object binds => do
      let (c, depth) ← changeOf? text
      let parts ← partsBound? binds depth
      let path ← pathBound? (Fields.getD binds "property")
      if (Fields.getD binds "key").same (document.follow ["_key"]) then
        let list := c.applied equal (Fields.getD binds "value")
          (Fields.getD binds "unique").isTrue (document.follow path)
        some (path, document.patched (Request.nestedValue parts list))
      else none
  | _, _ => none

/-- Answers a call on the document; all that changes it is the change of a list. -/
def respond (equal : Value → Value → Bool) : Session.Responder Value
  | .client _, document => (.ok (), document)
  | .database name _ _, document => (.ok ⟨0, name⟩, document)
  | .collection _, document => (.ok (), document)
  | .execute text binds _, document => match change? equal document text binds with
      | some (path, changed) =>
          (.ok (Server.cursorOf [.object [("_key", changed.follow ["_key"]),
            ("value", changed.follow path)]]), changed)
      | none => (.ok (Server.cursorOf [document]), document)
  | .documents .., document | .hasDatabase _, document | .createDatabase _, document
  | .deleteDatabase _, document | .collections, document | .graphs, document
  | .createCollection _, document | .createGraph .., document => (.ok document, document)

theorem getD_bindSegments {name : String} (hname : EndsWordlike name) (parts : List String)
    (binds : Fields) : Fields.getD (Request.bindSegments 1 parts binds) name = binds.getD name := by
  rw [Fields.getD, Request.get?_bindSegments_of_ne fun _ => append_toString_ne hname, Fields.getD]

/-- The parameters by which a value is added to a list. -/
structure AddingBinds (key : Value) (path : String) (value unique : Value) (binds : Fields) :
    Prop where
  key : binds.getD "key" = key
  property : binds.getD "property" = attributePath path
  value : binds.getD "value" = value
  unique : binds.getD "unique" = unique
  parts : partsBound? binds (segments path).length = some (segments path)

theorem addingBinds (c : ListChange) (collection key : Value) (path : String)
    (value unique : Value) :
    AddingBinds key path value unique
      (Request.changeList c collection key path [("value", value), ("unique", unique)]).2 where
  key := getD_bindSegments (by rintro c ⟨⟩; rfl) _ _
  property := getD_bindSegments (by rintro c ⟨⟩; rfl) _ _
  value := getD_bindSegments (by rintro c ⟨⟩; rfl) _ _
  unique := getD_bindSegments (by rintro c ⟨⟩; rfl) _ _
  parts := partsBound?_bindSegments _ _

/-- The server changes the list at the path whose parts are bound, in the document that has
the key. -/
theorem change?_changeList (equal : Value → Value → Bool) {fields : Fields} {key path : String}
    (hkey : fields.get? "_key" = some (.str key)) (hpath : segments path ≠ [])
    (c : ListChange) (collection value : Value) (unique : Bool) :
    let change := Request.changeList c collection (.str key) path
      [("value", value), ("unique", .bool unique)]
    change? equal (.object fields) (.str change.1.text) (.object change.2) =
      some (segments path, (Value.object fields).patched (Request.nestedValue (segments path)
        (c.applied equal value unique ((Value.object fields).follow (segments path))))) := by
  intro change
  have hbinds : AddingBinds (.str key) path value (.bool unique) change.2 :=
    addingBinds c collection (.str key) path value (.bool unique)
  have htext : changeOf? change.1.text = some (c, (segments path).length) := changeOf?_text c _
  have hsame : (Value.str key).same ((Value.object fields).follow ["_key"]) = true := by
    simp [Value.follow, Fields.getD, hkey, Value.same, Value.text?]
  simp only [change?, htext, Option.bind_eq_bind, Option.bind_some, hbinds.parts,
    hbinds.property, hbinds.key, hbinds.value, hbinds.unique, pathBound?_attributePath hpath,
    hsame, if_true]
  rfl

end StoredDocument

end DocQuery
