import DocQuery.Proofs.Placeholders
import DocQuery.Proofs.StoredDocument
import Mathlib.Data.List.Nodup

/-!
# The object literal of a list change

A list is changed by an object literal that opens for every part of the property's path, with the
new list at its end.  Its keys are parameters, numbered from the outermost, while the literal is
built from the inside.

`ObjectLiteral.leaves?` reads such a literal as the server does, character by character: what is
not an object is a leaf, and its path are the keys around it, as the parameters name them.
`ObjectLiteral.nesting?` follows the braces alone.

The literal of a change has one leaf, the changed list, at the path that is bound for reading the
property (`written_where_read`).
-/

namespace DocQuery

namespace ObjectLiteral

/-! ## Reading -/

/-- What may come next in a literal. -/
inductive Mode where
  /-- A value. -/
  | value
  /-- An entry of an object, or its end. -/
  | entry
  /-- The rest of a key, behind some characters. -/
  | key (read : List Char)
  /-- The colon behind a key. -/
  | colon (key : String)
  /-- The rest of an expression, in some round brackets and behind some characters. -/
  | expression (opened : Nat) (read : List Char)
  /-- Another entry or the end of an object, behind an entry. -/
  | next
  /-- Nothing. -/
  | done

/-- A place in a literal. -/
structure Place where
  /-- What may come next. -/
  mode : Mode
  /-- The keys around the place, the innermost first. -/
  keys : List String
  /-- The leaves before it. -/
  leaves : List (List String × String)

/-- The place behind an object, where some keys are around the object. -/
def closed (leaves : List (List String × String)) : List String → Place
  | [] => ⟨.done, [], leaves⟩
  | _ :: outer => ⟨.next, outer, leaves⟩

/-- The key that characters in square brackets name. -/
def keyOf? (binds : Fields) (read : List Char) : Option String :=
  match Text.trim read with
  | '@' :: name => (binds.get? (String.ofList name)).bind Value.text?
  | _ => none

/-- The place behind a character of an expression. -/
def expressionStep (opened : Nat) (read : List Char) (keys : List String)
    (leaves : List (List String × String)) (c : Char) : Option Place :=
  if opened = 0 ∧ (c = ',' ∨ c = '\x7d') then
    match keys with
    | [] => none
    | _ :: outer =>
        let leaves := leaves ++ [(keys.reverse, String.ofList (Text.trim read))]
        some (if c = ',' then ⟨.entry, outer, leaves⟩ else closed leaves outer)
  else if c = '(' then some ⟨.expression (opened + 1) (read ++ [c]), keys, leaves⟩
  else if c = ')' then
    if opened = 0 then none else some ⟨.expression (opened - 1) (read ++ [c]), keys, leaves⟩
  else some ⟨.expression opened (read ++ [c]), keys, leaves⟩

/-- The place behind a character. -/
def step (binds : Fields) : Place → Char → Option Place
  | ⟨.value, keys, leaves⟩, c =>
      if c = ' ' then some ⟨.value, keys, leaves⟩
      else if c = '\x7b' then some ⟨.entry, keys, leaves⟩
      else expressionStep 0 [] keys leaves c
  | ⟨.entry, keys, leaves⟩, c =>
      if c = ' ' then some ⟨.entry, keys, leaves⟩
      else if c = '[' then some ⟨.key [], keys, leaves⟩
      else if c = '\x7d' then some (closed leaves keys)
      else none
  | ⟨.key read, keys, leaves⟩, c =>
      if c = ']' then (keyOf? binds read).map fun key => ⟨.colon key, keys, leaves⟩
      else some ⟨.key (read ++ [c]), keys, leaves⟩
  | ⟨.colon key, keys, leaves⟩, c =>
      if c = ' ' then some ⟨.colon key, keys, leaves⟩
      else if c = ':' then some ⟨.value, key :: keys, leaves⟩
      else none
  | ⟨.expression opened read, keys, leaves⟩, c => expressionStep opened read keys leaves c
  | ⟨.next, keys, leaves⟩, c =>
      if c = ' ' then some ⟨.next, keys, leaves⟩
      else if c = ',' then some ⟨.entry, keys, leaves⟩
      else if c = '\x7d' then some (closed leaves keys)
      else none
  | ⟨.done, keys, leaves⟩, c => if c = ' ' then some ⟨.done, keys, leaves⟩ else none

/-- The place behind some characters. -/
def run (binds : Fields) (cs : List Char) (p : Place) : Option Place := cs.foldlM (step binds) p

/-- The leaves of a literal, each with its path. -/
def leaves? (binds : Fields) (literal : String) : Option (List (List String × String)) :=
  (run binds literal.toList ⟨.value, [], []⟩).bind fun p =>
    match p.mode with
    | .done => some p.leaves
    | _ => none

/-- How many braces are open behind a character, and how many were at most. -/
def braceStep : Nat × Nat → Char → Option (Nat × Nat)
  | (opened, deepest), c =>
      if c = '\x7b' then some (opened + 1, max deepest (opened + 1))
      else if c = '\x7d' then if opened = 0 then none else some (opened - 1, deepest)
      else some (opened, deepest)

/-- The braces open behind some characters, and how many were at most. -/
def braces (cs : List Char) (s : Nat × Nat) : Option (Nat × Nat) := cs.foldlM braceStep s

/-- How deep the braces of a text are nested, if they are balanced. -/
def nesting? (text : String) : Option Nat :=
  (braces text.toList (0, 0)).bind fun (opened, deepest) =>
    if opened = 0 then some deepest else none

/-! ## Character by character -/

theorem run_append (binds : Fields) (as bs : List Char) (p : Place) :
    run binds (as ++ bs) p = (run binds as p).bind (run binds bs) := List.foldlM_append

theorem braces_append (as bs : List Char) (s : Nat × Nat) :
    braces (as ++ bs) s = (braces as s).bind (braces bs) := List.foldlM_append

theorem isName_fieldParameter (number : Nat) : IsName (fieldParameter number) :=
  IsName.append (by decide) (isName_toString number)

theorem not_mem_fieldParameter {c : Char} (h : isNameChar c = false) (number : Nat) :
    c ∉ (fieldParameter number).toList := fun hc =>
  Bool.false_ne_true (h.symm.trans ((isName_fieldParameter number).2 c hc))

/-- What opens an object in front of the value of its only entry. -/
def opening (number : Nat) : List Char :=
  "\x7b [ @".toList ++ (fieldParameter number).toList ++ " ]: ".toList

theorem toList_nestedText (value : String) (number depth : Nat) :
    (nestedText value number (depth + 1)).toList =
      opening number ++ ((nestedText value (number + 1) depth).toList ++ " \x7d".toList) := by
  unfold opening
  rw [nestedText, String.toList_append, String.toList_append, String.toList_append,
    String.toList_append, List.append_assoc]

/-! ## Braces -/

theorem braces_none {cs : List Char} (hopen : '\x7b' ∉ cs) (hclose : '\x7d' ∉ cs)
    (s : Nat × Nat) : braces cs s = some s := by
  induction cs with
  | nil => rfl
  | cons c rest ih =>
      rw [List.mem_cons, not_or] at hopen hclose
      rw [braces, List.foldlM_cons, braceStep, if_neg (Ne.symm hopen.1), if_neg (Ne.symm hclose.1)]
      exact ih hopen.2 hclose.2

theorem braces_opening (number opened deepest : Nat) :
    braces (opening number) (opened, deepest) =
      some (opened + 1, max deepest (opened + 1)) := by
  have hname (s : Nat × Nat) : braces (fieldParameter number).toList s = some s :=
    braces_none (not_mem_fieldParameter rfl number) (not_mem_fieldParameter rfl number) s
  unfold opening
  rw [braces_append, braces_append]
  show ((braces (fieldParameter number).toList (opened + 1, max deepest (opened + 1))).bind _) = _
  rw [hname]
  rfl

/-- The braces around a value are nested once for every part, and all are closed. -/
theorem braces_nestedText {value : String} (hopen : '\x7b' ∉ value.toList)
    (hclose : '\x7d' ∉ value.toList) (number depth : Nat) {opened deepest : Nat}
    (h : opened ≤ deepest) :
    braces (nestedText value number depth).toList (opened, deepest) =
      some (opened, max deepest (opened + depth)) := by
  induction depth generalizing number opened deepest with
  | zero => rw [nestedText, braces_none hopen hclose, Nat.add_zero, Nat.max_eq_left h]
  | succ depth ih =>
      rw [toList_nestedText, braces_append, braces_opening, Option.bind_some, braces_append,
        ih (number + 1) (Nat.le_max_right _ _), Option.bind_some]
      show some (opened, max (max deepest (opened + 1)) (opened + 1 + depth)) = _
      congr 2
      omega

theorem nesting?_nestedText (c : ListChange) (depth : Nat) :
    nesting? (nestedText c.text 1 depth) = some depth := by
  have hvalue : '\x7b' ∉ c.text.toList ∧ '\x7d' ∉ c.text.toList := by cases c <;> decide
  rw [nesting?, braces_nestedText hvalue.1 hvalue.2 1 depth (Nat.le_refl 0)]
  simp

/-! ## Leaves -/

theorem run_key {cs : List Char} (h : ']' ∉ cs) (binds : Fields) (read : List Char)
    (keys : List String) (leaves : List (List String × String)) :
    run binds cs ⟨.key read, keys, leaves⟩ = some ⟨.key (read ++ cs), keys, leaves⟩ := by
  induction cs generalizing read with
  | nil => rw [List.append_nil]; rfl
  | cons c rest ih =>
      rw [List.mem_cons, not_or] at h
      rw [run, List.foldlM_cons, step, if_neg (Ne.symm h.1)]
      show run binds rest _ = _
      rw [ih h.2, List.append_assoc]
      rfl

theorem keyOf?_fieldParameter {binds : Fields} {number : Nat} {key : String}
    (h : binds.get? (fieldParameter number) = some (.str key)) :
    keyOf? binds ([' ', '@'] ++ (fieldParameter number).toList ++ [' ']) = some key := by
  have hname : ∀ c ∈ (fieldParameter number).toList, isSpace c = false :=
    isSpace_eq_false (isName_fieldParameter number)
  have hsolid : ∀ c ∈ '@' :: (fieldParameter number).toList, isSpace c = false :=
    List.forall_mem_cons.2 ⟨by decide, hname⟩
  have htrim : Text.trim ([' ', '@'] ++ (fieldParameter number).toList ++ [' ']) =
      '@' :: (fieldParameter number).toList := by
    rw [Text.trim_append_space (by decide)]
    show Text.trim (' ' :: '@' :: (fieldParameter number).toList) = _
    rw [Text.trim_cons_space (by decide)]
    exact Text.trim_eq_self (fun c hc => hsolid c (List.mem_of_mem_head? hc))
      fun c hc => hsolid c (List.mem_of_mem_getLast? hc)
  rw [keyOf?, htrim]
  show (binds.get? (String.ofList (fieldParameter number).toList)).bind Value.text? = some key
  rw [String.ofList_toList, h]
  rfl

/-- Behind what opens an object, the value of its entry comes next, at the key that is bound. -/
theorem run_opening {binds : Fields} {number : Nat} {key : String}
    (h : binds.get? (fieldParameter number) = some (.str key)) (keys : List String)
    (leaves : List (List String × String)) :
    run binds (opening number) ⟨.value, keys, leaves⟩ = some ⟨.value, key :: keys, leaves⟩ := by
  have hfront : run binds "\x7b [ @".toList ⟨.value, keys, leaves⟩ =
      some ⟨.key [' ', '@'], keys, leaves⟩ := rfl
  have hback (read : List Char) : run binds " ]: ".toList ⟨.key read, keys, leaves⟩ =
      ((keyOf? binds (read ++ [' '])).map fun key => ⟨.colon key, keys, leaves⟩).bind
        (run binds ": ".toList) := rfl
  unfold opening
  rw [run_append, run_append, hfront, Option.bind_some,
    run_key (not_mem_fieldParameter rfl number), Option.bind_some, hback, keyOf?_fieldParameter h]
  rfl

theorem run_change (binds : Fields) (c : ListChange) (keys : List String)
    (leaves : List (List String × String)) :
    run binds c.text.toList ⟨.value, keys, leaves⟩ =
      some ⟨.expression 0 c.text.toList, keys, leaves⟩ := by
  cases c <;> rfl

theorem trim_change (c : ListChange) : Text.trim (c.text.toList ++ [' ']) = c.text.toList := by
  cases c <;> decide

/-- The parts of a path are bound, numbered from a number on. -/
def Bound (binds : Fields) (number : Nat) (parts : List String) : Prop :=
  ∀ (i : Nat) (hi : i < parts.length),
    binds.get? (fieldParameter (number + i)) = some (.str parts[i])

theorem Bound.head {binds : Fields} {number : Nat} {part : String} {rest : List String}
    (h : Bound binds number (part :: rest)) :
    binds.get? (fieldParameter number) = some (.str part) := h 0 (Nat.succ_pos _)

theorem Bound.tail {binds : Fields} {number : Nat} {part : String} {rest : List String}
    (h : Bound binds number (part :: rest)) : Bound binds (number + 1) rest := by
  intro i hi
  have hnext := h (i + 1) (Nat.succ_lt_succ hi)
  rwa [List.getElem_cons_succ, ← Nat.add_assoc, Nat.add_right_comm] at hnext

/-- Behind the value of an entry and the end of its object, the leaf of the value is read. -/
theorem run_nestedText (c : ListChange) {binds : Fields} {number : Nat} {parts : List String}
    (h : Bound binds number parts) (key : String) (outer : List String)
    (leaves : List (List String × String)) :
    run binds ((nestedText c.text number parts.length).toList ++ " \x7d".toList)
        ⟨.value, key :: outer, leaves⟩ =
      some (closed (leaves ++ [((key :: outer).reverse ++ parts, c.text)]) outer) := by
  -- An expression ends only at the brace behind it, so that brace belongs to the statement.
  induction parts generalizing number key outer with
  | nil =>
      rw [List.length_nil, nestedText, run_append, run_change, Option.bind_some]
      show expressionStep 0 (c.text.toList ++ [' ']) (key :: outer) leaves '\x7d' = _
      rw [expressionStep, if_pos ⟨rfl, .inr rfl⟩, trim_change, String.ofList_toList]
      simp
  | cons part rest ih =>
      rw [List.length_cons, toList_nestedText, List.append_assoc, run_append, run_opening h.head,
        Option.bind_some, run_append, ih h.tail part (key :: outer), Option.bind_some,
        List.reverse_cons, List.append_assoc]
      rfl

/-- The literal of a change has the changed list as its only leaf, at the path that is bound. -/
theorem leaves?_nestedText (c : ListChange) {binds : Fields} {parts : List String}
    (hne : parts ≠ []) (h : Bound binds 1 parts) :
    leaves? binds (nestedText c.text 1 parts.length) = some [(parts, c.text)] := by
  cases parts with
  | nil => exact absurd rfl hne
  | cons part rest =>
      rw [leaves?, List.length_cons, toList_nestedText, run_append, run_opening h.head,
        Option.bind_some, run_nestedText c h.tail part []]
      rfl

example : leaves? [("a", .str "laps"), ("b", .str "team"), ("c", .str "name")]
    "\x7b [ @a ]: POP(d.laps, 1), [ @b ]: \x7b [ @c ]: @name \x7d \x7d" =
      some [(["laps"], "POP(d.laps, 1)"), (["team", "name"], "@name")] := by cbv

end ObjectLiteral

/-! ## The parameters of a change -/

theorem fieldParameters_nodup (number depth : Nat) : (fieldParameters number depth).Nodup :=
  List.Nodup.map (fun _ _ => fieldParameter_inj) List.nodup_range'

theorem Request.names_bindSegments {binds : Fields} (h : ∀ n, fieldParameter n ∉ binds.names)
    (number : Nat) (parts : List String) :
    Fields.names (bindSegments number parts binds) =
      binds.names ++ (fieldParameters number parts.length).reverse := by
  induction parts generalizing number with
  | nil => simp [bindSegments, fieldParameters]
  | cons part rest ih =>
      have hfresh : fieldParameter number ∉ Fields.names (bindSegments (number + 1) rest binds) := by
        rw [ih, List.mem_append, List.mem_reverse, fieldParameters, List.mem_map]
        rintro (hown | ⟨later, hlater, heq⟩)
        · exact h number hown
        · have := fieldParameter_inj heq
          have := List.mem_range'_1.1 hlater
          omega
      rw [bindSegments, Fields.names_set, if_neg hfresh, ih]
      simp [fieldParameters, List.range'_succ]

/-- A change of the list in a property, with its values. -/
inductive ListRequest where
  /-- A value, or each of a list, is added. -/
  | add (value unique : Value)
  /-- A value is removed. -/
  | remove (value : Value)

namespace ListRequest

/-- The request for the document with a key. -/
def request (collection key : Value) (property : String) : ListRequest → Request
  | add value unique => .addToList collection key property value unique
  | remove value => .removeFromList collection key property value

/-- The change of the list. -/
def change : ListRequest → ListChange
  | add value _ => .adding value
  | remove _ => .remove

/-- The values, as they are bound. -/
def values : ListRequest → Fields
  | add value unique => [("value", value), ("unique", unique)]
  | remove value => [("value", value)]

/-- What is bound beside the parts of the path. -/
def own (collection key : Value) (property : String) (e : ListRequest) : Fields :=
  e.values ++
    [(Request.collectionParameter, collection), ("key", key), ("property", attributePath property)]

variable (e : ListRequest) (collection key : Value) (property : String)

theorem plan_request : (e.request collection key property).plan =
    .ok (e.change.statement (segments property).length,
      Request.bindSegments 1 (segments property) (e.own collection key property)) := by
  cases e <;> rfl

theorem sublist_names_own : (e.own collection key property).names.Sublist
    ["value", "unique", "@collection", "key", "property"] := by
  cases e with
  | add value unique =>
      show ["value", "unique", "@collection", "key", "property"].Sublist _
      decide
  | remove value =>
      show ["value", "@collection", "key", "property"].Sublist _
      decide

theorem nodup_names_own : (e.own collection key property).names.Nodup :=
  (e.sublist_names_own collection key property).nodup (by decide)

/-- What is bound beside the parts has names without a number, so no part is bound in its place. -/
theorem fieldParameter_ne {name : String} (h : name ∈ (e.own collection key property).names)
    (number : Nat) : fieldParameter number ≠ name := by
  have hfixed := (e.sublist_names_own collection key property).subset h
  simp only [List.mem_cons, List.not_mem_nil, or_false] at hfixed
  obtain rfl | rfl | rfl | rfl | rfl := hfixed <;>
    exact append_toString_ne (by intro c hc; cases hc; rfl)

theorem fieldParameter_not_mem (number : Nat) :
    fieldParameter number ∉ (e.own collection key property).names :=
  fun h => e.fieldParameter_ne collection key property h number rfl

theorem nodup_names : (Fields.names (Request.bindSegments 1 (segments property)
    (e.own collection key property))).Nodup := by
  rw [Request.names_bindSegments (e.fieldParameter_not_mem collection key property)]
  refine List.nodup_append.2 ⟨e.nodup_names_own collection key property,
    List.nodup_reverse.2 (fieldParameters_nodup _ _), fun name hname other hother => ?_⟩
  rw [List.mem_reverse, fieldParameters, List.mem_map] at hother
  obtain ⟨number, -, rfl⟩ := hother
  exact (e.fieldParameter_ne collection key property hname number).symm

end ListRequest

end DocQuery
