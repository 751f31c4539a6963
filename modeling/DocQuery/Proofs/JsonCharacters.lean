import DocQuery.Json.Writer
import DocQuery.Proofs.ValueParts

/-!
# Characters of JSON texts

*Numbers.*  A number is written with digits, signs, a full stop, the mark of an exponent and the
names of infinity and `nan`, in any style that has no other characters (`isNumberChar_textIn`).

*Texts.*  What a text is written with is printable ASCII, since a character outside it is written
as a code (`isPrintable_writeText`).

*Values.*  A value over several lines is written with printable ASCII and line feeds, however deep
it is (`isLaidOut_writeIndented`).  No character of it is one that a terminal acts upon but the end
of a line.
-/

namespace DocQuery

namespace Json

/-! ## Numbers -/

/-- The characters that numbers are written with. -/
def isNumberChar (c : Char) : Bool := c.isDigit || "+-.eInfityNa".toList.contains c

theorem isNumberChar_toDigits {n : Nat} {c : Char} (h : c ∈ Nat.toDigits 10 n) :
    isNumberChar c = true := by
  rw [isNumberChar, Nat.isDigit_of_mem_toDigits (by decide) (by decide) h, Bool.true_or]

theorem isNumberChar_replicate {k : Nat} {c : Char} (h : c ∈ List.replicate k '0') :
    isNumberChar c = true := by
  rw [List.eq_of_mem_replicate h]
  rfl

theorem isNumberChar_toString (n : Int) : ∀ c ∈ (toString n).toList, isNumberChar c = true := by
  cases n with
  | ofNat n =>
      show ∀ c ∈ (Nat.repr n).toList, _
      rw [Nat.toList_repr]
      exact fun c => isNumberChar_toDigits
  | negSucc n =>
      show ∀ c ∈ ("-" ++ Nat.repr (n + 1)).toList, _
      rw [String.toList_append, Nat.toList_repr, List.forall_mem_append]
      exact ⟨List.all_eq_true.1 rfl, fun c => isNumberChar_toDigits⟩

theorem isNumberChar_positional (d : Decimal) :
    ∀ c ∈ (Double.positional numberStyle d).toList, isNumberChar c = true := by
  have hends : ∀ c ∈ numberStyle.wholeEnd.toList, isNumberChar c = true := List.all_eq_true.1 rfl
  have hstop : ∀ c ∈ ".".toList, isNumberChar c = true := List.all_eq_true.1 rfl
  have hzero : ∀ c ∈ "0.".toList, isNumberChar c = true := List.all_eq_true.1 rfl
  rw [Double.positional]
  split
  · simp only [String.toList_append, String.toList_ofList, List.forall_mem_append]
    exact ⟨⟨fun c => isNumberChar_toDigits, fun c => isNumberChar_replicate⟩, hends⟩
  · simp only
    split
    · simp only [String.toList_append, String.toList_ofList, List.forall_mem_append]
      exact ⟨⟨fun c hc => isNumberChar_toDigits (List.mem_of_mem_take hc), hstop⟩,
        fun c hc => isNumberChar_toDigits (List.mem_of_mem_drop hc)⟩
    · simp only [String.toList_append, String.toList_ofList, List.forall_mem_append]
      exact ⟨hzero, fun c => isNumberChar_replicate, fun c => isNumberChar_toDigits⟩

theorem isNumberChar_scientific (d : Decimal) :
    ∀ c ∈ (Double.scientific numberStyle d).toList, isNumberChar c = true := by
  have hfraction : ∀ c ∈ (if ((Nat.toDigits 10 d.digits).drop 1).isEmpty then "" else
      "." ++ String.ofList ((Nat.toDigits 10 d.digits).drop 1)).toList, isNumberChar c = true := by
    split
    · exact List.all_eq_true.1 rfl
    · simp only [String.toList_append, String.toList_ofList, List.forall_mem_append]
      exact ⟨List.all_eq_true.1 rfl, fun c hc => isNumberChar_toDigits (List.mem_of_mem_drop hc)⟩
  have hsign : ∀ c ∈ (if d.magnitude < 0 then "-" else "+").toList, isNumberChar c = true := by
    split <;> exact List.all_eq_true.1 rfl
  have hmark : ∀ c ∈ numberStyle.mark.toList, isNumberChar c = true := List.all_eq_true.1 rfl
  simp only [Double.scientific, Double.padded, String.toList_append, String.toList_ofList,
    List.forall_mem_append]
  exact ⟨⟨⟨⟨fun c hc => isNumberChar_toDigits (List.mem_of_mem_take hc), hfraction⟩, hmark⟩,
    hsign⟩, fun c => isNumberChar_replicate, fun c => isNumberChar_toDigits⟩

/-- A number is written with the characters of numbers. -/
theorem isNumberChar_textIn (x : Double) :
    ∀ c ∈ (x.textIn numberStyle).toList, isNumberChar c = true := by
  have hsign (negative : Bool) :
      ∀ c ∈ (if negative then "-" else "").toList, isNumberChar c = true := by
    cases negative <;> exact List.all_eq_true.1 rfl
  cases x with
  | nan object =>
      have hname : ∀ c ∈ numberStyle.notANumber.toList, isNumberChar c = true :=
        List.all_eq_true.1 rfl
      exact hname
  | infinite negative => cases negative <;> exact List.all_eq_true.1 rfl
  | finite negative mantissa exponent =>
      simp only [Double.textIn]
      split
      · cases negative <;> exact List.all_eq_true.1 rfl
      · split
        · rw [String.toList_append, List.forall_mem_append]
          exact ⟨hsign negative, isNumberChar_positional _⟩
        · rw [String.toList_append, List.forall_mem_append]
          exact ⟨hsign negative, isNumberChar_scientific _⟩

/-! ## Printable texts -/

/-- Whether a character is printable ASCII. -/
def isPrintable (c : Char) : Bool := decide (32 ≤ c.toNat ∧ c.toNat < 127)

theorem isPrintable_of_isNumberChar {c : Char} (h : isNumberChar c = true) :
    isPrintable c = true := by
  rw [isNumberChar, Bool.or_eq_true, List.contains_iff_mem] at h
  rcases h with hdigit | hmark
  · have hbounds : 48 ≤ c.toNat ∧ c.toNat ≤ 57 := by
      simpa [Char.isDigit, Char.le_def, UInt32.le_iff_toNat_le] using hdigit
    rw [isPrintable, decide_eq_true_eq]
    omega
  · have hmarks : ∀ c ∈ "+-.eInfityNa".toList, isPrintable c = true := List.all_eq_true.1 rfl
    exact hmarks c hmark

theorem isPrintable_hex (width n : Nat) : ∀ c ∈ Text.hex width n, isPrintable c = true := by
  induction width generalizing n with
  | zero => exact List.forall_mem_nil _
  | succ width ih =>
      have hdigit : ∀ digit < 16, isPrintable (Text.hexDigit digit) = true := by decide
      rw [Text.hex, List.forall_mem_append]
      exact ⟨ih _, List.forall_mem_singleton.2 (hdigit _ (Nat.mod_lt n (by decide)))⟩

theorem isPrintable_codeUnits (c : Char) : ∀ d ∈ codeUnits c, isPrintable d = true := by
  have hunit (n : Nat) : ∀ d ∈ '\\' :: 'u' :: Text.hex 4 n, isPrintable d = true :=
    List.forall_mem_cons.2 ⟨rfl, List.forall_mem_cons.2 ⟨rfl, isPrintable_hex 4 n⟩⟩
  rw [codeUnits]
  split
  · exact hunit _
  · split
    · exact hunit _
    · exact List.forall_mem_append.2 ⟨hunit _, hunit _⟩

theorem isPrintable_escapedChar (c : Char) : ∀ d ∈ escapedChar c, isPrintable d = true := by
  rw [escapedChar]
  split
  case isTrue h => rcases h with rfl | rfl <;> exact List.all_eq_true.1 rfl
  case isFalse =>
    -- The five characters with a code of their own.
    iterate 5
      split
      · exact List.all_eq_true.1 rfl
    split
    case isTrue hplain => exact List.forall_mem_singleton.2 (decide_eq_true hplain)
    case isFalse => exact isPrintable_codeUnits c

theorem isPrintable_writeText (s : String) :
    ∀ c ∈ (writeText s).toList, isPrintable c = true := by
  rw [writeText, String.toList_ofList]
  intro c hc
  simp only [List.cons_append, List.mem_cons, List.mem_append, List.mem_flatMap, List.not_mem_nil,
    or_false] at hc
  rcases hc with rfl | ⟨d, -, hd⟩ | rfl
  · rfl
  · exact isPrintable_escapedChar d c hd
  · rfl

/-! ## Values over several lines -/

/-- Whether a character is printable ASCII or ends a line. -/
def isLaidOut (c : Char) : Bool := isPrintable c || c = '\n'

theorem isLaidOut_of_isPrintable {cs : List Char} (h : ∀ c ∈ cs, isPrintable c = true) :
    ∀ c ∈ cs, isLaidOut c = true := fun c hc => by
  rw [isLaidOut, h c hc, Bool.true_or]

theorem isLaidOut_lineBreak (depth : Nat) : ∀ c ∈ (lineBreak depth).toList, isLaidOut c = true := by
  rw [lineBreak, String.toList_ofList, List.forall_mem_cons]
  refine ⟨rfl, fun c hc => ?_⟩
  rw [List.eq_of_mem_replicate hc]
  rfl

theorem forall_mem_intercalate {P : Char → Prop} {mark : String} (hmark : ∀ c ∈ mark.toList, P c)
    {texts : List String} (htexts : ∀ text ∈ texts, ∀ c ∈ text.toList, P c) :
    ∀ c ∈ (mark.intercalate texts).toList, P c := by
  rw [String.toList_intercalate]
  induction texts with
  | nil => exact List.forall_mem_nil _
  | cons text rest ih =>
      obtain ⟨htext, hrest⟩ := List.forall_mem_cons.1 htexts
      cases rest with
      | nil => simpa [List.intercalate] using htext
      | cons next rest =>
          rw [List.map_cons, List.map_cons, List.intercalate_cons_cons, List.forall_mem_append,
            List.forall_mem_append]
          exact ⟨⟨htext, hmark⟩, ih hrest⟩

theorem isLaidOut_bracketed {opening closing : String} (depth : Nat) {lines : List String}
    (hopening : ∀ c ∈ opening.toList, isLaidOut c = true)
    (hclosing : ∀ c ∈ closing.toList, isLaidOut c = true)
    (hlines : ∀ line ∈ lines, ∀ c ∈ line.toList, isLaidOut c = true) :
    ∀ c ∈ (bracketed opening closing depth lines).toList, isLaidOut c = true := by
  have hmark : ∀ c ∈ ("," ++ lineBreak (depth + 1)).toList, isLaidOut c = true := by
    rw [String.toList_append, List.forall_mem_append]
    exact ⟨List.all_eq_true.1 rfl, isLaidOut_lineBreak _⟩
  rw [bracketed]
  split
  · rw [String.toList_append, List.forall_mem_append]
    exact ⟨hopening, hclosing⟩
  · simp only [String.toList_append, List.forall_mem_append]
    exact ⟨⟨⟨⟨hopening, isLaidOut_lineBreak _⟩, forall_mem_intercalate hmark hlines⟩,
      isLaidOut_lineBreak _⟩, hclosing⟩

theorem writeItemsAt_eq_map (depth : Nat) (items : List Value) :
    writeItemsAt depth items = items.map (writeAt depth) := by
  induction items with
  | nil => rfl
  | cons v rest ih => rw [writeItemsAt, ih, List.map_cons]

theorem writeFieldsAt_eq_map (depth : Nat) (fields : Fields) :
    writeFieldsAt depth fields =
      fields.map fun entry => writeText entry.1 ++ ": " ++ writeAt depth entry.2 := by
  induction fields with
  | nil => rfl
  | cons entry rest ih => rw [writeFieldsAt, ih, List.map_cons]

theorem isLaidOut_writeScalar {v : Value} (h : v.isPlain = true) :
    ∀ c ∈ (writeScalar v).toList, isLaidOut c = true := by
  refine isLaidOut_of_isPrintable ?_
  cases v with
  | null => exact List.all_eq_true.1 rfl
  | bool b => cases b <;> exact List.all_eq_true.1 rfl
  | int n => exact fun c hc => isPrintable_of_isNumberChar (isNumberChar_toString n c hc)
  | float x => exact fun c hc => isPrintable_of_isNumberChar (isNumberChar_textIn x c hc)
  | str s => exact isPrintable_writeText s
  | list items => cases h
  | object fields => cases h

/-- A value at any depth is written with printable characters and line feeds. -/
theorem isLaidOut_writeAt (v : Value) (depth : Nat) :
    ∀ c ∈ (writeAt depth v).toList, isLaidOut c = true := by
  induction v using Value.byParts generalizing depth with
  | plain v hplain =>
      have hscalar : writeAt depth v = writeScalar v := by
        cases v with
        | list items => cases hplain
        | object fields => cases hplain
        | _ => rfl
      rw [hscalar]
      exact isLaidOut_writeScalar hplain
  | list items ih =>
      rw [writeAt, writeItemsAt_eq_map]
      exact isLaidOut_bracketed depth (List.all_eq_true.1 rfl) (List.all_eq_true.1 rfl)
        (List.forall_mem_map.2 fun v hv => ih v hv (depth + 1))
  | object fields ih =>
      rw [writeAt, writeFieldsAt_eq_map]
      refine isLaidOut_bracketed depth (List.all_eq_true.1 rfl) (List.all_eq_true.1 rfl)
        (List.forall_mem_map.2 fun entry hentry => ?_)
      rw [String.toList_append, String.toList_append, List.forall_mem_append,
        List.forall_mem_append]
      exact ⟨⟨isLaidOut_of_isPrintable (isPrintable_writeText _),
        List.all_eq_true.1 rfl⟩,
        ih entry hentry (depth + 1)⟩

theorem isLaidOut_writeIndented (v : Value) :
    ∀ c ∈ (writeIndented v).toList, isLaidOut c = true := isLaidOut_writeAt v 0

end Json

end DocQuery
