import DocQuery.Proofs.SessionRun

/-!
# The first change of a session

What a query does is read off its text: `Call.mutates` looks for the words that change
documents.  It finds them in the text of every statement that changes documents
(`Statement.mutates_of_writes`).

A session that changes something falls into two parts.  Up to its first change it only reads
and may refuse; `Session.Past` says of what kind it is from the change on.

* If it refuses nothing from there on, a refused run has changed nothing
  (`Past.calls_of_refused`).
* If it does not even call the server again, a run changes something at most once, at its end
  (`Past.calls_of_settled`).
-/

namespace DocQuery

/-! ## Failures that refuse -/

/-- Whether a failure says that the input is unusable or that the document is not there. -/
def Failure.refuses : Failure → Bool
  | .input _ | .noDocument => true
  | _ => false

@[simp] theorem Failure.refuses_of_checked {α : Type} {name : String} {checked : Schema.Checked α}
    {e : Failure} (h : ofChecked name checked = .error e) : e.refuses = false := by
  cases checked with
  | ok a => cases h
  | bad issues =>
      cases h
      rfl

/-! ## Calls that change what is stored -/

/-- The words by which a query changes documents. -/
def changingWords : List String := ["UPDATE", "REMOVE"]

/-- Whether a word of a text changes documents. -/
def hasChangingWord (text : String) : Bool := (Text.split ' ' text).any changingWords.contains

/-- Whether a call changes what is stored; a query does by the words in it. -/
def Call.mutates : Call → Bool
  | .execute (.str text) _ _ => hasChangingWord text
  | c => c.writes

theorem hasChangingWord_append (s t : String) :
    hasChangingWord (s ++ " " ++ t) = (hasChangingWord s || hasChangingWord t) := by
  have hsplit : Text.split ' ' (s ++ " " ++ t) = Text.split ' ' s ++ Text.split ' ' t := by
    simp only [Text.split, String.toList_append, List.append_assoc]
    rw [show " ".toList ++ t.toList = ' ' :: t.toList from rfl, Text.splitOn_append, List.map_append]
  simp [hasChangingWord, hsplit]

theorem hasChangingWord_update (rest : String) :
    hasChangingWord ("UPDATE d WITH " ++ rest) = true := by
  have hwords : "UPDATE d WITH " ++ rest = "UPDATE" ++ " " ++ ("d WITH " ++ rest) := by
    simp only [← String.append_assoc]
    rfl
  have hfirst : hasChangingWord "UPDATE" = true := rfl
  rw [hwords, hasChangingWord_append, hfirst, Bool.true_or]

/-- An action that changes documents has a word that does. -/
theorem Action.hasChangingWord_text {a : Action} (h : a.writes = true) :
    hasChangingWord a.text = true := by
  cases a with
  | documents => cases h
  | keys => cases h
  | update => decide +kernel
  | remove => decide +kernel
  | patch => decide +kernel
  | changeList change depth =>
      show hasChangingWord ("UPDATE d WITH " ++ _ ++ _ ++ _) = true
      rw [String.append_assoc, String.append_assoc]
      exact hasChangingWord_update _

/-- The text of a statement that changes documents shows it. -/
theorem Statement.mutates_of_writes {st : Statement} (h : st.action.writes = true)
    (binds : Value) (options : Fields) :
    (Call.execute (.str st.text) binds options).mutates = true := by
  show hasChangingWord st.text = true
  unfold Statement.text
  rw [hasChangingWord_append, Bool.or_eq_true]
  exact .inr (Action.hasChangingWord_text h)

/-! ## Sessions around their first change -/

namespace Session

variable {α β σ : Type}

/-- A session that makes only calls that do not count, and may end in any way. -/
abbrev Quiet (counts : Call → Bool) (s : Session α) : Prop :=
  s.Meets (fun c => counts c = false) (fun _ => True) fun _ => True

/-- A session that never refuses. -/
abbrev Steady (s : Session α) : Prop :=
  s.Meets (fun _ => True) (fun e => e.refuses = false) fun _ => True

/-- A session that calls no more and does not refuse, with a result of some kind. -/
abbrev Settled (post : α → Prop) (s : Session α) : Prop :=
  s.Meets (fun _ => False) (fun e => e.refuses = false) post

/-- From the first call that counts on, the session is of some kind. -/
def Past (counts : Call → Bool) (after : Session α → Prop) : Session α → Prop
  | done _ | fail _ => True
  | log _ next => next.Past counts after
  | call c next =>
      ∀ answer, if counts c then after (next answer) else (next answer).Past counts after

variable {counts : Call → Bool} {after : Session α → Prop}

theorem Steady.bind {s : Session α} {f : α → Session β} (h : s.Steady) (hf : ∀ a, (f a).Steady) :
    (s.bind f).Steady := Meets.bind h fun a _ => hf a

theorem Quiet.bind {s : Session α} {f : α → Session β} (h : s.Quiet counts)
    (hf : ∀ a, (f a).Quiet counts) : (s.bind f).Quiet counts := Meets.bind h fun a _ => hf a

theorem Steady.of_settled {post : α → Prop} {s : Session α} (h : s.Settled post) : s.Steady :=
  h.mono (fun _ _ => trivial) (fun _ he => he) fun _ _ => trivial

theorem Past.of_steady {s : Session α} (h : s.Steady) : s.Past counts Steady := by
  induction s with
  | done a => trivial
  | fail e => trivial
  | log r next ih => exact ih h
  | call c next ih =>
      intro answer
      split
      · exact h.2 answer
      · exact ih answer (h.2 answer)

theorem Past.mono {after' : Session α → Prop} {s : Session α} (h : s.Past counts after)
    (hafter : ∀ t, after t → after' t) : s.Past counts after' := by
  induction s with
  | done a => trivial
  | fail e => trivial
  | log r next ih => exact ih h
  | call c next ih =>
      intro answer
      have hanswer := h answer
      split at hanswer
      next hc =>
        rw [if_pos hc]
        exact hafter _ hanswer
      next hc =>
        rw [if_neg hc]
        exact ih answer hanswer

/-- Whatever a session does after calls that do not count, it does after its start too. -/
theorem Past.bind_quiet {s : Session α} {f : α → Session β} {after : Session β → Prop}
    (h : s.Quiet counts) (hf : ∀ a, (f a).Past counts after) : (s.bind f).Past counts after := by
  induction s with
  | done a => exact hf a
  | fail e => trivial
  | log r next ih => exact ih h
  | call c next ih =>
      intro answer
      rw [h.1]
      exact ih answer (h.2 answer)

theorem Past.bind {s : Session α} {f : α → Session β} {after' : Session β → Prop}
    (h : s.Past counts after) (hafter : ∀ t, after t → after' (t.bind f))
    (hf : ∀ a, (f a).Past counts after') : (s.bind f).Past counts after' := by
  induction s with
  | done a => exact hf a
  | fail e => trivial
  | log r next ih => exact ih h
  | call c next ih =>
      intro answer
      have hanswer := h answer
      split at hanswer
      next hc =>
        rw [if_pos hc]
        exact hafter _ hanswer
      next hc =>
        rw [if_neg hc]
        exact ih answer hanswer

theorem Past.bind_steady {s : Session α} {f : α → Session β} (h : s.Past counts Steady)
    (hf : ∀ a, (f a).Steady) : (s.bind f).Past counts Steady :=
  h.bind (fun _ ht => ht.bind hf) fun a => .of_steady (hf a)

theorem Past.map_steady {s : Session α} (f : α → β) (h : s.Past counts Steady) :
    (s.bind fun a => done (f a)).Past counts Steady := h.bind_steady fun _ => trivial

/-- A run that ends in a refusal has made no call that counts. -/
theorem Past.calls_of_refused (respond : Responder σ) {s : Session α}
    (h : s.Past counts Steady) (st : σ) {e : Failure}
    (hresult : (s.run respond st).result = .error e) (he : e.refuses = true) :
    ∀ c ∈ (s.run respond st).calls, counts c = false := by
  induction s generalizing st with
  | done a => cases hresult
  | fail e => exact fun _ hc => absurd hc List.not_mem_nil
  | log r next ih => exact ih h st hresult
  | call c next ih =>
      have hanswer := h (respond c st).1
      split at hanswer
      next hc =>
        have hsteady := (Meets.run respond hanswer (respond c st).2).2.2 e hresult
        rw [he] at hsteady
        cases hsteady
      next hc =>
        intro d hd
        rcases List.mem_cons.1 hd with rfl | hd
        · exact Bool.eq_false_iff.2 hc
        · exact ih _ hanswer _ hresult d hd

/-- A run makes at most one call that counts, as its last, and none when its result is not
of the kind that follows one. -/
theorem Past.calls_of_settled (respond : Responder σ) {post : α → Prop} {s : Session α}
    (h : s.Past counts (Settled post)) (st : σ) :
    (∀ c ∈ (s.run respond st).calls.dropLast, counts c = false) ∧
      ∀ a, (s.run respond st).result = .ok a → ¬ post a →
        ∀ c ∈ (s.run respond st).calls, counts c = false := by
  induction s generalizing st with
  | done a => exact ⟨fun _ hc => absurd hc List.not_mem_nil, fun _ _ _ _ hc => absurd hc List.not_mem_nil⟩
  | fail e => exact ⟨fun _ hc => absurd hc List.not_mem_nil, fun _ _ _ _ hc => absurd hc List.not_mem_nil⟩
  | log r next ih => exact ih h st
  | call c next ih =>
      have hanswer := h (respond c st).1
      split at hanswer
      next hc =>
        obtain ⟨hnone, hpost, -⟩ := Meets.run respond hanswer (respond c st).2
        have hcalls : ((next (respond c st).1).run respond (respond c st).2).calls = [] :=
          List.eq_nil_iff_forall_not_mem.2 hnone
        refine ⟨?_, fun a ha hna => absurd (hpost a ha) hna⟩
        simp [run, hcalls]
      next hc =>
        obtain ⟨hlast, hresult⟩ := ih _ hanswer (respond c st).2
        constructor
        · intro d hd
          simp only [run] at hd
          rcases List.eq_nil_or_concat ((next (respond c st).1).run respond (respond c st).2).calls with
            hnil | ⟨init, last, hcons⟩
          · simp [hnil] at hd
          · rw [hcons] at hd hlast
            simp only [List.concat_eq_append, ← List.cons_append, List.dropLast_concat] at hd hlast
            rcases List.mem_cons.1 hd with rfl | hd
            · exact Bool.eq_false_iff.2 hc
            · exact hlast d hd
        · intro a ha hna d hd
          rcases List.mem_cons.1 hd with rfl | hd
          · exact Bool.eq_false_iff.2 hc
          · exact hresult a ha hna d hd

end Session

end DocQuery
