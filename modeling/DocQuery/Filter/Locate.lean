import DocQuery.Misuse
import DocQuery.Schema.Scalar
import DocQuery.Text.LowerCase

/-!
# Locating markers

`locate` finds every occurrence of some markers in a text, overlapping ones too.

* Without regard to case, a stretch as long as the marker is an occurrence when
  its lower case is the marker's; with regard to case, when it is the marker.
* An occurrence has a position in the text itself and the marker as it was
  compared, so in lower case when case does not count.
* Occurrences are in the order of their positions, and those at one position in
  the order of the markers.

`locateIn` takes markers and texts of any kind.  Markers may be listed inside lists.
Nothing is found in what counts as false, and any other value that is no text is
refused as soon as a marker is looked for in it.
-/

namespace DocQuery

/-! ## Positions -/

/-- The positions, counted from a number, at which a stretch of some width passes
a test. -/
def positions (width : Nat) (test : List Char → Bool) : Nat → List Char → List Nat
  | _, [] => []
  | n, c :: rest =>
      let stretch := (c :: rest).take width
      let later := positions width test (n + 1) rest
      if stretch.length = width && test stretch then n :: later else later

/-- A text as it is compared. -/
def compared (ignoreCase : Bool) (cs : List Char) : List Char :=
  if ignoreCase then Text.lower cs else cs

/-- An occurrence: its position and the marker as it was compared. -/
abbrev Located := Nat × List Char

/-- The occurrences of one marker. -/
def locateOne (ignoreCase : Bool) (text marker : List Char) : List Located :=
  if marker.isEmpty then []
  else
    let sought := compared ignoreCase marker
    (positions marker.length (fun stretch => compared ignoreCase stretch = sought) 0 text).map
      fun n => (n, sought)

/-- The occurrences of several markers, by position. -/
def locateAll (ignoreCase : Bool) (text : List Char) (markers : List (List Char)) : List Located :=
  (markers.flatMap (locateOne ignoreCase text)).mergeSort fun a b => a.1 ≤ b.1

/-! ## Occurrences as records -/

/-- One occurrence of a marker. -/
structure Occurrence where
  /-- Where it begins. -/
  index : Int
  /-- The marker as it was compared. -/
  value : String
deriving DecidableEq, Repr

namespace Occurrence

/-- An occurrence that was found. -/
def ofLocated (l : Located) : Occurrence := ⟨l.1, String.ofList l.2⟩

/-- Reads the fields of an occurrence. -/
def readFields (fields : Fields) : Schema.Checked Occurrence :=
  mk <$> Schema.required Schema.whole fields "index" <*> Schema.required Schema.text fields "value"

/-- Reads an occurrence. -/
def read : Value → Schema.Checked Occurrence := Schema.record readFields

/-- The occurrence as an object. -/
def toValue (o : Occurrence) : Value := .object [("index", .int o.index), ("value", .str o.value)]

end Occurrence

/-- The occurrences of one marker or of several. -/
def locate (markers : Texts) (text : String) (ignoreCase : Bool := true) : List Occurrence :=
  let found := match markers with
    | .one marker => locateOne ignoreCase text.toList marker.toList
    | .many markers => locateAll ignoreCase text.toList (markers.map String.toList)
  found.map Occurrence.ofLocated

/-! ## Markers and texts of any kind -/

/-- Looks for one marker in a value. -/
def seek (ignoreCase : Bool) (text : Value) (marker : List Char) : Except Misuse (List Located) :=
  if marker.isEmpty then .ok []
  else match text with
    | .str s => .ok (locateOne ignoreCase s.toList marker)
    | v =>
        if !ignoreCase then .error (.noPath v.kindName)
        else match v with
          | .list items =>
              if items.length < marker.length then .ok [] else .error (.noLetters "list")
          | .object fields =>
              if fields.length < marker.length then .ok [] else .error (.noName "slice")
          | v => .error (.noLength v.kindName)

mutual

/-- Looks for all markers that a value lists. -/
def seekAll (ignoreCase : Bool) (text : Value) : Value → Except Misuse (List Located)
  | .str marker => seek ignoreCase text marker.toList
  | .list items => seekItems ignoreCase text items
  | .object fields => do
      let found ← fields.mapM fun entry => seek ignoreCase text entry.1.toList
      return found.flatten
  | v => .error (.noItems v.kindName)
termination_by structural v => v

/-- Looks for all markers of a list. -/
def seekItems (ignoreCase : Bool) (text : Value) : List Value → Except Misuse (List Located)
  | [] => .ok []
  | v :: rest => do return (← seekAll ignoreCase text v) ++ (← seekItems ignoreCase text rest)
termination_by structural vs => vs

end

/-- The occurrences of markers in a text, both of any kind. -/
def locateIn (markers text : Value) (ignoreCase : Bool) : Except Misuse (List Occurrence) :=
  if !text.isTrue then .ok []
  else (seekAll ignoreCase text markers).map fun found =>
    (found.mergeSort fun a b => a.1 ≤ b.1).map Occurrence.ofLocated

example : locateOne false ['a', 'a', 'a'] ['a', 'a'] = [(0, ['a', 'a']), (1, ['a', 'a'])] := by
  decide
example : locateOne true ['A', 'b'] ['a'] = [(0, ['a'])] := by decide +kernel

end DocQuery
