import DocQuery.Text.CaseTable

/-!
# Lower case

`lower` gives the full lower-case form of a text.

* The capital sigma becomes a final sigma when a letter with a case stands before
  it and none after it; characters that do not count are skipped on both sides.
  Elsewhere it becomes the small sigma.
* The capital i with a dot becomes two characters, an i and a combining dot.
* Every other character moves by the table or stays.

So the lower-case form of a text may be longer than the text, and it may differ
from the lower-case forms of its parts put together.
-/

namespace DocQuery

namespace Text

/-- The capital sigma. -/
def capitalSigma : Char := Char.ofNat 0x3a3

/-- The small sigma. -/
def smallSigma : Char := Char.ofNat 0x3c3

/-- The small sigma at the end of a word. -/
def finalSigma : Char := Char.ofNat 0x3c2

/-- The lower-case form of a character outside any context. -/
def lowerChar (c : Char) : List Char :=
  if c.toNat = 0x130 then ['i', Char.ofNat 0x307]
  else match CaseTable.lowerRuns.find? fun run => run.has c.toNat with
    | some run => [Char.ofNat ((c.toNat : Int) + run.shift).toNat]
    | none => [c]

/-- Whether the nearest character that counts is a letter with a case. -/
def nextIsCased (cs : List Char) : Bool :=
  match cs.dropWhile CaseTable.ignorable.mem with
  | [] => false
  | c :: _ => CaseTable.cased.mem c

/-- The lower-case form of what follows `before`, which is given nearest first. -/
def lowerAfter (before : List Char) : List Char → List Char
  | [] => []
  | c :: rest =>
      (if c = capitalSigma then
        [if nextIsCased before && !nextIsCased rest then finalSigma else smallSigma]
      else lowerChar c) ++ lowerAfter (c :: before) rest

/-- The lower-case form of a text. -/
def lower (cs : List Char) : List Char := lowerAfter [] cs

/-- The lower-case form of a string. -/
def lowered (s : String) : String := String.ofList (lower s.toList)

example : lower ['L', 'I', 'k', 'e'] = ['l', 'i', 'k', 'e'] := by decide +kernel
example : lower [Char.ofNat 0x391, capitalSigma] = [Char.ofNat 0x3b1, finalSigma] := by
  decide +kernel

end Text

end DocQuery
