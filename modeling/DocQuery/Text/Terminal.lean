/-!
# Terminal sequences

A terminal takes some texts as commands: an escape character, an opening bracket,
parameters, and a letter that says what to do.  Parameters are digits, semicolons
and question marks.

`withoutSequences` is what is left of a text when they are taken out.  What only
begins like a sequence stays.
-/

namespace DocQuery

namespace Text

/-- The escape character. -/
def escapeChar : Char := '\x1b'

/-- Whether a character may stand among the parameters of a sequence. -/
def isSequenceParameter (c : Char) : Bool := c.isDigit || c = ';' || c = '?'

/-- The length of the sequence that a text continues behind its escape character. -/
def sequenceLength? : List Char → Option Nat
  | '[' :: rest =>
      let count := (rest.takeWhile isSequenceParameter).length
      match rest.drop count with
      | c :: _ => if c.isAlpha then some (count + 2) else none
      | [] => none
  | _ => none

/-- A text without its sequences, some characters skipped. -/
def withoutSequencesFrom : Nat → List Char → List Char
  | _, [] => []
  | skipped + 1, _ :: rest => withoutSequencesFrom skipped rest
  | 0, c :: rest =>
      match if c = escapeChar then sequenceLength? rest else none with
      | some length => withoutSequencesFrom length rest
      | none => c :: withoutSequencesFrom 0 rest

/-- A text without its sequences. -/
def withoutSequences (s : String) : String := String.ofList (withoutSequencesFrom 0 s.toList)

example : withoutSequencesFrom 0 ['\x1b', '[', '3', '1', 'm', 'a'] = ['a'] := by decide
example : withoutSequencesFrom 0 ['\x1b', '[', '3'] = ['\x1b', '[', '3'] := by decide

end Text

end DocQuery
