import DocQuery.Cli.Arguments
import DocQuery.Json.Reader
import DocQuery.NamedValue

/-!
# Named values on the command line

A named value is written as a name, an equals sign and a value.  The value is read
as JSON and is the text itself when it is not JSON.  A composite key is several
such pairs with commas between them, wherever a comma stands.
-/

namespace DocQuery

namespace Cli

/-- Why a pair is not read. -/
inductive PairError where
  /-- It is not written as a name and a value. -/
  | malformed (pair : String)
  /-- Its value is JSON that is not read. -/
  | unreadable (e : Json.ReadError)
deriving DecidableEq, Repr

namespace PairError

/-- The wording. -/
def message : PairError → String
  | malformed pair => "Expected name=value, got '" ++ pair ++ "'"
  | unreadable e => e.message

end PairError

/-- Reads a value: JSON, or the text itself. -/
def readValue (text : String) : Except Json.ReadError Value :=
  match Json.read text with
  | .ok v => .ok v
  | .error e => if e.isMalformed then .ok (.str text) else .error e

/-- Reads a named value. -/
def readPair (pair : String) (caseSensitive : Bool := true) : Except PairError NamedValue :=
  match splitValue pair.toList with
  | (name, some text) =>
      if name.all isSpace then .error (.malformed pair)
      else
        match readValue (String.ofList text) with
        | .ok value => .ok ⟨String.ofList (Text.trim name), value, caseSensitive⟩
        | .error e => .error (.unreadable e)
  | (_, none) => .error (.malformed pair)

/-- Reads the members of a composite key. -/
def readGroup (group : String) : Except PairError (List NamedValue) :=
  (Text.split ',' group).mapM readPair

end Cli

end DocQuery
