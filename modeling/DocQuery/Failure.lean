import DocQuery.InputError
import DocQuery.Json.Reader
import DocQuery.Misuse
import DocQuery.Schema.Check

/-!
# Failures

Everything that can end an operation before its result: unusable input, a record
that does not pass its checks, a document or a file that is not there, a fault of
the server, or a value used as what it is not.

`message` is the wording of each.
-/

namespace DocQuery

/-! ## Faults of the server -/

/-- The kind of a fault. -/
inductive FaultKind where
  /-- The server refused or failed. -/
  | server
  /-- Something failed while running. -/
  | runtime
  /-- A value was not accepted. -/
  | value
  /-- The server was not reached. -/
  | connection
  /-- Something was looked up and not there. -/
  | lookup
deriving DecidableEq, Repr

/-- A fault met while calling the server. -/
structure Fault where
  /-- Its kind. -/
  kind : FaultKind
  /-- What is known about it. -/
  detail : String
deriving DecidableEq, Repr

/-- The wording of a fault; what was looked up is quoted. -/
def Fault.message (f : Fault) : String :=
  match f.kind with
  | .lookup => Text.quoted f.detail
  | _ => f.detail

/-! ## Faults of files -/

/-- Why a file is not read. -/
inductive FileFault where
  /-- It is not there. -/
  | missing
  /-- Its path leads through something that is no directory. -/
  | notDirectory
  /-- It is a directory. -/
  | isDirectory
  /-- Its path, or a part of it, is too long. -/
  | nameTooLong
  /-- Its path holds the null character. -/
  | nullCharacter
deriving DecidableEq, Repr

/-- The wording of a fault of a file. -/
def FileFault.message (path : String) : FileFault → String
  | missing => "[Errno 2] No such file or directory: " ++ Text.quoted path
  | notDirectory => "[Errno 20] Not a directory: " ++ Text.quoted path
  | isDirectory => "[Errno 21] Is a directory: " ++ Text.quoted path
  | nameTooLong => "[Errno 36] File name too long: " ++ Text.quoted path
  | nullCharacter => "embedded null byte"

/-! ## Failures -/

/-- What ended an operation. -/
inductive Failure where
  /-- The input is unusable. -/
  | input (e : InputError)
  /-- A document is not there. -/
  | noDocument
  /-- A record does not pass its checks. -/
  | record (name : String) (issues : List Schema.Issue)
  /-- A text is none of the choices. -/
  | noChoice (value : Value) (kind : String)
  /-- A field is not there. -/
  | noField (name : String)
  /-- There is no handle on the system database. -/
  | noSystem (database : String)
  /-- A database was not created again. -/
  | notRecreated (database : String)
  /-- The address of the server is not accepted. -/
  | notConnected (hosts : String) (reason : String)
  /-- The server reported a fault. -/
  | fault (f : Fault)
  /-- A value was misused. -/
  | misuse (m : Misuse)
  /-- A file is not read. -/
  | file (path : String) (reason : FileFault)
  /-- A text is not read as JSON. -/
  | unreadable (e : Json.ReadError)
deriving Repr

namespace Failure

/-- The first line of the wording of a record's issues. -/
def issuesHeading (name : String) (count : Nat) : String :=
  toString count ++ (if count = 1 then " validation error for " else " validation errors for ")
    ++ name

/-- The wording. -/
def message : Failure → String
  | input e => e.message
  | noDocument => "Document not found"
  | record name issues => issuesHeading name issues.length
  | noChoice value kind => value.literal ++ " is not a valid " ++ kind
  | noField name => Text.quoted name
  | noSystem database => "No _system database handle available for '" ++ database ++ "'"
  | notRecreated database => "Failed to re-create DB " ++ database
  | notConnected hosts reason => "Could not create ArangoDB client for " ++ hosts ++ ": " ++ reason
  | fault f => f.message
  | misuse m => m.message
  | file path reason => reason.message path
  | unreadable e => e.message

/-- A record that passed its checks, or the failure of one that did not. -/
def ofChecked {α : Type} (name : String) : Schema.Checked α → Except Failure α
  | .ok a => .ok a
  | .bad issues => .error (.record name issues)

/-- One of a few choices, or the failure of a value that is none. -/
def ofChoice {α : Type} (kind : String) (ofText? : String → Option α) (v : Value) :
    Except Failure α :=
  match v.text?.bind ofText? with
  | some a => .ok a
  | none => .error (.noChoice v kind)

end Failure

end DocQuery
