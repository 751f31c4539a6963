import DocQuery.Json.Writer
import DocQuery.Misuse
import DocQuery.Query.Basic
import DocQuery.Structure.Basic
import DocQuery.Text.LowerCase

/-!
# What the command line shows

Results are printed as plain text, panels, tables and lines of markup.  How a library
for terminals lays them out is not told here.  Of a text that is not markup it may take
out control characters (`Terminal`), and a query is shown as such a text.  In markup a
tag is a bracketed text that starts with a small letter or one of `#/@`; text that is
not markup but goes with some has its tags escaped by a backslash, and the backslashes
in front of a tag doubled.

Documents become a table with a column for every field that any of them has, in
the order in which the fields first occur; long cells are cut.  On request they
are printed as JSON.  `shownDocuments` does it for values of any kind: what a value
lists are the documents, and any value but null is a total.
-/

namespace DocQuery

namespace Cli

/-! ## Markup -/

/-- Whether a character may start a tag. -/
def startsTag (c : Char) : Bool :=
  (decide ('a' ≤ c) && decide (c ≤ 'z')) || c = '#' || c = '/' || c = '@'

/-- Whether the text behind an opening bracket makes a tag: it starts like one, and
a closing bracket comes before any other opening one. -/
def isTag : List Char → Bool
  | [] => false
  | c :: rest => startsTag c && (rest.find? fun c => c = '[' || c = ']') == some ']'

/-- Escapes tags, behind a run of some backslashes. -/
def escapeFrom : Nat → List Char → List Char
  | _, [] => []
  | run, c :: rest =>
      if c = '\\' then c :: escapeFrom (run + 1) rest
      else if c = '[' && isTag rest then
        List.replicate (run + 1) '\\' ++ c :: escapeFrom 0 rest
      else c :: escapeFrom 0 rest

/-- Doubles a single backslash at the end. -/
def closeBackslash (cs : List Char) : List Char :=
  match cs.reverse with
  | '\\' :: '\\' :: _ => cs
  | '\\' :: _ => cs ++ ['\\']
  | _ => cs

/-- Text as markup that shows it as it is. -/
def escape (s : String) : String := String.ofList (closeBackslash (escapeFrom 0 s.toList))

/-- The markup of an error. -/
def errorMarkup (message : String) : String := "[bold red]Error:[/bold red] " ++ escape message

/-! ## Cells -/

/-- The first characters up to a position, which counts from the end when it is
negative. -/
def upTo (position : Int) (cs : List Char) : List Char :=
  if position < 0 then cs.take (cs.length - position.natAbs) else cs.take position.toNat

/-- The text of a value before it is cut. -/
def cellText : Value → String
  | .null => ""
  | .str s => s
  | v => Json.write v

/-- Cuts a text that is too long, leaving room for three full stops. -/
def cut (limit : Int) (cs : List Char) : List Char :=
  if (cs.length : Int) ≤ limit then cs else upTo (limit - 3) cs ++ ['.', '.', '.']

/-- The longest cell. -/
def cellLimit : Int := 80

/-- The text of a value; nothing is shown for null, and long texts are cut. -/
def shortText (v : Value) (limit : Int := cellLimit) : String :=
  match v with
  | .null => ""
  | v => String.ofList (cut limit (cellText v).toList)

/-- A cell of a table. -/
def cell (v : Value) : String := escape (shortText v)

/-! ## Texts on a terminal -/

/-- What a library for terminals shows of a text that is not markup.  It may take out control
characters, which a terminal would act upon. -/
structure Terminal where
  /-- What is shown of a text. -/
  shows : String → String
  /-- Whether a character is taken out. -/
  takesOut : Char → Bool
  /-- All other characters are shown. -/
  shows_eq (text : String) : shows text = String.ofList (text.toList.filter fun c => !takesOut c)
  /-- Line feeds and what is no control character are not taken out. -/
  control {c : Char} (h : takesOut c = true) : c.toNat < 32 ∧ c ≠ '\n'

namespace Terminal

/-- The bell, the backspace, the vertical tab, the form feed and the carriage return. -/
def soundAndMotion : List Char := ['\x07', '\x08', '\x0b', '\x0c', '\r']

/-- What rings the bell or moves the cursor is taken out, but for line feeds and tabs. -/
def still : Terminal where
  shows text := String.ofList (text.toList.filter fun c => !soundAndMotion.contains c)
  takesOut c := soundAndMotion.contains c
  shows_eq _ := rfl
  control {c} h := by
    have hcodes : soundAndMotion.all fun c => c.toNat < 32 ∧ c ≠ '\n' := by decide
    exact of_decide_eq_true (List.all_eq_true.1 hcodes c (List.contains_iff_mem.1 h))

end Terminal

/-! ## What is printed -/

/-- One thing that is printed. -/
inductive Printed where
  /-- A panel with a text. -/
  | panel (text title border : String)
  /-- A table: the headers of its columns with their styles, and its rows. -/
  | table (title : String) (columns : List (String × Option String)) (rows : List (List String))
  /-- A line of markup. -/
  | markup (text : String)
deriving DecidableEq, Repr

/-- Everything printed: plain text, and the other things in order. -/
structure Output where
  /-- The plain text. -/
  text : String := ""
  /-- The other things. -/
  printed : List Printed := []
deriving DecidableEq, Repr

/-- One thing printed. -/
def Output.one (p : Printed) : Output := { printed := [p] }

/-- A line of markup. -/
def Output.markup (text : String) : Output := .one (.markup text)

/-- The panel of a query: what a terminal shows of its text and its parameters as JSON. -/
def queryPanel (q : Query) (terminal : Terminal := .still) : Printed :=
  .panel (terminal.shows (q.text ++ "\n\n" ++ Json.writeIndented (.object q.binds)))
    "[bold blue]AQL[/bold blue]" "blue"

/-! ## Documents -/

/-- The names of a list that are not known yet are added at the end. -/
def addNames (known : List String) : List String → List String
  | [] => known
  | name :: rest =>
      if known.contains name then addNames known rest else addNames (known ++ [name]) rest

/-- The fields that documents have, in the order in which they first occur. -/
def columnNames (documents : List Value) : List String :=
  documents.foldl (fun known v => addNames known ((v.fields?.getD []).names)) []

/-- The style of a column. -/
def columnStyle (name : String) : Option String :=
  if name.toList.head? = some '_' then some "cyan" else none

/-- The row of a document; what is no object has empty cells. -/
def row (columns : List String) (document : Value) : List String :=
  columns.map fun name => match document with
    | .object fields => cell (Fields.getD fields name)
    | _ => ""

/-- The heading of documents: how many are shown, and of how many. -/
def heading (title : String) (shown : Nat) (total : Value) : String :=
  title ++ " (" ++ toString shown
    ++ (if total.isNull then "" else " of " ++ total.inText) ++ ")"

/-- Documents as a table, or as lines when no document has fields. -/
def documentsTable (documents : List Value) (title : String) (total : Value) : Output :=
  let heading := heading title documents.length total
  if documents.isEmpty then .markup ("[yellow]" ++ heading ++ ": no documents found.[/yellow]")
  else
    let columns := columnNames documents
    if columns.isEmpty then { printed := documents.map fun v => .markup (cell v) }
    else
      .one (.table heading (columns.map fun name => (name, columnStyle name))
        (documents.map (row columns)))

/-- The lines of a value's JSON. -/
def jsonOutput (v : Value) : Output := { text := Json.writeIndented v ++ "\n" }

/-- Whether a form of output is JSON, in any letter case. -/
def isJsonFormat (format : String) : Bool := Text.lowered format = "json"

/-- Documents as a table or as JSON. -/
def documentsOutput (documents : List Value) (title : String) (total : Value) (format : String) :
    Output :=
  if isJsonFormat format then jsonOutput (.list documents)
  else documentsTable documents title total

/-- What a value lists as documents, as a table or as JSON. -/
def shownDocuments (documents title total format : Value) : Except Misuse Output := do
  if isJsonFormat (← format.asLetters) then return jsonOutput documents
  else return documentsTable (← documents.listed) title.inText total

/-! ## Structures -/

/-- The markup of yes or no. -/
def yesNo (b : Bool) : String := if b then "[green]yes[/green]" else "[red]no[/red]"

/-- The row of something that is there or not. -/
def presenceRow (kind : String) (p : Presence) : List String := [kind, p.name, yesNo p.found]

/-- A line of markup for a text that is not empty. -/
def markupOf (text : Option String) (f : String → String) : List Printed :=
  ((text.filter (· ≠ "")).map fun s => Printed.markup (f s)).toList

/-- The title of what is shown about a structure. -/
def structureTitle : String := "DB Structure"

/-- A comparison with a structure as a table. -/
def structureOutput (r : StructureReport) : Output :=
  { printed :=
      .table structureTitle [("Type", some "cyan"), ("Name", none), ("Exists", none)]
          ((r.database.map (presenceRow "database")).toList
            ++ r.collections.map (presenceRow "collection") ++ r.graphs.map (presenceRow "graph"))
        :: markupOf r.message fun message => "[yellow]" ++ message ++ "[/yellow]" }

/-- Whether providing a structure failed. -/
def hasFailed (r : ProvisionReport) : Bool := r.error.any (· ≠ "")

/-- What was done to provide a structure as a panel. -/
def provisionOutput (r : ProvisionReport) : Output :=
  let lines := (r.database.toList ++ r.collections ++ r.graphs).filter (· ≠ "")
  { printed :=
      .panel ("\n".intercalate lines) structureTitle (if hasFailed r then "red" else "green")
        :: markupOf r.error errorMarkup }

example : escape "[red]x" = "\\[red]x" := by decide +kernel
example : escape "[ a]" = "[ a]" := by decide +kernel
example : String.ofList (cut 2 "abcdef".toList) = "abcde..." := by decide +kernel

end Cli

end DocQuery
