import DocQuery.Failure
import DocQuery.Text.Split

/-!
# Files by path

A file tree holds the texts of files.  A path is a list of steps between slashes,
taken from the current directory or, when it begins with a slash, from the root.

* Empty parts are no steps; a slash at the end is a step to where one is.
* One full stop stays where one is, and two lead to the directory above, which is
  the root itself at the root.
* Only a directory can be left by a step, and a step has to lead to something.
* A directory is what has files below it, and some directories are there anyway.

A path of no characters leads nowhere.  Paths and their parts are bounded in length,
measured in bytes, and hold no null character.
-/

namespace DocQuery

namespace Cli

/-- Files and directories; places are lists of names, from the root on. -/
structure FileTree where
  /-- The files and their texts. -/
  files : List (List String × String) := []
  /-- Directories that are there whether or not they hold files. -/
  directories : List (List String) := []
  /-- The current directory. -/
  current : List String := []
deriving Repr

namespace FileTree

/-- The most bytes that a part of a path may have. -/
def maxPartSize : Nat := 255

/-- The most bytes that a path may have. -/
def maxPathSize : Nat := 4095

/-- Whether one place is below another. -/
def isBelow (place above : List String) : Bool :=
  above.isPrefixOf place && decide (above.length < place.length)

/-- Whether there is a directory at a place. -/
def isDirectory (t : FileTree) (place : List String) : Bool :=
  t.directories.contains place || (t.files.any fun file => isBelow file.1 place)
    || place.isPrefixOf t.current

/-- The text of the file at a place. -/
def text? (t : FileTree) (place : List String) : Option String := t.files.lookup place

/-- One step from a place. -/
def step (t : FileTree) (place : List String) (part : String) : Except FileFault (List String) :=
  let next := place ++ [part]
  if !t.isDirectory place then .error .notDirectory
  else if part = "." then .ok place
  else if part = ".." then .ok place.dropLast
  else if part.utf8ByteSize > maxPartSize then .error .nameTooLong
  else if t.isDirectory next || (t.text? next).isSome then .ok next
  else .error .missing

/-- The steps of a path. -/
def steps (path : String) : List String :=
  let parts := Text.split '/' path
  parts.filter (· ≠ "") ++ if parts.getLast? = some "" then ["."] else []

/-- The place that a path leads to. -/
def place (t : FileTree) (path : String) : Except FileFault (List String) :=
  if path.toList.contains '\x00' then .error .nullCharacter
  else if path = "" then .error .missing
  else if path.utf8ByteSize > maxPathSize then .error .nameTooLong
  else
    let start := if path.toList.head? = some '/' then [] else t.current
    (steps path).foldlM t.step start

/-- The text of the file that a path leads to. -/
def read (t : FileTree) (path : String) : Except FileFault String :=
  match t.place path with
  | .ok place => match t.text? place with
    | some text => .ok text
    | none => .error .isDirectory
  | .error fault => .error fault

/-! ## Files of the current directory -/

/-- The current directory of a tree that is made of its files.  No path can name it. -/
def workingDirectory : List String := ["tmp", ""]

/-- The directories that are there anyway. -/
def usualDirectories : List (List String) :=
  [["bin"], ["dev"], ["etc"], ["home"], ["lib"], ["opt"], ["proc"], ["root"], ["run"], ["sbin"],
    ["sys"], ["tmp"], ["usr"], ["var"]]

/-- The tree of the files of a current directory, given by path and text. -/
def ofFiles (files : List (String × String)) : FileTree where
  files := (files.map fun file => (workingDirectory ++ steps file.1, file.2))
    ++ [(["dev", "null"], "")]
  directories := usualDirectories
  current := workingDirectory

example : (ofFiles [("a", "x")]).read "./a" = .ok "x" := by rfl
example : (ofFiles [("a", "x")]).read "a/b" = .error .notDirectory := by rfl
example : (ofFiles [("a", "x")]).read ".." = .error .isDirectory := by rfl

end FileTree

end Cli

end DocQuery
