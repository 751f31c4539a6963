import DocQuery.Schema.Whole

/-!
# Arguments of a command

An argument is an option, the value of one, or a word.

* An option starts with a dash and has more characters.  It is looked up as a
  whole first, a value being attached to it by an equals sign.
* If that fails and it starts with one dash, its characters are short options.
  The first of them that takes a value takes the characters behind it, if there
  are any.
* An option that takes a value and has none attached takes the next argument,
  whatever it is.
* Two dashes alone end the options.
* Everything else is a word.  With `wordsEnd`, the first word ends the options, as
  it names a subcommand.
-/

namespace DocQuery

namespace Cli

/-! ## Declarations -/

/-- An option: how it may be written, and whether it takes a value. -/
structure OptionForm where
  /-- How it may be written; the first way names it. -/
  spellings : List String
  /-- Whether it takes a value. -/
  takesValue : Bool := true
deriving DecidableEq, Repr

/-- What is wrong with arguments. -/
inductive UsageError where
  /-- There is no such option. -/
  | unknownOption (name : String)
  /-- An option lacks its value. -/
  | noValue (name : String)
  /-- An option takes no value. -/
  | takesNoValue (name : String)
  /-- There is no such subcommand. -/
  | unknownCommand (name : String)
  /-- A subcommand has to be named. -/
  | noCommand
  /-- An argument is missing. -/
  | missing (name : String)
  /-- There are too many words. -/
  | extraWord (word : String)
  /-- A value is not one of an option's choices. -/
  | notAChoice (name value : String)
  /-- A value is no whole number, or is out of range. -/
  | notACount (name value : String)
  /-- A pair of name and value is not written as one. -/
  | notAPair (pair : String)
deriving DecidableEq, Repr

/-- An option that was given, by name, and its value. -/
abbrev Given := String × String

namespace OptionForm

/-- The name of an option. -/
def name (form : OptionForm) : String := form.spellings.headD ""

/-- Whether a spelling is a short one: a dash and one character. -/
def isShort (spelling : String) : Bool := spelling.length == 2

/-- The option that is written in some way, if the way is short or not as asked. -/
def find? (forms : List OptionForm) (short : Bool) (spelling : String) : Option OptionForm :=
  forms.find? fun form => form.spellings.contains spelling && isShort spelling == short

end OptionForm

/-! ## One option -/

/-- What one argument gives: options, and one whose value is the next argument. -/
inductive Reading where
  /-- Options only. -/
  | complete (given : List Given)
  /-- Options, and the name of one that takes the next argument. -/
  | pending (given : List Given) (name : String)
deriving DecidableEq, Repr

/-- Puts an option in front. -/
def Reading.after (g : Given) : Reading → Reading
  | complete given => complete (g :: given)
  | pending given name => pending (g :: given) name

/-- Reads a run of short options. -/
def readShort (forms : List OptionForm) : List Char → Except UsageError Reading
  | [] => .ok (.complete [])
  | c :: rest =>
      let spelling := String.ofList ['-', c]
      match OptionForm.find? forms true spelling with
      | none => .error (.unknownOption spelling)
      | some form =>
          if form.takesValue then
            .ok (if rest.isEmpty then .pending [] form.name
              else .complete [(form.name, String.ofList rest)])
          else (readShort forms rest).map (Reading.after (form.name, ""))

/-- The parts of an option before and behind its first equals sign. -/
def splitValue (cs : List Char) : List Char × Option (List Char) :=
  match cs.dropWhile (· ≠ '=') with
  | _ :: value => (cs.takeWhile (· ≠ '='), some value)
  | [] => (cs, none)

/-- Reads one option. -/
def readOption (forms : List OptionForm) (arg : List Char) : Except UsageError Reading :=
  let (spelling, value) := splitValue arg
  match OptionForm.find? forms false (String.ofList spelling), value with
  | some form, some value =>
      if form.takesValue then .ok (.complete [(form.name, String.ofList value)])
      else .error (.takesNoValue form.name)
  | some form, none =>
      .ok (if form.takesValue then .pending [] form.name else .complete [(form.name, "")])
  | none, _ =>
      match arg with
      | '-' :: '-' :: _ => .error (.unknownOption (String.ofList arg))
      | _ => readShort forms (arg.drop 1)

/-! ## All arguments -/

/-- What arguments give: the options, and the words. -/
structure Arguments where
  /-- The options, in order. -/
  given : List Given := []
  /-- The words, in order. -/
  words : List String := []
deriving DecidableEq, Repr

namespace Arguments

/-- Puts options in front. -/
def after (given : List Given) (a : Arguments) : Arguments := { a with given := given ++ a.given }

/-- Puts a word in front. -/
def afterWord (word : String) (a : Arguments) : Arguments := { a with words := word :: a.words }

/-- Whether an argument is an option. -/
def isOption : List Char → Bool
  | '-' :: _ :: _ => true
  | _ => false

/-- Reads arguments. -/
def read (forms : List OptionForm) (wordsEnd : Bool) : List String → Except UsageError Arguments
  | [] => .ok {}
  | arg :: rest =>
      if arg = "--" then .ok { words := rest }
      else if isOption arg.toList then
        match readOption forms arg.toList with
        | .error e => .error e
        | .ok (.complete given) => (read forms wordsEnd rest).map (after given)
        | .ok (.pending given name) =>
            match rest with
            | value :: rest => (read forms wordsEnd rest).map (after (given ++ [(name, value)]))
            | [] => .error (.noValue name)
      else if wordsEnd then .ok { words := arg :: rest }
      else (read forms wordsEnd rest).map (afterWord arg)

/-- All values of an option, in order. -/
def values (a : Arguments) (name : String) : List String :=
  a.given.filterMap fun g => if g.1 = name then some g.2 else none

/-- The last value of an option. -/
def value? (a : Arguments) (name : String) : Option String := (a.values name).getLast?

/-- Whether an option was given. -/
def has (a : Arguments) (name : String) : Bool := a.given.any fun g => g.1 = name

/-- Which of two opposite options was given last. -/
def switch (a : Arguments) (on off : String) (absent : Bool) : Bool :=
  match (a.given.filter fun g => g.1 = on || g.1 = off).getLast? with
  | some g => g.1 = on
  | none => absent

/-- The last value of an option that is one of a few choices. -/
def choice? {α : Type} (a : Arguments) (name : String) (ofText? : String → Option α) :
    Except UsageError (Option α) :=
  match a.value? name with
  | none => .ok none
  | some value => match ofText? value with
    | some choice => .ok (some choice)
    | none => .error (.notAChoice name value)

/-- The last value of an option that has to be given. -/
def required (a : Arguments) (name : String) : Except UsageError String :=
  match a.value? name with
  | some value => .ok value
  | none => .error (.missing name)

/-- The only word. -/
def onlyWord (a : Arguments) (name : String) : Except UsageError String :=
  match a.words with
  | [word] => .ok word
  | [] => .error (.missing name)
  | _ :: extra :: _ => .error (.extraWord extra)

/-- Nothing, if there is no word. -/
def noWord (a : Arguments) : Except UsageError Unit :=
  match a.words with
  | [] => .ok ()
  | extra :: _ => .error (.extraWord extra)

end Arguments

/-! ## Counts -/

/-- The count that a text writes: a whole number that is not negative. -/
def countOfText? (s : String) : Option Nat :=
  match wholeOfText s with
  | .ok n => if 0 ≤ n then some n.toNat else none
  | .error _ => none

/-- The last value of an option that is a count. -/
def Arguments.count? (a : Arguments) (name : String) : Except UsageError (Option Nat) :=
  match a.value? name with
  | none => .ok none
  | some value => match countOfText? value with
    | some n => .ok (some n)
    | none => .error (.notACount name value)

example : countOfText? " 1_0 " = some 10 := by decide +kernel
example : readOption [⟨["--limit", "-n"], true⟩] ['-', 'n', '5'] =
    .ok (.complete [("--limit", "5")]) := by rfl

end Cli

end DocQuery
