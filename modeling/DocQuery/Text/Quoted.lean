import DocQuery.Text.PrintTable
import DocQuery.Text.Surrogate

/-!
# Quoted texts

A quoted text is written between two quotes.  They are single quotes, but double
ones when the text holds a single quote and no double one.  Inside them

* the backslash and the quote in use follow a backslash,
* tab, line feed and carriage return are `\t`, `\n` and `\r`,
* any other hidden character is `\x`, `\u` or `\U` and two, four or eight
  hexadecimal digits, the stand-in of half a surrogate pair being the half,
* every other character stands for itself.
-/

namespace DocQuery

namespace Text

/-- A hexadecimal digit, in lower case. -/
def hexDigit (n : Nat) : Char := Char.ofNat (if n < 10 then '0'.toNat + n else 'a'.toNat + n - 10)

/-- The last `width` hexadecimal digits of a number. -/
def hex : Nat → Nat → List Char
  | 0, _ => []
  | width + 1, n => hex width (n / 16) ++ [hexDigit (n % 16)]

/-- The code of a hidden character. -/
def codeEscape (c : Char) : List Char :=
  if c.toNat < 0x100 then '\\' :: 'x' :: hex 2 c.toNat
  else if c.toNat < 0x10000 then '\\' :: 'u' :: hex 4 c.toNat
  else match half? c with
    | some n => '\\' :: 'u' :: hex 4 n
    | none => '\\' :: 'U' :: hex 8 c.toNat

/-- The quote that a text is written between. -/
def quoteFor (cs : List Char) : Char := if cs.contains '\'' && !cs.contains '"' then '"' else '\''

/-- A character inside quotes. -/
def quotedChar (quote c : Char) : List Char :=
  if c = quote ∨ c = '\\' then ['\\', c]
  else if c = '\t' then ['\\', 't']
  else if c = '\n' then ['\\', 'n']
  else if c = '\r' then ['\\', 'r']
  else if hiddenCharacters.mem c then codeEscape c
  else [c]

/-- A text between quotes. -/
def quoted (s : String) : String :=
  let cs := s.toList
  let quote := quoteFor cs
  String.ofList (quote :: cs.flatMap (quotedChar quote) ++ [quote])

example : quoted "it's" = "\"it's\"" := by decide +kernel
example : quoted "a\tb" = "'a\\tb'" := by decide +kernel
example : quoted "\x7f" = "'\\x7f'" := by decide +kernel

end Text

end DocQuery
