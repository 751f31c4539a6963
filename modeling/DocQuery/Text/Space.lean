/-!
# White space

The white space of filter text, property names and search terms: the ASCII
controls from tab to carriage return and from file to unit separator, the space,
the next-line control, and the space and line separators of Unicode.  The
zero-width characters are not white space.

`trim` cuts white space off both ends of a text.
-/

namespace DocQuery

/-- Whether a character is white space. -/
def isSpace (c : Char) : Bool :=
  let n := c.toNat
  (9 ≤ n && n ≤ 13) || (28 ≤ n && n ≤ 32) || n == 0x85 || n == 0xa0 || n == 0x1680
    || (0x2000 ≤ n && n ≤ 0x200a) || n == 0x2028 || n == 0x2029 || n == 0x202f || n == 0x205f
    || n == 0x3000

namespace Text

/-- Cuts white space off the start. -/
def trimStart (cs : List Char) : List Char := cs.dropWhile isSpace

/-- Cuts white space off the end. -/
def trimEnd (cs : List Char) : List Char := (cs.reverse.dropWhile isSpace).reverse

/-- Cuts white space off both ends. -/
def trim (cs : List Char) : List Char := trimEnd (trimStart cs)

/-- Cuts white space off both ends of a string. -/
def trimmed (s : String) : String := String.ofList (trim s.toList)

/-- Whether a string is white space only. -/
def isBlank (s : String) : Bool := s.toList.all isSpace

/-- White space that may surround a written number: the information separators
are not part of it. -/
def isNumberSpace (c : Char) : Bool := isSpace c && !(28 ≤ c.toNat && c.toNat ≤ 31)

/-- Cuts white space off both ends of a written number. -/
def trimNumber (cs : List Char) : List Char :=
  ((cs.dropWhile isNumberSpace).reverse.dropWhile isNumberSpace).reverse

example : trim [' ', 'a', ' ', 'b', '\t'] = ['a', ' ', 'b'] := by decide
example : isSpace '\u200b' = false := by decide

end Text

end DocQuery
