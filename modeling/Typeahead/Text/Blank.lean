/-!
# Blank characters

The characters with the `White_Space` property, and texts with blanks cut from their ends.
-/

namespace Typeahead.Text

/-- White space, in ASCII and beyond. -/
def isBlank (c : Char) : Bool :=
  let n := c.toNat
  (9 ≤ n && n ≤ 13) || n = 0x20 || n = 0x85 || n = 0xA0 || n = 0x1680 || (0x2000 ≤ n && n ≤ 0x200A)
    || n = 0x2028 || n = 0x2029 || n = 0x202F || n = 0x205F || n = 0x3000

/-- Without the characters at the end that satisfy `p`. -/
def dropWhileEnd (p : Char → Bool) (s : List Char) : List Char := (s.reverse.dropWhile p).reverse

def trimStart (s : List Char) : List Char := s.dropWhile isBlank

def trimEnd (s : List Char) : List Char := dropWhileEnd isBlank s

/-- Without blanks at either end. -/
def trim (s : List Char) : List Char := trimEnd (trimStart s)

end Typeahead.Text
