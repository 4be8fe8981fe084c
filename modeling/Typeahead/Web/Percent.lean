import Typeahead.Text.CodeTable

/-!
# Percent encoding

A byte written as `%` and two upper-case hexadecimal digits. Each part of an address has its own set
of characters to encode; controls and everything beyond ASCII are always encoded.
-/

namespace Typeahead.Web
open Text

/-- A byte as `%` and two digits. -/
def percentByte (b : UInt8) : List Char :=
  ['%', (Nat.digitChar (b.toNat / 16)).toUpper, (Nat.digitChar (b.toNat % 16)).toUpper]

/-- Controls and what is beyond ASCII. -/
def needsEncoding (c : Char) : Bool := c.toNat < 0x20 || 0x7E < c.toNat

/-- The character, or its bytes encoded if it is in the set. -/
def percentChar (set : Char → Bool) (c : Char) : List Char :=
  if needsEncoding c || set c then (String.utf8EncodeChar c).flatMap percentByte else [c]

/-- The text with the characters in the set encoded. -/
def percentEncode (set : Char → Bool) (s : List Char) : List Char := s.flatMap (percentChar set)

/-- Encoded in a fragment. -/
def fragmentSet (c : Char) : Bool := c ∈ [' ', '"', '<', '>', '`']

/-- Encoded in a path. -/
def pathSet (c : Char) : Bool := fragmentSet c || c ∈ ['#', '?', '\x7b', '\x7d']

/-- Encoded in a user name or password. -/
def userSet (c : Char) : Bool :=
  pathSet c || c ∈ ['/', ':', ';', '=', '@', '[', '\\', ']', '^', '|']

/-- Encoded in a query; with a special scheme also the apostrophe. -/
def querySet (special : Bool) (c : Char) : Bool :=
  c ∈ [' ', '"', '#', '<', '>'] || (special && c = '\'')

/-- The bytes of a text in which `%` and two digits stand for a byte. -/
def percentDecode : List Char → List UInt8
  | '%' :: a :: b :: s =>
    match hexDigit? a, hexDigit? b with
    | some x, some y => .ofNat (16 * x + y) :: percentDecode s
    | _, _ => 0x25 :: percentDecode (a :: b :: s)
  | c :: s => String.utf8EncodeChar c ++ percentDecode s
  | [] => []

end Typeahead.Web
