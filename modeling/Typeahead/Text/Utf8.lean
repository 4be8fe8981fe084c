/-!
# UTF-8

Bytes read as UTF-8. Where bytes do not form a character, `Symbol.read` keeps them one by one, so
nothing is lost; `Utf8.lossy` puts one replacement character for each broken character.
-/

namespace Typeahead.Text

/-- A character, or a byte that belongs to none. -/
inductive Symbol where
  | char (c : Char)
  | stray (b : UInt8)
  deriving DecidableEq, Repr

namespace Symbol

/-- Number of bytes that the symbol takes. -/
def octets : Symbol → Nat
  | char c => c.utf8Size
  | stray _ => 1

/-- The symbols from byte `i` on. -/
def readFrom (b : ByteArray) (i : Nat) : List Symbol :=
  if h : i < b.size then
    match b.utf8DecodeChar? i with
    | some c => .char c :: readFrom b (i + c.utf8Size)
    | none => .stray b[i] :: readFrom b (i + 1)
  else []
termination_by b.size - i
decreasing_by
  · have := c.utf8Size_pos; omega
  · omega

/-- Bytes as symbols. -/
def read (b : ByteArray) : List Symbol := readFrom b 0

/-- Text as symbols. -/
def ofString (s : String) : List Symbol := s.toList.map char

end Symbol

namespace Utf8

/-- A byte that continues a character. -/
def isContinuation (b : UInt8) : Bool := 0x80 ≤ b && b ≤ 0xBF

/-- Whether `b` can be the second byte of a character whose first byte is `lead`. -/
def isSecond (lead b : UInt8) : Bool :=
  if 0xC2 ≤ lead && lead ≤ 0xDF then isContinuation b
  else if lead = 0xE0 then 0xA0 ≤ b && b ≤ 0xBF
  else if lead = 0xED then 0x80 ≤ b && b ≤ 0x9F
  else if 0xE1 ≤ lead && lead ≤ 0xEF then isContinuation b
  else if lead = 0xF0 then 0x90 ≤ b && b ≤ 0xBF
  else if 0xF1 ≤ lead && lead ≤ 0xF3 then isContinuation b
  else if lead = 0xF4 then 0x80 ≤ b && b ≤ 0x8F
  else false

/-- Length of the longest start of a character at byte `i`, where no whole one stands; at least
one. -/
def brokenLength (b : ByteArray) (i : Nat) : Nat :=
  let ok (k : Nat) (p : UInt8 → Bool) : Bool := (b[i + k]?.map p).getD false
  if ok 1 (fun second => (b[i]?.map (isSecond · second)).getD false) then
    if ok 0 (0xF0 ≤ ·) && ok 2 isContinuation then 3 else 2
  else 1

/-- The characters from byte `i` on, a replacement character for each broken one. -/
def lossyFrom (b : ByteArray) (i : Nat) : List Char :=
  if i < b.size then
    match b.utf8DecodeChar? i with
    | some c => c :: lossyFrom b (i + c.utf8Size)
    | none => '\uFFFD' :: lossyFrom b (i + brokenLength b i)
  else []
termination_by b.size - i
decreasing_by
  · have := c.utf8Size_pos; omega
  · have : 0 < brokenLength b i := by unfold brokenLength; dsimp only; split <;> (try split) <;> omega
    omega

/-- Bytes as text, whatever they are. -/
def lossy (b : ByteArray) : String := String.ofList (lossyFrom b 0)

end Utf8

end Typeahead.Text
