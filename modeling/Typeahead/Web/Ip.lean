import Typeahead.Text.CodeTable

/-!
# Internet addresses

Addresses of four bytes, whose parts may be decimal, octal or hexadecimal and of which the last
fills all bytes that are left; and addresses of eight 16-bit groups, with one run of zeros left out.
-/

namespace Typeahead.Web
open Text

/-- The text cut at each `sep`. -/
def splitAt (sep : Char) (s : List Char) : List (List Char) :=
  s.foldr (fun c parts =>
    match parts with
    | p :: ps => if c = sep then [] :: p :: ps else (c :: p) :: ps
    | [] => [[c]]) [[]]

/-- Value of digits in a base; none if a digit is not one of the base. -/
def digitsValue? (base : Nat) (s : List Char) : Option Nat :=
  s.foldlM (fun n c =>
    match hexDigit? c with
    | some d => if d < base then some (base * n + d) else none
    | none => none) 0

namespace Ipv4

/-- A part of an address: after `0x` hexadecimal, after `0` octal, else decimal. -/
def part? (s : List Char) : Option Nat :=
  match s with
  | [] => none
  | '0' :: 'x' :: digits => digitsValue? 16 digits
  | '0' :: 'X' :: digits => digitsValue? 16 digits
  | '0' :: d :: digits => digitsValue? 8 (d :: digits)
  | digits => digitsValue? 10 digits

/-- The parts between the dots; an empty last one does not count. -/
def parts (s : List Char) : List (List Char) :=
  let ps := splitAt '.' s
  if 1 < ps.length ∧ ps.getLast? = some [] then ps.dropLast else ps

/-- Whether a host name has to be read as an address: its last part is a number. -/
def endsInNumber (s : List Char) : Bool :=
  match (parts s).getLast? with
  | some [] => false
  | some last => last.all Char.isDigit || (part? last).isSome
  | none => false

/-- The address, as a number of 32 bits. -/
def parse? (s : List Char) : Option Nat := do
  let ps := parts s
  let numbers ← ps.mapM part?
  let last ← numbers.getLast?
  let front := numbers.dropLast
  if 4 < ps.length ∨ front.any (255 < ·) ∨ Nat.pow 256 (4 - front.length) ≤ last then none
  else some (front.zipIdx.foldl (fun n (x, i) => n + x * Nat.pow 256 (3 - i)) last)

/-- Four numbers with dots between. -/
def text (n : Nat) : String :=
  toString (n / 16777216 % 256) ++ "." ++ toString (n / 65536 % 256) ++ "."
    ++ toString (n / 256 % 256) ++ "." ++ toString (n % 256)

end Ipv4

namespace Ipv6

/-- A decimal number of at most 255 without zeros in front. -/
def byte? (s : List Char) : Option Nat := do
  let n ← if s.isEmpty then none else digitsValue? 10 s
  if 255 < n ∨ (s.head? = some '0' ∧ 1 < s.length) then none else some n

/-- The two groups that four bytes with dots between them make. -/
def embedded? (s : List Char) : Option (List Nat) := do
  match ← (splitAt '.' s).mapM byte? with
  | [a, b, c, d] => some [256 * a + b, 256 * c + d]
  | _ => none

/-- One to four hexadecimal digits. -/
def group? (s : List Char) : Option Nat :=
  if s.isEmpty ∨ 4 < s.length then none else digitsValue? 16 s

/-- Groups with colons between; the last may be four bytes with dots. -/
def groups? (s : List Char) : Option (List Nat) :=
  if s.isEmpty then some []
  else
    let ps := splitAt ':' s
    match ps.getLast? with
    | some last =>
      if last.contains '.' then do some ((← ps.dropLast.mapM group?) ++ (← embedded? last))
      else ps.mapM group?
    | none => none

/-- What stands before and after the first `::`. -/
def cut? : List Char → Option (List Char × List Char)
  | ':' :: ':' :: s => some ([], s)
  | c :: s => (cut? s).map fun (a, b) => (c :: a, b)
  | [] => none

/-- The eight groups of an address. -/
def parse? (s : List Char) : Option (List Nat) := do
  match cut? s with
  | none =>
    let gs ← groups? s
    if gs.length = 8 then some gs else none
  | some (a, b) =>
    let front ← if a.contains '.' then none else groups? a
    let back ← groups? b
    if front.length + back.length < 8 then
      some (front ++ List.replicate (8 - front.length - back.length) 0 ++ back)
    else none

/-- Length of the run of zeros in front. -/
def zeros (gs : List Nat) : Nat := (gs.takeWhile (· = 0)).length

/-- Start and length of the first longest run of at least two zeros. -/
def longestZeros (gs : List Nat) : Option (Nat × Nat) :=
  (List.range gs.length).foldl (fun best i =>
    let n := zeros (gs.drop i)
    match best with
    | some (_, m) => if m < n then some (i, n) else best
    | none => if 1 < n then some (i, n) else none) none

/-- Groups with colons between. -/
def joined (gs : List Nat) : String :=
  ":".intercalate (gs.map fun g => String.ofList (Nat.toDigits 16 g))

/-- The address, with the longest run of zeros left out. -/
def text (gs : List Nat) : String :=
  match longestZeros gs with
  | some (i, n) => joined (gs.take i) ++ "::" ++ joined (gs.drop (i + n))
  | none => joined gs

end Ipv6

end Typeahead.Web
