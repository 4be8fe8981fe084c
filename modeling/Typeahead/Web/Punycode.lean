/-!
# Punycode

A text as ASCII: its ASCII characters, then numbers that say where the others go, in the order of
their code points. A number is written in base 36 with digits whose weight depends on a threshold
that adapts to the numbers before.
-/

namespace Typeahead.Web.Punycode

/-- The digit with the value given, a letter below 26. -/
def digitChar (d : Nat) : Char := if d < 26 then Char.ofNat (97 + d) else Char.ofNat (22 + d)

/-- Value of a digit of either case. -/
def digitValue? (c : Char) : Option Nat :=
  if 'a' ≤ c ∧ c ≤ 'z' then some (c.toNat - 97)
  else if 'A' ≤ c ∧ c ≤ 'Z' then some (c.toNat - 65)
  else if '0' ≤ c ∧ c ≤ '9' then some (c.toNat - 22)
  else none

/-- The threshold of the digit at weight `k`. -/
def threshold (k bias : Nat) : Nat := if k ≤ bias then 1 else if bias + 26 ≤ k then 26 else k - bias

theorem threshold_pos (k bias : Nat) : 0 < threshold k bias := by
  unfold threshold; split <;> (try split) <;> omega

/-- Divides until small, adding a digit's weight each time. -/
def settle (delta k : Nat) : Nat :=
  if 455 < delta then settle (delta / 35) (k + 36) else k + 36 * delta / (delta + 38)
termination_by delta
decreasing_by omega

/-- The bias after a number, when `count` characters are in place. -/
def adapt (delta count : Nat) (first : Bool) : Nat :=
  let delta := if first then delta / 700 else delta / 2
  settle (delta + delta / count) 0

/-- A number in digits of growing weight. -/
def encodeNumber (bias k n : Nat) : List Char :=
  let t := threshold k bias
  if n < t then [digitChar n]
  else digitChar (t + (n - t) % (36 - t)) :: encodeNumber bias (k + 36) ((n - t) / (36 - t))
termination_by n
decreasing_by
  have := threshold_pos k bias
  exact Nat.lt_of_le_of_lt (Nat.div_le_self _ _) (by omega)

/-- Progress of encoding: what is written, the number to come, the bias, the characters in place. -/
structure Encoding where
  written : List Char
  delta : Nat
  bias : Nat
  placed : Nat

/-- Passes a character while those with code point `n` are placed. -/
def Encoding.pass (basic n : Nat) (e : Encoding) (c : Char) : Encoding :=
  if c.toNat < n then { e with delta := e.delta + 1 }
  else if c.toNat = n then
    { written := e.written ++ encodeNumber e.bias 36 e.delta
      delta := 0
      bias := adapt e.delta (e.placed + 1) (e.placed = basic)
      placed := e.placed + 1 }
  else e

/-- Places the characters of each code point in `todo`, which are in order and not below `n`. -/
def encodeFrom (s : List Char) (basic : Nat) : List Nat → Nat → Encoding → Encoding
  | [], _, e => e
  | m :: todo, n, e =>
    let e := { e with delta := e.delta + (m - n) * (e.placed + 1) }
    let e := s.foldl (Encoding.pass basic m) e
    encodeFrom s basic todo (m + 1) { e with delta := e.delta + 1 }

/-- Puts `n` into a sorted list, once. -/
def insertOnce (n : Nat) : List Nat → List Nat
  | [] => [n]
  | m :: ms => if n < m then n :: m :: ms else if n = m then m :: ms else m :: insertOnce n ms

/-- The text in ASCII. -/
def encode (s : List Char) : List Char :=
  let basic := s.filter (·.toNat < 128)
  let others := (s.filter (128 ≤ ·.toNat)).foldl (fun ns c => insertOnce c.toNat ns) []
  basic ++ (if basic.isEmpty then [] else ['-'])
    ++ (encodeFrom s basic.length others 128 ⟨[], 0, 72, basic.length⟩).written

/-- Reads a number; `i` is the sum so far and `w` the weight of the next digit. -/
def decodeNumber (bias : Nat) : List Char → Nat → Nat → Nat → Option (Nat × List Char)
  | [], _, _, _ => none
  | c :: s, k, w, i =>
    match digitValue? c with
    | none => none
    | some d =>
      if d < threshold k bias then some (i + d * w, s)
      else decodeNumber bias s (k + 36) (w * (36 - threshold k bias)) (i + d * w)

theorem decodeNumber_lt {bias : Nat} {s : List Char} {k w i n : Nat} {r : List Char}
    (h : decodeNumber bias s k w i = some (n, r)) : r.length < s.length := by
  induction s generalizing k w i with
  | nil => simp [decodeNumber] at h
  | cons c s ih =>
    rw [decodeNumber] at h
    split at h
    · simp at h
    · split at h
      · simp only [Option.some.injEq, Prod.mk.injEq] at h
        rw [← h.2]
        exact Nat.lt_succ_self _
      · exact Nat.lt_succ_of_lt (ih h)

/-- Puts the characters that the numbers tell of into `placed`. -/
def decodeFrom (bias n i : Nat) (placed : List Char) (s : List Char) : Option (List Char) :=
  if s.isEmpty then some placed
  else
    match _h : decodeNumber bias s 36 1 i with
    | none => none
    | some (j, rest) =>
      let count := placed.length + 1
      let m := n + j / count
      if m.isValidChar then
        decodeFrom (adapt (j - i) count (i = 0)) m (j % count + 1)
          (placed.insertIdx (j % count) (Char.ofNat m)) rest
      else none
termination_by s.length
decreasing_by exact decodeNumber_lt _h

/-- The text that was written in ASCII. What stands before the last hyphen is taken as it is. -/
def decode? (s : List Char) : Option (List Char) :=
  let tail := (s.reverse.takeWhile (· ≠ '-')).reverse
  let basic := s.take (s.length - tail.length - 1)
  if basic.isEmpty then decodeFrom 72 128 0 [] s
  else if basic.all (·.toNat < 128) then decodeFrom 72 128 0 basic tail
  else none

end Typeahead.Web.Punycode
