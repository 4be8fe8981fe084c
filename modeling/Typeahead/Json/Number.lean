import Typeahead.Decimal.Shortest
import Typeahead.Json.Reader

/-!
# Numbers in JSON

A whole number of 64 bits is read exactly. Every other number becomes a float, from the leading
digits that fit into 64 bits and a power of ten. A number that is not needed is only checked for its
form, however large it is.
-/

namespace Typeahead.Json
open Text

/-- A number. -/
inductive Number where
  | natural (n : Nat)
  | negative (n : Int)
  | real (decimal : String)
  deriving DecidableEq, Repr

/-- The number as a value that was not expected. -/
def Number.found : Number → Found
  | natural n => .integer n
  | negative n => .integer n
  | real decimal => .real decimal

/-- Value of a decimal digit. -/
def digit? : Symbol → Option Nat
  | .char c => if '0' ≤ c ∧ c ≤ '9' then some (c.toNat - '0'.toNat) else none
  | .stray _ => none

/-- What the first symbol of a value tells about it. -/
inductive Opening where
  | null
  | yes
  | no
  | quote
  | minus
  | digit
  | list
  | object
  deriving DecidableEq, Repr

/-- The kind of value that begins with the symbol given. -/
def opening? (x : Symbol) : Option Opening :=
  match x with
  | .char 'n' => some .null
  | .char 't' => some .yes
  | .char 'f' => some .no
  | .char '"' => some .quote
  | .char '-' => some .minus
  | .char '[' => some .list
  | .char '\x7b' => some .object
  | x => (digit? x).map fun _ => .digit

/-- The digits in front, and what follows them. -/
def digits : List Symbol → List Nat × List Symbol
  | [] => ([], [])
  | x :: s =>
    match digit? x with
    | some d => (d :: (digits s).1, (digits s).2)
    | none => ([], x :: s)

theorem digits_le (s : List Symbol) : (digits s).2.length ≤ s.length := by
  induction s with
  | nil => exact Nat.le_refl _
  | cons x s ih =>
    rw [digits]
    split
    · exact Nat.le_succ_of_le ih
    · exact Nat.le_refl _

theorem digits_lt {s : List Symbol} (h : (digits s).1 ≠ []) : (digits s).2.length < s.length := by
  cases s with
  | nil => simp [digits] at h
  | cons x s =>
    rw [digits] at h ⊢
    split
    · exact Nat.lt_succ_of_le (digits_le s)
    · simp_all

/-- The largest significand kept. -/
def largest : Nat := 18446744073709551615

/-- The largest exponent kept. -/
def largestExponent : Nat := 2147483647

/-- Appends digits to a number as long as it is at most `bound`; says how many fitted. -/
def accumulate (bound n : Nat) : List Nat → Nat × Nat
  | [] => (n, 0)
  | d :: ds =>
    if 10 * n + d ≤ bound then
      let (m, k) := accumulate bound (10 * n + d) ds
      (m, k + 1)
    else (n, 0)

/-- A float times a power of ten, in steps of at most `10 ^ 308`, unless it becomes too large. -/
def scale (f : Float) (e : Int) : Option Float :=
  if 0 ≤ e then
    if f == 0.0 then some f
    else if 308 < e then none
    else
      let g := f * Float.ofScientific 1 false e.toNat
      if g.isInf then none else some g
  else if -308 ≤ e then some (f / Float.ofScientific 1 false (-e).toNat)
  else if f == 0.0 then some f
  else scale (f / 1e308) (e + 308)
termination_by (-e).toNat
decreasing_by omega

/-- The number that a float is, with its sign. -/
def Number.ofFloat (positive : Bool) (f : Float) : Number :=
  .real (Decimal.ofFloat (if positive then f else -f))

/-- The float `± n * 10 ^ e`, read in front of `rest`. -/
def real (positive : Bool) (n : Nat) (e : Int) (rest : List Symbol) : Except Fault Number :=
  match scale (UInt64.ofNat n).toFloat e with
  | some f => .ok (.ofFloat positive f)
  | none => .error (.after .numberOutOfRange 0 rest)

/-- A whole number with its sign. Zero with a minus, and numbers below the 64-bit range, are
floats. -/
def whole (positive : Bool) (n : Nat) : Number :=
  if positive then .natural n
  else if 0 < n ∧ n ≤ 0x8000000000000000 then .negative (-n)
  else .ofFloat false (UInt64.ofNat n).toFloat

/-- The sign of an exponent, true for plus, and what follows it. -/
def exponentSign : (s : List Symbol) → Bool × { r : List Symbol // r.length ≤ s.length }
  | .char '+' :: s => (true, ⟨s, length_le_cons⟩)
  | .char '-' :: s => (false, ⟨s, length_le_cons⟩)
  | s => (true, ⟨s, length_le_self s⟩)

/-- What is wrong with a number that has no digit where `s` begins. -/
def missingDigit (s : List Symbol) : Fault :=
  if s.isEmpty then .atEnd .value else .after .invalidNumber 1 s

/-- The digits of an exponent, after the `e`, for a number `± n * 10 ^ e`. -/
def exponent (positive : Bool) (n : Nat) (e : Int) : Reader Number := fun s =>
  let (up, ⟨s', h⟩) := exponentSign s
  if hd : (digits s').1 = [] then .error (missingDigit s')
  else
    let (x, k) := accumulate largestExponent 0 (digits s').1
    let number :=
      if k = (digits s').1.length then
        real positive n (if up then e + x else e - x) (digits s').2
      else if n ≠ 0 ∧ up then
        -- seen right after the first digit that did not fit
        .error (.after .numberOutOfRange (k + 1) s')
      else .ok (.ofFloat positive 0.0)
    number.map fun v => ⟨v, (digits s').2, Nat.lt_of_lt_of_le (digits_lt hd) h⟩

/-- The digits after the point, for a number that begins `± n * 10 ^ e`. -/
def places (positive : Bool) (n : Nat) (e : Int) : Reader Number := fun s =>
  if hd : (digits s).1 = [] then .error (missingDigit s)
  else
    let (m, k) := accumulate largest n (digits s).1
    have hs := digits_lt hd
    match hr : (digits s).2 with
    | .char c :: s' =>
      have hs' : s'.length ≤ s.length := by
        rw [hr] at hs; simp only [List.length_cons] at hs; omega
      if c = 'e' ∨ c = 'E' then (exponent positive m (e - k) s').map (·.widen hs')
      else (real positive m (e - k) (.char c :: s')).map fun v => ⟨v, .char c :: s', hr ▸ hs⟩
    | s' => (real positive m (e - k) s').map fun v => ⟨v, s', hr ▸ hs⟩

/-- A number without its minus sign. -/
def number (positive : Bool) : Reader Number := fun s =>
  if hd : (digits s).1 = [] then .error (missingDigit s)
  else if (digits s).1.head hd = 0 ∧ 1 < (digits s).1.length then
    .error (.after .invalidNumber 2 s)
  else
    let (n, k) := accumulate largest 0 (digits s).1
    let e : Nat := (digits s).1.length - k
    have hs := digits_lt hd
    let done (v : Except Fault Number) : Except Fault (Read Number s) :=
      v.map fun v => ⟨v, (digits s).2, hs⟩
    match hr : (digits s).2 with
    | .char c :: s' =>
      have hs' : s'.length ≤ s.length := by
        rw [hr] at hs; simp only [List.length_cons] at hs; omega
      if c = '.' then (places positive n e s').map (·.widen hs')
      else if c = 'e' ∨ c = 'E' then (exponent positive n e s').map (·.widen hs')
      else done (if e = 0 then .ok (whole positive n) else real positive n e (.char c :: s'))
    | s' => done (if e = 0 then .ok (whole positive n) else real positive n e s')

/-! ### Numbers passed over -/

/-- Passes over at least one digit. -/
def skipDigits : Reader Unit := fun s =>
  if hd : (digits s).1 = [] then .error (.after .invalidNumber 1 s)
  else .ok ⟨(), (digits s).2, digits_lt hd⟩

/-- Passes over a sign, if there is one, and digits. -/
def skipExponent : Reader Unit := fun s =>
  let (_, ⟨s', h⟩) := exponentSign s
  (skipDigits s').map (·.widen h)

/-- Passes over what `next` reads after the first symbol of the rest, if `p` holds of it. -/
def Read.andThen {s : List Symbol} (r : Read Unit s) (p : Char → Bool) (next : Reader Unit) :
    Except Fault (Read Unit s) :=
  match hr : r.rest with
  | .char c :: s' =>
    if p c then
      (next s').map (·.widen (by
        have := r.shorter; rw [hr] at this; simp only [List.length_cons] at this; omega))
    else .ok r
  | _ => .ok r

/-- Passes over a number without its minus sign. -/
def skipNumber : Reader Unit := fun s =>
  if (digits s).1.head? = some 0 ∧ 1 < (digits s).1.length then .error (.after .invalidNumber 2 s)
  else
    match skipDigits s with
    | .error e => .error e
    | .ok r =>
      match r.andThen (· = '.') skipDigits with
      | .error e => .error e
      | .ok r => r.andThen (fun c => c = 'e' ∨ c = 'E') skipExponent

end Typeahead.Json
