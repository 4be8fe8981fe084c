/-!
# The shortest decimal of a binary fraction

A finite float is `m * 2 ^ q`. Of the decimals that are closer to it than to its neighbours,
`shortest` finds one with the fewest digits, and of those the nearest. For each count of digits it
tests the two points of the decimal grid on either side of the value, in whole numbers throughout.
-/

namespace Typeahead.Decimal

/-- A positive number `digits * 10 ^ exponent`. -/
structure Scientific where
  digits : Nat
  exponent : Int
  deriving DecidableEq, Repr

/-- A positive float: a significand below `2 ^ 53` and a binary exponent. -/
structure Binary where
  significand : Nat
  exponent : Int
  /-- The significand is the least of its binade, so the neighbour below is half as far. -/
  lowest : Bool

namespace Binary

/-- The positive float with the bits given, sign left out; zero has significand zero. -/
def ofBits (bits : UInt64) : Binary :=
  let fraction := (bits &&& 0xFFFFFFFFFFFFF).toNat
  let biased := ((bits >>> 52) &&& 0x7FF).toNat
  if biased = 0 then ⟨fraction, -1074, false⟩
  else ⟨fraction + 0x10000000000000, (biased : Int) - 1075, fraction = 0 && biased ≠ 1⟩

/-- `n * base ^ e`, as numerator and denominator. -/
def scaled (n : Nat) (base : Nat) (e : Int) : Nat × Nat :=
  if 0 ≤ e then (n * Nat.pow base e.toNat, 1) else (n, Nat.pow base (-e).toNat)

/-- Compares two quotients. -/
def le (a b : Nat × Nat) : Bool := a.1 * b.2 ≤ b.1 * a.2

/-- `d * 10 ^ e` reads back as `x`: it lies between the midpoints to the neighbours, ends included
for an even significand. -/
def readsBack (x : Binary) (d : Nat) (e : Int) : Bool :=
  let value := scaled d 10 e
  let low := scaled (4 * x.significand - (if x.lowest then 1 else 2)) 2 (x.exponent - 2)
  let high := scaled (4 * x.significand + 2) 2 (x.exponent - 2)
  if x.significand % 2 = 0 then le low value && le value high
  else !le value low && !le high value

/-- Distance from `d * 10 ^ e` to `x`, as numerator and denominator. -/
def distance (x : Binary) (d : Nat) (e : Int) : Nat × Nat :=
  let a := scaled d 10 e
  let b := scaled x.significand 2 x.exponent
  ((a.1 * b.2 - b.1 * a.2) + (b.1 * a.2 - a.1 * b.2), a.2 * b.2)

/-- The nearer of the two points of the grid `10 ^ e` around `x` that reads back; of two at the same
distance the even one. -/
def onGrid? (x : Binary) (e : Int) : Option Scientific :=
  let v := scaled x.significand 2 x.exponent
  let g := scaled 1 10 e
  let below := v.1 * g.2 / (v.2 * g.1)
  let above := below + 1
  let nearerBelow := !le (x.distance above e) (x.distance below e)
    || (le (x.distance below e) (x.distance above e) && below % 2 = 0)
  match 0 < below && x.readsBack below e, x.readsBack above e with
  | true, true => some ⟨if nearerBelow then below else above, e⟩
  | true, false => some ⟨below, e⟩
  | false, true => some ⟨above, e⟩
  | false, false => none

/-- The power of ten of the first digit of `x`. -/
def magnitude (x : Binary) : Int :=
  let v := scaled x.significand 2 x.exponent
  if v.2 ≤ v.1 then ((Nat.toDigits 10 (v.1 / v.2)).length : Int) - 1
  else
    let k := (Nat.toDigits 10 (v.2 / v.1)).length
    if v.2 ≤ v.1 * Nat.pow 10 (k - 1) then -(k - 1 : Int) else -(k : Int)

/-- The shortest decimal that reads back as the positive float `x`. -/
def shortest (x : Binary) : Scientific :=
  let top := x.magnitude
  ((List.range 18).findSome? fun (n : Nat) => x.onGrid? (top + 1 - n)).getD ⟨x.significand, 0⟩

end Binary

namespace Scientific

/-- Without zeros at the end of the digits. -/
def trim (x : Scientific) : Scientific :=
  let ds := Nat.toDigits 10 x.digits
  let zeros := (ds.reverse.takeWhile (· = '0')).length
  ⟨x.digits / Nat.pow 10 zeros, x.exponent + zeros⟩

/-- A sign and at least two digits. -/
def exponentText (e : Int) : String :=
  let ds := Nat.toDigits 10 e.natAbs
  (if e < 0 then "-" else "+") ++ String.ofList (List.replicate (2 - ds.length) '0' ++ ds)

/-- Positional from a hundred thousandth up to below ten to the sixteenth, and with an exponent
outside. A whole number has one place after the point. -/
def text (x : Scientific) : String :=
  let x := x.trim
  let ds := Nat.toDigits 10 x.digits
  let top := x.exponent + ds.length - 1
  if -5 ≤ top ∧ top < 16 then
    if 0 ≤ x.exponent then
      String.ofList (ds ++ List.replicate x.exponent.toNat '0') ++ ".0"
    else if 0 ≤ top then
      String.ofList (ds.take (top.toNat + 1)) ++ "." ++ String.ofList (ds.drop (top.toNat + 1))
    else
      "0." ++ String.ofList (List.replicate ((-top).toNat - 1) '0' ++ ds)
  else
    match ds with
    | [d] => String.ofList [d] ++ "e" ++ exponentText top
    | d :: rest => String.ofList [d] ++ "." ++ String.ofList rest ++ "e" ++ exponentText top
    | [] => "0"

end Scientific

/-- A finite float as text. -/
def ofFloat (x : Float) : String :=
  let bits := x.toBits
  let magnitude := Binary.ofBits bits
  (if bits >>> 63 = 1 then "-" else "")
    ++ (if magnitude.significand = 0 then "0.0" else magnitude.shortest.text)

end Typeahead.Decimal
