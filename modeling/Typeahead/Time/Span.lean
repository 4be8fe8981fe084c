/-!
# Spans of time

Whole seconds in 64 bits and nanoseconds below one second. The text of a span names the largest
unit of which it holds one, with the rest as a decimal fraction: `1.5µs`, `250ms`, `0ns`.
-/

namespace Typeahead

/-- A span of time. -/
structure Span where
  seconds : UInt64
  nanos : Fin 1000000000
  deriving DecidableEq, Repr

namespace Span

/-- Nanoseconds in all. -/
def nanoseconds (d : Span) : Nat := d.seconds.toNat * 1000000000 + d.nanos.val

/-- Whole milliseconds, what is left over dropped. -/
def milliseconds (d : Span) : Nat := d.nanoseconds / 1000000

/-- Seconds and nanoseconds; a second's worth of nanoseconds counts as a second. -/
def ofParts (seconds nanos : Nat) : Span where
  seconds := .ofNat (seconds + nanos / 1000000000)
  nanos := ⟨nanos % 1000000000, Nat.mod_lt _ (by decide)⟩

def ofMillis (ms : UInt64) : Span := ofParts (ms.toNat / 1000) (ms.toNat % 1000 * 1000000)

/-- `digits` with zeros in front up to `width` places, and no zeros at the end. -/
def fraction (width n : Nat) : List Char :=
  let digits := Nat.toDigits 10 n
  let padded := List.replicate (width - digits.length) '0' ++ digits
  (padded.reverse.dropWhile (· = '0')).reverse

/-- `whole` and `part / 10 ^ width` in decimal, then the unit. -/
def decimal (whole part width : Nat) (unit : String) : String :=
  if part = 0 then toString whole ++ unit
  else toString whole ++ "." ++ String.ofList (fraction width part) ++ unit

/-- The span in its largest unit. -/
def text (d : Span) : String :=
  let n := d.nanos.val
  if d.seconds ≠ 0 then decimal d.seconds.toNat n 9 "s"
  else if 1000000 ≤ n then decimal (n / 1000000) (n % 1000000) 6 "ms"
  else if 1000 ≤ n then decimal (n / 1000) (n % 1000) 3 "µs"
  else decimal n 0 0 "ns"

end Span

end Typeahead
