import Typeahead.Console.Run
import Typeahead.Proofs.Console.Line

/-!
# The timeout

A timeout is set to a span and kept in whole milliseconds of 64 bits. A span of 2 ^ 64 milliseconds or
more does not fit, and of it the remainder is kept, which may be nothing. So the timeout is the span
rounded down if and only if the span fits (`Span.wrapped_eq_iff`), and a span that fits never gets a
shorter timeout than one that is shorter still (`Span.forall_wrapped_le_iff`).

On the command line the timeout is a number of milliseconds. Every number of 64 bits is understood and
kept as it is, whatever arguments stand around it (`take_timeout`, `timeoutMs_of_take`).
-/

namespace Typeahead

namespace Span
variable {d e : Span}

theorem eq_of_nanoseconds (h : d.nanoseconds = e.nanoseconds) : d = e := by
  obtain ⟨s, n⟩ := d
  obtain ⟨s', n'⟩ := e
  have hn := n.isLt
  have hn' := n'.isLt
  simp only [nanoseconds] at h
  have hs : s.toNat = s'.toNat := by omega
  obtain rfl := UInt64.toNat_inj.mp hs
  obtain rfl : n = n' := Fin.ext (by omega)
  rfl

theorem nanoseconds_ofMillis (ms : UInt64) : (ofMillis ms).nanoseconds = ms.toNat * 1000000 := by
  have hlt := ms.toNat_lt
  simp only [ofMillis, ofParts, nanoseconds, UInt64.toNat_ofNat']
  omega

theorem milliseconds_ofMillis (ms : UInt64) : (ofMillis ms).milliseconds = ms.toNat := by
  rw [milliseconds, nanoseconds_ofMillis]
  omega

/-- The span rounded down to whole milliseconds. -/
def wholeMillis (d : Span) : Span :=
  { d with
    nanos := ⟨d.nanos / 1000000 * 1000000, (Nat.div_mul_le_self _ _).trans_lt d.nanos.isLt⟩ }

theorem nanoseconds_wholeMillis (d : Span) :
    d.wholeMillis.nanoseconds = d.milliseconds * 1000000 := by
  simp only [wholeMillis, milliseconds, nanoseconds]
  omega

/-- The span that is left of `d` in milliseconds of 64 bits. -/
def wrapped (d : Span) : Span := ofMillis (.ofNat d.milliseconds)

theorem nanoseconds_wrapped (d : Span) :
    d.wrapped.nanoseconds = d.milliseconds % UInt64.size * 1000000 := by
  rw [wrapped, nanoseconds_ofMillis, UInt64.toNat_ofNat']

theorem wrapped_ofMillis (ms : UInt64) : (ofMillis ms).wrapped = ofMillis ms := by
  rw [wrapped, milliseconds_ofMillis, UInt64.ofNat_toNat]

theorem wrapped_eq_iff : d.wrapped = d.wholeMillis ↔ d.milliseconds < UInt64.size := by
  have hwrapped := nanoseconds_wrapped d
  have hwhole := nanoseconds_wholeMillis d
  rw [UInt64.size] at hwrapped ⊢
  constructor
  · intro h
    rw [h] at hwrapped
    omega
  · intro h
    exact eq_of_nanoseconds (by omega)

theorem nanoseconds_bounds (d : Span) :
    d.milliseconds * 1000000 ≤ d.nanoseconds ∧ d.nanoseconds < d.milliseconds * 1000000 + 1000000 := by
  rw [milliseconds]
  omega

/-- Of no shorter span more is left than of one that fits. If a span does not fit, this is so only if the
most that there can be is left of it. -/
theorem forall_wrapped_le_iff :
    (∀ e : Span, e.nanoseconds ≤ d.nanoseconds → e.wrapped.nanoseconds ≤ d.wrapped.nanoseconds) ↔
      d.milliseconds < UInt64.size ∨ d.milliseconds % UInt64.size = UInt64.size - 1 := by
  have hd := nanoseconds_wrapped d
  rw [UInt64.size] at hd ⊢
  constructor
  · intro h
    by_contra hno
    -- the longest span that fits is left as it is, and is shorter than `d`
    have hms : (18446744073709551615 : UInt64).toNat = 18446744073709551615 := rfl
    have hlongest := nanoseconds_ofMillis 18446744073709551615
    have hbound := (nanoseconds_bounds d).1
    have hle := h (ofMillis 18446744073709551615) (by omega)
    rw [wrapped_ofMillis] at hle
    omega
  · intro h e hle
    have he := nanoseconds_wrapped e
    rw [UInt64.size] at he
    have hmillis : e.milliseconds ≤ d.milliseconds := Nat.div_le_div_right hle
    omega

/-- What is left of the span `d` is `t`: whole milliseconds, never more than `d`, and the whole
milliseconds of `d` if and only if there are fewer than 2 ^ 64. -/
structure Kept (d t : Span) : Prop where
  nanoseconds : t.nanoseconds = d.milliseconds % UInt64.size * 1000000
  le : t.nanoseconds ≤ d.nanoseconds
  whole : t = d.wholeMillis ↔ d.milliseconds < UInt64.size
  near : d.nanoseconds < t.nanoseconds + 1000000 ↔ d.milliseconds < UInt64.size

theorem kept_wrapped (d : Span) : d.Kept d.wrapped where
  nanoseconds := nanoseconds_wrapped d
  le := by
    have hwrapped := nanoseconds_wrapped d
    have hbounds := nanoseconds_bounds d
    rw [UInt64.size] at hwrapped
    omega
  whole := wrapped_eq_iff
  near := by
    have hwrapped := nanoseconds_wrapped d
    have hbounds := nanoseconds_bounds d
    rw [UInt64.size] at hwrapped ⊢
    omega

end Span

theorem Settings.timeout_withTimeout (s : Settings) (d : Span) :
    (s.withTimeout d).timeout = some d.wrapped := rfl

namespace Console.Arguments
variable {a b : Arguments} {ms : UInt64} {rest : List String}

/-! ### On the command line -/

theorem numberOf_toString (ms : UInt64) : numberOf (toString ms.toNat) = some ms := by
  have hle : ms.toNat ≤ Command.largestNumber := Nat.le_of_lt_succ ms.toNat_lt
  rw [numberOf, Command.toList_toString, Command.number?_toDigits, if_pos hle, Option.map_some,
    UInt64.ofNat_toNat]

theorem set_timeout (h : a.timeoutMs = none) (ms : UInt64) :
    a.set "timeout-ms" (toString ms.toNat) = some { a with timeoutMs := some ms } := by
  simp only [set, numberOf_toString, h, once]
  rfl

/-- What does not begin with a dash is a value. -/
theorem isValue_of_ne {value : String} (h : ∀ s, value.toList ≠ '-' :: s) :
    (letter? value).isSome = false ∧ (option? value).isSome = false := by
  constructor
  · unfold letter?
    split
    · rename_i hs; exact absurd hs (h _)
    · rfl
  · unfold option?
    split
    · rename_i hs; exact absurd hs (h _)
    · rfl

theorem isValue_toString (n : Nat) :
    (letter? (toString n)).isSome = false ∧ (option? (toString n)).isSome = false := by
  refine isValue_of_ne fun s hs => ?_
  rw [Command.toList_toString] at hs
  have hdigit : Char.isDigit '-' = true :=
    Command.isDigit_of_mem '-' (by rw [hs]; exact List.mem_cons_self)
  cases hdigit

theorem take_joined {argument name value : String} (hletter : letter? argument = none)
    (hoption : option? argument = some (name, some value)) (hset : a.set name value = some b) :
    a.take (argument :: rest) = b.take rest := by
  rw [take]
  simp only [hletter, hoption, hset]

theorem take_apart {argument name value : String} (hletter : letter? argument = none)
    (hoption : option? argument = some (name, none)) (hname : name ∉ ["", "version", "help"])
    (hvalue : (letter? value).isSome = false ∧ (option? value).isSome = false)
    (hset : a.set name value = some b) : a.take (argument :: value :: rest) = b.take rest := by
  simp only [List.mem_cons, List.not_mem_nil, or_false, not_or] at hname
  rw [take]
  simp [hletter, hoption, hname, hvalue, hset]

theorem reads_joined (n : Nat) :
    letter? ("--timeout-ms=" ++ toString n) = none ∧
      option? ("--timeout-ms=" ++ toString n) = some ("timeout-ms", some (toString n)) := by
  have hs : ("--timeout-ms=" ++ toString n).toList =
      '-' :: '-' :: ("timeout-ms".toList ++ '=' :: (toString n).toList) := by
    rw [String.toList_append]
    rfl
  have hname : '=' ∉ "timeout-ms".toList := by decide
  constructor
  · rw [letter?, hs]
    rfl
  · simp only [option?, hs, Text.dropWhile_ne_append hname, Text.takeWhile_ne_append hname,
      String.ofList_toList]

/-- The ways to ask for a timeout of `ms` milliseconds. -/
def timeoutSpellings (ms : UInt64) : List (List String) :=
  [["--timeout-ms", toString ms.toNat], ["--timeout-ms=" ++ toString ms.toNat]]

theorem take_timeout (h : a.timeoutMs = none) {given : List String}
    (hgiven : given ∈ timeoutSpellings ms) (rest : List String) :
    a.take (given ++ rest) = { a with timeoutMs := some ms }.take rest := by
  have hset := set_timeout h ms
  simp only [timeoutSpellings, List.mem_cons, List.not_mem_nil, or_false] at hgiven
  rcases hgiven with rfl | rfl
  · exact take_apart (by decide) (by decide) (by decide) (isValue_toString ms.toNat) hset
  · obtain ⟨hletter, hoption⟩ := reads_joined ms.toNat
    exact take_joined hletter hoption hset

/-- The timeout is not given twice. -/
theorem timeoutMs_of_set {option value : String} (h : a.timeoutMs = some ms)
    (hset : a.set option value = some b) : b.timeoutMs = some ms := by
  unfold set at hset
  split at hset
  -- one more choice, the timeout again, and what is no option; the others have fields of their own
  case h_3 => cases hset; exact h
  case h_6 => rw [h] at hset; cases hset
  case h_9 => cases hset
  all_goals
    obtain ⟨_, -, rfl⟩ := Option.map_eq_some_iff.mp hset
    exact h

theorem timeoutMs_of_take (h : a.timeoutMs = some ms) (hrun : a.take rest = .run b) :
    b.timeoutMs = some ms := by
  fun_induction take a rest
  -- the arguments end, or `--` ends them; an option is read, its value joined to it or apart
  case case1 | case6 => cases hrun; exact h
  case case10 hset ih | case14 hset ih => exact ih (timeoutMs_of_set h hset) hrun
  all_goals cases hrun

theorem timeout_settings (h : a.timeoutMs = some ms) (file : Settings) :
    (a.settings file).timeout = some (.ofMillis ms) := by
  rw [settings, h, ← Span.wrapped_ofMillis]
  rfl

end Console.Arguments

open Console

/-- A timeout is the span it was set to, rounded down to whole milliseconds, if and only if there are
fewer than 2 ^ 64 of these; else only what is left after multiples of 2 ^ 64. No shorter span has a longer
timeout if the span fits, or if what is left is the most there can be, and otherwise some has. A number of
milliseconds given on the command line is understood and kept as it is, whatever was read before and
whatever follows. -/
theorem timeout_kept (s : Settings) (d : Span) :
    (∃ t, (s.withTimeout d).timeout = some t ∧ d.Kept t ∧
      ((∀ e u, e.nanoseconds ≤ d.nanoseconds → (s.withTimeout e).timeout = some u →
          u.nanoseconds ≤ t.nanoseconds) ↔
        d.milliseconds < UInt64.size ∨ d.milliseconds % UInt64.size = UInt64.size - 1)) ∧
    ∀ (a : Arguments) (ms : UInt64) (given rest), a.timeoutMs = none →
      given ∈ Arguments.timeoutSpellings ms →
      a.take (given ++ rest) = { a with timeoutMs := some ms }.take rest ∧
      ∀ b env file, a.take (given ++ rest) = .run b →
        ((b.within env).settings file).timeout = some (.ofMillis ms) ∧
        (Span.ofMillis ms).nanoseconds = ms.toNat * 1000000 := by
  refine ⟨⟨d.wrapped, s.timeout_withTimeout d, d.kept_wrapped, ?_⟩,
    fun a ms given rest h hgiven => ⟨Arguments.take_timeout h hgiven rest, fun b env file hrun => ?_⟩⟩
  · rw [← Span.forall_wrapped_le_iff]
    constructor
    · exact fun h e hle => h e e.wrapped hle (s.timeout_withTimeout e)
    · intro h e u hle hu
      obtain rfl := Option.some.inj hu
      exact h e hle
  · rw [Arguments.take_timeout h hgiven] at hrun
    have hb : b.timeoutMs = some ms := Arguments.timeoutMs_of_take rfl hrun
    have hms : (b.within env).timeoutMs = some ms := hb
    exact ⟨Arguments.timeout_settings hms file, Span.nanoseconds_ofMillis ms⟩

/-- The longest span that fits, with a fraction of a millisecond to drop; the next one, of which nothing is
left, though a shorter one would leave more; and the largest number there is, among other arguments. -/
theorem timeout_kept_at_limit :
    let fits : Span := ⟨18446744073709551, 615999999⟩
    let next : Span := ⟨18446744073709551, 616000000⟩
    let s : Settings := {}
    let ms : UInt64 := 18446744073709551615
    (∃ t, (s.withTimeout fits).timeout = some t ∧ fits.Kept t ∧ t = fits.wholeMillis ∧
      ∀ e u, e.nanoseconds ≤ fits.nanoseconds → (s.withTimeout e).timeout = some u →
        u.nanoseconds ≤ t.nanoseconds) ∧
    (∃ t, (s.withTimeout next).timeout = some t ∧ next.Kept t ∧ t.nanoseconds = 0 ∧
      ¬ ∀ e u, e.nanoseconds ≤ next.nanoseconds → (s.withTimeout e).timeout = some u →
        u.nanoseconds ≤ t.nanoseconds) ∧
    ∃ b, Arguments.read (["--timeout-ms", toString ms.toNat] ++ ["--name", "m"]) = .run b ∧
      ((b.within {}).settings {}).timeout = some (.ofMillis ms) := by
  intro fits next s ms
  have hfits : fits.milliseconds < UInt64.size := by decide
  have hnext : next.milliseconds = UInt64.size := by decide
  obtain ⟨⟨t, ht, hkept, hmono⟩, harguments⟩ := timeout_kept s fits
  obtain ⟨t', ht', hkept', hmono'⟩ := (timeout_kept s next).1
  obtain ⟨htake, hrun⟩ := harguments {} ms ["--timeout-ms", toString ms.toNat] ["--name", "m"] rfl
    List.mem_cons_self
  have hread : Arguments.read (["--timeout-ms", toString ms.toNat] ++ ["--name", "m"]) =
      .run { timeoutMs := some ms, name := some "m" } := htake.trans (by decide)
  refine ⟨⟨t, ht, hkept, hkept.whole.mpr hfits, hmono.mpr (.inl hfits)⟩, ⟨t', ht', hkept', ?_, ?_⟩,
    _, hread, (hrun _ {} {} hread).1⟩
  · have hleft := hkept'.nanoseconds
    rw [hnext] at hleft
    exact hleft
  · intro hall
    have hmost := hmono'.mp hall
    rw [hnext, UInt64.size] at hmost
    omega

end Typeahead
