import Typeahead.Json.Number
import Typeahead.Proofs.Json.Reader

/-!
# Passing over numbers

A number of the grammar is passed over whole (`run_skipNumber`), if what follows can follow a value
(`Delimited`).
-/

namespace Typeahead.Json
open Text

/-! ### What follows -/

/-- Blanks, the comma, and what ends a list or an object. -/
def delimiters : List Char := [' ', '\t', '\n', '\r'] ++ [',', ']', '\x7d']

theorem not_isDigit_of_mem_delimiters {c : Char} (h : c ∈ delimiters) : ¬c.isDigit := by
  simp only [delimiters, List.cons_append, List.nil_append, List.mem_cons, List.not_mem_nil,
    or_false] at h
  rcases h with rfl | rfl | rfl | rfl | rfl | rfl | rfl <;> decide

/-- Nothing follows, or a delimiter. -/
def Delimited (rest : List Symbol) : Prop := ∀ x ∈ rest.head?, x ∈ delimiters.map Symbol.char

theorem delimited_nil : Delimited [] := by
  rintro _ ⟨⟩

theorem delimited_cons {c : Char} (h : c ∈ delimiters) (s : List Symbol) :
    Delimited (.char c :: s) := by
  rintro _ ⟨⟩
  exact List.mem_map_of_mem h

theorem Delimited.mem {s : List Symbol} (h : Delimited s) {c : Char} (hc : .char c ∈ s.head?) :
    c ∈ delimiters := by
  obtain ⟨d, hd, hcd⟩ := List.mem_map.mp (h _ hc)
  exact Symbol.char.inj hcd ▸ hd

theorem Delimited.blanks {s : List Symbol} (h : Delimited s) (b : Blanks) :
    Delimited (b.chars.map .char ++ s) := by
  obtain ⟨cs, hcs⟩ := b
  cases cs with
  | nil => exact h
  | cons c cs =>
    exact delimited_cons (List.mem_append_left _ (hcs c List.mem_cons_self)) _

/-- No digit follows. -/
def DigitFree (rest : List Symbol) : Prop := ∀ x ∈ rest.head?, digit? x = none

theorem Delimited.digitFree {s : List Symbol} (h : Delimited s) : DigitFree s := by
  intro x hx
  obtain ⟨c, hc, rfl⟩ := List.mem_map.mp (h x hx)
  have hdigit := not_isDigit_of_mem_delimiters hc
  rw [digit?, if_neg]
  simpa [Char.isDigit, Char.le_def] using hdigit

/-! ### Digits -/

theorem digit?_of_isDigit {c : Char} (h : c.isDigit) :
    digit? (.char c) = some (c.toNat - '0'.toNat) := by
  have hc : '0' ≤ c ∧ c ≤ '9' := by simpa [Char.isDigit, Char.le_def] using h
  rw [digit?, if_pos hc]

theorem digits_append {cs : List Char} (h : ∀ c ∈ cs, c.isDigit) {rest : List Symbol}
    (hrest : DigitFree rest) :
    digits (cs.map .char ++ rest) = (cs.map (·.toNat - '0'.toNat), rest) := by
  induction cs with
  | nil =>
    cases rest with
    | nil => rfl
    | cons x s => simp [digits, hrest x rfl]
  | cons c cs ih =>
    have hc := digit?_of_isDigit (h c List.mem_cons_self)
    have hcs := ih fun d hd => h d (List.mem_cons_of_mem _ hd)
    simp [digits, hc, hcs]

theorem run_skipDigits (d : Digits) {rest : List Symbol} (hrest : DigitFree rest) :
    run skipDigits (d.chars.map .char ++ rest) = .ok ((), rest) := by
  have hd := digits_append d.digits hrest
  rw [run, skipDigits, dif_neg]
  · simp [hd]
  · simp [hd, d.ne_nil]

theorem outcome_andThen_of_pos {s t : List Symbol} {c : Char} {h} {p : Char → Bool} (hp : p c)
    (next : Reader Unit) :
    outcome (Read.andThen (s := s) ⟨(), .char c :: t, h⟩ p next) = run next t := by
  simp [Read.andThen, hp, run]

theorem outcome_andThen_of_neg {s t : List Symbol} {h} {p : Char → Bool}
    (hp : ∀ c, .char c ∈ t.head? → ¬p c) (next : Reader Unit) :
    outcome (Read.andThen (s := s) ⟨(), t, h⟩ p next) = .ok ((), t) := by
  unfold Read.andThen
  split
  · rename_i c u hu
    rw [if_neg (hp c (by simp only at hu; rw [hu]; rfl))]
    rfl
  · rfl

/-! ### Numbers -/

theorem exponentSign_of_isDigit {c : Char} (h : c.isDigit) (s : List Symbol) :
    (exponentSign (.char c :: s)).2.1 = .char c :: s := by
  rw [exponentSign]
  · rintro _ ⟨⟩; exact absurd h (by decide)
  · rintro _ ⟨⟩; exact absurd h (by decide)

theorem exponentSign_append (e : Exponent) (rest : List Symbol) :
    (exponentSign ((e.sign ++ e.digits.chars).map .char ++ rest)).2.1 =
      e.digits.chars.map .char ++ rest := by
  have hs := e.sign_mem
  simp only [List.mem_cons, List.not_mem_nil, or_false] at hs
  rcases hs with hs | hs | hs <;> rw [hs]
  · obtain ⟨c, cs, hcs⟩ := List.exists_cons_of_ne_nil e.digits.ne_nil
    rw [hcs]
    exact exponentSign_of_isDigit (e.digits.digits c (hcs ▸ List.mem_cons_self)) _
  · rfl
  · rfl

theorem run_skipExponent (e : Exponent) {rest : List Symbol} (hrest : DigitFree rest) :
    run skipExponent ((e.sign ++ e.digits.chars).map .char ++ rest) = .ok ((), rest) := by
  have hrun : ∀ s, run skipExponent s = run skipDigits (exponentSign s).2.1 := fun s => by
    simp [run, skipExponent]
  rw [hrun, exponentSign_append, run_skipDigits e.digits hrest]

namespace Numeral
variable (n : Numeral) {rest : List Symbol}

theorem digitFree_power (hrest : Delimited rest) : DigitFree (n.power.map .char ++ rest) := by
  unfold power
  cases n.exponent with
  | none => exact hrest.digitFree
  | some e =>
    rintro _ ⟨⟩
    have he := e.letter_mem
    simp only [List.mem_cons, List.not_mem_nil, or_false] at he
    rcases he with he | he <;> rw [he] <;> decide

theorem digitFree_places (hrest : Delimited rest) :
    DigitFree (n.places.map .char ++ (n.power.map .char ++ rest)) := by
  unfold places
  cases n.fraction with
  | none => exact n.digitFree_power hrest
  | some d => rintro _ ⟨⟩; decide

theorem outcome_power (hrest : Delimited rest) {s : List Symbol} {h} :
    outcome (Read.andThen (s := s) ⟨(), n.power.map .char ++ rest, h⟩
      (fun c => c = 'e' ∨ c = 'E') skipExponent) = .ok ((), rest) := by
  revert h
  unfold power
  cases n.exponent with
  | none =>
    intro h
    refine outcome_andThen_of_neg (fun c hc => ?_) _
    have hmem := hrest.mem hc
    simp only [decide_eq_true_eq]
    rintro (rfl | rfl) <;> exact absurd hmem (by decide)
  | some e =>
    intro h
    refine (outcome_andThen_of_pos ?_ _).trans (run_skipExponent e hrest.digitFree)
    simpa using e.letter_mem

theorem power_head_ne (hrest : Delimited rest) {c : Char}
    (hc : .char c ∈ (n.power.map Symbol.char ++ rest).head?) : c ≠ '.' := by
  rintro rfl
  unfold power at hc
  cases he : n.exponent with
  | none =>
    rw [he] at hc
    exact absurd (hrest.mem hc) (by decide)
  | some e =>
    rw [he] at hc
    have hletter : e.letter = '.' := Symbol.char.inj (Option.some.inj hc)
    exact absurd (hletter ▸ e.letter_mem) (by decide)

theorem outcome_places (hrest : Delimited rest) {s : List Symbol} {h} :
    outcome (Read.andThen (s := s) ⟨(), n.places.map .char ++ (n.power.map .char ++ rest), h⟩
      (· = '.') skipDigits) = .ok ((), n.power.map .char ++ rest) := by
  revert h
  unfold places
  cases n.fraction with
  | none =>
    intro h
    exact outcome_andThen_of_neg (fun c hc => by simpa using n.power_head_ne hrest hc) _
  | some d =>
    intro h
    exact (outcome_andThen_of_pos (by decide) _).trans
      (run_skipDigits d (n.digitFree_power hrest))

/-- A zero in front stands alone. -/
theorem single_of_zero (h : (n.whole.chars.map (·.toNat - '0'.toNat)).head? = some 0) :
    n.whole.chars.length = 1 := by
  obtain ⟨c, cs, hcs⟩ := List.exists_cons_of_ne_nil n.whole.ne_nil
  have hc := n.whole.digits c (hcs ▸ List.mem_cons_self)
  have hzero : c = '0' := by
    rw [hcs] at h
    simp only [List.map_cons, List.head?_cons, Option.some.injEq] at h
    have hge : '0'.toNat ≤ c.toNat := by
      simp only [Char.isDigit, Bool.and_eq_true, decide_eq_true_eq] at hc
      exact hc.1
    exact Char.toNat_inj.mp (by omega)
  rw [n.zero (by rw [hcs, hzero]; rfl)]
  rfl

end Numeral

theorem run_skipNumber (n : Numeral) {rest : List Symbol} (hrest : Delimited rest) :
    run skipNumber (n.unsigned.map .char ++ rest) = .ok ((), rest) := by
  have hd := digits_append n.whole.digits (n.digitFree_places hrest)
  obtain ⟨h, hwhole⟩ := outcome_eq_ok_iff.mp (run_skipDigits n.whole (n.digitFree_places hrest))
  obtain ⟨h', hplaces⟩ := outcome_eq_ok_iff.mp (n.outcome_places hrest (h := h))
  have hs : n.unsigned.map Symbol.char ++ rest =
      n.whole.chars.map .char ++ (n.places.map .char ++ (n.power.map .char ++ rest)) := by
    simp [Numeral.unsigned]
  rw [hs, run, skipNumber, if_neg]
  · rw [hwhole]
    simp only [hplaces]
    exact n.outcome_power hrest
  · rintro ⟨hzero, hlength⟩
    rw [hd] at hzero hlength
    rw [List.length_map, n.single_of_zero hzero] at hlength
    exact absurd hlength (by decide)

end Typeahead.Json
