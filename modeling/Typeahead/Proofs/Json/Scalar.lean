import Typeahead.Proofs.Json.Record

/-!
# Whole numbers, and values that may be null

A whole number is read off a numeral that is written as one and fits into 64 bits, and off no other
value (`agrees_natural`). Numbers in general end up as floats, so the first half is by computation
(`Numeral.run_number`), and for the other it is enough to know what a number that was read as a
whole one must have looked like (`of_number_natural`).
-/

namespace Typeahead.Json
open Text

/-! ### Digits that fit -/

section
variable {bound n : Nat} {ds : List Nat}

theorem le_foldl_digits (n : Nat) (ds : List Nat) : n ≤ ds.foldl (fun x d => 10 * x + d) n := by
  induction ds generalizing n with
  | nil => exact Nat.le_refl n
  | cons d ds ih =>
    calc n ≤ 10 * n + d := by omega
      _ ≤ _ := ih (10 * n + d)

theorem accumulate_of_le (h : ds.foldl (fun x d => 10 * x + d) n ≤ bound) :
    accumulate bound n ds = (ds.foldl (fun x d => 10 * x + d) n, ds.length) := by
  induction ds generalizing n with
  | nil => rfl
  | cons d ds ih =>
    have hd : 10 * n + d ≤ bound := Nat.le_trans (le_foldl_digits _ ds) h
    rw [accumulate, if_pos hd, ih h]
    rfl

theorem foldl_le_of_accumulate (hn : n ≤ bound) (h : (accumulate bound n ds).2 = ds.length) :
    ds.foldl (fun x d => 10 * x + d) n ≤ bound := by
  induction ds generalizing n with
  | nil => exact hn
  | cons d ds ih =>
    rw [accumulate] at h
    split at h
    · exact ih ‹_› (Nat.succ.inj h)
    · cases h

theorem accumulate_le (bound n : Nat) (ds : List Nat) :
    (accumulate bound n ds).2 ≤ ds.length := by
  induction ds generalizing n with
  | nil => exact Nat.le_refl _
  | cons d ds ih =>
    rw [accumulate]
    split
    · exact Nat.succ_le_succ (ih _)
    · exact Nat.zero_le _

end

/-! ### When a number is whole -/

section
variable {s t : List Symbol} {positive : Bool} {m k : Nat} {e : Int}

theorem real_ne_natural : real positive m e t ≠ .ok (.natural k) := by
  rw [real]
  cases scale (UInt64.ofNat m).toFloat e <;> simp [Number.ofFloat]

theorem whole_eq_natural (h : whole positive m = .natural k) : positive = true := by
  cases positive with
  | true => rfl
  | false =>
    rw [whole] at h
    split at h
    · assumption
    · split at h <;> cases h

theorem integer_eq_natural {e : Nat}
    (h : (if e = 0 then .ok (whole positive m) else real positive m e t) = .ok (.natural k)) :
    positive = true ∧ e = 0 := by
  split at h
  · exact ⟨whole_eq_natural (Except.ok.inj h), ‹_›⟩
  · exact absurd h real_ne_natural

theorem eq_natural_of_map {v : Except Fault Number} {f : Number → Read Number s} {r : Read Number s}
    (hf : ∀ v, (f v).value = v) (h : v.map f = .ok r) (hk : r.value = .natural k) :
    v = .ok (.natural k) := by
  cases v with
  | error e => cases h
  | ok v =>
    cases h
    rw [← hk, hf]

theorem ne_natural_of_widen {v : Except Fault (Read Number t)} {r : Read Number s} {ht}
    (hv : ∀ r, v = .ok r → r.value ≠ .natural k) (h : v.map (·.widen ht) = .ok r) :
    r.value ≠ .natural k := by
  cases v with
  | error e => cases h
  | ok r' =>
    cases h
    exact hv r' rfl

theorem exponent_ne_natural (r : Read Number s) (h : exponent positive m e s = .ok r) :
    r.value ≠ .natural k := by
  unfold exponent at h
  simp only at h
  split at h
  · cases h
  · intro hk
    have hv := eq_natural_of_map (fun _ => rfl) h hk
    split at hv
    · exact real_ne_natural hv
    · split at hv <;> cases hv

theorem places_ne_natural (r : Read Number s) (h : places positive m e s = .ok r) :
    r.value ≠ .natural k := by
  unfold places at h
  simp only at h
  split at h
  · cases h
  · split at h
    · split at h
      · exact ne_natural_of_widen exponent_ne_natural h
      · exact fun hk => real_ne_natural (eq_natural_of_map (fun _ => rfl) h hk)
    · exact fun hk => real_ne_natural (eq_natural_of_map (fun _ => rfl) h hk)

/-- A number that is read as a whole one has no minus sign, no point and no power of ten, and all
of its digits fit. -/
theorem of_number_natural {r : Read Number s} (h : number positive s = .ok r)
    (hk : r.value = .natural k) :
    positive = true ∧ (accumulate largest 0 (digits s).1).2 = (digits s).1.length ∧
      ∀ c, .char c ∈ (digits s).2.head? → c ∉ ['.', 'e', 'E'] := by
  have hle := accumulate_le largest 0 (digits s).1
  unfold number at h
  simp only at h
  split at h
  · cases h
  split at h
  · cases h
  split at h
  · rename_i c s' hrest
    split at h
    · exact absurd hk (ne_natural_of_widen places_ne_natural h)
    split at h
    · exact absurd hk (ne_natural_of_widen exponent_ne_natural h)
    obtain ⟨hpositive, hall⟩ := integer_eq_natural (eq_natural_of_map (fun _ => rfl) h hk)
    refine ⟨hpositive, by omega, fun d hd => ?_⟩
    rw [hrest] at hd
    cases hd
    simp_all
  · rename_i hrest
    obtain ⟨hpositive, hall⟩ := integer_eq_natural (eq_natural_of_map (fun _ => rfl) h hk)
    refine ⟨hpositive, by omega, fun d hd => ?_⟩
    cases hs : (digits s).2 with
    | nil => rw [hs] at hd; cases hd
    | cons x s' =>
      rw [hs] at hd
      cases hd
      exact absurd hs (hrest d s')

end

/-! ### Numerals -/

namespace Numeral
variable {n : Numeral} {rest : List Symbol}

/-- The part before the point. -/
def value (n : Numeral) : Nat := Nat.ofDigitChars 10 n.whole.chars 0

/-- The whole number of 64 bits that is written without minus sign, point and power of ten. -/
def natural? (n : Numeral) : Option UInt64 :=
  if n.minus = false ∧ n.fraction = none ∧ n.exponent = none ∧ n.value ≤ largest then
    some (.ofNat n.value)
  else none

theorem foldl_digits (n : Numeral) :
    (n.whole.chars.map (·.toNat - '0'.toNat)).foldl (fun x d => 10 * x + d) 0 = n.value := by
  rw [value, Nat.ofDigitChars_eq_foldl, List.foldl_map]

theorem digits_unsigned (hrest : Delimited rest) :
    digits (n.unsigned.map .char ++ rest) = (n.whole.chars.map (·.toNat - '0'.toNat),
      n.places.map .char ++ (n.power.map .char ++ rest)) := by
  rw [unsigned, List.map_append, List.map_append, List.append_assoc, List.append_assoc]
  exact digits_append n.whole.digits (n.digitFree_places hrest)

theorem run_number (hfraction : n.fraction = none) (hexponent : n.exponent = none)
    (hfits : n.value ≤ largest) (hrest : Delimited rest) :
    run (number true) (n.unsigned.map .char ++ rest) = .ok (.natural n.value, rest) := by
  have hd := n.digits_unsigned hrest
  have hall : accumulate largest 0 (n.whole.chars.map (·.toNat - '0'.toNat)) =
      (n.value, n.whole.chars.length) := by
    rw [accumulate_of_le (n.foldl_digits ▸ hfits), n.foldl_digits, List.length_map]
  have hafter : n.places.map Symbol.char ++ (n.power.map .char ++ rest) = rest := by
    simp [places, power, hfraction, hexponent]
  rw [hafter] at hd
  rw [run, number, dif_neg (by simp [hd, n.whole.ne_nil]), if_neg]
  · simp only [hd, hall, List.length_map, Nat.sub_self, if_true]
    split
    · -- a delimiter is no point and begins no power of ten
      rename_i c s' hs
      have hc : c ∈ delimiters := hrest.mem (by simp_all)
      rw [if_neg (by rintro rfl; exact absurd hc (by decide)),
        if_neg (by rintro (rfl | rfl) <;> exact absurd hc (by decide))]
      rfl
    · rfl
  · rintro ⟨hzero, hlength⟩
    simp only [hd] at hzero hlength
    have hhead := (List.head?_eq_some_head _).trans (congrArg some hzero)
    rw [List.length_map, n.single_of_zero hhead] at hlength
    exact absurd hlength (by decide)

/-- A numeral that is read as a whole number is written as one. -/
theorem of_number {positive : Bool} (hrest : Delimited rest)
    {r : Read Number (n.unsigned.map .char ++ rest)} {k : Nat}
    (h : number positive (n.unsigned.map .char ++ rest) = .ok r) (hk : r.value = .natural k) :
    positive = true ∧ n.fraction = none ∧ n.exponent = none ∧ n.value ≤ largest := by
  obtain ⟨hpositive, hall, hafter⟩ := of_number_natural h hk
  rw [n.digits_unsigned hrest] at hall hafter
  have hfits := foldl_le_of_accumulate (Nat.zero_le largest) hall
  rw [n.foldl_digits] at hfits
  have hfraction : n.fraction = none := by
    cases hf : n.fraction with
    | none => rfl
    | some d => exact absurd (hafter '.' (by simp [places, hf])) (by decide)
  have hexponent : n.exponent = none := by
    cases he : n.exponent with
    | none => rfl
    | some e =>
      have hletter := hafter e.letter (by simp [places, hfraction, power, he, Exponent.text])
      exact absurd (List.mem_cons_of_mem '.' e.letter_mem) hletter
  exact ⟨hpositive, hfraction, hexponent, hfits⟩

theorem toDigits_of_head_zero {m : Nat} (h : (Nat.toDigits 10 m).head? = some '0') :
    Nat.toDigits 10 m = ['0'] := by
  induction m using Nat.strongRecOn with
  | _ m ih =>
    rw [Nat.toDigits_eq_if (by decide)] at h ⊢
    split at h
    · rw [if_pos ‹_›]
      simpa using h
    · rename_i hm
      -- the digits in front would be those of zero, and there are none in front of one digit
      obtain ⟨c, cs, hcs⟩ : ∃ c cs, Nat.toDigits 10 (m / 10) = c :: cs :=
        List.exists_cons_of_ne_nil Nat.toDigits_ne_nil
      have hfront := ih (m / 10) (by omega) (by rw [hcs] at h ⊢; exact h)
      have hzero := Nat.ofDigitChars_ten_toDigits (n := m / 10)
      rw [hfront] at hzero
      have : (0 : Nat) = m / 10 := hzero
      omega

/-- The digits of a natural number. -/
def ofNat (m : Nat) : Numeral where
  minus := false
  whole := ⟨Nat.toDigits 10 m, Nat.toDigits_ne_nil,
    fun _ hc => Nat.isDigit_of_mem_toDigits (by decide) (by decide) hc⟩
  fraction := none
  exponent := none
  zero := toDigits_of_head_zero

theorem natural?_ofNat (k : UInt64) : (ofNat k.toNat).natural? = some k := by
  have hvalue : (ofNat k.toNat).value = k.toNat := Nat.ofDigitChars_ten_toDigits
  have hk := k.toNat_lt
  rw [natural?, if_pos ⟨rfl, rfl, rfl, by rw [hvalue, largest]; omega⟩, hvalue, UInt64.ofNat_toNat]

end Numeral

/-! ### Whole numbers -/

/-- The whole number of 64 bits that a value is. -/
def Value.natural? : Value → Option UInt64
  | number n => n.natural?
  | _ => none

/-- What is made of a number where a whole one is expected. -/
def Read.asNatural {s : List Symbol} (r : Read Number s) : Except Fault (Read UInt64 s) :=
  match r.value with
  | .natural n => .ok (r.map fun _ => .ofNat n)
  | .negative n => .error (.after (.wrongValue (.integer n) "u64") 0 r.rest)
  | .real d => .error (.after (.wrongType (.real d) "u64") 0 r.rest)

theorem run_natural_minus (s : List Symbol) :
    run natural (.char '-' :: s) = outcome ((number false s).bind Read.asNatural) := by
  rw [natural, run_afterBlanks, skipBlanks_cons rfl]
  exact outcome_afterHead _

theorem run_natural_digit {c : Char} (hc : c.isDigit) (s : List Symbol) :
    run natural (.char c :: s) = outcome ((number true (.char c :: s)).bind Read.asNatural) := by
  have hblank : Json.isBlank (.char c) = false :=
    isBlank_of_not_delimiter fun h => not_isDigit_of_mem_delimiters h hc
  rw [natural, run_afterBlanks, skipBlanks_cons hblank, run]
  simp only [opening?_of_isDigit hc]
  rfl

theorem run_natural_mismatch {c : Char} {s : List Symbol} {o : Opening}
    (hc : Json.isBlank (.char c) = false) (ho : opening? (.char c) = some o)
    (hne : o ≠ .minus ∧ o ≠ .digit) : ∃ e, run natural (.char c :: s) = .error e := by
  rw [natural, run_afterBlanks, skipBlanks_cons hc, run]
  simp only [ho]
  cases o with
  | minus => exact absurd rfl hne.1
  | digit => exact absurd rfl hne.2
  | _ => exact ⟨_, rfl⟩

theorem bind_asNatural_eq_error {s : List Symbol} {v : Except Fault (Read Number s)}
    (h : ∀ r k, v = .ok r → r.value ≠ .natural k) : ∃ e, v.bind Read.asNatural = .error e := by
  cases v with
  | error e => exact ⟨e, rfl⟩
  | ok r =>
    change ∃ e, r.asNatural = .error e
    unfold Read.asNatural
    split
    · exact absurd ‹_› (h r _ rfl)
    · exact ⟨_, rfl⟩
    · exact ⟨_, rfl⟩

theorem gives_natural_digit {n : Numeral} {c : Char} {t : List Char} {rest : List Symbol}
    (hw : n.unsigned = c :: t) (hc : c.isDigit) (hminus : n.minus = false)
    (hrest : Delimited rest) :
    Gives n.natural? rest (run natural (n.unsigned.map .char ++ rest)) := by
  have hdigit := run_natural_digit hc (t.map .char ++ rest)
  rw [← List.cons_append, ← List.map_cons, ← hw] at hdigit
  rw [hdigit]
  by_cases hn : n.fraction = none ∧ n.exponent = none ∧ n.value ≤ largest
  · obtain ⟨h, hread⟩ := outcome_eq_ok_iff.mp (n.run_number hn.1 hn.2.1 hn.2.2 hrest)
    rw [Numeral.natural?, if_pos ⟨hminus, hn⟩, hread]
    rfl
  · rw [Numeral.natural?, if_neg fun h => hn h.2]
    obtain ⟨e, he⟩ := bind_asNatural_eq_error (v := number true (n.unsigned.map .char ++ rest))
      fun r k hr hk => hn (n.of_number hrest hr hk).2
    rw [he]
    exact gives_error e

theorem agrees_natural : Agrees natural Value.natural? := by
  intro v s rest hrest hs
  have hsame : run natural s = run natural (v.write.map .char ++ rest) := by
    rw [natural, run_afterBlanks, run_afterBlanks, hs, v.skipBlanks_write]
  rw [hsame]
  cases v with
  | number n =>
    rw [Value.write, Numeral.text, Value.natural?]
    cases hminus : n.minus with
    | true =>
      obtain ⟨e, he⟩ := bind_asNatural_eq_error (v := number false (n.unsigned.map .char ++ rest))
        fun r k hr hk => absurd (of_number_natural hr hk).1 (by decide)
      rw [Numeral.natural?, if_neg (by simp [hminus])]
      simp only [if_true, List.map_cons, List.cons_append, run_natural_minus, he]
      exact gives_error e
    | false =>
      obtain ⟨c, cs, hcs⟩ := List.exists_cons_of_ne_nil n.whole.ne_nil
      have hc := n.whole.digits c (hcs ▸ List.mem_cons_self)
      exact gives_natural_digit (by rw [Numeral.unsigned, hcs]; rfl) hc hminus hrest
  | _ =>
    obtain ⟨c, t, hw, hc⟩ := Value.exists_write _
    rw [hw]
    cases hc
    exact run_natural_mismatch rfl rfl (by decide)

/-! ### Values that may be null -/

/-- A value that is null, or what `f` says of it. -/
def Value.optional? {α : Type} (f : Value → Option α) : Value → Option (Option α)
  | null => some none
  | v => (f v).map some

theorem Value.Begins.null_of_letter {v : Value} (h : v.Begins 'n') : v = null := by
  cases v with
  | null => rfl
  | _ => exact absurd h (by simp [Begins]; try decide)

theorem agrees_optional {α : Type} {r : Reader α} {f : Value → Option α} (hr : Agrees r f) :
    Agrees (optional r) (Value.optional? f) := by
  intro v s rest hrest hs
  obtain ⟨c, t, hw, hc⟩ := v.exists_write
  have hread := (hr hrest ((congrArg skipBlanks hs).trans (v.skipBlanks_write rest))).map some
  rw [optional, run_afterBlanks]
  generalize skipBlanks s = u at hs hread
  rw [run]
  split
  · have hn : c = 'n' := by
      rw [hw] at hs
      exact (Symbol.char.inj (List.cons.inj hs).1).symm
    subst hn
    obtain rfl := hc.null_of_letter
    obtain rfl : _ = .char 'u' :: .char 'l' :: .char 'l' :: rest := by
      simpa [Value.write] using hs
    obtain ⟨h, hword⟩ :
        ∃ h, word 'u' ['l', 'l'] (.char 'u' :: .char 'l' :: .char 'l' :: rest) =
          .ok ⟨(), rest, h⟩ :=
      outcome_eq_ok_iff.mp (run_word 'u' ['l', 'l'] rest)
    rw [hword]
    rfl
  · rename_i hn
    have hv : v.optional? f = (f v).map some := by
      cases v with
      | null => exact absurd hs (by simpa [Value.write] using hn _)
      | _ => rfl
    rw [hv]
    exact hread

end Typeahead.Json
