import Mathlib.Data.Nat.Init
import Typeahead.Proofs.Json.Grammar

/-!
# Reading what the grammar writes

A reader answers with a value, the rest, and a bound on the rest. `outcome` forgets the bound, so
that what a reader does with a text (`run`) can be said by an equation. Blanks are passed over, and
a text in quotes is read as what its signs say, or refused if they say nothing (`gives_quoted`). A
text that is only passed over need not say anything (`run_skipQuoted`).
-/

namespace Typeahead.Json
open Text

/-- What was read and what is left. -/
def outcome {α : Type} {s : List Symbol} (e : Except Fault (Read α s)) :
    Except Fault (α × List Symbol) :=
  e.map fun r => (r.value, r.rest)

/-- What a reader takes off the front of a text, and what it leaves. -/
def run {α : Type} (r : Reader α) (s : List Symbol) : Except Fault (α × List Symbol) :=
  outcome (r s)

section
variable {α β : Type} {x : Symbol} {s t : List Symbol} {v : α} {rest : List Symbol}

@[simp] theorem outcome_ok (r : Read α s) : outcome (.ok r) = .ok (r.value, r.rest) := rfl

@[simp] theorem outcome_error (e : Fault) :
    outcome (.error e : Except Fault (Read α s)) = .error e := rfl

theorem outcome_eq_ok_iff {e : Except Fault (Read α s)} :
    outcome e = .ok (v, rest) ↔ ∃ h, e = .ok ⟨v, rest, h⟩ := by
  cases e with
  | error e => simp
  | ok r =>
    obtain ⟨w, r, h⟩ := r
    simp only [outcome_ok, Except.ok.injEq, Prod.mk.injEq]
    constructor
    · rintro ⟨rfl, rfl⟩; exact ⟨h, rfl⟩
    · rintro ⟨_, heq⟩; cases heq; exact ⟨rfl, rfl⟩

theorem outcome_eq_error_iff {e : Except Fault (Read α s)} {err : Fault} :
    outcome e = .error err ↔ e = .error err := by
  cases e <;> simp

@[simp] theorem outcome_widen (e : Except Fault (Read α t)) (h : t.length ≤ s.length) :
    outcome (e.map (·.widen h)) = outcome e := by
  cases e <;> rfl

@[simp] theorem outcome_afterHead (e : Except Fault (Read α s)) :
    outcome (e.map (Read.afterHead (x := x))) = outcome e := by
  cases e <;> rfl

@[simp] theorem run_afterBlanks (r : Reader α) (s : List Symbol) :
    run (afterBlanks r) s = run r (skipBlanks s) := outcome_widen _ _

end

/-! ### Blanks -/

theorem isBlank_char_iff {c : Char} :
    Json.isBlank (.char c) ↔ c ∈ [' ', '\t', '\n', '\r'] := by
  simp [Json.isBlank, or_assoc]

theorem skipBlanks_blanks (b : Blanks) (s : List Symbol) :
    skipBlanks (b.chars.map .char ++ s) = skipBlanks s := by
  refine List.dropWhile_append_of_pos fun x hx => ?_
  obtain ⟨c, hc, rfl⟩ := List.mem_map.mp hx
  exact isBlank_char_iff.mpr (b.blank c hc)

theorem skipBlanks_cons {x : Symbol} {s : List Symbol} (h : Json.isBlank x = false) :
    skipBlanks (x :: s) = x :: s :=
  List.dropWhile_cons_of_neg (by simp [h])

theorem exists_nonblank? {x : Symbol} {s t : List Symbol} (h : skipBlanks s = x :: t) :
    ∃ ht, nonblank? s = some (x, ⟨t, ht⟩) := by
  have hle := skipBlanks_le s
  rw [h, List.length_cons] at hle
  refine ⟨hle, ?_⟩
  unfold nonblank?
  split
  · rename_i hs; rw [hs] at h; cases h
  · rename_i y u hs
    rw [hs, List.cons.injEq] at h
    obtain ⟨rfl, rfl⟩ := h
    rfl

/-! ### Words -/

theorem run_word_cons (c d : Char) (ds : List Char) (s : List Symbol) :
    run (word c (d :: ds)) (.char c :: s) = run (word d ds) s := by
  simp [run, word]

theorem run_word (c : Char) (cs : List Char) (rest : List Symbol) :
    run (word c cs) (.char c :: (cs.map .char ++ rest)) = .ok ((), rest) := by
  induction cs generalizing c with
  | nil => simp [run, word, Read.head]
  | cons d ds ih => rw [run_word_cons]; exact ih d

/-! ### Escapes -/

theorem run_hexEscape (u : CodeUnit) (rest : List Symbol) :
    run hexEscape (u.text.map .char ++ rest) = .ok (u.value, rest) := by
  simp only [CodeUnit.text, List.map_cons, List.map_nil, List.cons_append, List.nil_append]
  simp [run, hexEscape, u.a.reads, u.b.reads, u.c.reads, u.d.reads, CodeUnit.value]

theorem run_escape {letter c : Char} (h : (letter, c) ∈ escapes) (rest : List Symbol) :
    run escape (.char letter :: rest) = .ok (c, rest) := by
  simp only [escapes, List.mem_cons, Prod.mk.injEq, List.not_mem_nil, or_false] at h
  rcases h with ⟨rfl, rfl⟩ | ⟨rfl, rfl⟩ | ⟨rfl, rfl⟩ | ⟨rfl, rfl⟩ | ⟨rfl, rfl⟩ | ⟨rfl, rfl⟩ |
    ⟨rfl, rfl⟩ | ⟨rfl, rfl⟩ <;> rfl

theorem run_skipEscape {letter c : Char} (h : (letter, c) ∈ escapes) (rest : List Symbol) :
    run skipEscape (.char letter :: rest) = .ok ((), rest) := by
  simp only [escapes, List.mem_cons, Prod.mk.injEq, List.not_mem_nil, or_false] at h
  rcases h with ⟨rfl, rfl⟩ | ⟨rfl, rfl⟩ | ⟨rfl, rfl⟩ | ⟨rfl, rfl⟩ | ⟨rfl, rfl⟩ | ⟨rfl, rfl⟩ |
    ⟨rfl, rfl⟩ | ⟨rfl, rfl⟩ <;> rfl

/-! ### Texts in quotes -/

/-- What follows the opening quote. -/
def untilQuote (signs : List Sign) (rest : List Symbol) : List Symbol :=
  (signs.flatMap Sign.text).map .char ++ .char '"' :: rest

section
variable {signs : List Sign} {rest : List Symbol}

theorem inQuotes_append :
    (inQuotes signs).map .char ++ rest = .char '"' :: untilQuote signs rest := by
  simp [inQuotes, untilQuote]

theorem untilQuote_nil : untilQuote [] rest = .char '"' :: rest := rfl

theorem untilQuote_plain {c : Char} {hc} :
    untilQuote (.plain c hc :: signs) rest = .char c :: untilQuote signs rest := by
  simp [untilQuote, Sign.text]

theorem untilQuote_escaped {letter c : Char} {hc} :
    untilQuote (.escaped letter c hc :: signs) rest =
      .char '\\' :: .char letter :: untilQuote signs rest := by
  simp [untilQuote, Sign.text]

theorem untilQuote_unit {u : CodeUnit} :
    untilQuote (.unit u :: signs) rest =
      .char '\\' :: .char 'u' :: (u.text.map .char ++ untilQuote signs rest) := by
  simp [untilQuote, Sign.text]

end

theorem run_unicodeEscape_of_single {u : CodeUnit} (ht : ¬isTrail u.value)
    (hl : ¬isLead u.value) (rest : List Symbol) :
    run unicodeEscape (u.text.map .char ++ rest) = .ok (Char.ofNat u.value, rest) := by
  obtain ⟨h, hread⟩ := outcome_eq_ok_iff.mp (run_hexEscape u rest)
  rw [run, unicodeEscape, hread]
  simp [ht, hl]

theorem run_unicodeEscape_of_lead {u : CodeUnit} (hu : ¬isTrail u.value) (hl : isLead u.value)
    (v : CodeUnit) (rest : List Symbol) :
    run unicodeEscape (u.text.map .char ++ .char '\\' :: .char 'u' :: (v.text.map .char ++ rest)) =
      if isTrail v.value then
        .ok (Char.ofNat ((u.value - 0xD800) * 0x400 + (v.value - 0xDC00) + 0x10000), rest)
      else .error (.after .lonelySurrogate 0 rest) := by
  obtain ⟨h, hread⟩ := outcome_eq_ok_iff.mp
    (run_hexEscape u (.char '\\' :: .char 'u' :: (v.text.map .char ++ rest)))
  obtain ⟨h', hread'⟩ := outcome_eq_ok_iff.mp (run_hexEscape v rest)
  rw [run, unicodeEscape, hread]
  by_cases ht : isTrail v.value
  · simp [hu, hl, hread', ht]
  · simp [hu, hl, hread', ht]

theorem run_unicodeEscape_of_trail {u : CodeUnit} (ht : isTrail u.value)
    (rest : List Symbol) :
    run unicodeEscape (u.text.map .char ++ rest) = .error (.after .lonelySurrogate 0 rest) := by
  obtain ⟨h, hread⟩ := outcome_eq_ok_iff.mp (run_hexEscape u rest)
  rw [run, unicodeEscape, hread]
  simp [ht]

theorem run_escape_unit (s : List Symbol) : run escape (.char 'u' :: s) = run unicodeEscape s := by
  simp [run, escape]

theorem exists_run_unicodeEscape_error_of_unpaired {u : CodeUnit} (hu : ¬isTrail u.value)
    (hl : isLead u.value) {s : List Symbol} (hs : ∀ t, s ≠ .char '\\' :: .char 'u' :: t) :
    ∃ e, run unicodeEscape (u.text.map .char ++ s) = .error e := by
  obtain ⟨h, hread⟩ := outcome_eq_ok_iff.mp (run_hexEscape u s)
  rw [run, unicodeEscape, hread]
  simp only [hu, hl, Bool.false_eq_true, if_false, Bool.not_true]
  split
  · exact ⟨_, rfl⟩
  · exact absurd rfl (hs _)
  · exact ⟨_, rfl⟩
  · exact ⟨_, rfl⟩

theorem ne_u_of_mem_escapes {letter c : Char} (h : (letter, c) ∈ escapes) : letter ≠ 'u' := by
  rintro rfl
  simp [escapes] at h

/-- The first half of a surrogate pair needs the second at once. -/
theorem exists_run_unicodeEscape_error {u : CodeUnit} (hu : ¬isTrail u.value)
    (hl : isLead u.value) {signs : List Sign}
    (hs : ∀ v signs', signs = .unit v :: signs' → ¬isTrail v.value) (rest : List Symbol) :
    ∃ e, run unicodeEscape (u.text.map .char ++ untilQuote signs rest) = .error e := by
  match signs with
  | [] => exact exists_run_unicodeEscape_error_of_unpaired hu hl (by simp [untilQuote_nil])
  | .plain c hc :: signs =>
    refine exists_run_unicodeEscape_error_of_unpaired hu hl fun t ht => ?_
    rw [untilQuote_plain] at ht
    exact hc.2.1 (Symbol.char.inj (List.cons.inj ht).1)
  | .escaped letter c hc :: signs =>
    refine exists_run_unicodeEscape_error_of_unpaired hu hl fun t ht => ?_
    rw [untilQuote_escaped] at ht
    exact ne_u_of_mem_escapes hc (Symbol.char.inj (List.cons.inj (List.cons.inj ht).2).1)
  | .unit v :: signs =>
    rw [untilQuote_unit]
    exact ⟨_, (run_unicodeEscape_of_lead hu hl v _).trans (if_neg (hs v signs rfl))⟩

/-- `e` gives what was meant and leaves `rest`, or is an error if nothing was meant. -/
def Gives {α : Type} (meant : Option α) (rest : List Symbol) (e : Except Fault (α × List Symbol)) :
    Prop :=
  match meant with
  | some x => e = .ok (x, rest)
  | none => ∃ err, e = .error err

/-- What is meant by the characters in `seen`, last one first, and those that follow. -/
def afterSeen (seen : List Char) (meant : Option (List Char)) : Option String :=
  meant.map fun cs => String.ofList (seen.reverse ++ cs)

theorem afterSeen_cons (c : Char) (seen : List Char) (meant : Option (List Char)) :
    afterSeen seen (meant.map (c :: ·)) = afterSeen (c :: seen) meant := by
  cases meant <;> simp [afterSeen]

section
variable {start : List Symbol} {whole : Bool}

theorem quotedFrom_plain {c : Char} (hc : c ≠ '"' ∧ c ≠ '\\' ∧ 0x20 ≤ c.toNat) (seen : List Char)
    (s : List Symbol) (h : (.char c :: s).length ≤ start.length) :
    ∃ h', quotedFrom start (.char c :: s) h seen whole = quotedFrom start s h' (c :: seen) whole := by
  refine ⟨Nat.le_of_succ_le h, ?_⟩
  rw [quotedFrom]
  · rw [if_neg (by omega)]
  · rintro rfl; exact hc.1 rfl
  · rintro rfl; exact hc.2.1 rfl

theorem quotedFrom_escape {c : Char} {s rest : List Symbol} (he : run escape s = .ok (c, rest))
    (seen : List Char) (h : (.char '\\' :: s).length ≤ start.length) :
    ∃ h', quotedFrom start (.char '\\' :: s) h seen whole =
      quotedFrom start rest h' (c :: seen) whole := by
  obtain ⟨hr, hread⟩ := outcome_eq_ok_iff.mp he
  simp only [List.length_cons] at h
  refine ⟨by omega, ?_⟩
  rw [quotedFrom, hread]

theorem quotedFrom_escape_error {e : Fault} {s : List Symbol} (he : run escape s = .error e)
    (seen : List Char) (h : (.char '\\' :: s).length ≤ start.length) :
    quotedFrom start (.char '\\' :: s) h seen whole = .error e := by
  rw [quotedFrom, outcome_eq_error_iff.mp he]

/-- The induction is on what the signs say, so that a surrogate pair is one step. -/
theorem gives_quotedFrom (signs : List Sign) (rest : List Symbol) (seen : List Char)
    (h : (untilQuote signs rest).length ≤ start.length) :
    Gives (afterSeen seen (meaning? signs)) rest
      (outcome (quotedFrom start (untilQuote signs rest) h seen true)) := by
  fun_induction meaning? signs generalizing seen with
  | case1 =>
    simp only [untilQuote_nil]
    rw [quotedFrom]
    simp [Gives, afterSeen]
  | case2 c hc signs ih =>
    simp only [untilQuote_plain] at h ⊢
    obtain ⟨h', heq⟩ := quotedFrom_plain hc seen _ h
    rw [heq, afterSeen_cons]
    exact ih _ h'
  | case3 letter c hc signs ih =>
    simp only [untilQuote_escaped] at h ⊢
    obtain ⟨h', heq⟩ := quotedFrom_escape (run_escape hc _) seen h
    rw [heq, afterSeen_cons]
    exact ih _ h'
  | case4 u signs ht =>
    simp only [untilQuote_unit] at h ⊢
    rw [quotedFrom_escape_error ((run_escape_unit _).trans (run_unicodeEscape_of_trail ht _))]
    exact ⟨_, rfl⟩
  | case5 u hu hl v signs ht ih =>
    simp only [untilQuote_unit] at h ⊢
    obtain ⟨h', heq⟩ := quotedFrom_escape
      ((run_escape_unit _).trans ((run_unicodeEscape_of_lead hu hl v _).trans (if_pos ht))) seen h
    rw [heq, afterSeen_cons]
    exact ih _ h'
  | case6 u hu hl v signs hv =>
    simp only [untilQuote_unit] at h ⊢
    rw [quotedFrom_escape_error
      ((run_escape_unit _).trans ((run_unicodeEscape_of_lead hu hl v _).trans (if_neg hv)))]
    exact ⟨_, rfl⟩
  | case7 u signs hu hl hs =>
    obtain ⟨e, he⟩ := exists_run_unicodeEscape_error hu hl
      (fun v signs' hv => absurd hv (hs v signs')) rest
    simp only [untilQuote_unit] at h ⊢
    rw [quotedFrom_escape_error ((run_escape_unit _).trans he)]
    exact ⟨_, rfl⟩
  | case8 u signs hu hl ih =>
    simp only [untilQuote_unit] at h ⊢
    obtain ⟨h', heq⟩ := quotedFrom_escape
      ((run_escape_unit _).trans (run_unicodeEscape_of_single hu hl _)) seen h
    rw [heq, afterSeen_cons]
    exact ih _ h'

end

/-- A text in quotes is read as what it says. -/
theorem gives_quoted (signs : List Sign) (rest : List Symbol) :
    Gives ((meaning? signs).map String.ofList) rest (run quoted (untilQuote signs rest)) :=
  gives_quotedFrom signs rest [] (length_le_self _)

theorem outcome_skipQuotedFrom {start : List Symbol} (signs : List Sign) (rest : List Symbol)
    (h : (untilQuote signs rest).length ≤ start.length) :
    outcome (skipQuotedFrom start (untilQuote signs rest) h) = .ok ((), rest) := by
  induction signs with
  | nil =>
    simp only [untilQuote_nil]
    rw [skipQuotedFrom]
    rfl
  | cons g signs ih =>
    cases g with
    | plain c hc =>
      simp only [untilQuote_plain] at h ⊢
      rw [skipQuotedFrom]
      · rw [if_neg (by omega), ih]
      · rintro rfl; exact hc.1 rfl
      · rintro rfl; exact hc.2.1 rfl
    | escaped letter c hc =>
      simp only [untilQuote_escaped] at h ⊢
      obtain ⟨h', hread⟩ := outcome_eq_ok_iff.mp (run_skipEscape hc (untilQuote signs rest))
      rw [skipQuotedFrom, hread]
      exact ih _
    | unit u =>
      simp only [untilQuote_unit] at h ⊢
      obtain ⟨h', hread⟩ := outcome_eq_ok_iff.mp (run_hexEscape u (untilQuote signs rest))
      rw [skipQuotedFrom, skipEscape, hread]
      exact ih _

/-- A text in quotes is passed over, whether it says something or not. -/
theorem run_skipQuoted (signs : List Sign) (rest : List Symbol) :
    run skipQuoted (untilQuote signs rest) = .ok ((), rest) :=
  outcome_skipQuotedFrom signs rest (length_le_self _)

end Typeahead.Json
