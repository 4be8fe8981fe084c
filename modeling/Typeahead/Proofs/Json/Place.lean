import Mathlib.Data.Nat.Init
import Typeahead.Json.Record

/-!
# Where an error is reported

An error in a text is reported by line and column. What is passed within a line moves the column
(`advance_line`), and whole lines move the line (`advance_lines`), so a fault seen in front of a text
`s` is reported in the line that `s` begins in, behind what stands there before `s`
(`locate_after`). Whatever is read, the place in the error is one in the text
(`place_of_document_error`).
-/

namespace Typeahead.Json
open Text

theorem octets_pos (x : Symbol) : 0 < x.octets := by
  cases x with
  | char c => exact c.utf8Size_pos
  | stray b => exact Nat.one_pos

theorem octets_cons (x : Symbol) (s : List Symbol) : octets (x :: s) = x.octets + octets s := rfl

theorem octets_append (s t : List Symbol) : octets (s ++ t) = octets s + octets t := by
  induction s with
  | nil => simp [octets]
  | cons x s ih => rw [List.cons_append, octets_cons, octets_cons, ih, Nat.add_assoc]

/-- Lines, each with its line feed. -/
def ended (lines : List (List Symbol)) : List Symbol := lines.flatMap (· ++ [.char '\n'])

section
variable (line column i : Nat) (s : List Symbol)

theorem advance_newline :
    advance (i + 1) (line, column) (.char '\n' :: s) = advance i (line + 1, 0) s := by
  simp [advance]

theorem advance_cons {x : Symbol} (hx : x ≠ .char '\n') :
    advance (x.octets + i) (line, column) (x :: s) = advance i (line, column + x.octets) s := by
  have hpos := octets_pos x
  obtain ⟨n, hn⟩ := Nat.exists_eq_succ_of_ne_zero (by omega : x.octets + i ≠ 0)
  rw [hn, advance, if_neg hx]
  · rw [← hn, Nat.add_sub_cancel_left, Nat.min_eq_right (by omega)]
  · exact Nat.succ_ne_zero n

theorem advance_line {t : List Symbol} (ht : .char '\n' ∉ t) :
    advance (octets t + i) (line, column) (t ++ s) = advance i (line, column + octets t) s := by
  induction t generalizing column with
  | nil => simp [octets]
  | cons x t ih =>
    simp only [List.mem_cons, not_or] at ht
    obtain ⟨hx, ht⟩ := ht
    rw [octets_cons, Nat.add_assoc, List.cons_append, advance_cons _ _ _ _ (Ne.symm hx), ih _ ht,
      Nat.add_assoc]

theorem advance_lines {lines : List (List Symbol)} (h : ∀ t ∈ lines, .char '\n' ∉ t) :
    advance (octets (ended lines) + i) (line, 0) (ended lines ++ s) =
      advance i (line + lines.length, 0) s := by
  induction lines generalizing line with
  | nil => simp [ended, octets]
  | cons t lines ih =>
    have hfirst : ended (t :: lines) = t ++ .char '\n' :: ended lines := by simp [ended]
    have hlength : octets (ended (t :: lines)) + i = octets t + (octets (ended lines) + i + 1) := by
      rw [hfirst, octets_append, octets_cons, show (Symbol.char '\n').octets = 1 from rfl]
      omega
    rw [hlength, hfirst, List.append_assoc, advance_line _ _ _ _ (h t List.mem_cons_self),
      List.cons_append, advance_newline, ih _ fun u hu => h u (List.mem_cons_of_mem _ hu),
      List.length_cons, Nat.add_right_comm, Nat.add_assoc]

end

/-- A fault seen in front of `s` is reported in the line where `s` begins, with the bytes of it
that were passed. -/
theorem locate_after (problem : Problem) {lines : List (List Symbol)} {t : List Symbol}
    (hlines : ∀ u ∈ lines, .char '\n' ∉ u) (ht : .char '\n' ∉ t) (s : List Symbol) :
    (Fault.after problem 0 s).locate (ended lines ++ (t ++ s)) =
      ⟨problem, lines.length + 1, octets t⟩ := by
  have hpassed : octets (ended lines ++ (t ++ s)) - octets s = octets (ended lines) + octets t := by
    rw [octets_append, octets_append]
    omega
  rw [Fault.locate, Fault.after, Nat.sub_zero, hpassed, advance_lines _ _ _ hlines,
    ← Nat.add_zero (octets t), advance_line _ _ _ _ ht, advance, Nat.add_comm 1]
  simp

example : (Fault.after .keyNotText 1 (Symbol.ofString "x\x7d")).locate
    (Symbol.ofString "\x7b\n x\x7d") = ⟨.keyNotText, 2, 2⟩ := by
  decide

/-! ### Documents -/

theorem advance_within (i line column : Nat) (s : List Symbol) :
    line ≤ (advance i (line, column) s).1 ∧
      (advance i (line, column) s).1 ≤ line + s.count (.char '\n') ∧
      (advance i (line, column) s).2 ≤ column + octets s := by
  induction s generalizing i line column with
  | nil => cases i <;> simp [advance]
  | cons x s ih =>
    cases i with
    | zero => simp only [advance]; omega
    | succ i =>
      by_cases hx : x = .char '\n'
      · obtain ⟨hfrom, hto, hcolumn⟩ := ih i (line + 1) 0
        rw [hx, advance_newline, List.count_cons_self, octets_cons]
        omega
      · obtain ⟨hfrom, hto, hcolumn⟩ := ih (i + 1 - x.octets) line (column + min (i + 1) x.octets)
        rw [advance, if_neg hx, List.count_cons_of_ne hx, octets_cons]
        · omega
        · exact Nat.succ_ne_zero i

theorem exists_locate_of_document {α : Type} {r : Reader α} {s : List Symbol} {e : Error}
    (h : document r s = .error e) : ∃ f : Fault, f.locate s = e := by
  unfold document at h
  split at h
  · exact ⟨_, Except.error.inj h⟩
  · split at h
    · cases h
    · exact ⟨_, Except.error.inj h⟩

/-- A text that is refused has the line that the error names, and not fewer bytes than its column. -/
theorem place_of_document_error {α : Type} {r : Reader α} {s : List Symbol} {e : Error}
    (h : document r s = .error e) :
    1 ≤ e.line ∧ e.line ≤ 1 + s.count (.char '\n') ∧ e.column ≤ octets s := by
  obtain ⟨f, rfl⟩ := exists_locate_of_document h
  simpa [Fault.locate] using advance_within (octets s - f.left) 1 0 s

end Typeahead.Json
