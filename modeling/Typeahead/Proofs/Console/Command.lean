import Typeahead.Console.Command
import Typeahead.Proofs.Text.Blank

/-!
# Lines that pick

Blanks before a line and ends of lines behind it make no difference to what it asks for
(`parse_framed`). A number written in digits is read back as it was, up to the largest number understood
(`number?_toDigits`). So a line that picks by number asks for the position before that number, and a
number that has none before it is refused (`parse_pick`).
-/

namespace Typeahead

namespace Console
namespace Command
open Text

/-! ### What stands around a line -/

/-- The characters that end a line. -/
def isLineEnd (c : Char) : Bool := c = '\r' || c = '\n'

theorem isBlank_of_isLineEnd {c : Char} (h : isLineEnd c = true) : isBlank c = true := by
  simp only [isLineEnd, Bool.or_eq_true, decide_eq_true_eq] at h
  rcases h with rfl | rfl <;> decide

theorem last_of_not_isBlank {s : List Char} (hs : ∀ c ∈ s, isBlank c = false) :
    s.getLast?.any isLineEnd = false := by
  cases hl : s.getLast? with
  | none => rfl
  | some c =>
    have hc := hs c (List.mem_of_getLast? hl)
    cases he : isLineEnd c with
    | false => exact he
    | true =>
      rw [isBlank_of_isLineEnd he] at hc
      cases hc

theorem words_append {blanks : List Char} (hblanks : ∀ c ∈ blanks, isBlank c = true)
    (s : List Char) : words (blanks ++ s) = words s := by
  simp only [words, trim, trimStart_append hblanks]

theorem parse_framed {blanks s ends : List Char} {text : String}
    (htext : text.toList = blanks ++ s ++ ends) (hblanks : ∀ c ∈ blanks, isBlank c = true)
    (hends : ∀ c ∈ ends, isLineEnd c = true) (hlast : s.getLast?.any isLineEnd = false)
    (hseen : ∃ c ∈ s, isBlank c = false) :
    parse text = (ofWords (words s).1 (words s).2).map some := by
  obtain ⟨c, hc, hnb⟩ := hseen
  have hne : s ≠ [] := List.ne_nil_of_mem hc
  have hlast' : (blanks ++ s).getLast?.any isLineEnd = false := by
    rw [last_append blanks hne]
    exact hlast
  have hline : dropWhileEnd (fun c => c = '\r' || c = '\n') text.toList = blanks ++ s := by
    rw [htext]
    exact (dropWhileEnd_append_of_pos _ hends).trans (dropWhileEnd_of_last hlast')
  have hall : (blanks ++ s).all isBlank = false := by
    refine List.all_eq_false.mpr ⟨c, List.mem_append_right _ hc, ?_⟩
    simp [hnb]
  simp only [parse, hline, hall, Bool.false_eq_true, ↓reduceIte, words_append hblanks]

/-! ### Digits -/

theorem toNat_of_isDigit {c : Char} (h : c.isDigit = true) : 48 ≤ c.toNat ∧ c.toNat ≤ 57 := by
  simp only [Char.isDigit, Bool.and_eq_true, decide_eq_true_eq, ge_iff_le] at h
  exact h

theorem isBlank_of_isDigit {c : Char} (h : c.isDigit = true) : isBlank c = false := by
  obtain ⟨hlow, hhigh⟩ := toNat_of_isDigit h
  simp only [isBlank, Bool.or_eq_false_iff, Bool.and_eq_false_iff, decide_eq_false_iff_not]
  omega

theorem isDigit_of_mem {n : Nat} : ∀ c ∈ Nat.toDigits 10 n, c.isDigit = true :=
  fun _ hc => Nat.isDigit_of_mem_toDigits (by decide) (by decide) hc

theorem number?_of_digits {s : List Char} (hne : s ≠ []) (hs : ∀ c ∈ s, c.isDigit = true) :
    number? s =
      if Nat.ofDigitChars 10 s 0 ≤ largestNumber then some (Nat.ofDigitChars 10 s 0) else none := by
  have hempty : s.isEmpty = false := by simpa using hne
  have hall : s.all Char.isDigit = true := List.all_eq_true.mpr hs
  -- a digit is no sign, so all of it is the number
  have hunsigned : ∀ ds, s ≠ '+' :: ds := by
    rintro ds rfl
    exact absurd (hs '+' List.mem_cons_self) (by decide)
  rw [Nat.ofDigitChars_eq_foldl, number?]
  · simp only [hempty, hall, Bool.not_true, Bool.or_self, Bool.false_eq_true, ↓reduceIte]
  · exact hunsigned

theorem number?_toDigits (n : Nat) :
    number? (Nat.toDigits 10 n) = if n ≤ largestNumber then some n else none := by
  rw [number?_of_digits Nat.toDigits_ne_nil isDigit_of_mem, Nat.ofDigitChars_ten_toDigits]

/-! ### The line -/

def pickLine (n : Nat) : String := "pick " ++ toString n

theorem toList_pickLine (n : Nat) : (pickLine n).toList = "pick ".toList ++ Nat.toDigits 10 n := by
  rw [pickLine, String.toList_append, Nat.toString_eq_ofList_toDigits]
  exact congrArg ("pick ".toList ++ ·) String.toList_ofList

theorem words_pickLine (n : Nat) :
    words (pickLine n).toList = ("pick".toList, Nat.toDigits 10 n) := by
  rw [toList_pickLine]
  rfl

theorem ofWords_pick (n : Nat) :
    ofWords "pick".toList (Nat.toDigits 10 n) =
      if n = 0 ∨ largestNumber < n then .error (.badNumber (toString n)) else .ok (.pick (n - 1)) := by
  have hpick : String.ofList "pick".toList = "pick" := String.ofList_toList
  have hblank : ∀ c ∈ Nat.toDigits 10 n, isBlank c = false :=
    fun c hc => isBlank_of_isDigit (isDigit_of_mem c hc)
  simp only [ofWords, hpick, trim_of_not_isBlank hblank, number?_toDigits,
    ← Nat.toString_eq_ofList_toDigits]
  by_cases hn : n ≤ largestNumber
  · cases n with
    | zero => rfl
    | succ i =>
      have hfits : ¬ (i + 1 = 0 ∨ largestNumber < i + 1) := by omega
      rw [if_pos hn, if_neg hfits]
      rfl
  · rw [if_neg hn, if_pos (.inr (by omega))]

/-- The row with a number stands one before it, counted from zero. -/
theorem parse_pick (n : Nat) : parse (pickLine n) =
    if n = 0 ∨ largestNumber < n then .error (.badNumber (toString n))
    else .ok (some (.pick (n - 1))) := by
  have hdigits : ∀ c ∈ Nat.toDigits 10 n, isBlank c = false :=
    fun c hc => isBlank_of_isDigit (isDigit_of_mem c hc)
  have hlast : (pickLine n).toList.getLast?.any isLineEnd = false := by
    rw [toList_pickLine, last_append _ Nat.toDigits_ne_nil]
    exact last_of_not_isBlank hdigits
  have hseen : ∃ c ∈ (pickLine n).toList, isBlank c = false := by
    rw [toList_pickLine]
    exact ⟨'p', List.mem_append_left _ List.mem_cons_self, rfl⟩
  have hframe : (pickLine n).toList = [] ++ (pickLine n).toList ++ [] := by simp
  have hnone : ∀ {p : Char → Bool}, ∀ c ∈ [], p c = true := fun _ hc => absurd hc List.not_mem_nil
  rw [parse_framed hframe hnone hnone hlast hseen, words_pickLine, ofWords_pick]
  split <;> rfl

/-! ### Other lines -/

theorem le_of_number? {s : List Char} {n : Nat} (h : number? s = some n) : n ≤ largestNumber := by
  simp only [number?, Option.ite_none_left_eq_some, Option.ite_none_right_eq_some,
    Option.some.injEq] at h
  obtain ⟨-, hle, rfl⟩ := h
  exact hle

/-- Whatever a line that picks looks like, the number said back is one that is understood. -/
theorem lt_of_parse_pick {text : String} {p : Nat} (h : parse text = .ok (some (.pick p))) :
    p < largestNumber := by
  unfold parse at h
  dsimp only at h
  split at h
  · cases h
  · cases hwords : ofWords (words _).1 (words _).2 with
    | error e => rw [hwords] at h; cases h
    | ok c =>
      rw [hwords] at h
      obtain rfl : c = .pick p := Option.some.inj (Except.ok.inj h)
      unfold ofWords at hwords
      split at hwords
      case h_5 =>
        split at hwords
        · rename_i n hn
          cases hwords
          exact le_of_number? hn
        · cases hwords
      all_goals cases hwords

end Command
end Console
end Typeahead
