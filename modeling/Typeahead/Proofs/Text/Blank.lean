import Typeahead.Text.Blank

/-!
# Texts cut at their ends

Cutting at the end takes a run of characters off and stops at the first one that is to stay
(`exists_dropWhileEnd`). So a text whose last character is to stay is left whole, and what stands behind
it does not matter if all of it is to go.
-/

namespace Typeahead.Text
variable {p : Char → Bool} {s t : List Char}

theorem dropWhileEnd_append_of_pos (s : List Char) (ht : ∀ c ∈ t, p c = true) :
    dropWhileEnd p (s ++ t) = dropWhileEnd p s := by
  have hreverse : ∀ c ∈ t.reverse, p c = true := fun c hc => ht c (List.mem_reverse.mp hc)
  rw [dropWhileEnd, List.reverse_append, List.dropWhile_append_of_pos hreverse, ← dropWhileEnd]

theorem dropWhileEnd_of_last (h : s.getLast?.any p = false) : dropWhileEnd p s = s := by
  rw [List.getLast?_eq_head?_reverse] at h
  rw [dropWhileEnd]
  cases hs : s.reverse with
  | nil => simpa using hs.symm
  | cons c r =>
    have hc : p c = false := by simpa [hs] using h
    rw [List.dropWhile_cons_of_neg (by simp [hc]), ← hs, List.reverse_reverse]

theorem last_append (s : List Char) (hne : t ≠ []) :
    (s ++ t).getLast?.any p = t.getLast?.any p := by
  rw [List.getLast?_append, List.getLast?_eq_some_getLast hne, Option.some_or]

theorem last_dropWhileEnd (p : Char → Bool) (s : List Char) :
    (dropWhileEnd p s).getLast?.any p = false := by
  rw [dropWhileEnd, List.getLast?_reverse]
  have hhead := List.head?_dropWhile_not p s.reverse
  cases hd : (s.reverse.dropWhile p).head? with
  | none => rfl
  | some c =>
    rw [hd] at hhead
    simpa using hhead

theorem exists_dropWhileEnd (p : Char → Bool) (s : List Char) :
    ∃ t, s = dropWhileEnd p s ++ t ∧ ∀ c ∈ t, p c = true := by
  refine ⟨(s.reverse.takeWhile p).reverse, ?_, fun c hc => ?_⟩
  · rw [dropWhileEnd, ← List.reverse_append, List.takeWhile_append_dropWhile, List.reverse_reverse]
  · exact List.all_eq_true.mp List.all_takeWhile c (List.mem_reverse.mp hc)

theorem trimStart_append (hs : ∀ c ∈ s, isBlank c = true) (t : List Char) :
    trimStart (s ++ t) = trimStart t :=
  List.dropWhile_append_of_pos hs

theorem trimStart_cons {c : Char} (hc : isBlank c = false) (s : List Char) :
    trimStart (c :: s) = c :: s :=
  List.dropWhile_cons_of_neg (by simp [hc])

theorem trimStart_of_not_isBlank (hs : ∀ c ∈ s, isBlank c = false) : trimStart s = s := by
  cases s with
  | nil => rfl
  | cons c s => exact trimStart_cons (hs c List.mem_cons_self) s

theorem trim_of_not_isBlank (hs : ∀ c ∈ s, isBlank c = false) : trim s = s := by
  have hlast : s.getLast?.any isBlank = false := by
    cases hl : s.getLast? with
    | none => rfl
    | some c => exact hs c (List.mem_of_getLast? hl)
  rw [trim, trimStart_of_not_isBlank hs]
  exact dropWhileEnd_of_last hlast

end Typeahead.Text
