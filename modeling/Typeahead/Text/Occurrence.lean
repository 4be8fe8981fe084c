import Typeahead.Text.Fold
import Typeahead.Text.Pattern

/-!
# Occurrences of a term

`Pattern.term` recognises a text that agrees with a given one character by character up to case.
-/

namespace Typeahead.Text

/-- The front of `s` that agrees with the folded term `t`, and what follows. -/
def foldedHead? : List Char → List Char → Option (List Char × List Char)
  | [], s => some ([], s)
  | _ :: _, [] => none
  | d :: t, c :: s =>
    if fold c = d then (foldedHead? t s).map fun (m, r) => (c :: m, r) else none

theorem foldedHead?_eq_some {t s m r : List Char} (h : foldedHead? t s = some (m, r)) :
    s = m ++ r ∧ m.map fold = t := by
  induction t generalizing s m with
  | nil =>
    simp only [foldedHead?, Option.some.injEq, Prod.mk.injEq] at h
    obtain ⟨rfl, rfl⟩ := h
    simp
  | cons d t ih =>
    cases s with
    | nil => simp [foldedHead?] at h
    | cons c s =>
      rw [foldedHead?] at h
      split at h
      · rename_i hc
        obtain ⟨⟨m', r'⟩, hm, heq⟩ := Option.map_eq_some_iff.mp h
        simp only [Prod.mk.injEq] at heq
        obtain ⟨rfl, rfl⟩ := heq
        obtain ⟨rfl, hf⟩ := ih hm
        simp [hc, hf]
      · simp at h

namespace Pattern

/-- Texts that agree with `c :: t` up to case. -/
def term (c : Char) (t : List Char) : Pattern :=
  let folded := fold c :: t.map fold
  { head? := foldedHead? folded
    split := fun _ _ _ h => (foldedHead?_eq_some h).1
    ne_nil := by
      rintro s m r h rfl
      simpa [folded] using (foldedHead?_eq_some h).2 }

end Pattern

end Typeahead.Text
