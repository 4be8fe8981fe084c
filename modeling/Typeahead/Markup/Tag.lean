import Typeahead.Text.Pattern

/-!
# Tags

A tag runs from `<` to the next `>` when no other angle bracket stands between. A `<` that meets
another `<` or the end of the text first is plain text, and so is a stray `>`.
-/

namespace Typeahead.Markup
open Text

/-- Neither angle bracket. -/
def notAngle (c : Char) : Bool := c ≠ '<' && c ≠ '>'

/-- The tag at the front of a text, and what follows. -/
def tagHead? : List Char → Option (List Char × List Char)
  | '<' :: s =>
    match s.dropWhile notAngle with
    | '>' :: r => some ('<' :: s.takeWhile notAngle ++ ['>'], r)
    | _ => none
  | _ => none

theorem tagHead?_eq_some {s m r : List Char} (h : tagHead? s = some (m, r)) :
    ∃ b, m = '<' :: b ++ ['>'] ∧ s = m ++ r ∧ ∀ c ∈ b, notAngle c := by
  match s, h with
  | [], h => simp [tagHead?] at h
  | c :: s, h =>
    unfold tagHead? at h
    split at h
    · rename_i s' heq
      split at h
      · rename_i r' hr
        simp only [Option.some.injEq, Prod.mk.injEq] at h
        obtain ⟨rfl, rfl⟩ := h
        simp only [List.cons.injEq] at heq
        obtain ⟨rfl, rfl⟩ := heq
        refine ⟨s.takeWhile notAngle, rfl, ?_, fun c hc => List.all_eq_true.mp List.all_takeWhile c hc⟩
        have := List.takeWhile_append_dropWhile (p := notAngle) (l := s)
        rw [hr] at this
        simp [this]
      · simp at h
    · simp at h

/-- Tags. -/
def tag : Pattern where
  head? := tagHead?
  split s m r h := (tagHead?_eq_some h).choose_spec.2.1
  ne_nil s m r h := by
    obtain ⟨b, rfl, _⟩ := tagHead?_eq_some h
    simp

/-- The text without its tags. -/
def stripTags (s : List Char) : List Char := tag.replace (fun _ => []) s

end Typeahead.Markup
