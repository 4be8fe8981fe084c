import Typeahead.Proofs.Markup.Tag
import Typeahead.Proofs.Text.Extent

/-!
# The form of markup

What highlighting leaves alone is said by its form (`IsMarkup`): a tag, or a reference whether it
stands for something or not. The pattern recognises just that (`recognizes_markup`).
-/

namespace Typeahead.Markup
open Text

/-- `<`, no angle brackets, `>`. -/
def IsTag (m : List Char) : Prop := ∃ b, m = '<' :: b ++ ['>'] ∧ BracketFree b

/-- `&` or `&#`, at least one letter or digit, `;`. -/
def IsReference (m : List Char) : Prop :=
  ∃ lead ∈ [['&'], ['&', '#']], ∃ b, m = lead ++ b ++ [';'] ∧ b ≠ [] ∧ ∀ c ∈ b, isAlphanumeric c

/-- A tag or a reference. -/
def IsMarkup (m : List Char) : Prop := IsTag m ∨ IsReference m

theorem recognizes_tag : tag.Recognizes IsTag := by
  intro s m r
  constructor
  · intro h
    obtain ⟨b, hm, hs, hb⟩ := tagHead?_eq_some h
    exact ⟨hs, b, hm, hb⟩
  · rintro ⟨rfl, b, rfl, hb⟩
    have htag := tagHead?_of_bracketFree hb r
    rw [List.append_cons] at htag
    exact htag

theorem wordHead?_of_alphanumeric {b : List Char} (hne : b ≠ []) (hb : ∀ c ∈ b, isAlphanumeric c)
    (lead r : List Char) : wordHead? lead (b ++ ';' :: r) = some (lead ++ b ++ [';'], r) := by
  have hd : (b ++ ';' :: r).dropWhile isAlphanumeric = ';' :: r :=
    dropWhile_append_cons hb (by decide) r
  have ht : (b ++ ';' :: r).takeWhile isAlphanumeric = b := takeWhile_append_cons hb (by decide) r
  simp [wordHead?, hd, ht, hne]

/-- The `#` belongs to what is before the letters and digits, as it is none of them. -/
theorem writtenHead?_of_ne_hash {c : Char} (h : c ≠ '#') (s : List Char) :
    writtenHead? ('&' :: c :: s) = wordHead? ['&'] (c :: s) := by
  rw [writtenHead?]
  rintro s' ⟨⟩
  exact h rfl

theorem recognizes_written : written.Recognizes IsReference := by
  intro s m r
  constructor
  · intro h
    refine ⟨(writtenHead?_eq_some h).1, ?_⟩
    change writtenHead? s = some (m, r) at h
    unfold writtenHead? at h
    split at h
    · obtain ⟨b, hm, -, hb⟩ := wordHead?_eq_some h
      exact ⟨_, by simp, b, hm, hb⟩
    · obtain ⟨b, hm, -, hb⟩ := wordHead?_eq_some h
      exact ⟨_, by simp, b, hm, hb⟩
    · cases h
  · rintro ⟨rfl, lead, hlead, b, rfl, hne, hb⟩
    have hword := wordHead?_of_alphanumeric hne hb lead r
    change writtenHead? _ = _
    simp only [List.mem_cons, List.not_mem_nil, or_false] at hlead
    rcases hlead with rfl | rfl
    · obtain ⟨c, b, rfl⟩ := List.exists_cons_of_ne_nil hne
      have hc : c ≠ '#' := by
        rintro rfl
        exact absurd (hb _ List.mem_cons_self) (by decide)
      simpa using (writtenHead?_of_ne_hash hc _).trans hword
    · simpa [writtenHead?] using hword

theorem tagHead?_of_written {s : List Char} (h : (written.head? s).isSome) : tag.head? s = none := by
  obtain ⟨⟨m, r⟩, h⟩ := Option.isSome_iff_exists.mp h
  obtain ⟨rfl, lead, hlead, b, rfl, -⟩ := recognizes_written.mp h
  simp only [List.mem_cons, List.not_mem_nil, or_false] at hlead
  rcases hlead with rfl | rfl <;> rfl

theorem recognizes_markup : markup.Recognizes IsMarkup :=
  recognizes_tag.orElse recognizes_written fun _ => tagHead?_of_written

end Typeahead.Markup
