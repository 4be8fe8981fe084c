import Typeahead.Label
import Typeahead.Proofs.Text.Pattern

/-!
# Tags put into a text

An element around a stretch of text brings two tags of its own. They cannot spoil the tags that are
there: a `<` of the text that opened no tag meets the `<` of the new one first, and a stray `>` has
no `<` left to close. So stripping the tags gives the same text as before (`stripTags_of_wraps`).

What decides is the first angle bracket behind a `<` (`Closes`).
-/

namespace Typeahead.Markup
open Text

/-- No angle bracket occurs. -/
def BracketFree (s : List Char) : Prop := ∀ c ∈ s, notAngle c

instance (s : List Char) : Decidable (BracketFree s) :=
  decidable_of_iff (s.all notAngle = true) List.all_eq_true

theorem notAngle_or (c : Char) : notAngle c = true ∨ c = '>' ∨ c = '<' := by
  by_cases hgt : c = '>'
  · exact .inr (.inl hgt)
  by_cases hlt : c = '<'
  · exact .inr (.inr hlt)
  · exact .inl (by simp [notAngle, hgt, hlt])

theorem BracketFree.cons_slash {name : List Char} (h : BracketFree name) :
    BracketFree ('/' :: name) := by
  intro c hc
  rcases List.mem_cons.mp hc with rfl | hc
  · decide
  · exact h c hc

/-! ### What follows a `<` -/

/-- The first angle bracket is `>`, so that a `<` before it opens a tag. -/
def Closes (s : List Char) : Prop := (s.dropWhile notAngle).head? = some '>'

theorem closes_cons_of_notAngle {c : Char} {s : List Char} (h : notAngle c) :
    Closes (c :: s) ↔ Closes s := by
  rw [Closes, List.dropWhile_cons_of_pos h, Closes]

theorem closes_gt (s : List Char) : Closes ('>' :: s) := by
  rw [Closes, List.dropWhile_cons_of_neg (by decide), List.head?_cons]

theorem not_closes_lt (s : List Char) : ¬ Closes ('<' :: s) := by
  rw [Closes, List.dropWhile_cons_of_neg (by decide), List.head?_cons]
  decide

/-- Whatever begins with `<` closes nothing, so it may as well be replaced by anything. -/
theorem Closes.of_append_lt {m s t : List Char} (h : Closes (m ++ '<' :: t)) : Closes (m ++ s) := by
  induction m with
  | nil => exact absurd h (not_closes_lt t)
  | cons c m ih =>
    rcases notAngle_or c with hc | rfl | rfl
    · exact (closes_cons_of_notAngle hc).mpr (ih ((closes_cons_of_notAngle hc).mp h))
    · exact closes_gt _
    · exact absurd h (not_closes_lt _)

theorem tagHead?_cons_eq_none_iff {c : Char} {s : List Char} :
    tagHead? (c :: s) = none ↔ (c = '<' → ¬ Closes s) := by
  by_cases hc : c = '<'
  · subst hc
    rw [tagHead?, Closes]
    split
    · rename_i r hd; simp [hd]
    · rename_i hd
      simp only [true_imp_iff, true_iff, List.head?_eq_some_iff]
      rintro ⟨r, hr⟩
      exact hd r hr
  · simp [tagHead?, hc]

theorem tagHead?_of_bracketFree {b : List Char} (hb : BracketFree b) (s : List Char) :
    tagHead? ('<' :: b ++ '>' :: s) = some ('<' :: b ++ ['>'], s) := by
  have hd : (b ++ '>' :: s).dropWhile notAngle = '>' :: s :=
    dropWhile_append_cons hb (by decide) s
  have ht : (b ++ '>' :: s).takeWhile notAngle = b := takeWhile_append_cons hb (by decide) s
  simp [tagHead?, hd, ht]

theorem tagHead?_append {m s : List Char} (h : tagHead? (m ++ s) = some (m, s)) (t : List Char) :
    tagHead? (m ++ t) = some (m, t) := by
  obtain ⟨b, rfl, -, hb⟩ := tagHead?_eq_some h
  simpa using tagHead?_of_bracketFree hb t

/-! ### Stretches without tags -/

theorem clear_of_lt_not_mem {a : List Char} (h : '<' ∉ a) (s : List Char) : tag.Clear s a := by
  refine tag.clear_of_not_mem (fun s m r hm => ?_) h s
  obtain ⟨b, rfl, -⟩ := tagHead?_eq_some hm
  rfl

/-- A stretch without tags stays one when a `<` comes to follow it. -/
theorem clear_lt {m s : List Char} (h : tag.Clear s m) (t : List Char) : tag.Clear ('<' :: t) m := by
  induction m with
  | nil => trivial
  | cons c m ih =>
    obtain ⟨hc, hm⟩ := h
    refine ⟨tagHead?_cons_eq_none_iff.mpr fun hlt hcl => ?_, ih hm⟩
    exact tagHead?_cons_eq_none_iff.mp hc hlt hcl.of_append_lt

theorem clear_of_written {s m r : List Char} (h : written.head? s = some (m, r)) :
    tag.Clear r m := by
  refine clear_of_lt_not_mem ?_ r
  have word : ∀ {lead s'}, wordHead? lead s' = some (m, r) → '<' ∉ lead → '<' ∉ m := by
    intro lead s' hw hl
    obtain ⟨b, rfl, -, -, hb⟩ := wordHead?_eq_some hw
    have hlt : '<' ∉ b := fun hm => absurd (hb _ hm) (by decide)
    simp [hl, hlt]
  change writtenHead? s = some (m, r) at h
  unfold writtenHead? at h
  split at h
  · exact word h (by decide)
  · exact word h (by decide)
  · cases h

/-! ### Stripping -/

theorem stripTags_of_tagHead? {s m r : List Char} (h : tagHead? s = some (m, r)) :
    stripTags s = stripTags r := tag.replace_of_head? h

theorem stripTags_cons {c : Char} {s : List Char} (h : tagHead? (c :: s) = none) :
    stripTags (c :: s) = c :: stripTags s := tag.replace_cons h

theorem stripTags_append {m s : List Char} (h : tag.Clear s m) :
    stripTags (m ++ s) = m ++ stripTags s := tag.replace_append_of_clear h

/-! ### Stripping what was put in -/

section
variable {name : List Char} {W : List Char → Prop} {s t : List Char}

theorem element_append (name m t : List Char) :
    element name m ++ t = ('<' :: name ++ '>' :: (m ++ ('<' :: ('/' :: name) ++ '>' :: t))) := by
  simp [element]

theorem Closes.of_wraps (h : tag.Wraps (element name) W s t) (ht : Closes t) : Closes s := by
  induction h with
  | nil => exact ht
  | wrap _ _ _ _ =>
    rw [element_append] at ht
    exact absurd ht (not_closes_lt _)
  | @char c s t hc _ ih =>
    rcases notAngle_or c with hn | rfl | rfl
    · exact (closes_cons_of_notAngle hn).mpr (ih ((closes_cons_of_notAngle hn).mp ht))
    · exact closes_gt _
    · exact absurd ht (not_closes_lt _)
  | kept hm _ _ =>
    obtain ⟨b, rfl, -⟩ := tagHead?_eq_some hm
    exact absurd ht (not_closes_lt _)

/-- A character that opens no tag opens none in the marked text either. -/
theorem tagHead?_cons_of_wraps {c : Char} (hc : tagHead? (c :: s) = none)
    (h : tag.Wraps (element name) W s t) : tagHead? (c :: t) = none :=
  tagHead?_cons_eq_none_iff.mpr fun hlt hcl => tagHead?_cons_eq_none_iff.mp hc hlt (hcl.of_wraps h)

/-- Elements put around stretches without tags go when the tags are stripped. -/
theorem stripTags_of_wraps (hname : BracketFree name) (h : tag.Wraps (element name) W s t) :
    stripTags t = stripTags s := by
  induction h with
  | nil => rfl
  | @wrap m s t _ hc _ ih =>
    calc stripTags (element name m ++ t)
        = stripTags (m ++ ('<' :: ('/' :: name) ++ '>' :: t)) := by
          rw [element_append, stripTags_of_tagHead? (tagHead?_of_bracketFree hname _)]
      _ = m ++ stripTags ('<' :: ('/' :: name) ++ '>' :: t) := stripTags_append (clear_lt hc _)
      _ = m ++ stripTags t := by
          rw [stripTags_of_tagHead? (tagHead?_of_bracketFree hname.cons_slash t)]
      _ = stripTags (m ++ s) := by rw [ih, stripTags_append hc]
  | @char c s t hc hw ih =>
    rw [stripTags_cons (tagHead?_cons_of_wraps hc hw), stripTags_cons hc, ih]
  | @kept m s t hm _ ih =>
    rw [stripTags_of_tagHead? (tagHead?_append hm t), stripTags_of_tagHead? hm, ih]

end

end Typeahead.Markup
