import Typeahead.Proofs.Markup.Form
import Typeahead.Text.Blank

/-!
# Elements put into a text

The tags of a text are read from the left (`TagsOf`). Elements around stretches without tags put
pairs of tags among them, the closing tag right behind the opening one (`pairsAdded_of_wraps`). So
tags that were well nested still are (`Nests.of_pairsAdded`).
-/

namespace Typeahead.Markup
open Text

/-- `ts` are the leftmost tags of `s`, in order. -/
def TagsOf (s : String) (ts : List (List Char)) : Prop :=
  ∃ ks, (∀ xs, Leftmost IsTag s.toList (.whole s.toList) xs ↔ xs = ks) ∧
    ts = ks.map (·.of s.toList)

theorem tagsOf_iff {s : String} {ts : List (List Char)} :
    TagsOf s ts ↔ ts = tag.matched s.toList := by
  have hmap := Piece.map_of_extents [] [] (tag.pieces s.toList)
  rw [List.nil_append, List.append_nil, tag.join_pieces] at hmap
  constructor
  · rintro ⟨ks, hks, rfl⟩
    rw [← (hks _).mp ((leftmost_whole_iff recognizes_tag).mpr rfl)]
    exact hmap
  · rintro rfl
    exact ⟨_, fun _ => leftmost_whole_iff recognizes_tag, hmap.symm⟩

def opening (name : List Char) : List Char := '<' :: name ++ ['>']

def closing (name : List Char) : List Char := opening ('/' :: name)

/-! ### Pairs of tags -/

/-- `us` is `ts` with any number of pairs `o`, `c` put in. -/
inductive PairsAdded (o c : List Char) : List (List Char) → List (List Char) → Prop
  | nil : PairsAdded o c [] []
  | kept {t : List Char} {ts us : List (List Char)} (h : PairsAdded o c ts us) :
      PairsAdded o c (t :: ts) (t :: us)
  | pair {ts us : List (List Char)} (h : PairsAdded o c ts us) : PairsAdded o c ts (o :: c :: us)

theorem PairsAdded.refl (o c : List Char) (ts : List (List Char)) : PairsAdded o c ts ts := by
  induction ts with
  | nil => exact .nil
  | cons t ts ih => exact .kept ih

theorem matched_tag {b : List Char} (hb : BracketFree b) (s : List Char) :
    tag.matched ('<' :: b ++ '>' :: s) = opening b :: tag.matched s :=
  tag.matched_of_head? (tagHead?_of_bracketFree hb s)

theorem matched_element_append {name m s : List Char} (hname : BracketFree name)
    (hm : tag.Clear s m) (t : List Char) :
    tag.matched (element name m ++ t) = opening name :: closing name :: tag.matched t := by
  have hclear : tag.Clear ('<' :: ('/' :: name) ++ '>' :: t) m := clear_lt hm _
  rw [element_append, matched_tag hname, tag.matched_append_of_clear hclear,
    matched_tag hname.cons_slash, closing]

/-- Elements put around stretches without tags bring pairs of tags, and leave those that are there. -/
theorem pairsAdded_of_wraps {name s t : List Char} {W : List Char → Prop} (hname : BracketFree name)
    (h : tag.Wraps (element name) W s t) :
    PairsAdded (opening name) (closing name) (tag.matched s) (tag.matched t) := by
  induction h with
  | nil => exact .refl _ _ _
  | @wrap m s t _ hc _ ih =>
    rw [tag.matched_append_of_clear hc, matched_element_append hname hc]
    exact .pair ih
  | @char c s t hc hw ih =>
    rw [tag.matched_cons hc, tag.matched_cons (tagHead?_cons_of_wraps hc hw)]
    exact ih
  | @kept m s t hm _ ih =>
    rw [tag.matched_of_head? hm, tag.matched_of_head? (tagHead?_append hm t)]
    exact .kept ih

/-! ### Nesting -/

/-- The tag `m` has the name `name`; what a blank sets apart from it does not belong to the name. -/
def Named (name m : List Char) : Prop :=
  ∃ attributes, m = opening (name ++ attributes) ∧ ∀ c ∈ attributes.head?, isBlank c

theorem named_opening (name : List Char) : Named name (opening name) :=
  ⟨[], by rw [List.append_nil], by simp⟩

/-- Reading the tags `ts` while the elements of `stack` are open, innermost first, every element is
closed in its turn. Tags that are `lone` neither open nor close one. -/
inductive Nests (lone : List Char → Prop) : List (List Char) → List (List Char) → Prop
  | done : Nests lone [] []
  | lone {m : List Char} {stack ts : List (List Char)} (hm : lone m) (h : Nests lone stack ts) :
      Nests lone stack (m :: ts)
  | opened {name m : List Char} {stack ts : List (List Char)} (hm : Named name m)
      (h : Nests lone (name :: stack) ts) : Nests lone stack (m :: ts)
  | closed {name m : List Char} {stack ts : List (List Char)} (hm : Named ('/' :: name) m)
      (h : Nests lone stack ts) : Nests lone (name :: stack) (m :: ts)

/-- A pair opens an element and closes it at once, whatever is open. -/
theorem Nests.of_pairsAdded {lone : List Char → Prop} {name : List Char}
    {stack ts us : List (List Char)} (h : Nests lone stack ts)
    (hadd : PairsAdded (opening name) (closing name) ts us) : Nests lone stack us := by
  induction hadd generalizing stack with
  | nil => exact h
  | kept _ ih =>
    cases h with
    | lone hm h => exact .lone hm (ih h)
    | opened hm h => exact .opened hm (ih h)
    | closed hm h => exact .closed hm (ih h)
  | pair _ ih => exact .opened (named_opening name) (.closed (named_opening ('/' :: name)) (ih h))

/-! ### Tags among the markup -/

theorem lt_not_mem_tail_of_isMarkup {m : List Char} (h : IsMarkup m) : '<' ∉ m.tail := by
  rcases h with ⟨b, rfl, hb⟩ | ⟨lead, hlead, b, rfl, -, hb⟩
  · have hlt : '<' ∉ b := fun hmem => absurd (hb _ hmem) (by decide)
    simp [hlt]
  · have hlt : '<' ∉ b := fun hmem => absurd (hb _ hmem) (by decide)
    simp only [List.mem_cons, List.not_mem_nil, or_false] at hlead
    rcases hlead with rfl | rfl <;> simp [hlt]

theorem getElem?_start_of_isTag {s : List Char} {k : Extent} (hk : Matches IsTag s k) :
    k.start < k.stop ∧ s[k.start]? = some '<' := by
  have hlt := recognizes_tag.start_lt_stop hk
  obtain ⟨b, hb, -⟩ := hk.text
  have hfirst : (k.of s)[0]? = some '<' := by rw [hb]; rfl
  rw [Extent.of, List.getElem?_take_of_lt (by omega), List.getElem?_drop, Nat.add_zero] at hfirst
  exact ⟨hlt, hfirst⟩

/-- Scanning for markup passes no tag by: a `<` stands inside no match. -/
theorem mem_of_isTag {s : List Char} {g k : Extent} {ks : List Extent}
    (h : Leftmost IsMarkup s g ks) (hk : Matches IsTag s k) (hg : k.Within g) : k ∈ ks := by
  have hkm : Matches IsMarkup s k := ⟨hk.start_le, hk.stop_le, .inl hk.text⟩
  induction h with
  | done hnone => exact absurd hg (hnone k hkm)
  | @next g x ks hx _ hleast _ ih =>
    have hle := hleast k hkm hg
    by_cases hbehind : x.stop ≤ k.start
    · exact List.mem_cons_of_mem _ (ih ⟨hbehind, hg.stop⟩)
    rcases Nat.eq_or_lt_of_le hle with hstart | hlt
    · rw [recognizes_markup.eq_of_start_eq hx hkm hstart]
      exact List.mem_cons_self
    · obtain ⟨-, hfirst⟩ := getElem?_start_of_isTag hk
      have htail : (x.of s).tail[k.start - x.start - 1]? = some '<' := by
        rw [List.getElem?_tail, Extent.of, List.getElem?_take_of_lt (by omega), List.getElem?_drop,
          show x.start + (k.start - x.start - 1 + 1) = k.start by omega]
        exact hfirst
      exact absurd (List.mem_of_getElem? htail) (lt_not_mem_tail_of_isMarkup hx.text)

end Typeahead.Markup
