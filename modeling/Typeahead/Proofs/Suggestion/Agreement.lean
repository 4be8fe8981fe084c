import Typeahead.Proofs.Markup.Reference
import Typeahead.Proofs.Suggestion.Listed

/-!
# Listing and highlighting agree

Whether a choice is listed is decided by the text that its label shows; what is highlighted, by the
gaps between the markup of the label. The two meet because a gap without `&` is shown as it is
(`gap_infix_shown`), and a label without markup altogether (`displayText_of_markupFree`). So where
something is highlighted the choice is listed, and in a label without markup just there
(`listed_of_highlighted`).
-/

namespace Typeahead
open Text Markup

/-- Each `&` of the label belongs to its markup. -/
def AmpersandsInMarkup (label : String) : Prop :=
  ∃ kept, Leftmost IsMarkup label.toList (.whole label.toList) kept ∧
    ∀ i, label.toList[i]? = some '&' → ∃ k ∈ kept, k.start ≤ i ∧ i < k.stop

/-- No part of the label is markup. -/
def MarkupFree (label : String) : Prop := ∀ m, m <:+: label.toList → ¬ IsMarkup m

/-! ### What is highlighted -/

theorem found_mem_marking_iff {p : Pattern} {label m : List Char} :
    .found m ∈ marking p label ↔ ∃ g, .plain g ∈ markup.pieces label ∧ .found m ∈ p.pieces g := by
  rw [marking, List.mem_flatMap]
  constructor
  · rintro ⟨x, hx, hm⟩
    cases x with
    | plain g => exact ⟨g, hx, hm⟩
    | found k => cases List.mem_singleton.mp hm
  · rintro ⟨g, hg, hm⟩
    exact ⟨_, hg, hm⟩

theorem emphasize_ne_iff (p : Pattern) (name label : List Char) :
    emphasize p name label ≠ label ↔ ∃ g, .plain g ∈ markup.pieces label ∧ p.occursIn g = true := by
  have hlonger : ∀ m, m.length < (element name m).length := by
    intro m
    simp only [element, List.length_append, List.length_cons]
    omega
  have hne := Piece.flatMap_replace_ne_iff hlonger (marking p label)
  rw [← emphasize_eq_flatMap, join_marking] at hne
  simp only [hne, found_mem_marking_iff, ← p.exists_found_iff, ← exists_and_left]
  exact exists_comm

theorem mark_ne_iff (p : Pattern) (tag label : String) :
    (Query.containing p).mark tag label ≠ label ↔
      ∃ g, .plain g ∈ markup.pieces label.toList ∧ p.occursIn g = true := by
  rw [← emphasize_ne_iff p tag.toList, Query.mark, ne_eq, ← String.toList_inj, String.toList_ofList]

/-! ### What is shown -/

theorem stripTags_of_first?_eq_none {s : List Char} (h : markup.first? s = none) :
    stripTags s = s := by
  have hclear : tag.Clear [] s := (markup.clear_of_first?_eq_none h).of_orElse
  have hnil : stripTags [] = [] := tag.replace_nil
  have happend := stripTags_append hclear
  rwa [hnil, List.append_nil] at happend

/-- What stands before the first markup is shown as it is, and what follows it is shown by itself. -/
theorem exists_shown {s a m r : List Char} (h : markup.first? s = some (a, m, r)) (ha : '&' ∉ a) :
    ∃ d, decode (stripTags s) = a ++ d ++ decode (stripTags r) := by
  obtain rfl := markup.first?_split h
  have hclear : tag.Clear (m ++ r) a := (markup.clear_of_first? h).of_orElse
  rw [List.append_assoc, stripTags_append hclear, decode_append ha]
  rcases Option.or_eq_some_iff.mp (markup.head?_of_first? h) with htag | ⟨-, hwritten⟩
  · rw [stripTags_of_tagHead? htag]
    exact ⟨[], by simp⟩
  · obtain ⟨d, hd⟩ := exists_decode_append (recognizes_written.mp hwritten).2 (stripTags r)
    rw [stripTags_append (clear_of_written hwritten), hd]
    exact ⟨d, by simp⟩

theorem gap_infix_shown {s g : List Char} (hamp : ∀ g, .plain g ∈ markup.pieces s → '&' ∉ g)
    (hg : .plain g ∈ markup.pieces s) : g <:+: decode (stripTags s) := by
  induction s using Pattern.pieces.induct markup with
  | case1 s h =>
    rw [markup.pieces_of_none h] at hamp hg
    cases List.mem_singleton.mp hg
    have hshown := decode_append (hamp g List.mem_cons_self) []
    rw [List.append_nil] at hshown
    rw [stripTags_of_first?_eq_none h, hshown]
    exact ⟨[], decode [], rfl⟩
  | case2 s a m r h ih =>
    rw [markup.pieces_of_some h] at hamp hg
    obtain ⟨d, hd⟩ := exists_shown h (hamp a List.mem_cons_self)
    rw [hd]
    rcases List.mem_cons.mp hg with heq | hg
    · cases heq
      exact ⟨[], d ++ decode (stripTags r), by simp⟩
    · have hrest : .plain g ∈ markup.pieces r := List.mem_of_ne_of_mem (by simp) hg
      have hshown := ih (fun g hg => hamp g (by simp [hg])) hrest
      exact hshown.trans ⟨a ++ d, [], by simp⟩

theorem markupFree_iff {label : String} :
    MarkupFree label ↔ markup.occursIn label.toList = false := by
  rw [← Bool.not_eq_true, recognizes_markup.occursIn_iff, MarkupFree]
  simp only [not_exists, not_and]

theorem first?_eq_none_of_markupFree {label : String} (h : MarkupFree label) :
    markup.first? label.toList = none := by
  simpa [Pattern.occursIn] using markupFree_iff.mp h

theorem displayText_of_markupFree {label : String} (h : MarkupFree label) :
    displayText label = label := by
  have hreference : reference.first? label.toList = none := by
    rw [Option.eq_none_iff_forall_ne_some]
    rintro ⟨a, m, r⟩ hfirst
    have hpart : m <:+: label.toList := ⟨a, r, (reference.first?_split hfirst).symm⟩
    have href := isReference_of_reference (reference.head?_of_first? hfirst)
    exact h m hpart (.inr href)
  rw [displayText, stripTags_of_first?_eq_none (first?_eq_none_of_markupFree h), decode,
    reference.replace_of_first?_eq_none hreference, String.ofList_toList]

/-! ### Both together -/

theorem gap_infix_displayText {label : String} (h : AmpersandsInMarkup label) {g : List Char}
    (hg : .plain g ∈ markup.pieces label.toList) : g <:+: (displayText label).toList := by
  obtain ⟨kept, hkept, hcovered⟩ := h
  rw [leftmost_whole_iff recognizes_markup] at hkept
  subst hkept
  rw [displayText, String.toList_ofList]
  refine gap_infix_shown (fun g hg => Piece.not_mem_of_covered (i := 0) (fun j hj => ?_) hg) hg
  rw [markup.join_pieces] at hj
  rw [Nat.zero_add]
  exact hcovered j hj

/-- There is a pattern for the term. If each `&` of a label belongs to its markup, a choice is listed
whenever something in its label is highlighted. If the label has no markup, it is listed just
then. -/
theorem listed_of_highlighted [Engine] {choices : List Choice} {i : Nat} {c : Choice} {term : String}
    (tag : String) (hc : choices[i]? = some c) (hvalue : c.value ≠ "") (hterm : term ≠ "")
    (hbuilds : Engine.builds term) :
    (AmpersandsInMarkup c.label → highlight c.label term tag ≠ c.label →
      i ∈ listed (suggest choices term tag)) ∧
    (MarkupFree c.label →
      (i ∈ listed (suggest choices term tag) ↔ highlight c.label term tag ≠ c.label)) := by
  obtain ⟨p, hp, hL⟩ := exists_recognizes_of_builds hterm hbuilds
  have hlisted : i ∈ listed (suggest choices term tag) ↔
      p.occursIn (displayText c.label).toList = true := by
    rw [mem_listed_suggest_iff hc, hp, Query.admits, Choice.isEmpty]
    simp [hvalue, Query.accepts]
  have hmark : highlight c.label term tag ≠ c.label ↔
      ∃ g, .plain g ∈ markup.pieces c.label.toList ∧ p.occursIn g = true := by
    rw [highlight, hp]
    exact mark_ne_iff p tag c.label
  rw [hlisted, hmark]
  refine ⟨?_, fun hfree => ?_⟩
  · rintro hamp ⟨g, hg, hoccurs⟩
    obtain ⟨m, hm, hfold⟩ := hL.occursIn_iff.mp hoccurs
    exact hL.occursIn_iff.mpr ⟨m, hm.trans (gap_infix_displayText hamp hg), hfold⟩
  · rw [displayText_of_markupFree hfree, markup.pieces_of_none (first?_eq_none_of_markupFree hfree)]
    simp

section
attribute [local instance] Engine.unlimited

theorem listed_of_highlighted_qa :
    "A" ≠ "" ∧ Engine.builds "A" ∧ AmpersandsInMarkup "q&amp;a" ∧
      highlight "q&amp;a" "A" "em" ≠ "q&amp;a" ∧
      0 ∈ listed (suggest [⟨"q&amp;a", "1"⟩, ⟨"a & b", "2"⟩] "A" "em") ∧
      MarkupFree "a & b" ∧
      (1 ∈ listed (suggest [⟨"q&amp;a", "1"⟩, ⟨"a & b", "2"⟩] "A" "em") ↔
        highlight "a & b" "A" "em" ≠ "a & b") := by
  have hbuilds : Engine.builds "A" := rfl
  have hextents : markupExtents "q&amp;a" = [⟨1, 6⟩] := by decide +kernel
  have hplaces : ∀ i < 7, "q&amp;a".toList[i]? = some '&' → 1 ≤ i ∧ i < 6 := by decide +kernel
  have hamp : AmpersandsInMarkup "q&amp;a" := by
    refine ⟨_, leftmost_markupExtents _, fun i hi => ⟨⟨1, 6⟩, by simp [hextents], ?_⟩⟩
    have hlt : i < "q&amp;a".toList.length := (List.getElem?_eq_some_iff.mp hi).1
    exact hplaces i hlt hi
  have hmarked : highlight "q&amp;a" "A" "em" ≠ "q&amp;a" := by decide +kernel
  have hfree : MarkupFree "a & b" := markupFree_iff.mpr (by decide +kernel)
  let menu : List Choice := [⟨"q&amp;a", "1"⟩, ⟨"a & b", "2"⟩]
  have hq : menu[0]? = some ⟨"q&amp;a", "1"⟩ := rfl
  have ha : menu[1]? = some ⟨"a & b", "2"⟩ := rfl
  have hlisted := listed_of_highlighted "em" hq (by decide) (by decide) hbuilds
  have hagree := listed_of_highlighted "em" ha (by decide) (by decide) hbuilds
  exact ⟨by decide, hbuilds, hamp, hmarked, hlisted.1 hamp hmarked, hfree, hagree.2 hfree⟩

end

end Typeahead
