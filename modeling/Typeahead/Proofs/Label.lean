import Typeahead.Proofs.Markup.Tag

/-!
# What a highlighted label shows

`emphasize` wraps matches between the markup of a label (`wraps_emphasize`), so no tag of the label
is touched, and once the tags are stripped the label and its highlighted form are one text
(`stripTags_emphasize`). References are decoded after that; so both show the same
(`displayText_mark`).
-/

namespace Typeahead
open Text Markup

/-! ### Emphasis as wrapping -/

theorem emphasize_of_none (p : Pattern) (name : List Char) {label : List Char}
    (h : markup.first? label = none) : emphasize p name label = p.replace (element name) label := by
  simp [emphasize, markup.pieces_of_none h]

theorem emphasize_of_some (p : Pattern) (name : List Char) {label a m r : List Char}
    (h : markup.first? label = some (a, m, r)) :
    emphasize p name label = p.replace (element name) a ++ (m ++ emphasize p name r) := by
  simp [emphasize, markup.pieces_of_some h]

/-- Highlighting puts elements around matches of the term, none of which meets the label's markup. -/
theorem wraps_emphasize (p : Pattern) (name label : List Char) :
    markup.Wraps (element name) (fun m => ∃ s r, p.head? s = some (m, r)) label
      (emphasize p name label) := by
  induction label using Pattern.pieces.induct markup with
  | case1 label h =>
    rw [emphasize_of_none p name h]
    have hw := Pattern.Wraps.replace (f := element name) (q := p)
      (W := fun m => ∃ s r, p.head? s = some (m, r)) (fun s m r hm => ⟨s, r, hm⟩)
      (markup.clear_of_first?_eq_none h) .nil
    simpa using hw
  | case2 label a m r h ih =>
    rw [emphasize_of_some p name h]
    have hm := Pattern.Wraps.kept (markup.head?_of_first? h) ih
    have hw := Pattern.Wraps.replace (q := p) (fun s m r hm => ⟨s, r, hm⟩)
      (markup.clear_of_first? h) hm
    rwa [markup.first?_split h, List.append_assoc]

/-- Of the markup, the tags alone are met by none of the elements either. -/
theorem tag_wraps_emphasize (p : Pattern) (name label : List Char) :
    tag.Wraps (element name) (fun m => ∃ s r, p.head? s = some (m, r)) label
      (emphasize p name label) :=
  (wraps_emphasize p name label).of_orElse fun _ _ _ => clear_of_written

theorem stripTags_emphasize (p : Pattern) {name : List Char} (hname : BracketFree name)
    (label : List Char) : stripTags (emphasize p name label) = stripTags label :=
  stripTags_of_wraps hname (tag_wraps_emphasize p name label)

/-! ### The text shown -/

@[simp] theorem displayText_empty : displayText "" = "" := by
  simp [displayText, stripTags, decode]

theorem displayText_mark (q : Query) {tag : String} (h : BracketFree tag.toList) (label : String) :
    displayText (q.mark tag label) = displayText label := by
  cases q with
  | all => rfl
  | unsearchable => rfl
  | containing p =>
    simp only [displayText, Query.mark, String.toList_ofList]
    rw [stripTags_emphasize p h]

end Typeahead
