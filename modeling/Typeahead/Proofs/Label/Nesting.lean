import Typeahead.Proofs.Label
import Typeahead.Proofs.Label.Occurrences
import Typeahead.Proofs.Markup.Nesting

/-!
# The elements of a highlighted label

Highlighting puts pairs of tags among the tags of a label and never parts a pair
(`pairsAdded_mark`). So the label stays well nested, and no piece that is put into an element meets
a tag of the label (`highlight_keeps_tags`).
-/

namespace Typeahead
open Text Markup

theorem pairsAdded_mark (q : Query) {tag : String} (htag : BracketFree tag.toList) (label : String) :
    PairsAdded (opening tag.toList) (closing tag.toList) (Markup.tag.matched label.toList)
      (Markup.tag.matched (q.mark tag label).toList) := by
  cases q with
  | containing p =>
    rw [Query.mark, String.toList_ofList]
    exact pairsAdded_of_wraps htag (tag_wraps_emphasize p tag.toList label.toList)
  | all | unsearchable => exact .refl _ _ _

/-- The tags of the highlighted text are those of the text, with pairs around what is put into
elements. If they were well nested they still are, whatever tags open and close nothing, and no
piece put into an element meets a tag of the text. -/
theorem highlight_keeps_tags [Engine] (text term tag : String) (htag : BracketFree tag.toList) :
    ∃ ts us, TagsOf text ts ∧ TagsOf (highlight text term tag) us ∧
      PairsAdded (opening tag.toList) (closing tag.toList) ts us ∧
      (∀ lone, Nests lone [] ts → Nests lone [] us) ∧
      ∃ ps kept, Highlighted text tag (highlight text term tag) ps kept ∧
        ∀ w ∈ Piece.extents 0 ps, ∀ k, Matches IsTag text.toList k → w.Apart k := by
  have hadd := pairsAdded_mark (Query.ofTerm term) htag text
  obtain ⟨ps, hps, -, hgaps⟩ := exists_highlighted text term tag
  refine ⟨_, _, tagsOf_iff.mpr rfl, tagsOf_iff.mpr rfl, hadd, fun _ h => h.of_pairsAdded hadd,
    ps, _, hps, fun w hw k hk => ?_⟩
  obtain ⟨-, g, hg, hwg⟩ := hgaps w hw
  have hmarkup := leftmost_markupExtents text
  have hmem := mem_of_isTag hmarkup hk ⟨Nat.zero_le _, hk.stop_le⟩
  exact hwg.apart (apart_of_mem_gaps hmarkup hg hmem)

section
attribute [local instance] Engine.unlimited

theorem highlight_keeps_tags_em :
    BracketFree "em".toList ∧ TagsOf "<b>Fish</b>" [opening ['b'], closing ['b']] ∧
      Nests (fun _ => False) [] [opening ['b'], closing ['b']] ∧
      ∃ us, TagsOf (highlight "<b>Fish</b>" "SH" "em") us ∧
        PairsAdded (opening "em".toList) (closing "em".toList) [opening ['b'], closing ['b']] us ∧
        Nests (fun _ => False) [] us := by
  have hem : BracketFree "em".toList := by decide
  have htags : TagsOf "<b>Fish</b>" [opening ['b'], closing ['b']] := tagsOf_iff.mpr (by cbv)
  have hnests : Nests (fun _ => False) [] [opening ['b'], closing ['b']] :=
    .opened (named_opening ['b']) (.closed (named_opening ['/', 'b']) .done)
  obtain ⟨ts, us, hts, hus, hadd, hkept, -⟩ := highlight_keeps_tags "<b>Fish</b>" "SH" "em" hem
  obtain rfl : ts = [opening ['b'], closing ['b']] :=
    (tagsOf_iff.mp hts).trans (tagsOf_iff.mp htags).symm
  exact ⟨hem, htags, hnests, us, hus, hadd, hkept _ hnests⟩

end

end Typeahead
