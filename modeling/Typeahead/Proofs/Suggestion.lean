import Mathlib
import Typeahead.Proofs.Label
import Typeahead.Settings
import Typeahead.Suggestion

/-!
# What a row shows

A row of the menu comes from one choice of the list (`mem_suggest`). Its label is the label of the
choice, highlighted; its value is the text that this label shows. Highlighting does not change what
a label shows, if the name of the element has no angle bracket, and the settings admit no other
(`displayText_highlight`). So what the menu shows in a row is what a pick puts into the input.
-/

namespace Typeahead
open Text Markup

namespace Suggestion

theorem ofChoice?_eq_some_iff {q : Query} {tag : String} {c : Choice} {i : Nat} {s : Suggestion} :
    ofChoice? q tag c i = some s ↔
      c.isEmpty = false ∧ q.accepts (displayText c.label) = true ∧
        s = ⟨q.mark tag c.label, displayText c.label, some i⟩ := by
  unfold ofChoice?
  split
  · simp_all
  · rename_i hc
    simp only [Bool.not_eq_true] at hc
    simp only [hc, true_and]
    split
    · rename_i ha; simp [ha, eq_comm]
    · rename_i ha; simp [ha]

end Suggestion

section
variable [Engine]

/-- A row stands for one of the choices, at its position. -/
theorem mem_suggest {choices : List Choice} {term tag : String} {s : Suggestion}
    (h : s ∈ suggest choices term tag) :
    ∃ c i, choices[i]? = some c ∧ Suggestion.ofChoice? (Query.ofTerm term) tag c i = some s := by
  unfold suggest at h
  split at h
  · simp at h
  · obtain ⟨⟨c, i⟩, hc, hs⟩ := List.mem_filterMap.mp h
    exact ⟨c, i, List.mk_mem_zipIdx_iff_getElem?.mp hc, hs⟩

end

theorem Settings.bracketFree_of_check {s : Settings} (h : s.check = .ok ()) :
    BracketFree s.highlightTag.toList := by
  intro c hc
  have hall : s.highlightTag.toList.all Char.isAlphanum = true := by
    cases ha : s.highlightTag.toList.all Char.isAlphanum with
    | true => rfl
    | false => simp [Settings.check, ha] at h
  have hca := List.all_eq_true.mp hall c hc
  rcases notAngle_or c with hn | rfl | rfl
  · exact hn
  · exact absurd hca (by decide)
  · exact absurd hca (by decide)

/-- Highlighting never changes what a label shows, whatever the term and whether or not there is a
pattern for it, and a row of the menu shows the text that picking it puts into the input. The
element may have any name without angle brackets; settings that pass their check have such a
name. -/
theorem displayText_highlight [Engine] :
    (∀ tag, BracketFree tag.toList → ∀ label term,
      displayText (highlight label term tag) = displayText label) ∧
    (∀ tag, BracketFree tag.toList → ∀ choices term, ∀ s ∈ suggest choices term tag,
      displayText s.label = s.value) ∧
    ∀ settings : Settings, settings.check = .ok () → BracketFree settings.highlightTag.toList := by
  refine ⟨fun tag h label term => displayText_mark _ h label, fun tag h choices term s hs => ?_,
    fun settings => Settings.bracketFree_of_check⟩
  obtain ⟨c, i, -, hc⟩ := mem_suggest hs
  obtain ⟨-, -, rfl⟩ := Suggestion.ofChoice?_eq_some_iff.mp hc
  exact displayText_mark _ h c.label

section
attribute [local instance] Engine.unlimited

/-- The name `em`, a label with a tag, a reference and two stray brackets, and terms of both kinds:
one with an angle bracket of its own, and one that finds a row. -/
theorem displayText_highlight_em :
    BracketFree "em".toList ∧
    displayText (highlight "<b>Fish</b> &amp; <Chips>>" "S>" "em") =
      displayText "<b>Fish</b> &amp; <Chips>>" ∧
    ⟨"<b>Fi<em>sh</em></b>", "Fish", some 1⟩ ∈ suggest [.none, ⟨"<b>Fish</b>", "f"⟩] "SH" "em" ∧
    displayText "<b>Fi<em>sh</em></b>" = "Fish" ∧
    ({} : Settings).check = .ok () ∧ BracketFree ({} : Settings).highlightTag.toList := by
  have hem : BracketFree "em".toList := by decide
  let row : Suggestion := ⟨"<b>Fi<em>sh</em></b>", "Fish", some 1⟩
  have hrow : suggest [.none, ⟨"<b>Fish</b>", "f"⟩] "SH" "em" = [row] := by cbv
  have hmem : row ∈ suggest [.none, ⟨"<b>Fish</b>", "f"⟩] "SH" "em" := by
    rw [hrow]; exact List.mem_singleton_self row
  have hcheck : ({} : Settings).check = .ok () := rfl
  exact ⟨hem, displayText_highlight.1 "em" hem "<b>Fish</b> &amp; <Chips>>" "S>", hmem,
    displayText_highlight.2.1 "em" hem [.none, ⟨"<b>Fish</b>", "f"⟩] "SH" row hmem, hcheck,
    displayText_highlight.2.2 {} hcheck⟩

end

end Typeahead
