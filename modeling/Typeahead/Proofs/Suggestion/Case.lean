import Typeahead.Proofs.Suggestion.Listed

/-!
# The case of a term

What a pattern recognises is all there is to it (`Recognizes.eq`), and a term recognises the texts
that agree with it up to case. So two terms that agree with each other up to case, character by
character, and for which there are patterns, ask for the same (`ofTerm_eq_of_sameFold`): the same
rows are listed for them, and the same parts of a label are put into elements, as they stand in the
label and not as they stand in the term (`suggest_highlight_of_sameFold`).
-/

namespace Typeahead
open Text

namespace Text

theorem SameFold.symm {s t : List Char} (h : SameFold s t) : SameFold t s := Eq.symm h

theorem SameFold.trans {s t u : List Char} (h : SameFold s t) (h' : SameFold t u) : SameFold s u :=
  Eq.trans h h'

theorem SameFold.length_eq {s t : List Char} (h : SameFold s t) : s.length = t.length := by
  have hlen := congrArg List.length h
  rwa [List.length_map, List.length_map] at hlen

namespace Pattern
variable {p q : Pattern} {L L' : List Char → Prop}

theorem eq_of_head?_eq (h : ∀ s, p.head? s = q.head? s) : p = q := by
  obtain ⟨head, _, _⟩ := p
  obtain ⟨head', _, _⟩ := q
  obtain rfl : head = head' := funext h
  rfl

/-- Patterns that recognise the same are the same. -/
theorem Recognizes.eq (hp : p.Recognizes L) (hq : q.Recognizes L') (h : ∀ m, L m ↔ L' m) : p = q := by
  refine eq_of_head?_eq fun s => Option.ext fun x => ?_
  obtain ⟨m, r⟩ := x
  rw [hp, hq, h m]

theorem term_eq_of_sameFold {c d : Char} {t u : List Char} (h : SameFold (c :: t) (d :: u)) :
    term c t = term d u :=
  Recognizes.eq (recognizes_term c t) (recognizes_term d u) fun _ =>
    ⟨fun hm => hm.trans h, fun hm => hm.trans h.symm⟩

end Pattern
end Text

section
variable [Engine]

theorem Query.ofTerm_eq_of_sameFold {t u : String} (h : SameFold t.toList u.toList)
    (hbuilds : Engine.builds t = Engine.builds u) : ofTerm t = ofTerm u := by
  have hlen := h.length_eq
  unfold ofTerm
  rw [hbuilds]
  generalize t.toList = s at h hlen
  generalize u.toList = v at h hlen
  cases s with
  | nil =>
    obtain rfl : v = [] := List.eq_nil_of_length_eq_zero hlen.symm
    rfl
  | cons c s =>
    obtain ⟨d, v, rfl⟩ := List.exists_cons_of_length_eq_add_one hlen.symm
    simp only [Pattern.term_eq_of_sameFold h]

omit [Engine] in
/-- `out` is `text` with the element `tag` around parts of it that are the term up to case. -/
def Emphasizes (term tag text out : String) : Prop :=
  ∃ ps kept, Highlighted text tag out ps kept ∧
    ∀ w ∈ Piece.extents 0 ps, SameFold (w.of text.toList) term.toList

theorem emphasizes_highlight (term tag text : String) :
    Emphasizes term tag text (highlight text term tag) := by
  obtain ⟨ps, hps, -, hgaps⟩ := exists_highlighted text term tag
  exact ⟨ps, _, hps, fun w hw => (hgaps w hw).1.text⟩

/-- Terms that agree up to case list the same rows and highlight the same in each text, if there are
patterns for both or for neither. What is put into elements are the characters of the text. -/
theorem suggest_highlight_of_sameFold {t u : String} (h : SameFold t.toList u.toList)
    (hbuilds : Engine.builds t = Engine.builds u) (tag : String) :
    (∀ choices, suggest choices t tag = suggest choices u tag ∧
      ∀ s ∈ suggest choices t tag, ∃ i c, choices[i]? = some c ∧ s.choice = some i ∧
        s.value = displayText c.label ∧ s.label = highlight c.label u tag) ∧
    ∀ text, highlight text t tag = highlight text u tag ∧
      Emphasizes t tag text (highlight text t tag) := by
  have hquery := Query.ofTerm_eq_of_sameFold h hbuilds
  have hrows : ∀ choices, suggest choices t tag = suggest choices u tag := fun choices => by
    rw [suggest_eq_map_filter, suggest_eq_map_filter, hquery]
  refine ⟨fun choices => ⟨hrows choices, fun s hs => ?_⟩, fun text => ⟨?_, ?_⟩⟩
  · rw [hrows] at hs
    obtain ⟨c, i, hc, hrow⟩ := mem_suggest hs
    obtain ⟨-, -, rfl⟩ := Suggestion.ofChoice?_eq_some_iff.mp hrow
    exact ⟨i, c, hc, rfl, rfl, rfl⟩
  · rw [highlight, highlight, hquery]
  · exact emphasizes_highlight t tag text

end

section
attribute [local instance] Engine.unlimited

theorem suggest_highlight_of_sameFold_fish :
    let choices : List Choice := [.none, ⟨"<b>Fi</b>sh", "f"⟩]
    SameFold "FISH".toList "fIsh".toList ∧ Engine.builds "FISH" = Engine.builds "fIsh" ∧
      suggest choices "FISH" "em" = suggest choices "fIsh" "em" ∧
      highlight "Starfish" "FISH" "em" = highlight "Starfish" "fIsh" "em" ∧
      Emphasizes "FISH" "em" "Starfish" (highlight "Starfish" "FISH" "em") := by
  intro choices
  have h : SameFold "FISH".toList "fIsh".toList := by decide
  obtain ⟨hrows, htexts⟩ := suggest_highlight_of_sameFold h rfl "em"
  exact ⟨h, rfl, (hrows choices).1, htexts "Starfish"⟩

example : highlight "Starfish" "FISH" "em" = "Star<em>fish</em>" := by decide +kernel

end

end Typeahead
