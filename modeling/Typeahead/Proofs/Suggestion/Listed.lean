import Typeahead.Proofs.Label.Occurrences
import Typeahead.Proofs.Suggestion

/-!
# Which choices are listed

The rows of the menu are those of the choices that the query admits, in the order of the choices
(`suggest_eq_map_filter`). A query admits a choice that has a value and shows a text in which the
term occurs up to case (`admits_iff`). So the positions listed are known exactly
(`suggest_lists_occurrences`), and a term lists no more than a part of it does
(`listed_suggest_sublist`).
-/

namespace Typeahead
open Text

/-- Some part of `s` is the term `t` up to case. -/
def OccursIn (t s : List Char) : Prop := ∃ m, m <:+: s ∧ SameFold m t

theorem occursIn_nil (s : List Char) : OccursIn [] s := ⟨[], List.nil_infix, rfl⟩

/-- Where a term occurs, each part of it occurs. -/
theorem OccursIn.of_part {t u s : List Char} (h : OccursIn u s) (ht : t <:+: u) : OccursIn t s := by
  obtain ⟨m, hm, hfold⟩ := h
  obtain ⟨a, b, rfl⟩ := ht
  unfold SameFold at hfold
  rw [List.map_append, List.map_append] at hfold
  obtain ⟨m₁, m₂, rfl, h₁, -⟩ := List.map_eq_append_iff.mp hfold
  obtain ⟨k₁, k₂, rfl, -, h₂⟩ := List.map_eq_append_iff.mp h₁
  have hpart : k₂ <:+: k₁ ++ k₂ ++ m₂ := ⟨k₁, m₂, rfl⟩
  exact ⟨k₂, hpart.trans hm, h₂⟩

namespace Query

/-- The choice has a value and shows what is asked for. -/
def admits (q : Query) (c : Choice) : Bool := !c.isEmpty && q.accepts (displayText c.label)

section
variable [Engine] {term : String}

theorem searchable_of_builds (h : term = "" ∨ Engine.builds term) : ofTerm term ≠ .unsearchable := by
  rw [ne_eq, ofTerm_eq_unsearchable_iff]
  rintro ⟨hne, hrefused⟩
  rcases h with hempty | hbuilds
  · exact hne hempty
  · exact Bool.noConfusion (hrefused.symm.trans hbuilds)

theorem accepts_iff (h : ofTerm term ≠ .unsearchable) (s : String) :
    (ofTerm term).accepts s = true ↔ OccursIn term.toList s.toList := by
  cases hquery : ofTerm term with
  | all =>
    rw [eq_empty_of_ofTerm hquery]
    exact iff_of_true rfl (occursIn_nil _)
  | containing p => exact Pattern.Recognizes.occursIn_iff (recognizes_of_ofTerm hquery)
  | unsearchable => exact absurd hquery h

theorem admits_iff (h : ofTerm term ≠ .unsearchable) (c : Choice) :
    (ofTerm term).admits c = true ↔
      c.value ≠ "" ∧ OccursIn term.toList (displayText c.label).toList := by
  rw [admits, Bool.and_eq_true, accepts_iff h, Choice.isEmpty]
  simp

theorem admits_of_unsearchable (h : ofTerm term = .unsearchable) (c : Choice) :
    (ofTerm term).admits c = false := by
  rw [h, admits, accepts, Bool.and_false]

end

end Query

/-! ### The rows -/

theorem ofChoice?_eq_ite (q : Query) (tag : String) (c : Choice) (i : Nat) :
    Suggestion.ofChoice? q tag c i =
      if q.admits c then some ⟨q.mark tag c.label, displayText c.label, some i⟩ else none := by
  cases hc : c.isEmpty <;> simp [Suggestion.ofChoice?, Query.admits, hc]

theorem suggest_eq_map_filter [Engine] (choices : List Choice) (term tag : String) :
    suggest choices term tag =
      (choices.zipIdx.filter fun x => (Query.ofTerm term).admits x.1).map fun x =>
        ⟨(Query.ofTerm term).mark tag x.1.label, displayText x.1.label, some x.2⟩ := by
  rw [← List.filterMap_eq_map, List.filterMap_filter, suggest]
  split
  · rename_i hquery
    simp [Query.admits_of_unsearchable hquery]
  · simp only [ofChoice?_eq_ite, Function.comp_apply]

/-- The positions of the choices that some rows stand for. -/
def listed (rows : List Suggestion) : List Nat := rows.filterMap Suggestion.choice

section
variable [Engine]

theorem listed_suggest (choices : List Choice) (term tag : String) :
    listed (suggest choices term tag) =
      (choices.zipIdx.filter fun x => (Query.ofTerm term).admits x.1).map Prod.snd := by
  rw [suggest_eq_map_filter, listed, List.filterMap_map, ← List.filterMap_eq_map]
  rfl

theorem mem_listed_suggest {choices : List Choice} {term tag : String} {i : Nat} :
    i ∈ listed (suggest choices term tag) ↔
      ∃ c, choices[i]? = some c ∧ (Query.ofTerm term).admits c = true := by
  rw [listed_suggest]
  constructor
  · intro h
    obtain ⟨⟨c, i⟩, hc, rfl⟩ := List.mem_map.mp h
    obtain ⟨hmem, hadmits⟩ := List.mem_filter.mp hc
    exact ⟨c, List.mk_mem_zipIdx_iff_getElem?.mp hmem, hadmits⟩
  · rintro ⟨c, hc, hadmits⟩
    have hmem := List.mk_mem_zipIdx_iff_getElem?.mpr hc
    exact List.mem_map.mpr ⟨(c, i), List.mem_filter.mpr ⟨hmem, hadmits⟩, rfl⟩

theorem mem_listed_suggest_iff {choices : List Choice} {c : Choice} {i : Nat}
    (hc : choices[i]? = some c) {term tag : String} :
    i ∈ listed (suggest choices term tag) ↔ (Query.ofTerm term).admits c = true := by
  rw [mem_listed_suggest, hc]
  simp

theorem pairwise_listed_suggest (choices : List Choice) (term tag : String) :
    (listed (suggest choices term tag)).Pairwise (· < ·) := by
  rw [listed_suggest]
  have hall : (choices.zipIdx.map Prod.snd).Pairwise (· < ·) := by
    rw [List.zipIdx_map_snd]
    exact List.pairwise_lt_range' 1
  exact hall.sublist (List.filter_sublist.map Prod.snd)

/-- If the term is empty or there is a pattern for it, just the choices are listed that have a value
and show the term up to case, in their order. The row of a choice has its label highlighted and the
text that it shows. For a term without a pattern nothing is listed. -/
theorem suggest_lists_occurrences (choices : List Choice) (term tag : String) :
    (term = "" ∨ Engine.builds term →
      (listed (suggest choices term tag)).Pairwise (· < ·) ∧
      (∀ i, i ∈ listed (suggest choices term tag) ↔
        ∃ c, choices[i]? = some c ∧ c.value ≠ "" ∧
          (term = "" ∨ OccursIn term.toList (displayText c.label).toList)) ∧
      ∀ s ∈ suggest choices term tag, ∃ i c, choices[i]? = some c ∧
        s = ⟨highlight c.label term tag, displayText c.label, some i⟩) ∧
    (term ≠ "" → Engine.builds term = false → suggest choices term tag = []) := by
  refine ⟨fun h => ⟨pairwise_listed_suggest choices term tag, fun i => ?_, fun s hs => ?_⟩,
    fun hterm hrefused => ?_⟩
  · rw [mem_listed_suggest]
    refine exists_congr fun c => and_congr_right fun _ => ?_
    rw [Query.admits_iff (Query.searchable_of_builds h)]
    refine and_congr_right fun _ => (or_iff_right_of_imp ?_).symm
    rintro rfl
    exact occursIn_nil _
  · obtain ⟨c, i, hc, hrow⟩ := mem_suggest hs
    obtain ⟨-, -, rfl⟩ := Suggestion.ofChoice?_eq_some_iff.mp hrow
    exact ⟨i, c, hc, rfl⟩
  · have hquery := ofTerm_eq_unsearchable_iff.mpr ⟨hterm, hrefused⟩
    simp [suggest_eq_map_filter, Query.admits_of_unsearchable hquery]

end

/-- A term that is found across the end of a tag, and one refused by an engine that has a pattern
for this term only. -/
theorem suggest_lists_occurrences_fish :
    letI : Engine := ⟨(· == "FISH")⟩
    Engine.builds "FISH" ∧ 1 ∈ listed (suggest [.none, ⟨"<b>Fi</b>sh", "f"⟩] "FISH" "em") ∧
    Engine.builds "fi" = false ∧ suggest [.none, ⟨"<b>Fi</b>sh", "f"⟩] "fi" "em" = [] := by
  let : Engine := ⟨(· == "FISH")⟩
  have hfish : Engine.builds "FISH" := by decide
  have hrefused : Engine.builds "fi" = false := by decide
  have hshown : displayText "<b>Fi</b>sh" = "Fish" := by cbv
  have hoccurs : OccursIn "FISH".toList "Fish".toList :=
    ⟨"Fish".toList, List.infix_rfl, by decide⟩
  obtain ⟨-, hlisted, -⟩ :=
    (suggest_lists_occurrences [.none, ⟨"<b>Fi</b>sh", "f"⟩] "FISH" "em").1 (.inr hfish)
  refine ⟨hfish, (hlisted 1).mpr ⟨_, rfl, by decide, .inr ?_⟩, hrefused, ?_⟩
  · rw [hshown]
    exact hoccurs
  · exact (suggest_lists_occurrences _ "fi" "em").2 (by decide) hrefused

/-- More of a term before or behind it never brings a choice in. -/
theorem listed_suggest_sublist [Engine] (choices : List Choice) (tag : String) {t u : String}
    (h : t.toList <:+: u.toList) (ht : t ≠ "" → Engine.builds t) :
    (listed (suggest choices u tag)).Sublist (listed (suggest choices t tag)) := by
  have hquery := Query.searchable_of_builds (Classical.or_iff_not_imp_left.mpr ht)
  rw [listed_suggest, listed_suggest]
  refine (List.monotone_filter_right _ fun x hx => ?_).map Prod.snd
  by_cases hu : Query.ofTerm u = .unsearchable
  · rw [Query.admits_of_unsearchable hu] at hx
    cases hx
  · rw [Query.admits_iff hu] at hx
    rw [Query.admits_iff hquery]
    exact ⟨hx.1, hx.2.of_part h⟩

section
attribute [local instance] Engine.unlimited

theorem listed_suggest_sublist_fish :
    "SH".toList <:+: "fiSH &".toList ∧ ("SH" ≠ "" → Engine.builds "SH") ∧
      (listed (suggest [⟨"Fish &amp; Chips", "f"⟩, ⟨"Starfish", "s"⟩] "fiSH &" "em")).Sublist
        (listed (suggest [⟨"Fish &amp; Chips", "f"⟩, ⟨"Starfish", "s"⟩] "SH" "em")) := by
  have hpart : "SH".toList <:+: "fiSH &".toList := ⟨"fi".toList, " &".toList, by decide⟩
  have hbuilds : "SH" ≠ "" → Engine.builds "SH" := fun _ => rfl
  exact ⟨hpart, hbuilds, listed_suggest_sublist _ "em" hpart hbuilds⟩

end

end Typeahead
