import Mathlib.Data.List.Forall2
import Typeahead.Proofs.Markup.Form

/-!
# Which occurrences are highlighted

The markup of a label leaves gaps (`gaps`), and each gap is scanned from the left for the term
(`exists_leftmost_gaps`). From this come both sides of highlighting: what is put into elements is
the term, and stands apart from the markup (`highlight_wraps_occurrences`), and no occurrence in a
gap is passed by (`highlight_exhausts_gaps`).
-/

namespace Typeahead
open Text Markup

/-! ### The pieces of a highlighted label -/

/-- The label cut at its markup and between at the matches of `p`, which are the pieces found. -/
def marking (p : Pattern) (label : List Char) : List Piece :=
  (markup.pieces label).flatMap fun
    | .plain s => p.pieces s
    | .found m => [.plain m]

theorem emphasize_eq_flatMap (p : Pattern) (name label : List Char) :
    emphasize p name label = (marking p label).flatMap (Piece.replace (element name)) := by
  rw [emphasize, marking, List.flatMap_assoc]
  refine List.flatMap_congr fun x _ => ?_
  cases x with
  | plain s => rfl
  | found m => simp

theorem join_marking (p : Pattern) (label : List Char) :
    (marking p label).flatMap Piece.chars = label := by
  conv => rhs; rw [← markup.join_pieces label]
  rw [marking, List.flatMap_assoc]
  refine List.flatMap_congr fun x _ => ?_
  cases x with
  | plain s => exact p.join_pieces s
  | found m => simp

theorem marking_of_none (p : Pattern) {label : List Char} (h : markup.first? label = none) :
    marking p label = p.pieces label := by
  simp [marking, markup.pieces_of_none h]

theorem marking_of_some (p : Pattern) {label a m r : List Char}
    (h : markup.first? label = some (a, m, r)) :
    marking p label = p.pieces a ++ .plain m :: marking p r := by
  simp [marking, markup.pieces_of_some h]

/-! ### Gaps -/

/-- What some extents leave of `g`. -/
def gaps (g : Extent) : List Extent → List Extent
  | [] => [g]
  | k :: ks => ⟨g.start, k.start⟩ :: gaps ⟨k.stop, g.stop⟩ ks

section
variable {L : List Char → Prop} {s : List Char} {g x k : Extent} {ks : List Extent}

theorem start_le_of_mem_gaps (h : Leftmost L s g ks) (hx : x ∈ gaps g ks) : g.start ≤ x.start := by
  induction h with
  | done => cases List.mem_singleton.mp hx; exact Nat.le_refl _
  | next hk hg _ _ ih =>
    rcases List.mem_cons.mp hx with rfl | hx
    · exact Nat.le_refl _
    · exact Nat.le_trans hg.start (Nat.le_trans hk.start_le (ih hx))

/-- A gap is apart from the extents that leave it. -/
theorem apart_of_mem_gaps (h : Leftmost L s g ks) (hx : x ∈ gaps g ks) (hk : k ∈ ks) :
    x.Apart k := by
  induction h with
  | done => cases hk
  | @next g y ks hy hg _ htail ih =>
    rcases List.mem_cons.mp hx with rfl | hx <;> rcases List.mem_cons.mp hk with rfl | hk
    · exact .inl (Nat.le_refl _)
    · exact .inl (Nat.le_trans hy.start_le (htail.of_mem hk).2.start)
    · exact .inr (start_le_of_mem_gaps htail hx)
    · exact ih hx hk

end

/-! ### The scan of each gap -/

/-- Each gap between the markup of a label is scanned from the left. The induction is along the
markup; what was passed joins `a`. -/
theorem exists_leftmost_gaps {p : Pattern} {L : List Char → Prop} (hL : p.Recognizes L)
    (a label : List Char) :
    ∃ wss, List.Forall₂ (Leftmost L (a ++ label)) (gaps ⟨a.length, a.length + label.length⟩
        (Piece.extents a.length (markup.pieces label))) wss ∧
      Piece.extents a.length (marking p label) = wss.flatten := by
  induction label using Pattern.pieces.induct markup generalizing a with
  | case1 label h =>
    rw [marking_of_none p h, markup.pieces_of_none h]
    have hscan := leftmost_pieces hL a label []
    rw [List.append_nil] at hscan
    exact ⟨[_], .cons hscan .nil, by simp⟩
  | case2 label c m r h ih =>
    obtain rfl := markup.first?_split h
    rw [marking_of_some p h, markup.pieces_of_some h]
    obtain ⟨wss, hwss, hflat⟩ := ih (a ++ c ++ m)
    have hscan := leftmost_pieces hL a c (m ++ r)
    refine ⟨Piece.extents a.length (p.pieces c) :: wss, .cons ?_ ?_, ?_⟩
    · simpa using hscan
    · simpa [Nat.add_assoc] using hwss
    · rw [Piece.extents_append, p.join_pieces, Piece.extents, List.flatten_cons, ← hflat]
      simp [Nat.add_assoc]

theorem exists_of_mem_left {α β : Type} {R : α → β → Prop} {as : List α} {bs : List β} {a : α}
    (h : List.Forall₂ R as bs) (ha : a ∈ as) : ∃ b ∈ bs, R a b := by
  induction h with
  | nil => cases ha
  | cons hab _ ih =>
    rcases List.mem_cons.mp ha with rfl | ha
    · exact ⟨_, List.mem_cons_self, hab⟩
    · obtain ⟨b, hb, hab⟩ := ih ha
      exact ⟨b, List.mem_cons_of_mem _ hb, hab⟩

/-! ### What is highlighted -/

/-- The text `s` is cut into pieces, `out` has the element `tag` around those found, and `kept` is
the markup of `s`. -/
structure Highlighted (s tag out : String) (ps : List Piece) (kept : List Extent) : Prop where
  text : ps.flatMap Piece.chars = s.toList
  out : ps.flatMap (Piece.replace (element tag.toList)) = out.toList
  kept : ∀ ks, Leftmost IsMarkup s.toList (.whole s.toList) ks ↔ ks = kept

/-- Where the markup of a text stands. -/
def markupExtents (s : String) : List Extent := Piece.extents 0 (markup.pieces s.toList)

theorem leftmost_markupExtents (s : String) :
    Leftmost IsMarkup s.toList (.whole s.toList) (markupExtents s) :=
  (leftmost_whole_iff recognizes_markup).mpr rfl

theorem highlighted {s tag out : String} {ps : List Piece}
    (htext : ps.flatMap Piece.chars = s.toList)
    (hout : ps.flatMap (Piece.replace (element tag.toList)) = out.toList) :
    Highlighted s tag out ps (markupExtents s) where
  text := htext
  out := hout
  kept _ := leftmost_whole_iff recognizes_markup

theorem highlighted_mark (p : Pattern) (s tag : String) :
    Highlighted s tag ((Query.containing p).mark tag s) (marking p s.toList) (markupExtents s) :=
  highlighted (join_marking p s.toList)
    (by rw [Query.mark, String.toList_ofList, emphasize_eq_flatMap])

/-- The gaps between the markup of a text. -/
def textGaps (s : String) : List Extent := gaps (.whole s.toList) (markupExtents s)

section
variable {p : Pattern} {L : List Char → Prop} (hL : p.Recognizes L) {s : String} {g w : Extent}
include hL

theorem exists_gap_of_mem_marking (hw : w ∈ Piece.extents 0 (marking p s.toList)) :
    Matches L s.toList w ∧ ∃ g ∈ textGaps s, w.Within g := by
  obtain ⟨wss, hwss, hflat⟩ := exists_leftmost_gaps hL [] s.toList
  rw [List.length_nil, List.nil_append, Nat.zero_add] at hwss
  obtain ⟨ws, hws, hw⟩ := List.mem_flatten.mp (hflat ▸ hw)
  obtain ⟨g, hg, hscan⟩ := exists_of_mem_left hwss.flip hws
  exact ⟨(hscan.of_mem hw).1, g, hg, (hscan.of_mem hw).2⟩

theorem exhausted_of_mem_gaps (hg : g ∈ textGaps s) :
    Exhausted L s.toList g (Piece.extents 0 (marking p s.toList)) := by
  obtain ⟨wss, hwss, hflat⟩ := exists_leftmost_gaps hL [] s.toList
  rw [List.length_nil, List.nil_append, Nat.zero_add] at hwss
  obtain ⟨ws, hws, hscan⟩ := exists_of_mem_left hwss hg
  refine hL.exhausted hscan fun w hw => ?_
  rw [show Piece.extents 0 _ = _ from hflat]
  exact List.mem_flatten_of_mem hws hw

end

/-! ### The terms that are searched for -/

section
variable [Engine]

theorem eq_empty_of_ofTerm {term : String} (h : Query.ofTerm term = .all) : term = "" := by
  unfold Query.ofTerm at h
  split at h
  · rename_i hnil
    exact String.toList_inj.mp hnil
  · split at h <;> cases h

theorem recognizes_of_ofTerm {term : String} {p : Pattern} (h : Query.ofTerm term = .containing p) :
    p.Recognizes (SameFold · term.toList) := by
  unfold Query.ofTerm at h
  split at h
  · cases h
  · rename_i c t hcons
    split at h
    · cases h
      rw [hcons]
      exact Pattern.recognizes_term c t
    · cases h

theorem ofTerm_eq_unsearchable_iff {term : String} :
    Query.ofTerm term = .unsearchable ↔ term ≠ "" ∧ Engine.builds term = false := by
  unfold Query.ofTerm
  split
  · rename_i hnil
    have hempty : term = "" := String.toList_inj.mp hnil
    simp [hempty]
  · rename_i c t hcons
    have hne : term ≠ "" := fun hempty => by simp [hempty] at hcons
    simp [hne]

theorem exists_recognizes_of_builds {term : String} (hterm : term ≠ "")
    (hbuilds : Engine.builds term) :
    ∃ p : Pattern, Query.ofTerm term = .containing p ∧ p.Recognizes (SameFold · term.toList) := by
  cases h : Query.ofTerm term with
  | all => exact absurd (eq_empty_of_ofTerm h) hterm
  | unsearchable => simp [ofTerm_eq_unsearchable_iff, hbuilds] at h
  | containing p => exact ⟨p, rfl, recognizes_of_ofTerm h⟩

/-- What is put into elements is the term up to case, each time in a gap between the markup. -/
theorem exists_highlighted (text term tag : String) :
    ∃ ps, Highlighted text tag (highlight text term tag) ps (markupExtents text) ∧
      (Piece.extents 0 ps).Pairwise Extent.Before ∧
      ∀ w ∈ Piece.extents 0 ps, Matches (SameFold · term.toList) text.toList w ∧
        ∃ g ∈ textGaps text, w.Within g := by
  cases hquery : Query.ofTerm term with
  | containing p =>
    refine ⟨_, by rw [highlight, hquery]; exact highlighted_mark p text tag,
      Piece.pairwise_extents 0 _, fun w hw => ?_⟩
    exact exists_gap_of_mem_marking (recognizes_of_ofTerm hquery) hw
  | all | unsearchable =>
    -- nothing is searched for, and the text stays as it is
    refine ⟨[.plain text.toList], ?_, .nil, nofun⟩
    rw [highlight, hquery]
    exact highlighted (by simp) (by simp [Query.mark])

/-- What is put into elements is the term up to case, and no part of it, nor the place of any of the
tags put in, is inside the markup of the text, whichever patterns the engine builds. -/
theorem highlight_wraps_occurrences (text term tag : String) :
    ∃ ps kept, Highlighted text tag (highlight text term tag) ps kept ∧
      (Piece.extents 0 ps).Pairwise Extent.Before ∧
      ∀ w ∈ Piece.extents 0 ps, Matches (SameFold · term.toList) text.toList w ∧
        ∀ k ∈ kept, w.Apart k ∧ ¬ k.Covers w.start ∧ ¬ k.Covers w.stop := by
  obtain ⟨ps, hps, hbefore, hgaps⟩ := exists_highlighted text term tag
  refine ⟨ps, _, hps, hbefore, fun w hw => ?_⟩
  obtain ⟨hmatch, g, hg, hwg⟩ := hgaps w hw
  refine ⟨hmatch, fun k hk => ?_⟩
  have hapart := hwg.apart (apart_of_mem_gaps (leftmost_markupExtents text) hg hk)
  exact ⟨hapart, hapart.not_covers hmatch.start_le⟩

/-- If there is a pattern for the term, nothing is left of it up to case in any gap between the
markup of the text: any occurrence meets one that is put into an element, and the first is put into
one itself. -/
theorem highlight_exhausts_gaps (text term tag : String) (hterm : term ≠ "")
    (hbuilds : Engine.builds term) :
    ∃ ps kept, Highlighted text tag (highlight text term tag) ps kept ∧
      ∀ g ∈ gaps (.whole text.toList) kept,
        Exhausted (SameFold · term.toList) text.toList g (Piece.extents 0 ps) := by
  obtain ⟨p, hp, hL⟩ := exists_recognizes_of_builds hterm hbuilds
  refine ⟨_, _, by rw [highlight, hp]; exact highlighted_mark p text tag, fun g hg => ?_⟩
  exact exhausted_of_mem_gaps hL hg

end

section
attribute [local instance] Engine.unlimited

theorem highlight_exhausts_gaps_banana :
    "ana" ≠ "" ∧ Engine.builds "ana" ∧
      ∃ ps kept,
        Highlighted "Banana <ana>&ana;" "em" (highlight "Banana <ana>&ana;" "ana" "em") ps kept ∧
        ∀ g ∈ gaps (.whole "Banana <ana>&ana;".toList) kept,
          Exhausted (SameFold · "ana".toList) "Banana <ana>&ana;".toList g (Piece.extents 0 ps) :=
  ⟨by decide, rfl, highlight_exhausts_gaps "Banana <ana>&ana;" "ana" "em" (by decide) rfl⟩

example : highlight "Banana <ana>&ana;" "ana" "em" = "B<em>ana</em>na <ana>&ana;" := by
  decide +kernel

end

end Typeahead
