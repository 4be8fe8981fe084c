import Typeahead.Proofs.Text.Pattern
import Typeahead.Text.Occurrence

/-!
# Where matches stand

An `Extent` is a stretch of a text, given by the places where it starts and stops. `Leftmost L s g xs`
says without any pattern what it is to scan the stretch `g` of `s` from the left for texts in `L`:
each extent in `xs` starts first among those that lie behind the one before it. A pattern that
recognises `L` cuts a text at just these extents (`leftmost_pieces`).
-/

namespace Typeahead.Text

/-- A stretch of a text, from the place `start` up to the place `stop`. -/
@[ext] structure Extent where
  start : Nat
  stop : Nat
  deriving DecidableEq, Repr

namespace Extent

/-- The text at an extent. -/
def of (x : Extent) (s : List Char) : List Char := (s.drop x.start).take (x.stop - x.start)

theorem of_middle (a m b : List Char) : of ⟨a.length, a.length + m.length⟩ (a ++ m ++ b) = m := by
  simp [of]

/-- `x` lies in `g`. -/
structure Within (x g : Extent) : Prop where
  start : g.start ≤ x.start
  stop : x.stop ≤ g.stop

/-- `x` stops before `y` starts. -/
def Before (x y : Extent) : Prop := x.stop ≤ y.start

/-- One of the two stops before the other starts. -/
def Apart (x y : Extent) : Prop := x.Before y ∨ y.Before x

/-- The two have a character in common. -/
def Meets (x y : Extent) : Prop := x.start < y.stop ∧ y.start < x.stop

/-- The place `i` is inside `x`, neither where it starts nor where it stops. -/
def Covers (x : Extent) (i : Nat) : Prop := x.start < i ∧ i < x.stop

section
variable {x y g : Extent}

theorem Within.trans (h : x.Within y) (h' : y.Within g) : x.Within g :=
  ⟨Nat.le_trans h'.start h.start, Nat.le_trans h.stop h'.stop⟩

theorem Within.apart (h : x.Within y) (h' : y.Apart g) : x.Apart g :=
  h'.imp (Nat.le_trans h.stop) (Nat.le_trans · h.start)

theorem Apart.not_covers (h : x.Apart g) (hx : x.start ≤ x.stop) :
    ¬ g.Covers x.start ∧ ¬ g.Covers x.stop := by
  unfold Covers
  rcases h with h | h <;> unfold Before at h <;> omega

theorem Meets.not_apart (h : g.Meets x) : ¬ x.Apart g
  | .inl h' => Nat.not_le_of_lt h.1 h'
  | .inr h' => Nat.not_le_of_lt h.2 h'

end

/-- All of a text. -/
def whole (s : List Char) : Extent := ⟨0, s.length⟩

end Extent

/-- The text at `x` is an `L`. -/
structure Matches (L : List Char → Prop) (s : List Char) (x : Extent) : Prop where
  start_le : x.start ≤ x.stop
  stop_le : x.stop ≤ s.length
  text : L (x.of s)

/-- The leftmost matches within `g`, none of which overlaps another. -/
inductive Leftmost (L : List Char → Prop) (s : List Char) : Extent → List Extent → Prop
  | done {g : Extent} (h : ∀ y, Matches L s y → ¬ y.Within g) : Leftmost L s g []
  | next {g x : Extent} {xs : List Extent} (hx : Matches L s x) (hg : x.Within g)
      (hleast : ∀ y, Matches L s y → y.Within g → x.start ≤ y.start)
      (h : Leftmost L s ⟨x.stop, g.stop⟩ xs) : Leftmost L s g (x :: xs)

/-- Nothing is left to be matched within `g` beside the extents in `ws`. -/
structure Exhausted (L : List Char → Prop) (s : List Char) (g : Extent) (ws : List Extent) :
    Prop where
  meets : ∀ y, Matches L s y → y.Within g → ∃ w ∈ ws, w.Within g ∧ w.Meets y
  first : ∀ y, Matches L s y → y.Within g →
    (∀ z, Matches L s z → z.Within g → y.start ≤ z.start) → y ∈ ws
  rest : ∀ u : Extent, u.Within g → (∀ w ∈ ws, u.Apart w) → ∀ y, Matches L s y → ¬ y.Within u

/-! ### What leftmost matches are like -/

namespace Leftmost
variable {L : List Char → Prop} {s : List Char} {g x y : Extent} {xs ys : List Extent}

theorem of_mem (h : Leftmost L s g xs) (hx : x ∈ xs) : Matches L s x ∧ x.Within g := by
  induction h with
  | done => cases hx
  | next hy hg _ _ ih =>
    cases hx with
    | head => exact ⟨hy, hg⟩
    | tail _ hx =>
      obtain ⟨hm, hw⟩ := ih hx
      exact ⟨hm, Nat.le_trans hg.start (Nat.le_trans hy.start_le hw.start), hw.stop⟩

/-- Any match meets one of the leftmost. -/
theorem exists_meets (hpos : ∀ y, Matches L s y → y.start < y.stop) (h : Leftmost L s g xs)
    (hy : Matches L s y) (hg : y.Within g) : ∃ x ∈ xs, x.Meets y := by
  induction h with
  | done hnone => exact absurd hg (hnone y hy)
  | @next g x xs hx _ hleast _ ih =>
    by_cases hlt : y.start < x.stop
    · have hle := hleast y hy hg
      have := hpos y hy
      exact ⟨x, List.mem_cons_self, by unfold Extent.Meets; omega⟩
    · obtain ⟨z, hz, hmeets⟩ := ih ⟨Nat.le_of_not_lt hlt, hg.stop⟩
      exact ⟨z, List.mem_cons_of_mem _ hz, hmeets⟩

/-- The first match of all is one of the leftmost, if no two start at one place. -/
theorem mem_of_least (huniq : ∀ x y, Matches L s x → Matches L s y → x.start = y.start → x = y)
    (h : Leftmost L s g xs) (hy : Matches L s y) (hg : y.Within g)
    (hleast : ∀ z, Matches L s z → z.Within g → y.start ≤ z.start) : y ∈ xs := by
  cases h with
  | done hnone => exact absurd hg (hnone y hy)
  | next hx hgx hleast' _ =>
    have hxy := huniq _ _ hx hy (Nat.le_antisymm (hleast' y hy hg) (hleast _ hx hgx))
    exact hxy ▸ List.mem_cons_self

theorem unique (huniq : ∀ x y, Matches L s x → Matches L s y → x.start = y.start → x = y)
    (h : Leftmost L s g xs) (h' : Leftmost L s g ys) : xs = ys := by
  induction h generalizing ys with
  | done hnone =>
    cases h' with
    | done => rfl
    | next hy hg => exact absurd hg (hnone _ hy)
  | next hx hg hleast _ ih =>
    cases h' with
    | done hnone => exact absurd hg (hnone _ hx)
    | next hy hg' hleast' htail =>
      cases huniq _ _ hx hy (Nat.le_antisymm (hleast _ hy hg') (hleast' _ hx hg))
      rw [ih htail]

end Leftmost

/-! ### Patterns that recognise a language -/

namespace Pattern
variable {p q : Pattern} {L L' : List Char → Prop}

/-- The pattern matches at the front of a text just what is an `L` there. -/
def Recognizes (p : Pattern) (L : List Char → Prop) : Prop :=
  ∀ {s m r}, p.head? s = some (m, r) ↔ s = m ++ r ∧ L m

/-- If no text has both at its front, trying one after the other recognises either. -/
theorem Recognizes.orElse (hp : p.Recognizes L) (hq : q.Recognizes L')
    (h : ∀ s, (q.head? s).isSome → p.head? s = none) :
    (p.orElse q).Recognizes fun m => L m ∨ L' m := by
  intro s m r
  rw [Pattern.orElse, Option.or_eq_some_iff, hp]
  constructor
  · rintro (⟨hs, hm⟩ | ⟨-, hm⟩)
    · exact ⟨hs, .inl hm⟩
    · exact ⟨(hq.mp hm).1, .inr (hq.mp hm).2⟩
  · rintro ⟨hs, hm | hm⟩
    · exact .inl ⟨hs, hm⟩
    · have hhead := hq.mpr ⟨hs, hm⟩
      exact .inr ⟨h s (by rw [hhead]; rfl), hhead⟩

section
variable (hL : p.Recognizes L) {s : List Char} {x y : Extent}
include hL

theorem Recognizes.start_lt_stop (hx : Matches L s x) : x.start < x.stop := by
  have hne := p.ne_nil _ _ _ (hL.mpr ⟨(List.append_nil (x.of s)).symm, hx.text⟩)
  refine Nat.lt_of_le_of_ne hx.start_le fun heq => hne ?_
  rw [Extent.of, heq, Nat.sub_self, List.take_zero]

theorem Recognizes.head?_drop (hx : Matches L s x) :
    p.head? (s.drop x.start) = some (x.of s, s.drop x.stop) := by
  refine hL.mpr ⟨?_, hx.text⟩
  rw [Extent.of, ← Nat.add_sub_of_le hx.start_le, ← List.drop_drop, Nat.add_sub_cancel_left,
    List.take_append_drop]

theorem Recognizes.eq_of_start_eq (hx : Matches L s x) (hy : Matches L s y) (h : x.start = y.start) :
    x = y := by
  have hhead := hL.head?_drop hx
  rw [h, hL.head?_drop hy, Option.some.injEq, Prod.mk.injEq] at hhead
  have hlen := congrArg List.length hhead.2
  have := hx.stop_le
  have := hy.stop_le
  simp only [List.length_drop] at hlen
  exact Extent.ext h (by omega)

/-- The pattern finds something in a text just if some part of the text is an `L`. -/
theorem Recognizes.occursIn_iff : p.occursIn s = true ↔ ∃ m, m <:+: s ∧ L m := by
  constructor
  · intro h
    obtain ⟨⟨a, m, r⟩, hfirst⟩ := Option.isSome_iff_exists.mp h
    exact ⟨m, ⟨a, r, (p.first?_split hfirst).symm⟩, (hL.mp (p.head?_of_first? hfirst)).2⟩
  · rintro ⟨m, ⟨a, r, rfl⟩, hm⟩
    have hhead : p.head? (m ++ r) = some (m, r) := hL.mpr ⟨rfl, hm⟩
    obtain ⟨c, m, rfl⟩ := List.exists_cons_of_ne_nil (p.ne_nil _ _ _ hhead)
    rw [occursIn, Option.isSome_iff_ne_none]
    intro hfirst
    have hclear := p.clear_of_first?_eq_none hfirst
    rw [List.append_assoc] at hclear
    have hnone : p.head? (c :: m ++ r) = none := by simpa using hclear.append.2.1
    rw [hnone] at hhead
    cases hhead

/-- Scanning a stretch from the left leaves nothing to be matched. -/
theorem Recognizes.exhausted {g : Extent} {xs ws : List Extent} (h : Leftmost L s g xs)
    (hsub : xs ⊆ ws) : Exhausted L s g ws := by
  have hmeets : ∀ y, Matches L s y → y.Within g → ∃ w ∈ ws, w.Within g ∧ w.Meets y := by
    intro y hy hg
    obtain ⟨x, hx, hxy⟩ := h.exists_meets (fun _ => hL.start_lt_stop) hy hg
    exact ⟨x, hsub hx, (h.of_mem hx).2, hxy⟩
  refine ⟨hmeets, fun y hy hg hleast => ?_, fun u hu hws y hy hyu => ?_⟩
  · exact hsub (h.mem_of_least (fun _ _ => hL.eq_of_start_eq) hy hg hleast)
  · obtain ⟨w, hw, -, hwy⟩ := hmeets y hy (hyu.trans hu)
    exact hwy.not_apart (hyu.apart (hws w hw))

/-- A match within the stretch `s` of a text is one of `s` alone. -/
theorem Recognizes.head?_of_within {a s b : List Char} (hy : Matches L (a ++ s ++ b) y)
    (hg : y.Within ⟨a.length, a.length + s.length⟩) :
    p.head? (s.drop (y.start - a.length)) =
      some (y.of (a ++ s ++ b), s.drop (y.stop - a.length)) := by
  obtain ⟨hstart, hstop⟩ := hg
  simp only at hstart hstop
  have hle := hy.start_le
  have hdrop : (a ++ s ++ b).drop y.start = s.drop (y.start - a.length) ++ b := by
    rw [List.append_assoc, List.drop_append, List.drop_eq_nil_of_le hstart, List.nil_append,
      List.drop_append_of_le_length (by omega)]
  have hof : y.of (a ++ s ++ b) = (s.drop (y.start - a.length)).take (y.stop - y.start) := by
    rw [Extent.of, hdrop, List.take_append_of_le_length (by simp only [List.length_drop]; omega)]
  have hrest : s.drop (y.stop - a.length) =
      (s.drop (y.start - a.length)).drop (y.stop - y.start) := by
    rw [List.drop_drop]
    congr 1
    omega
  refine hL.mpr ⟨?_, hy.text⟩
  rw [hof, hrest, List.take_append_drop]

end

theorem foldedHead?_of_map_eq {t m : List Char} (h : m.map fold = t) (r : List Char) :
    foldedHead? t (m ++ r) = some (m, r) := by
  induction m generalizing t with
  | nil => subst h; rfl
  | cons c m ih =>
    subst h
    rw [List.map_cons, List.cons_append, foldedHead?, if_pos rfl, ih rfl]
    rfl

theorem recognizes_term (c : Char) (t : List Char) :
    (term c t).Recognizes fun m => SameFold m (c :: t) := by
  intro s m r
  refine ⟨foldedHead?_eq_some, ?_⟩
  rintro ⟨rfl, hm⟩
  exact foldedHead?_of_map_eq hm r

theorem Clear.head?_drop {rest a : List Char} (h : p.Clear rest a) {j : Nat} (hj : j < a.length) :
    p.head? (a.drop j ++ rest) = none := by
  induction a generalizing j with
  | nil => cases hj
  | cons c a ih =>
    cases j with
    | zero => exact h.1
    | succ j => exact ih h.2 (Nat.lt_of_succ_lt_succ hj)

end Pattern

/-! ### The pieces of a text -/

/-- Where the matches among some pieces stand, if the pieces begin at `i`. -/
def Piece.extents : Nat → List Piece → List Extent
  | _, [] => []
  | i, .plain s :: ps => extents (i + s.length) ps
  | i, .found m :: ps => ⟨i, i + m.length⟩ :: extents (i + m.length) ps

theorem Piece.start_le_of_mem_extents {x : Extent} {i : Nat} {ps : List Piece}
    (h : x ∈ Piece.extents i ps) : i ≤ x.start := by
  induction ps generalizing i with
  | nil => cases h
  | cons p ps ih =>
    cases p with
    | plain s => exact Nat.le_trans (Nat.le_add_right _ _) (ih h)
    | found m =>
      rcases List.mem_cons.mp h with rfl | h
      · exact Nat.le_refl _
      · exact Nat.le_trans (Nat.le_add_right _ _) (ih h)

theorem Piece.pairwise_extents (i : Nat) (ps : List Piece) :
    (Piece.extents i ps).Pairwise Extent.Before := by
  induction ps generalizing i with
  | nil => exact .nil
  | cons p ps ih =>
    cases p with
    | plain s => exact ih _
    | found m => exact .cons (fun _ hx => Piece.start_le_of_mem_extents hx) (ih _)

theorem Piece.extents_append (i : Nat) (ps qs : List Piece) :
    Piece.extents i (ps ++ qs) =
      Piece.extents i ps ++ Piece.extents (i + (ps.flatMap Piece.chars).length) qs := by
  induction ps generalizing i with
  | nil => rfl
  | cons x ps ih => cases x <;> simp [Piece.extents, ih, Nat.add_assoc]

/-- The texts at the extents of some pieces are the pieces found. What stands before the pieces joins
`a`. -/
theorem Piece.map_of_extents (a b : List Char) (ps : List Piece) :
    (Piece.extents a.length ps).map (·.of (a ++ ps.flatMap Piece.chars ++ b)) =
      ps.flatMap Piece.matched := by
  induction ps generalizing a with
  | nil => rfl
  | cons x ps ih =>
    cases x with
    | plain s => simpa [Piece.extents, Piece.matched] using ih (a ++ s)
    | found m =>
      have hm := Extent.of_middle a m (ps.flatMap Piece.chars ++ b)
      have hps := ih (a ++ m)
      simp only [List.length_append, List.append_assoc] at hm hps
      simp [Piece.extents, Piece.matched, hm, hps]

/-- A character that stands in matches only stands in no plain piece. -/
theorem Piece.not_mem_of_covered {x : Char} {i : Nat} {ps : List Piece}
    (h : ∀ j, (ps.flatMap Piece.chars)[j]? = some x →
      ∃ k ∈ Piece.extents i ps, k.start ≤ i + j ∧ i + j < k.stop)
    {g : List Char} (hg : .plain g ∈ ps) : x ∉ g := by
  induction ps generalizing i with
  | nil => cases hg
  | cons y ps ih =>
    have hrest : ∀ j, (ps.flatMap Piece.chars)[j]? = some x →
        ∃ k ∈ Piece.extents i (y :: ps),
          k.start ≤ i + y.chars.length + j ∧ i + y.chars.length + j < k.stop := by
      intro j hj
      rw [Nat.add_assoc]
      refine h _ ?_
      rw [List.flatMap_cons, List.getElem?_append_right (Nat.le_add_right _ _),
        Nat.add_sub_cancel_left]
      exact hj
    cases y with
    | found m =>
      refine ih (i := i + m.length) (fun j hj => ?_) (List.mem_of_ne_of_mem (by simp) hg)
      obtain ⟨k, hk, hplace⟩ := hrest j hj
      rcases List.mem_cons.mp hk with rfl | hk
      · simp only [Piece.chars_found] at hplace
        omega
      · exact ⟨k, hk, hplace⟩
    | plain s =>
      rcases List.mem_cons.mp hg with heq | hg
      · cases heq
        intro hx
        obtain ⟨j, hj⟩ := List.mem_iff_getElem?.mp hx
        have hlt := (List.getElem?_eq_some_iff.mp hj).1
        obtain ⟨k, hk, hplace⟩ := h j (by
          rw [List.flatMap_cons, Piece.chars_plain, List.getElem?_append_left hlt]
          exact hj)
        rw [Piece.extents] at hk
        have hstart := Piece.start_le_of_mem_extents hk
        omega
      · exact ih hrest hg

/-- No match starts in a part of the text at which the pattern finds none. -/
theorem Pattern.Recognizes.le_start_of_clear {p : Pattern} {L : List Char → Prop}
    (hL : p.Recognizes L) {a c r b : List Char} {y : Extent} (hc : p.Clear r c)
    (hy : Matches L (a ++ (c ++ r) ++ b) y)
    (hg : y.Within ⟨a.length, a.length + (c ++ r).length⟩) : a.length + c.length ≤ y.start := by
  refine Nat.le_of_not_lt fun hlt => ?_
  have hstart : a.length ≤ y.start := hg.start
  have hj : y.start - a.length < c.length := by omega
  have hsome := hL.head?_of_within hy hg
  rw [List.drop_append_of_le_length (Nat.le_of_lt hj), hc.head?_drop hj] at hsome
  cases hsome

/-- The matches at which a stretch `s` of a text is cut are the leftmost. The induction is along the
cuts; what was passed joins `a`. -/
theorem leftmost_pieces {p : Pattern} {L : List Char → Prop} (hL : p.Recognizes L)
    (a s b : List Char) : Leftmost L (a ++ s ++ b) ⟨a.length, a.length + s.length⟩
      (Piece.extents a.length (p.pieces s)) := by
  induction s using Pattern.pieces.induct p generalizing a with
  | case1 s h =>
    rw [p.pieces_of_none h]
    refine .done fun y hy hg => ?_
    rw [← List.append_nil s] at hy hg
    have hle := hL.le_start_of_clear (p.clear_of_first?_eq_none h) hy hg
    have hlt := hL.start_lt_stop hy
    have hstop := hg.stop
    simp only [List.append_nil] at hstop
    omega
  | case2 s c m r h ih =>
    obtain rfl := p.first?_split h
    rw [p.pieces_of_some h, Piece.extents, Piece.extents]
    have htext : a ++ (c ++ m ++ r) ++ b = a ++ c ++ m ++ r ++ b := by simp
    have hm := (hL.mp (p.head?_of_first? h)).2
    have hrest := ih (a ++ c ++ m)
    simp only [List.length_append] at hrest
    rw [htext]
    refine .next ⟨by simp, ?_, ?_⟩ ⟨by simp, ?_⟩ (fun y hy hg => ?_) ?_
    · simp only [List.length_append]
      omega
    · have hof := Extent.of_middle (a ++ c) m (r ++ b)
      rw [List.length_append, ← List.append_assoc] at hof
      rwa [hof]
    · simp only [List.length_append]
      omega
    · rw [← htext, List.append_assoc c] at hy
      rw [List.append_assoc c] at hg
      exact hL.le_start_of_clear (p.clear_of_first? h) hy hg
    · simpa only [Nat.add_assoc, List.length_append] using hrest

theorem leftmost_whole_iff {p : Pattern} {L : List Char → Prop} (hL : p.Recognizes L) {s : List Char}
    {xs : List Extent} : Leftmost L s (.whole s) xs ↔ xs = Piece.extents 0 (p.pieces s) := by
  have hpieces : Leftmost L s (.whole s) (Piece.extents 0 (p.pieces s)) := by
    simpa [Extent.whole] using leftmost_pieces hL [] s []
  constructor
  · intro h
    exact h.unique (fun _ _ => hL.eq_of_start_eq) hpieces
  · rintro rfl
    exact hpieces

end Typeahead.Text
