import Typeahead.Text.Pattern

/-!
# Scanning from the left

`Pattern.pieces` and `Pattern.replace` cut a text at its matches. Here they are read from the left,
one match or one character at a time: `replace_of_head?` where the pattern matches, `replace_cons`
where it does not, and `scan_induction` for proofs along the way.

`Pattern.Clear` says of a stretch that no match starts in it. What stands before the first match is
clear (`clear_of_first?`).

`Pattern.Wraps` relates a text to the same text with stretches wrapped, never across a match. It is
what replacing inside the clear stretches of a text comes to (`Wraps.replace`).
-/

namespace Typeahead.Text

/-! ### Where a stretch ends -/

section
variable {p : Char → Bool} {a : List Char} {c : Char}

theorem takeWhile_append_cons (ha : ∀ d ∈ a, p d) (hc : ¬ p c) (s : List Char) :
    (a ++ c :: s).takeWhile p = a := by
  rw [List.takeWhile_append_of_pos ha, List.takeWhile_cons_of_neg hc, List.append_nil]

theorem dropWhile_append_cons (ha : ∀ d ∈ a, p d) (hc : ¬ p c) (s : List Char) :
    (a ++ c :: s).dropWhile p = c :: s := by
  rw [List.dropWhile_append_of_pos ha, List.dropWhile_cons_of_neg hc]

theorem ne_of_not_mem (h : c ∉ a) : ∀ d ∈ a, decide (d ≠ c) = true :=
  fun _ hd => decide_eq_true fun heq => h (heq ▸ hd)

theorem takeWhile_ne_append (h : c ∉ a) (s : List Char) : (a ++ c :: s).takeWhile (· ≠ c) = a :=
  takeWhile_append_cons (ne_of_not_mem h) (by simp) s

theorem dropWhile_ne_append (h : c ∉ a) (s : List Char) :
    (a ++ c :: s).dropWhile (· ≠ c) = c :: s :=
  dropWhile_append_cons (ne_of_not_mem h) (by simp) s

end

/-- The match that a piece is, if it is one. -/
def Piece.matched : Piece → List (List Char)
  | .plain _ => []
  | .found m => [m]

/-! ### Pieces that grow -/

section
variable {f : List Char → List Char} (hf : ∀ m, m.length < (f m).length)
include hf

theorem Piece.length_le_replace (ps : List Piece) :
    (ps.flatMap Piece.chars).length ≤ (ps.flatMap (Piece.replace f)).length := by
  induction ps with
  | nil => exact Nat.le_refl _
  | cons x ps ih =>
    cases x with
    | plain s => simpa using ih
    | found m =>
      have hm := hf m
      simp only [List.flatMap_cons, Piece.chars_found, Piece.replace_found, List.length_append]
      omega

/-- If matches grow when they are replaced, a text changes just if it has one. -/
theorem Piece.flatMap_replace_ne_iff (ps : List Piece) :
    ps.flatMap (Piece.replace f) ≠ ps.flatMap Piece.chars ↔ ∃ m, .found m ∈ ps := by
  induction ps with
  | nil => simp
  | cons x ps ih =>
    cases x with
    | plain s => simp [ih]
    | found m =>
      refine iff_of_true (fun heq => ?_) ⟨m, List.mem_cons_self⟩
      have hm := hf m
      have hps := Piece.length_le_replace hf ps
      have hlen := congrArg List.length heq
      simp only [List.flatMap_cons, Piece.chars_found, Piece.replace_found,
        List.length_append] at hlen
      omega

end

namespace Pattern
variable (p : Pattern) {f : List Char → List Char}

/-! ### The first match -/

/-- The characters passed so far are put before what the walk finds from here on. -/
theorem seek_eq_map (seen s : List Char) :
    p.seek seen s = (p.first? s).map (Prod.map (seen.reverse ++ ·) id) := by
  unfold first?
  induction s generalizing seen with
  | nil => rfl
  | cons c s ih =>
    rw [seek, seek]
    cases p.head? (c :: s) with
    | some _ => simp
    | none =>
      simp only
      rw [ih (c :: seen), ih [c], Option.map_map, Prod.map_comp_map, Function.id_comp]
      simp [Function.comp_def]

theorem first?_cons_of_some {c : Char} {s m r : List Char} (h : p.head? (c :: s) = some (m, r)) :
    p.first? (c :: s) = some ([], m, r) := by
  rw [first?, seek, h]; rfl

theorem first?_cons_of_none {c : Char} {s : List Char} (h : p.head? (c :: s) = none) :
    p.first? (c :: s) = (p.first? s).map (Prod.map (c :: ·) id) := by
  rw [first?, seek, h]
  exact p.seek_eq_map [c] s

theorem head?_nil : p.head? [] = none := by
  cases h : p.head? [] with
  | none => rfl
  | some mr =>
    have hs := p.split _ _ _ h
    exact absurd (List.append_eq_nil_iff.mp hs.symm).1 (p.ne_nil _ _ _ h)

theorem length_lt_of_head? {s m r : List Char} (h : p.head? s = some (m, r)) :
    r.length < s.length := by
  have hm := List.length_pos_iff.mpr (p.ne_nil _ _ _ h)
  rw [p.split _ _ _ h, List.length_append]
  omega

theorem head?_of_first? {s a m r : List Char} (h : p.first? s = some (a, m, r)) :
    p.head? (m ++ r) = some (m, r) := by
  induction s generalizing a with
  | nil => cases h
  | cons c s ih =>
    cases hc : p.head? (c :: s) with
    | some mr =>
      rw [p.first?_cons_of_some hc] at h
      simp only [Option.some.injEq, Prod.mk.injEq] at h
      obtain ⟨-, rfl, rfl⟩ := h
      rw [← p.split _ _ _ hc]; exact hc
    | none =>
      rw [p.first?_cons_of_none hc] at h
      obtain ⟨⟨a', m', r'⟩, hs, heq⟩ := Option.map_eq_some_iff.mp h
      simp only [Prod.map_apply, id_eq, Prod.mk.injEq] at heq
      obtain ⟨-, rfl, rfl⟩ := heq
      exact ih hs

/-! ### Stretches without a match -/

/-- No match starts in `a` when `rest` follows it. -/
def Clear (rest : List Char) : List Char → Prop
  | [] => True
  | c :: a => p.head? (c :: a ++ rest) = none ∧ Clear rest a

theorem Clear.append {p : Pattern} {rest a b : List Char} (h : p.Clear rest (a ++ b)) :
    p.Clear (b ++ rest) a ∧ p.Clear rest b := by
  induction a with
  | nil => exact ⟨trivial, h⟩
  | cons c a ih =>
    obtain ⟨hc, ha⟩ := h
    refine ⟨⟨?_, (ih ha).1⟩, (ih ha).2⟩
    simpa using hc

theorem clear_of_first? {s a m r : List Char} (h : p.first? s = some (a, m, r)) :
    p.Clear (m ++ r) a := by
  induction s generalizing a with
  | nil => cases h
  | cons c s ih =>
    cases hc : p.head? (c :: s) with
    | some mr =>
      rw [p.first?_cons_of_some hc] at h
      simp only [Option.some.injEq, Prod.mk.injEq] at h
      obtain ⟨rfl, -, -⟩ := h
      trivial
    | none =>
      rw [p.first?_cons_of_none hc] at h
      obtain ⟨⟨a', m', r'⟩, hs, heq⟩ := Option.map_eq_some_iff.mp h
      simp only [Prod.map_apply, id_eq, Prod.mk.injEq] at heq
      obtain ⟨rfl, rfl, rfl⟩ := heq
      refine ⟨?_, ih hs⟩
      rw [p.first?_split hs] at hc
      simpa using hc

theorem clear_of_first?_eq_none {s : List Char} (h : p.first? s = none) : p.Clear [] s := by
  induction s with
  | nil => trivial
  | cons c s ih =>
    cases hc : p.head? (c :: s) with
    | some mr => rw [p.first?_cons_of_some hc] at h; cases h
    | none =>
      rw [p.first?_cons_of_none hc, Option.map_eq_none_iff] at h
      exact ⟨by simpa using hc, ih h⟩

/-- A stretch is clear if the character that matches begin with does not occur in it. -/
theorem clear_of_not_mem {x : Char} (hp : ∀ s m r, p.head? s = some (m, r) → m.head? = some x)
    {a : List Char} (h : x ∉ a) (rest : List Char) : p.Clear rest a := by
  induction a with
  | nil => trivial
  | cons c a ih =>
    refine ⟨?_, ih fun hx => h (List.mem_cons_of_mem _ hx)⟩
    cases hc : p.head? (c :: a ++ rest) with
    | none => rfl
    | some mr =>
      have hm := hp _ _ _ hc
      have hsplit := p.split _ _ _ hc
      obtain ⟨m, hm⟩ := List.head?_eq_some_iff.mp hm
      rw [hm] at hsplit
      obtain rfl : c = x := (List.cons.inj hsplit).1
      exact absurd List.mem_cons_self h

theorem first?_append_of_clear {rest a : List Char} (h : p.Clear rest a) :
    p.first? (a ++ rest) = (p.first? rest).map (Prod.map (a ++ ·) id) := by
  induction a with
  | nil => rw [List.nil_append]; cases p.first? rest <;> rfl
  | cons c a ih =>
    rw [List.cons_append, p.first?_cons_of_none (by simpa using h.1), ih h.2, Option.map_map]
    rfl

/-- A stretch without a match, and the match behind it, are the first two pieces. -/
theorem pieces_append {a m r : List Char} (ha : p.Clear (m ++ r) a)
    (hm : p.head? (m ++ r) = some (m, r)) :
    p.pieces (a ++ (m ++ r)) = .plain a :: .found m :: p.pieces r := by
  have hfirst : p.first? (m ++ r) = some ([], m, r) := by
    obtain ⟨c, m, rfl⟩ := List.exists_cons_of_ne_nil (p.ne_nil _ _ _ hm)
    exact p.first?_cons_of_some hm
  have h := p.first?_append_of_clear ha
  rw [hfirst] at h
  simpa using p.pieces_of_some h

/-! ### Piece by piece -/

section
variable {β : Type} (g : Piece → List β)

theorem flatMap_pieces_of_head? (hg : g (.plain []) = []) {s m r : List Char}
    (h : p.head? s = some (m, r)) :
    (p.pieces s).flatMap g = g (.found m) ++ (p.pieces r).flatMap g := by
  cases s with
  | nil => rw [p.head?_nil] at h; cases h
  | cons c s =>
    rw [p.pieces_of_some (p.first?_cons_of_some h)]
    simp [hg]

/-- A character that begins no match joins the plain stretch behind it. -/
theorem flatMap_pieces_cons {c : Char} {b : List β}
    (hg : ∀ s, g (.plain (c :: s)) = b ++ g (.plain s))
    {s : List Char} (h : p.head? (c :: s) = none) :
    (p.pieces (c :: s)).flatMap g = b ++ (p.pieces s).flatMap g := by
  have hf := p.first?_cons_of_none h
  cases hs : p.first? s with
  | none =>
    rw [hs] at hf
    rw [p.pieces_of_none hf, p.pieces_of_none hs]
    simp [hg]
  | some amr =>
    obtain ⟨a, m, r⟩ := amr
    rw [hs] at hf
    rw [p.pieces_of_some hf, p.pieces_of_some hs]
    simp [hg]

end

theorem exists_found_iff {s : List Char} : (∃ m, .found m ∈ p.pieces s) ↔ p.occursIn s = true := by
  rw [occursIn]
  cases h : p.first? s with
  | none => simp [p.pieces_of_none h]
  | some amr =>
    obtain ⟨a, m, r⟩ := amr
    rw [p.pieces_of_some h]
    exact iff_of_true ⟨m, by simp⟩ rfl

/-! ### Replacing -/

theorem replace_of_first?_eq_none {s : List Char} (h : p.first? s = none) : p.replace f s = s := by
  simp [replace, p.pieces_of_none h]

@[simp] theorem replace_nil : p.replace f [] = [] := p.replace_of_first?_eq_none rfl

theorem replace_of_head? {s m r : List Char} (h : p.head? s = some (m, r)) :
    p.replace f s = f m ++ p.replace f r :=
  p.flatMap_pieces_of_head? _ rfl h

theorem replace_cons {c : Char} {s : List Char} (h : p.head? (c :: s) = none) :
    p.replace f (c :: s) = c :: p.replace f s :=
  p.flatMap_pieces_cons (b := [c]) (Piece.replace f) (fun _ => rfl) h

theorem replace_append_of_clear {rest a : List Char} (h : p.Clear rest a) :
    p.replace f (a ++ rest) = a ++ p.replace f rest := by
  induction a with
  | nil => rfl
  | cons c a ih =>
    rw [List.cons_append, p.replace_cons (by simpa using h.1), ih h.2]
    rfl

/-! ### Matches -/

/-- The matches of the pattern in order. -/
def matched (s : List Char) : List (List Char) := (p.pieces s).flatMap Piece.matched

@[simp] theorem matched_nil : p.matched [] = [] := by
  rw [matched, p.pieces_of_none (s := []) rfl]
  rfl

theorem matched_of_head? {s m r : List Char} (h : p.head? s = some (m, r)) :
    p.matched s = m :: p.matched r :=
  p.flatMap_pieces_of_head? _ rfl h

theorem matched_cons {c : Char} {s : List Char} (h : p.head? (c :: s) = none) :
    p.matched (c :: s) = p.matched s :=
  p.flatMap_pieces_cons (b := []) Piece.matched (fun _ => rfl) h

theorem matched_append_of_clear {rest a : List Char} (h : p.Clear rest a) :
    p.matched (a ++ rest) = p.matched rest := by
  induction a with
  | nil => rfl
  | cons c a ih => rw [List.cons_append, p.matched_cons (by simpa using h.1), ih h.2]

/-- Induction along a scan: past a match where there is one, else past one character. -/
theorem scan_induction {P : List Char → Prop} (nil : P [])
    (found : ∀ s m r, p.head? s = some (m, r) → P r → P s)
    (skip : ∀ c s, p.head? (c :: s) = none → P s → P (c :: s)) (s : List Char) : P s := by
  match s with
  | [] => exact nil
  | c :: s =>
    match h : p.head? (c :: s) with
    | some (m, r) =>
      have hlt := p.length_lt_of_head? h
      exact found _ m r h (scan_induction nil found skip r)
    | none => exact skip c s h (scan_induction nil found skip s)
termination_by s.length
decreasing_by
  · exact hlt
  · exact Nat.lt_add_one _

/-! ### Wrapping -/

/-- `p.Wraps f W s t`: `t` is `s` with `f m` in the place of stretches `m` in which no match of `p`
starts, each of which is a `W`. The matches of `p` in `s` are all kept. -/
inductive Wraps (f : List Char → List Char) (W : List Char → Prop) :
    List Char → List Char → Prop where
  | nil : Wraps f W [] []
  | wrap {m s t : List Char} (hm : W m) (hc : p.Clear s m) (h : Wraps f W s t) :
      Wraps f W (m ++ s) (f m ++ t)
  | char {c : Char} {s t : List Char} (hc : p.head? (c :: s) = none) (h : Wraps f W s t) :
      Wraps f W (c :: s) (c :: t)
  | kept {m s t : List Char} (hm : p.head? (m ++ s) = some (m, s)) (h : Wraps f W s t) :
      Wraps f W (m ++ s) (m ++ t)

namespace Wraps
variable {p} {q : Pattern} {W : List Char → Prop} {a s t : List Char}

theorem append (ha : p.Clear s a) (h : p.Wraps f W s t) : p.Wraps f W (a ++ s) (a ++ t) := by
  induction a with
  | nil => exact h
  | cons c a ih => exact .char ha.1 (ih ha.2)

/-- Replacing the matches of another pattern in a clear stretch wraps them. -/
theorem replace (hW : ∀ s m r, q.head? s = some (m, r) → W m) (ha : p.Clear s a)
    (h : p.Wraps f W s t) : p.Wraps f W (a ++ s) (q.replace f a ++ t) := by
  induction a using q.scan_induction with
  | nil => simpa using h
  | found a m r hm ih =>
    rw [q.replace_of_head? hm]
    rw [q.split _ _ _ hm] at ha ⊢
    obtain ⟨hcm, hcr⟩ := ha.append
    simpa using Wraps.wrap (hW _ _ _ hm) hcm (ih hcr)
  | skip c a hc ih =>
    rw [q.replace_cons hc]
    exact .char ha.1 (ih ha.2)

end Wraps

theorem Clear.of_orElse {p q : Pattern} {rest a : List Char} (h : (p.orElse q).Clear rest a) :
    p.Clear rest a := by
  induction a with
  | nil => trivial
  | cons c a ih => exact ⟨(Option.or_eq_none_iff.mp h.1).1, ih h.2⟩

/-- What is wrapped between the matches of two patterns is wrapped between those of the first, if no
match of the first starts within one of the second. -/
theorem Wraps.of_orElse {p q : Pattern} {W : List Char → Prop} {s t : List Char}
    (hq : ∀ s m r, q.head? s = some (m, r) → p.Clear r m) (h : (p.orElse q).Wraps f W s t) :
    p.Wraps f W s t := by
  induction h with
  | nil => exact .nil
  | wrap hm hc _ ih => exact .wrap hm hc.of_orElse ih
  | char hc _ ih => exact .char (Option.or_eq_none_iff.mp hc).1 ih
  | kept hm _ ih =>
    rcases Option.or_eq_some_iff.mp hm with hp | ⟨-, hq'⟩
    · exact .kept hp ih
    · exact ih.append (hq _ _ _ hq')

end Pattern

end Typeahead.Text
