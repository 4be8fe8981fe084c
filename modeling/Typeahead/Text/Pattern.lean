/-!
# Patterns and the pieces they cut a text into

A `Pattern` recognises some texts at the front of a longer one. `Pattern.pieces` scans from the
left and cuts a text at its leftmost, non-overlapping matches: plain stretches and matches
alternate, and put end to end they are the text (`join_pieces`).
-/

namespace Typeahead.Text

/-- A shape recognised at the front of a text. A match is not empty and the rest follows it. -/
structure Pattern where
  head? : List Char → Option (List Char × List Char)
  split : ∀ s m r, head? s = some (m, r) → s = m ++ r
  ne_nil : ∀ s m r, head? s = some (m, r) → m ≠ []

/-- Part of a text cut at the matches of a pattern. -/
inductive Piece where
  | plain (s : List Char)
  | found (s : List Char)
  deriving DecidableEq, Repr

namespace Piece

/-- The characters of a piece. -/
def chars : Piece → List Char
  | plain s => s
  | found s => s

/-- Puts `f m` in the place of each match `m`. -/
def replace (f : List Char → List Char) : Piece → List Char
  | plain s => s
  | found m => f m

@[simp] theorem chars_plain (s : List Char) : (plain s).chars = s := rfl
@[simp] theorem chars_found (s : List Char) : (found s).chars = s := rfl
@[simp] theorem replace_plain (f : List Char → List Char) (s : List Char) : (plain s).replace f = s := rfl
@[simp] theorem replace_found (f : List Char → List Char) (s : List Char) : (found s).replace f = f s := rfl

end Piece

namespace Pattern
variable (p q : Pattern)

/-- Matches what `p` matches, and where `p` does not, what `q` matches. -/
def orElse : Pattern where
  head? s := (p.head? s).or (q.head? s)
  split s m r h := by
    rcases Option.or_eq_some_iff.mp h with h | ⟨_, h⟩
    · exact p.split s m r h
    · exact q.split s m r h
  ne_nil s m r h := by
    rcases Option.or_eq_some_iff.mp h with h | ⟨_, h⟩
    · exact p.ne_nil s m r h
    · exact q.ne_nil s m r h

/-- Walks to the first match; `seen` holds the characters passed, last one first. -/
def seek (seen : List Char) : List Char → Option (List Char × List Char × List Char)
  | [] => none
  | c :: s =>
    match p.head? (c :: s) with
    | some (m, r) => some (seen.reverse, m, r)
    | none => seek (c :: seen) s

/-- What stands before the leftmost match, the match, and what follows it. -/
def first? (s : List Char) : Option (List Char × List Char × List Char) := p.seek [] s

/-- Some part of `s` matches. -/
def occursIn (s : List Char) : Bool := (p.first? s).isSome

theorem seek_split {seen s a m r : List Char} (h : p.seek seen s = some (a, m, r)) :
    seen.reverse ++ s = a ++ m ++ r ∧ m ≠ [] := by
  induction s generalizing seen with
  | nil => simp [seek] at h
  | cons c s ih =>
    rw [seek] at h
    split at h
    · rename_i m' r' hm
      simp only [Option.some.injEq, Prod.mk.injEq] at h
      obtain ⟨rfl, rfl, rfl⟩ := h
      exact ⟨by rw [p.split _ _ _ hm, List.append_assoc], p.ne_nil _ _ _ hm⟩
    · have := ih h
      simpa using this

theorem first?_split {s a m r : List Char} (h : p.first? s = some (a, m, r)) : s = a ++ m ++ r := by
  simpa using (p.seek_split h).1

theorem first?_lt {s a m r : List Char} (h : p.first? s = some (a, m, r)) : r.length < s.length := by
  have hs := p.first?_split h
  have hm := List.length_pos_iff.mpr (p.seek_split h).2
  rw [hs]
  simp only [List.length_append]
  omega

/-- The text cut at its leftmost, non-overlapping matches. -/
def pieces (s : List Char) : List Piece :=
  match _h : p.first? s with
  | none => [.plain s]
  | some (a, m, r) => .plain a :: .found m :: pieces r
termination_by s.length
decreasing_by exact p.first?_lt _h

/-- The text with `f m` in the place of each match `m`. -/
def replace (f : List Char → List Char) (s : List Char) : List Char :=
  (p.pieces s).flatMap (Piece.replace f)

theorem pieces_of_none {s : List Char} (h : p.first? s = none) : p.pieces s = [.plain s] := by
  rw [pieces]; split <;> simp_all

theorem pieces_of_some {s a m r : List Char} (h : p.first? s = some (a, m, r)) :
    p.pieces s = .plain a :: .found m :: p.pieces r := by
  rw [pieces]; split <;> simp_all

/-- Cutting loses nothing. -/
theorem join_pieces (s : List Char) : (p.pieces s).flatMap Piece.chars = s := by
  induction s using pieces.induct p with
  | case1 s h => simp [p.pieces_of_none h]
  | case2 s a m r h ih =>
    rw [p.pieces_of_some h]
    simp [ih, p.first?_split h]

end Pattern

end Typeahead.Text
