import Typeahead.Json.Number

/-!
# Passing over a value

A value that is not needed is checked for its form and dropped. The lists and objects around the
place reached are kept in a stack, so the depth of a value has no bound.
-/

namespace Typeahead.Json
open Text

/-- What encloses a place in a text. -/
inductive Frame where
  | list
  | object
  deriving DecidableEq, Repr

namespace Frame

/-- What ends it. -/
def close : Frame → Char
  | list => ']'
  | object => '\x7d'

def unfinished : Frame → Unfinished
  | list => .list
  | object => .object

def expectedEnd : Frame → Problem
  | list => .expectedListEnd
  | object => .expectedObjectEnd

end Frame

/-- What comes next: a value, a member, what may follow the start of a list or object, or what may
follow a value. -/
inductive Place where
  | value
  | member
  | first
  | next
  deriving DecidableEq, Repr

def Place.rank : Place → Nat
  | value => 0
  | member => 0
  | first => 1
  | next => 0

/-- Where a list or object goes on after its start or after a comma. -/
def Frame.inside : Frame → Place
  | list => .value
  | object => .member

theorem Frame.rank_inside (f : Frame) : f.inside.rank = 0 := by cases f <;> rfl

/-- Passes over a number, a word or a text; at the start of a list or object, over that start. -/
def skipScalar : Reader (Option Frame)
  | [] => .error (.atEnd .value)
  | x :: s =>
    let scalar (r : Except Fault (Read Unit s)) : Except Fault (Read (Option Frame) (x :: s)) :=
      r.map fun r => (r.map fun _ => none).afterHead
    match opening? x with
    | some .null => scalar (word 'u' ['l', 'l'] s)
    | some .yes => scalar (word 'r' ['u', 'e'] s)
    | some .no => scalar (word 'a' ['l', 's', 'e'] s)
    | some .quote => scalar (skipQuoted s)
    | some .minus => scalar (skipNumber s)
    | some .digit => (skipNumber (x :: s)).map fun r => r.map fun _ => none
    | some .list => .ok (.head (some .list))
    | some .object => .ok (.head (some .object))
    | none => .error (.after .expectedValue 1 (x :: s))

/-- The colon after the key of a member. -/
def colon : Reader Unit
  | [] => .error (.atEnd .object)
  | x :: s => if x = .char ':' then .ok (.head ()) else .error (.after .expectedColon 1 (x :: s))

/-- The opening quote of a key that has to come. -/
def keyQuote : Reader Unit
  | [] => .error (.atEnd .object)
  | x :: s => if x = .char '"' then .ok (.head ()) else .error (.after .keyNotText 1 (x :: s))

/-- Goes on from a place inside `f`, which is inside the frames in `outer`, until all are closed. -/
def skipFrom (start : List Symbol) (f : Frame) (outer : List Frame) (place : Place)
    (s : List Symbol) (h : s.length < start.length) : Except Fault (Read Unit start) :=
  match place with
  | .value =>
    match afterBlanks skipScalar s with
    | .error e => .error e
    | .ok ⟨none, s', h'⟩ => skipFrom start f outer .next s' (length_lt_trans h' h)
    | .ok ⟨some g, s', h'⟩ => skipFrom start g (f :: outer) .first s' (length_lt_trans h' h)
  | .member =>
    match afterBlanks keyQuote s with
    | .error e => .error e
    | .ok ⟨_, s₁, h₁⟩ =>
      match skipQuoted s₁ with
      | .error e => .error e
      | .ok ⟨_, s₂, h₂⟩ =>
        match afterBlanks colon s₂ with
        | .error e => .error e
        | .ok ⟨_, s₃, h₃⟩ => skipFrom start f outer .value s₃ (by omega)
  | there =>
    match nonblank? s with
    | none => .error (.atEnd f.unfinished)
    | some (x, ⟨s', h'⟩) =>
      if x = .char f.close then
        match outer with
        | [] => .ok ⟨(), s', length_lt_trans h' h⟩
        | g :: outer => skipFrom start g outer .next s' (length_lt_trans h' h)
      else if hp : there = .first then skipFrom start f outer f.inside s h
      else if x = .char ',' then skipFrom start f outer f.inside s' (length_lt_trans h' h)
      else .error (.after f.expectedEnd 1 (x :: s'))
termination_by (s.length, place.rank)
decreasing_by
  all_goals first
    | (apply Prod.Lex.left; omega)
    | (rw [Frame.rank_inside, hp]; apply Prod.Lex.right; exact Nat.zero_lt_one)

/-- Passes over a value. -/
def skipValue : Reader Unit := fun s =>
  match afterBlanks skipScalar s with
  | .error e => .error e
  | .ok ⟨none, s', h⟩ => .ok ⟨(), s', h⟩
  | .ok ⟨some f, s', h⟩ => skipFrom s f [] .first s' h

end Typeahead.Json
