import Typeahead.Markup.ReferenceNames
import Typeahead.Text.Pattern

/-!
# Character references

`&name;`, `&#decimal;` and `&#xhex;` stand for characters. A reference with an unknown name, or
with a number that is no character or a control, is plain text. `decode` replaces the others in
one pass, so `&amp;lt;` becomes `&lt;`.

The five names that markup itself needs are given here; the others are looked up in a table.
-/

namespace Typeahead.Markup
open Text

/-- Neither the start nor the end of a reference. -/
def insideReference (c : Char) : Bool := c ≠ '&' && c ≠ ';'

/-- Value of the digits in the base given, if there is one and all are digits. -/
def number? (base : Nat) (s : List Char) : Option Nat :=
  if s.isEmpty then none
  else s.foldlM (fun n c =>
    match hexDigit? c with
    | some d => if d < base then some (base * n + d) else none
    | none => none) 0

/-- The character with the number given. Controls other than tab, line feed, form feed and
carriage return have none. -/
def charOfNumber? (n : Nat) : Option Char :=
  if n.isValidChar ∧ (32 ≤ n ∨ n = 9 ∨ n = 10 ∨ n = 12 ∨ n = 13) then some (Char.ofNat n) else none

/-- The character that `body` stands for between `&` and `;`. -/
def referent? (body : List Char) : Option Char :=
  match body with
  | ['a', 'm', 'p'] => some '&'
  | ['l', 't'] => some '<'
  | ['g', 't'] => some '>'
  | ['q', 'u', 'o', 't'] => some '"'
  | ['a', 'p', 'o', 's'] => some '\''
  | '#' :: 'x' :: digits => (number? 16 digits).bind charOfNumber?
  | '#' :: 'X' :: digits => (number? 16 digits).bind charOfNumber?
  | '#' :: digits => (number? 10 digits).bind charOfNumber?
  | name => referenceNames[String.ofList name]?

/-- The reference at the front of a text, if it stands for something, and what follows. -/
def referenceHead? : List Char → Option (List Char × List Char)
  | '&' :: s =>
    match s.dropWhile insideReference with
    | ';' :: r =>
      if (referent? (s.takeWhile insideReference)).isSome then
        some ('&' :: s.takeWhile insideReference ++ [';'], r)
      else none
    | _ => none
  | _ => none

theorem referenceHead?_eq_some {s m r : List Char} (h : referenceHead? s = some (m, r)) :
    ∃ b, m = '&' :: b ++ [';'] ∧ s = m ++ r ∧ (∀ c ∈ b, insideReference c) ∧ (referent? b).isSome := by
  match s, h with
  | [], h => simp [referenceHead?] at h
  | c :: s, h =>
    unfold referenceHead? at h
    split at h
    · rename_i s' heq
      split at h
      · rename_i r' hr
        split at h
        · rename_i hk
          simp only [Option.some.injEq, Prod.mk.injEq] at h
          obtain ⟨rfl, rfl⟩ := h
          simp only [List.cons.injEq] at heq
          obtain ⟨rfl, rfl⟩ := heq
          refine ⟨s.takeWhile insideReference, rfl, ?_,
            fun c hc => List.all_eq_true.mp List.all_takeWhile c hc, hk⟩
          have := List.takeWhile_append_dropWhile (p := insideReference) (l := s)
          rw [hr] at this
          simp [this]
        · simp at h
      · simp at h
    · simp at h

/-- References that stand for something. -/
def reference : Pattern where
  head? := referenceHead?
  split s m r h := (referenceHead?_eq_some h).choose_spec.2.1
  ne_nil s m r h := by
    obtain ⟨b, rfl, _⟩ := referenceHead?_eq_some h
    simp

/-- What a whole reference stands for. -/
def referent (m : List Char) : List Char :=
  match referent? (m.drop 1).dropLast with
  | some c => [c]
  | none => m

/-- The text with each reference replaced by what it stands for. -/
def decode (s : List Char) : List Char := reference.replace referent s

/-! ### Written references -/

/-- Letters and digits of ASCII. -/
def isAlphanumeric (c : Char) : Bool := c.isAlphanum

/-- Reads letters and digits up to a `;`; `lead` is what stands before them. -/
def wordHead? (lead s : List Char) : Option (List Char × List Char) :=
  match s.dropWhile isAlphanumeric with
  | ';' :: r =>
    if (s.takeWhile isAlphanumeric).isEmpty then none
    else some (lead ++ s.takeWhile isAlphanumeric ++ [';'], r)
  | _ => none

/-- Anything of the form of a reference, known or not: `&`, perhaps `#`, letters and digits, `;`. -/
def writtenHead? : List Char → Option (List Char × List Char)
  | '&' :: '#' :: s => wordHead? ['&', '#'] s
  | '&' :: s => wordHead? ['&'] s
  | _ => none

theorem wordHead?_eq_some {lead s m r : List Char} (h : wordHead? lead s = some (m, r)) :
    ∃ b, m = lead ++ b ++ [';'] ∧ lead ++ s = m ++ r ∧ b ≠ [] ∧ ∀ c ∈ b, isAlphanumeric c := by
  unfold wordHead? at h
  split at h
  · rename_i r' hr
    split at h
    · simp at h
    · rename_i hne
      simp only [Option.some.injEq, Prod.mk.injEq] at h
      obtain ⟨rfl, rfl⟩ := h
      refine ⟨s.takeWhile isAlphanumeric, rfl, ?_, by simpa using hne,
        fun c hc => List.all_eq_true.mp List.all_takeWhile c hc⟩
      have := List.takeWhile_append_dropWhile (p := isAlphanumeric) (l := s)
      rw [hr] at this
      simp [this]
  · simp at h

theorem writtenHead?_eq_some {s m r : List Char} (h : writtenHead? s = some (m, r)) :
    s = m ++ r ∧ m ≠ [] := by
  unfold writtenHead? at h
  split at h
  · obtain ⟨b, rfl, hs, _⟩ := wordHead?_eq_some h
    exact ⟨by simpa using hs, by simp⟩
  · obtain ⟨b, rfl, hs, _⟩ := wordHead?_eq_some h
    exact ⟨by simpa using hs, by simp⟩
  · simp at h

/-- Everything written as a reference. -/
def written : Pattern where
  head? := writtenHead?
  split _ _ _ h := (writtenHead?_eq_some h).1
  ne_nil _ _ _ h := (writtenHead?_eq_some h).2

end Typeahead.Markup
