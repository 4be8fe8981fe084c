import Typeahead.Json.Error

/-!
# Reading JSON

A `Reader` takes a value off the front of a text and says what is left, which is always less. The
text is read once from left to right, so the error reported is the first that can be seen from the
left. This module holds the parts that all readers share: blanks, words, and texts in quotes.
-/

namespace Typeahead.Json
open Text

/-- A value read from the front of `s`, and the rest. -/
structure Read (α : Type) (s : List Symbol) where
  value : α
  rest : List Symbol
  shorter : rest.length < s.length

/-- Takes a value off the front of a text. -/
abbrev Reader (α : Type) := (s : List Symbol) → Except Fault (Read α s)

theorem length_le_self (s : List Symbol) : s.length ≤ s.length := Nat.le_refl _

theorem length_le_cons {x : Symbol} {s : List Symbol} : s.length ≤ (x :: s).length :=
  Nat.le_succ _

theorem length_lt_cons {x : Symbol} {s : List Symbol} : s.length < (x :: s).length :=
  Nat.lt_succ_self _

theorem length_lt_trans {s t u : List Symbol} (h : s.length < t.length)
    (h' : t.length < u.length) : s.length < u.length :=
  Nat.lt_trans h h'

namespace Read
variable {α β : Type} {x : Symbol} {s t : List Symbol}

/-- What was read from an end of `s` was read from `s`. -/
def widen (r : Read α t) (h : t.length ≤ s.length) : Read α s :=
  ⟨r.value, r.rest, Nat.lt_of_lt_of_le r.shorter h⟩

def map (f : α → β) (r : Read α s) : Read β s := ⟨f r.value, r.rest, r.shorter⟩

/-- The first symbol, read as `v`. -/
def head (v : α) : Read α (x :: s) := ⟨v, s, length_lt_cons⟩

/-- What was read after the first symbol. -/
def afterHead (r : Read α s) : Read α (x :: s) := r.widen length_le_cons

end Read

/-- Space, tab, line feed or carriage return. -/
def isBlank : Symbol → Bool
  | .char c => c = ' ' || c = '\t' || c = '\n' || c = '\r'
  | .stray _ => false

/-- The text without the blanks in front. -/
def skipBlanks (s : List Symbol) : List Symbol := s.dropWhile isBlank

theorem skipBlanks_le (s : List Symbol) : (skipBlanks s).length ≤ s.length :=
  (List.dropWhile_sublist isBlank).length_le

/-- The first symbol that is not a blank, and what follows it. -/
def nonblank? (s : List Symbol) : Option (Symbol × { r : List Symbol // r.length < s.length }) :=
  match hs : skipBlanks s with
  | [] => none
  | x :: s' => some (x, ⟨s', by
      have hb := skipBlanks_le s
      rw [hs] at hb
      exact hb⟩)

/-- Reads what follows any blanks. -/
def afterBlanks {α : Type} (r : Reader α) : Reader α := fun s =>
  (r (skipBlanks s)).map (·.widen (skipBlanks_le s))

/-- The letter `c` and then the letters `cs`. -/
def word (c : Char) (cs : List Char) : Reader Unit
  | [] => .error (.atEnd .value)
  | x :: s =>
    if x = .char c then
      match cs with
      | [] => .ok (.head ())
      | d :: ds => (word d ds s).map .afterHead
    else .error (.after .expectedWord 1 (x :: s))

/-! ### Escapes -/

/-- Four hexadecimal digits. -/
def hexEscape : Reader Nat := fun s =>
  match s with
  | .char a :: .char b :: .char c :: .char d :: s' =>
    match hexDigit? a, hexDigit? b, hexDigit? c, hexDigit? d with
    | some a, some b, some c, some d =>
      .ok ⟨((a * 16 + b) * 16 + c) * 16 + d, s', by simp only [List.length_cons]; omega⟩
    | _, _, _, _ => .error (.after .invalidEscape 4 s)
  | s => .error (if 4 ≤ octets s then .after .invalidEscape 4 s else .atEnd .text)

/-- The first half of a surrogate pair. -/
def isLead (n : Nat) : Bool := 0xD800 ≤ n && n ≤ 0xDBFF

/-- The second half of a surrogate pair. -/
def isTrail (n : Nat) : Bool := 0xDC00 ≤ n && n ≤ 0xDFFF

/-- The character after `\u`: one unit, or two that form a surrogate pair. -/
def unicodeEscape : Reader Char := fun s =>
  match hexEscape s with
  | .error e => .error e
  | .ok ⟨n, s', h⟩ =>
    if isTrail n then .error (.after .lonelySurrogate 0 s')
    else if !isLead n then .ok ⟨Char.ofNat n, s', h⟩
    else
      match s' with
      | [] => .error (.atEnd .text)
      | .char '\\' :: .char 'u' :: s'' =>
        match hexEscape s'' with
        | .error e => .error e
        | .ok ⟨m, s₃, h'⟩ =>
          if isTrail m then
            .ok ⟨Char.ofNat ((n - 0xD800) * 0x400 + (m - 0xDC00) + 0x10000), s₃, by
              simp only [List.length_cons] at h; omega⟩
          else .error (.after .lonelySurrogate 0 s₃)
      | .char '\\' :: s'' =>
        .error (if s''.isEmpty then .atEnd .text else .after .unpairedSurrogate 1 s'')
      | s'' => .error (.after .unpairedSurrogate 1 s'')

/-- The character that an escape stands for, after the backslash. -/
def escape : Reader Char
  | [] => .error (.atEnd .text)
  | .char 'u' :: s => (unicodeEscape s).map .afterHead
  | .char c :: s =>
    match c with
    | '"' | '\\' | '/' => .ok (.head c)
    | 'b' => .ok (.head '\x08')
    | 'f' => .ok (.head '\x0c')
    | 'n' => .ok (.head '\n')
    | 'r' => .ok (.head '\r')
    | 't' => .ok (.head '\t')
    | _ => .error (.after .invalidEscape 1 (.char c :: s))
  | .stray b :: s => .error (.after .invalidEscape 1 (.stray b :: s))

/-! ### Texts in quotes -/

/-- Reads up to the closing quote. `seen` holds the characters so far, last one first, and `whole`
tells that all of them were characters. -/
def quotedFrom (start : List Symbol) (s : List Symbol) (h : s.length ≤ start.length)
    (seen : List Char) (whole : Bool) : Except Fault (Read String start) :=
  match s with
  | [] => .error (.atEnd .text)
  | .stray _ :: s' => quotedFrom start s' (by simp only [List.length_cons] at h; omega) seen false
  | .char '"' :: s' =>
    if whole then
      .ok ⟨String.ofList seen.reverse, s', by simp only [List.length_cons] at h; omega⟩
    else .error (.after .invalidCharacter 0 s')
  | .char '\\' :: s' =>
    match escape s' with
    | .error e => .error e
    | .ok ⟨c, s'', _h'⟩ =>
      quotedFrom start s'' (by simp only [List.length_cons] at h; omega) (c :: seen) whole
  | .char c :: s' =>
    if c.toNat < 0x20 then .error (.after .controlCharacter 1 (.char c :: s'))
    else quotedFrom start s' (by simp only [List.length_cons] at h; omega) (c :: seen) whole
termination_by s.length

/-- The text up to the closing quote. -/
def quoted : Reader String := fun s => quotedFrom s s (length_le_self s) [] true

/-- Passes over an escape, after the backslash. Surrogates need not be paired. -/
def skipEscape : Reader Unit
  | [] => .error (.atEnd .text)
  | .char 'u' :: s => (hexEscape s).map fun r => (r.map fun _ => ()).afterHead
  | .char c :: s =>
    if c ∈ ['"', '\\', '/', 'b', 'f', 'n', 'r', 't'] then .ok (.head ())
    else .error (.after .invalidEscape 1 (.char c :: s))
  | .stray b :: s => .error (.after .invalidEscape 1 (.stray b :: s))

/-- Passes over a text up to the closing quote, whatever bytes it holds. -/
def skipQuotedFrom (start : List Symbol) (s : List Symbol) (h : s.length ≤ start.length) :
    Except Fault (Read Unit start) :=
  match s with
  | [] => .error (.atEnd .text)
  | .stray _ :: s' => skipQuotedFrom start s' (by simp only [List.length_cons] at h; omega)
  | .char '"' :: s' => .ok ⟨(), s', by simp only [List.length_cons] at h; omega⟩
  | .char '\\' :: s' =>
    match skipEscape s' with
    | .error e => .error e
    | .ok ⟨_, s'', _h'⟩ =>
      skipQuotedFrom start s'' (by simp only [List.length_cons] at h; omega)
  | .char c :: s' =>
    if c.toNat < 0x20 then .error (.after .controlCharacter 0 (.char c :: s'))
    else skipQuotedFrom start s' (by simp only [List.length_cons] at h; omega)
termination_by s.length

/-- Passes over a text up to the closing quote. -/
def skipQuoted : Reader Unit := fun s => skipQuotedFrom s s (length_le_self s)

end Typeahead.Json
