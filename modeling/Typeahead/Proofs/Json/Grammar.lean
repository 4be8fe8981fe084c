import Typeahead.Json.Reader
import Typeahead.Json.Writer

/-!
# JSON texts as they may be written

The trees of the grammar. A `Value` keeps all that is left to whoever writes it: blanks, the
spelling of each character in quotes, the form of a number, the members of an object in any order
and of any name. `Value.write` is the text it makes.

What a text in quotes says is `meaning?`. It says nothing if a surrogate in it has no partner.
-/

namespace Typeahead.Json
open Text

/-- Blanks between the parts of a text. -/
structure Blanks where
  chars : List Char
  blank : ∀ c ∈ chars, c ∈ [' ', '\t', '\n', '\r']

def Blanks.none : Blanks := ⟨[], by simp⟩

/-! ### Texts in quotes -/

/-- A hexadecimal digit of either case. -/
structure Hex where
  char : Char
  value : Nat
  reads : hexDigit? char = some value

/-- Four hexadecimal digits. -/
structure CodeUnit where
  a : Hex
  b : Hex
  c : Hex
  d : Hex

namespace CodeUnit

def text (u : CodeUnit) : List Char := [u.a.char, u.b.char, u.c.char, u.d.char]

def value (u : CodeUnit) : Nat := ((u.a.value * 16 + u.b.value) * 16 + u.c.value) * 16 + u.d.value

end CodeUnit

/-- The letters that may follow a backslash, and what they stand for. -/
def escapes : List (Char × Char) :=
  [('"', '"'), ('\\', '\\'), ('/', '/'), ('b', '\x08'), ('f', '\x0c'), ('n', '\n'), ('r', '\r'),
    ('t', '\t')]

/-- What stands between quotes, piece by piece: a character as it is, an escape by a letter, or one
by a code unit. -/
inductive Sign where
  | plain (c : Char) (h : c ≠ '"' ∧ c ≠ '\\' ∧ 0x20 ≤ c.toNat)
  | escaped (letter c : Char) (h : (letter, c) ∈ escapes)
  | unit (u : CodeUnit)

def Sign.text : Sign → List Char
  | plain c _ => [c]
  | escaped letter _ _ => ['\\', letter]
  | unit u => '\\' :: 'u' :: u.text

/-- The text between quotes and the quotes. -/
def inQuotes (signs : List Sign) : List Char := '"' :: signs.flatMap Sign.text ++ ['"']

/-- The characters that the signs say. Two units that form a surrogate pair say one character. -/
def meaning? : List Sign → Option (List Char)
  | [] => some []
  | .plain c _ :: signs => (meaning? signs).map (c :: ·)
  | .escaped _ c _ :: signs => (meaning? signs).map (c :: ·)
  | .unit u :: signs =>
    if isTrail u.value then none
    else if isLead u.value then
      match signs with
      | .unit v :: signs =>
        if isTrail v.value then
          (meaning? signs).map
            (Char.ofNat ((u.value - 0xD800) * 0x400 + (v.value - 0xDC00) + 0x10000) :: ·)
        else none
      | _ => none
    else (meaning? signs).map (Char.ofNat u.value :: ·)

/-- A unit that is no half of a surrogate pair says one character. -/
theorem meaning?_unit {u : CodeUnit} (ht : ¬isTrail u.value) (hl : ¬isLead u.value)
    (signs : List Sign) :
    meaning? (.unit u :: signs) = (meaning? signs).map (Char.ofNat u.value :: ·) := by
  rw [meaning?.eq_def]
  simp [ht, hl]

/-! ### Numbers -/

/-- At least one digit. -/
structure Digits where
  chars : List Char
  ne_nil : chars ≠ []
  digits : ∀ c ∈ chars, c.isDigit

/-- A power of ten. -/
structure Exponent where
  letter : Char
  sign : List Char
  digits : Digits
  letter_mem : letter ∈ ['e', 'E']
  sign_mem : sign ∈ [[], ['+'], ['-']]

def Exponent.text (e : Exponent) : List Char := e.letter :: e.sign ++ e.digits.chars

/-- A number. Only zero itself begins with a zero. -/
structure Numeral where
  minus : Bool
  whole : Digits
  fraction : Option Digits
  exponent : Option Exponent
  zero : whole.chars.head? = some '0' → whole.chars = ['0']

namespace Numeral

/-- The part behind the point, with the point. -/
def places (n : Numeral) : List Char := n.fraction.elim [] ('.' :: ·.chars)

/-- The power of ten. -/
def power (n : Numeral) : List Char := n.exponent.elim [] Exponent.text

/-- What follows the minus sign. -/
def unsigned (n : Numeral) : List Char := n.whole.chars ++ (n.places ++ n.power)

def text (n : Numeral) : List Char := if n.minus then '-' :: n.unsigned else n.unsigned

end Numeral

/-! ### Values -/

theorem commaSeparated_cons (t : List Char) (ts : List (List Char)) :
    commaSeparated (t :: ts) = t ++ ts.flatMap (',' :: ·) := by
  induction ts generalizing t with
  | nil => simp [commaSeparated]
  | cons u us ih => rw [commaSeparated, ih]; all_goals simp

/-- Something with blanks on both sides. -/
structure Padded (α : Type) where
  before : Blanks
  item : α
  after : Blanks

namespace Padded
variable {α β : Type}

def text (f : α → List Char) (p : Padded α) : List Char :=
  p.before.chars ++ f p.item ++ p.after.chars

def map (f : α → β) (p : Padded α) : Padded β := ⟨p.before, f p.item, p.after⟩

end Padded

/-- A member of an object. -/
structure Named (α : Type) where
  key : Padded (List Sign)
  value : Padded α

namespace Named
variable {α β : Type}

def text (f : α → List Char) (m : Named α) : List Char :=
  m.key.text inQuotes ++ ':' :: m.value.text f

def map (f : α → β) (m : Named α) : Named β := ⟨m.key, m.value.map f⟩

/-- What the key says. -/
def name? (m : Named α) : Option String := (meaning? m.key.item).map String.ofList

@[simp] theorem name?_map (f : α → β) (m : Named α) : (m.map f).name? = m.name? := rfl

end Named

/-- A value. The blanks of a list or an object follow its opening bracket. -/
inductive Value where
  | null
  | yes
  | no
  | number (n : Numeral)
  | text (signs : List Sign)
  | list (blanks : Blanks) (items : List (Padded Value))
  | object (blanks : Blanks) (members : List (Named Value))

namespace Value

theorem sizeOf_item_lt {blanks : Blanks} {items : List (Padded Value)} {i : Padded Value}
    (h : i ∈ items) : sizeOf i.item < sizeOf (list blanks items) := by
  have hi := List.sizeOf_lt_of_mem h
  obtain ⟨before, item, after⟩ := i
  simp only [Padded.mk.sizeOf_spec] at hi
  simp only [list.sizeOf_spec]
  omega

theorem sizeOf_value_lt {blanks : Blanks} {members : List (Named Value)} {m : Named Value}
    (h : m ∈ members) : sizeOf m.value.item < sizeOf (object blanks members) := by
  have hm := List.sizeOf_lt_of_mem h
  obtain ⟨key, ⟨before, item, after⟩⟩ := m
  simp only [Named.mk.sizeOf_spec, Padded.mk.sizeOf_spec] at hm
  simp only [object.sizeOf_spec]
  omega

/-- The text of a value. -/
def write : Value → List Char
  | null => ['n', 'u', 'l', 'l']
  | yes => ['t', 'r', 'u', 'e']
  | no => ['f', 'a', 'l', 's', 'e']
  | number n => n.text
  | text signs => inQuotes signs
  | list blanks items =>
    '[' :: blanks.chars
      ++ commaSeparated (items.map fun i => i.before.chars ++ i.item.write ++ i.after.chars) ++ [']']
  | object blanks members =>
    '\x7b' :: blanks.chars
      ++ commaSeparated (members.map fun m => m.key.text inQuotes ++ ':' ::
        (m.value.before.chars ++ m.value.item.write ++ m.value.after.chars)) ++ ['\x7d']
termination_by v => sizeOf v
decreasing_by
  · exact sizeOf_item_lt ‹_›
  · exact sizeOf_value_lt ‹_›

theorem write_list (blanks : Blanks) (items : List (Padded Value)) :
    (list blanks items).write =
      '[' :: blanks.chars ++ commaSeparated (items.map (Padded.text write)) ++ [']'] := by
  rw [write]; rfl

theorem write_object (blanks : Blanks) (members : List (Named Value)) :
    (object blanks members).write =
      '\x7b' :: blanks.chars ++ commaSeparated (members.map (Named.text write)) ++ ['\x7d'] := by
  rw [write]; rfl

/-- Induction on a value, with the values inside a list or an object at hand. -/
theorem induction {P : Value → Prop} (null : P null) (yes : P yes) (no : P no)
    (number : ∀ n, P (number n)) (text : ∀ signs, P (text signs))
    (list : ∀ blanks items, (∀ i ∈ items, P i.item) → P (list blanks items))
    (object : ∀ blanks members, (∀ m ∈ members, P m.value.item) → P (object blanks members))
    (v : Value) : P v :=
  match v with
  | .null => null
  | .yes => yes
  | .no => no
  | .number n => number n
  | .text signs => text signs
  | .list blanks items =>
    list blanks items fun i _ => induction null yes no number text list object i.item
  | .object blanks members =>
    object blanks members fun m _ => induction null yes no number text list object m.value.item
termination_by sizeOf v
decreasing_by
  · exact sizeOf_item_lt ‹_›
  · exact sizeOf_value_lt ‹_›

end Value

end Typeahead.Json
