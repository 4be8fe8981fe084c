import Typeahead.Proofs.Json.Grammar

/-!
# What the writer writes

The writer's texts, lists and objects are those of the grammar without blanks, in which each
character is spelt in one way (`Sign.of`). What it writes of a text means that text
(`meaning?_signs`).
-/

namespace Typeahead.Json
open Text

/-! ### Texts in quotes -/

theorem hexDigit?_digitChar {n : Nat} (h : n < 16) : hexDigit? (Nat.digitChar n) = some n := by
  have : ∀ n : Fin 16, hexDigit? (Nat.digitChar n) = some n.val := by decide
  exact this ⟨n, h⟩

/-- The lower case digit of a number. -/
def Hex.digit (n : Nat) (h : n < 16) : Hex := ⟨Nat.digitChar n, n, hexDigit?_digitChar h⟩

/-- The code unit of a control. -/
def CodeUnit.control (c : Char) (h : c.toNat < 0x20) : CodeUnit :=
  ⟨.digit 0 (by omega), .digit 0 (by omega), .digit (c.toNat / 16) (by omega),
    .digit (c.toNat % 16) (by omega)⟩

theorem CodeUnit.value_control {c : Char} (h : c.toNat < 0x20) : (control c h).value = c.toNat := by
  simp only [control, value, Hex.digit]
  omega

/-- How the writer spells a character. -/
def Sign.of (c : Char) : Sign :=
  if hq : c = '"' then .escaped '"' c (by subst hq; decide)
  else if hb : c = '\\' then .escaped '\\' c (by subst hb; decide)
  else if h : c = '\x08' then .escaped 'b' c (by subst h; decide)
  else if h : c = '\x0c' then .escaped 'f' c (by subst h; decide)
  else if h : c = '\n' then .escaped 'n' c (by subst h; decide)
  else if h : c = '\r' then .escaped 'r' c (by subst h; decide)
  else if h : c = '\t' then .escaped 't' c (by subst h; decide)
  else if h : c.toNat < 0x20 then .unit (.control c h)
  else .plain c ⟨hq, hb, by omega⟩

theorem Sign.text_of (c : Char) : (of c).text = writeChar c := by
  unfold writeChar
  split
  case h_8 hq hb hbs hff hnl hcr htab =>
    rw [of, dif_neg hq, dif_neg hb, dif_neg hbs, dif_neg hff, dif_neg hnl, dif_neg hcr,
      dif_neg htab]
    split <;> rfl
  all_goals rfl

theorem meaning?_cons_of (c : Char) (signs : List Sign) :
    meaning? (.of c :: signs) = (meaning? signs).map (c :: ·) := by
  unfold Sign.of
  iterate 7 (split; · simp only [meaning?])
  split
  case isTrue h =>
    have hvalue := CodeUnit.value_control h
    have htrail : isTrail c.toNat = false := by simp [isTrail]; omega
    have hlead : isLead c.toNat = false := by simp [isLead]; omega
    rw [meaning?_unit (by simp [hvalue, htrail]) (by simp [hvalue, hlead]), hvalue,
      Char.ofNat_toNat]
  case isFalse => simp only [meaning?]

/-- How the writer spells a text. -/
def signsOf (s : String) : List Sign := s.toList.map .of

theorem meaning?_signsOf (s : String) : meaning? (signsOf s) = some s.toList := by
  have h : ∀ cs : List Char, meaning? (cs.map .of) = some cs := by
    intro cs
    induction cs with
    | nil => rfl
    | cons c cs ih => rw [List.map_cons, meaning?_cons_of, ih]; rfl
  exact h s.toList

theorem inQuotes_signsOf (s : String) : inQuotes (signsOf s) = writeText s := by
  simp only [inQuotes, signsOf, writeText, List.flatMap_map, Sign.text_of]

/-! ### Values without blanks -/

/-- Something without blanks around it. -/
def Padded.tight {α : Type} (x : α) : Padded α := ⟨.none, x, .none⟩

theorem Padded.text_tight {α : Type} (f : α → List Char) (x : α) : (tight x).text f = f x := by
  simp [tight, text, Blanks.none]

/-- A member without blanks. -/
def Named.tight (name : String) (v : Value) : Named Value := ⟨.tight (signsOf name), .tight v⟩

@[simp] theorem Named.name?_tight (name : String) (v : Value) :
    (tight name v).name? = some name := by
  simp [name?, tight, Padded.tight, meaning?_signsOf]

theorem Named.text_tight (name : String) (v : Value) :
    (tight name v).text Value.write = writeText name ++ ':' :: v.write := by
  rw [text, tight, Padded.text_tight, Padded.text_tight, inQuotes_signsOf]

namespace Value

def ofText (s : String) : Value := text (signsOf s)

def ofList (vs : List Value) : Value := list .none (vs.map .tight)

def ofMembers (ms : List (String × Value)) : Value := object .none (ms.map fun m => .tight m.1 m.2)

theorem write_ofText (s : String) : (ofText s).write = writeText s := by
  rw [ofText, write, inQuotes_signsOf]

theorem write_ofList (vs : List Value) : (ofList vs).write = writeList (vs.map write) := by
  rw [ofList, write_list, writeList, List.map_map, Function.comp_def]
  simp only [Padded.text_tight]
  rfl

theorem write_ofMembers (ms : List (String × Value)) :
    (ofMembers ms).write = writeObject (ms.map fun m => (m.1, m.2.write)) := by
  rw [ofMembers, write_object, writeObject, List.map_map, List.map_map, Function.comp_def,
    Function.comp_def]
  simp only [Named.text_tight]
  rfl

end Value

end Typeahead.Json
