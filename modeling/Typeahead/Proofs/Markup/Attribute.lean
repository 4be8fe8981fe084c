import Mathlib.Data.List.TakeWhile
import Typeahead.Proofs.Markup.Escape
import Typeahead.Proofs.Markup.Nesting

/-!
# Tags with attributes

A page writes the name of an element and its attributes between angle brackets, the value of each in
quotes and escaped (`tagWith`). However strange the values are, this is one tag (`isTag_tagWith`),
and its attributes are read as those that were written (`attributes_tagWith`): escaping leaves no
quote in a value, so the next quote is the one that ends it, and no angle bracket, so the tag goes on
until then.
-/

namespace Typeahead.Markup
open Text

/-- Letters only, as in the names of elements and of attributes. -/
def IsName (name : String) : Prop := ∀ c ∈ name.toList, c.isAlpha

instance (name : String) : Decidable (IsName name) :=
  decidable_of_iff (name.toList.all Char.isAlpha = true) List.all_eq_true

/-- An attribute as it is written, with a blank before it. -/
def writeAttribute (a : String × String) : List Char :=
  ' ' :: a.1.toList ++ '=' :: '"' :: (escape a.2).toList ++ ['"']

/-- The tag of an element with the attributes given; `last` stands before the bracket that closes
it. -/
def tagWith (name : String) (as : List (String × String)) (last : List Char) : List Char :=
  opening (name.toList ++ (as.flatMap writeAttribute ++ last))

/-- The element that a tag is of; no name if the tag closes it. -/
def elementName (t : List Char) : String := String.ofList (t.tail.takeWhile Char.isAlpha)

/-- The attributes of a tag. The name goes on up to the next `=`, and the value from the next quote
up to the one after that; its references are decoded. -/
def attributes (t : List Char) : List (String × String) :=
  match _h : t.dropWhile (· ≠ ' ') with
  | [] => []
  | _ :: s =>
    let value := (s.dropWhile (· ≠ '"')).tail
    (String.ofList (s.takeWhile (· ≠ '=')), String.ofList (decode (value.takeWhile (· ≠ '"')))) ::
      attributes (value.dropWhile (· ≠ '"')).tail
termination_by t.length
decreasing_by
  have hs := (List.dropWhile_sublist (l := t) (· ≠ ' ')).length_le
  rw [_h, List.length_cons] at hs
  have hvalue := (List.dropWhile_sublist (l := s) (· ≠ '"')).length_le
  have hrest := (List.dropWhile_sublist (l := (s.dropWhile (· ≠ '"')).tail) (· ≠ '"')).length_le
  simp only [List.length_tail] at hrest ⊢
  omega

/-- The value of the attribute of that name, if the tag has one. -/
def attribute? (name : String) (t : List Char) : Option String := (attributes t).lookup name

/-! ### What is written -/

/-- A tag and the text before it are the first two pieces of a page. -/
theorem pieces_append_tag {a m : List Char} (ha : '<' ∉ a) (hm : IsTag m) (r : List Char) :
    tag.pieces (a ++ (m ++ r)) = .plain a :: .found m :: tag.pieces r :=
  tag.pieces_append (clear_of_lt_not_mem ha _) (recognizes_tag.mpr ⟨rfl, hm⟩)

theorem matched_append_tag {a m : List Char} (ha : '<' ∉ a) (hm : IsTag m) (r : List Char) :
    tag.matched (a ++ (m ++ r)) = m :: tag.matched r := by
  rw [Pattern.matched, pieces_append_tag ha hm]
  rfl

theorem IsName.not_mem {name : String} (h : IsName name) {c : Char} (hc : c.isAlpha = false) :
    c ∉ name.toList :=
  fun hm => absurd (h c hm) (by simp [hc])

theorem IsName.bracketFree {name : String} (h : IsName name) : BracketFree name.toList := by
  intro c hc
  have hlt : c ≠ '<' := fun heq => h.not_mem (by decide) (heq ▸ hc)
  have hgt : c ≠ '>' := fun heq => h.not_mem (by decide) (heq ▸ hc)
  simp [notAngle, hlt, hgt]

theorem not_mem_escape {c : Char} (hc : c ∈ ['<', '>', '"', '\'']) (s : String) :
    c ∉ (escape s).toList :=
  (escaping_escape s).not_mem hc

theorem bracketFree_escape (s : String) : BracketFree (escape s).toList := by
  intro c hc
  have hlt : c ≠ '<' := fun heq => not_mem_escape (by decide) s (heq ▸ hc)
  have hgt : c ≠ '>' := fun heq => not_mem_escape (by decide) s (heq ▸ hc)
  simp [notAngle, hlt, hgt]

theorem IsName.isTag_closing {name : String} (h : IsName name) : IsTag (closing name.toList) :=
  ⟨_, rfl, h.bracketFree.cons_slash⟩

theorem bracketFree_append {a b : List Char} :
    BracketFree (a ++ b) ↔ BracketFree a ∧ BracketFree b :=
  List.forall_mem_append

theorem bracketFree_writeAttribute {a : String × String} (ha : IsName a.1) :
    BracketFree (writeAttribute a) := by
  have hblank : BracketFree [' '] := by decide
  have hequals : BracketFree ['=', '"'] := by decide
  have hquote : BracketFree ['"'] := by decide
  have hname := bracketFree_append.mpr ⟨hblank, ha.bracketFree⟩
  have hvalue := bracketFree_append.mpr ⟨hequals, bracketFree_escape a.2⟩
  exact bracketFree_append.mpr ⟨bracketFree_append.mpr ⟨hname, hvalue⟩, hquote⟩

section
variable {name : String} {as : List (String × String)} {last : List Char}

theorem isTag_tagWith (hname : IsName name) (has : ∀ a ∈ as, IsName a.1)
    (hlast : BracketFree last) : IsTag (tagWith name as last) := by
  refine ⟨_, rfl, bracketFree_append.mpr ⟨hname.bracketFree, bracketFree_append.mpr ⟨?_, hlast⟩⟩⟩
  intro c hc
  obtain ⟨a, ha, hca⟩ := List.mem_flatMap.mp hc
  exact bracketFree_writeAttribute (has a ha) c hca

theorem elementName_tagWith (hname : IsName name) (a : String × String) (last : List Char) :
    elementName (tagWith name (a :: as) last) = name := by
  have hinside : (tagWith name (a :: as) last).tail = name.toList ++
      ' ' :: ((writeAttribute a).tail ++ as.flatMap writeAttribute ++ last ++ ['>']) := by
    simp [tagWith, opening, writeAttribute]
  rw [elementName, hinside, takeWhile_append_cons hname (by decide), String.ofList_toList]

theorem elementName_closing (name : List Char) : elementName (closing name) = "" := rfl

/-! ### Reading it back -/

theorem decode_escape (s : String) : decode (escape s).toList = s.toList := by
  have h := (escaping_escape s).decode_append []
  rwa [List.append_nil, decode, decode, reference.replace_nil, List.append_nil] at h

theorem attributes_of_cons {t s : List Char} {b : Char} (h : t.dropWhile (· ≠ ' ') = b :: s) :
    attributes t =
      (String.ofList (s.takeWhile (· ≠ '=')),
        String.ofList (decode ((s.dropWhile (· ≠ '"')).tail.takeWhile (· ≠ '"')))) ::
      attributes ((s.dropWhile (· ≠ '"')).tail.dropWhile (· ≠ '"')).tail := by
  rw [attributes]
  split
  · rename_i heq
    rw [h] at heq
    cases heq
  · rename_i heq
    rw [h] at heq
    cases heq
    rfl

theorem attributes_of_blank_not_mem {t : List Char} (h : ' ' ∉ t) : attributes t = [] := by
  have hd : t.dropWhile (· ≠ ' ') = [] := by
    rw [List.dropWhile_eq_nil_iff]
    exact ne_of_not_mem h
  rw [attributes]
  split
  · rfl
  · rename_i heq
    rw [hd] at heq
    cases heq

/-- The attribute that comes first is read, and then those behind it. -/
theorem attributes_append {lead : List Char} (hlead : ' ' ∉ lead) {a : String × String}
    (ha : IsName a.1) (s : List Char) :
    attributes (lead ++ (writeAttribute a ++ s)) = a :: attributes s := by
  have hequals : '=' ∉ a.1.toList := ha.not_mem (by decide)
  have hquote : '"' ∉ a.1.toList ++ ['='] := by
    simpa using ha.not_mem (c := '"') (by decide)
  have hvalue : '"' ∉ (escape a.2).toList := not_mem_escape (by decide) a.2
  have hblank := dropWhile_ne_append hlead
    (a.1.toList ++ '=' :: '"' :: ((escape a.2).toList ++ '"' :: s))
  have hopen := dropWhile_ne_append hquote ((escape a.2).toList ++ '"' :: s)
  rw [List.append_assoc, List.singleton_append] at hopen
  have htext : lead ++ (writeAttribute a ++ s) =
      lead ++ ' ' :: (a.1.toList ++ '=' :: '"' :: ((escape a.2).toList ++ '"' :: s)) := by
    simp [writeAttribute]
  rw [htext, attributes_of_cons hblank]
  simp only [takeWhile_ne_append hequals, hopen, List.tail_cons, takeWhile_ne_append hvalue,
    dropWhile_ne_append hvalue, decode_escape, String.ofList_toList]

theorem attributes_tagWith (hname : IsName name) (has : ∀ a ∈ as, IsName a.1)
    (hlast : ' ' ∉ last) : attributes (tagWith name as last) = as := by
  have hlead : ' ' ∉ '<' :: name.toList := by
    simpa using hname.not_mem (c := ' ') (by decide)
  rw [tagWith, opening, List.cons_append, List.append_assoc, ← List.cons_append]
  generalize '<' :: name.toList = lead at hlead
  induction as generalizing lead with
  | nil =>
    refine attributes_of_blank_not_mem ?_
    simp [hlead, hlast]
  | cons a as ih =>
    obtain ⟨ha, has⟩ := List.forall_mem_cons.mp has
    have hrest := ih has [] List.not_mem_nil
    rw [List.flatMap_cons, List.append_assoc, List.append_assoc, attributes_append hlead ha]
    simpa using hrest

end

end Typeahead.Markup
