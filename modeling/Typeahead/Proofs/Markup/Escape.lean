import Typeahead.Markup.Escape
import Typeahead.Proofs.Label
import Typeahead.Proofs.Markup.Reference

/-!
# What escaping writes

For each of the five characters that mean something to markup escaping writes a reference, and the
others stay (`Escaping`). The references can be put in one character after another, `&` first: what one
replacement has written is left alone by those after it (`Escaping.replaceInTurn`).

The text written has no tag, and its only `&` are those of the references (`Escaping.exists_reference`).
Decoding reads them back, and then goes on with what follows (`Escaping.decode_append`); so a label
that begins with an escaped text shows it as it was (`displayText_escape_append`).
-/

namespace Typeahead.Markup
open Text

/-- The characters that mean something to markup, with the references for them. -/
def specials : List (Char × List Char) :=
  [('&', "&amp;".toList), ('<', "&lt;".toList), ('>', "&gt;".toList), ('"', "&quot;".toList),
    ('\'', "&#39;".toList)]

/-- The second text is the first one, escaped. -/
inductive Escaping : List Char → List Char → Prop
  | nil : Escaping [] []
  | plain {c : Char} {s t : List Char} (hc : ∀ e ∈ specials, c ≠ e.1) (h : Escaping s t) :
      Escaping (c :: s) (c :: t)
  | reference {e : Char × List Char} {s t : List Char} (he : e ∈ specials) (h : Escaping s t) :
      Escaping (e.1 :: s) (e.2 ++ t)

variable {s t : List Char} {c : Char} {e : Char × List Char}

theorem escapeChar_of_mem : ∀ e ∈ specials, escapeChar e.1 = e.2 := by decide

theorem escapeChar_of_ne (hc : ∀ e ∈ specials, c ≠ e.1) : escapeChar c = [c] := by
  have hne : ∀ d ∈ specials.map Prod.fst, c ≠ d := List.forall_mem_map.mpr hc
  unfold escapeChar
  split
  case h_6 => rfl
  all_goals exact absurd rfl (hne _ (by decide))

theorem escaping_flatMap (s : List Char) : Escaping s (s.flatMap escapeChar) := by
  induction s with
  | nil => exact .nil
  | cons c s ih =>
    rw [List.flatMap_cons]
    by_cases hc : ∃ e ∈ specials, c = e.1
    · obtain ⟨e, he, rfl⟩ := hc
      rw [escapeChar_of_mem e he]
      exact .reference he ih
    · have hplain : ∀ e ∈ specials, c ≠ e.1 := fun e he heq => hc ⟨e, he, heq⟩
      rw [escapeChar_of_ne hplain]
      exact .plain hplain ih

theorem escaping_escape (s : String) : Escaping s.toList (escape s).toList := by
  rw [escape, String.toList_ofList]
  exact escaping_flatMap s.toList

theorem escape_append (s t : String) : escape (s ++ t) = escape s ++ escape t := by
  rw [escape, String.toList_append, List.flatMap_append, String.ofList_append, escape, escape]

/-! ### One replacement after another -/

/-- The text with `m` in the place of each `c`. -/
def replaceChar (c : Char) (m s : List Char) : List Char := s.flatMap fun d => if d = c then m else [d]

/-- The text after all the replacements, each made in what those before it have left. -/
def replaceInTurn (rs : List (Char × List Char)) (s : List Char) : List Char :=
  rs.foldl (fun s r => replaceChar r.1 r.2 s) s

theorem replaceInTurn_append (rs : List (Char × List Char)) (s t : List Char) :
    replaceInTurn rs (s ++ t) = replaceInTurn rs s ++ replaceInTurn rs t := by
  induction rs generalizing s t with
  | nil => rfl
  | cons r rs ih =>
    have happend : replaceChar r.1 r.2 (s ++ t) = replaceChar r.1 r.2 s ++ replaceChar r.1 r.2 t :=
      List.flatMap_append
    rw [replaceInTurn, List.foldl_cons, happend]
    exact ih _ _

theorem replaceInTurn_of_ne {rs : List (Char × List Char)} (hc : ∀ r ∈ rs, c ≠ r.1) :
    replaceInTurn rs [c] = [c] := by
  induction rs with
  | nil => rfl
  | cons r rs ih =>
    obtain ⟨hr, hrs⟩ := List.forall_mem_cons.mp hc
    have hkept : replaceChar r.1 r.2 [c] = [c] := by
      rw [replaceChar, List.flatMap_singleton, if_neg hr]
    rw [replaceInTurn, List.foldl_cons, hkept]
    exact ih hrs

/-- The reference for `&` has none of the other four characters, and theirs have none of those that are
still to come. -/
theorem replaceInTurn_of_mem : ∀ e ∈ specials, replaceInTurn specials [e.1] = e.2 := by decide

-- with `&` last, the reference for `<` is escaped itself
example : replaceInTurn specials.reverse ['<'] = "&amp;lt;".toList := by decide

theorem Escaping.replaceInTurn (h : Escaping s t) : replaceInTurn specials s = t := by
  induction h with
  | nil => rfl
  | @plain c s t hc _ ih =>
    rw [← List.singleton_append, replaceInTurn_append, replaceInTurn_of_ne hc, ih]
    rfl
  | @reference e s t he _ ih =>
    rw [← List.singleton_append, replaceInTurn_append, replaceInTurn_of_mem e he, ih]

/-! ### What is written -/

theorem exists_body : ∀ e ∈ specials,
    ∃ b, e.2 = '&' :: b ++ [';'] ∧ (∀ c ∈ b, insideReference c) ∧ referent? b = some e.1 := by
  have hall : ∀ {b : List Char}, b.all insideReference = true → ∀ c ∈ b, insideReference c :=
    List.all_eq_true.mp
  simp only [specials, List.forall_mem_cons]
  exact ⟨⟨"amp".toList, rfl, hall rfl, rfl⟩, ⟨"lt".toList, rfl, hall rfl, rfl⟩,
    ⟨"gt".toList, rfl, hall rfl, rfl⟩, ⟨"quot".toList, rfl, hall rfl, rfl⟩,
    ⟨"#39".toList, rfl, hall rfl, rfl⟩, nofun⟩

theorem Escaping.not_mem (h : Escaping s t) (hc : c ∈ ['<', '>', '"', '\'']) : c ∉ t := by
  induction h with
  | nil => exact List.not_mem_nil
  | @plain d s t hd _ ih =>
    have hne : c ≠ d := by
      rintro rfl
      have hspecial : ['<', '>', '"', '\''] ⊆ specials.map Prod.fst := by decide
      obtain ⟨e, he, heq⟩ := List.mem_map.mp (hspecial hc)
      exact hd e he heq.symm
    exact List.not_mem_cons_of_ne_of_not_mem hne ih
  | @reference e s t he _ ih =>
    have hreference : ∀ e ∈ specials, ['<', '>', '"', '\''].all (!e.2.contains ·) = true := by
      decide
    have hnot : c ∉ e.2 := by simpa using List.all_eq_true.mp (hreference e he) c hc
    rw [List.mem_append]
    exact not_or.mpr ⟨hnot, ih⟩

/-- Each `&` is the first character of a reference. -/
theorem Escaping.exists_reference (h : Escaping s t) {a r : List Char} (ht : t = a ++ '&' :: r) :
    ∃ e ∈ specials, e.2 <+: '&' :: r := by
  induction h generalizing a with
  | nil => exact absurd ht.symm (by simp)
  | @plain c s t hc _ ih =>
    cases a with
    | nil =>
      obtain ⟨rfl, -⟩ := List.cons.inj ht
      exact absurd rfl (hc ('&', _) List.mem_cons_self)
    | cons d a => exact ih (List.cons.inj ht).2
  | @reference e s t he _ ih =>
    obtain ⟨b, hb, hinside, -⟩ := exists_body e he
    cases a with
    | nil => exact ⟨e, he, t, ht⟩
    | cons d a =>
      have hrest : b ++ [';'] ++ t = a ++ '&' :: r := by
        rw [hb] at ht
        exact (List.cons.inj ht).2
      rcases List.append_eq_append_iff.mp hrest with ⟨a', -, htail⟩ | ⟨m, hm, hr⟩
      · exact ih htail
      · cases m with
        | nil => exact ih (a := []) hr.symm
        | cons d m =>
          -- no second `&` stands in a reference
          obtain ⟨rfl, -⟩ := List.cons.inj hr
          have hmem : '&' ∈ b ++ [';'] := hm ▸ List.mem_append_right _ List.mem_cons_self
          have hamp : '&' ∈ b := by simpa using hmem
          exact absurd (hinside _ hamp) (by decide)

/-! ### Reading it back -/

theorem decode_of_mem (he : e ∈ specials) (s : List Char) : decode (e.2 ++ s) = e.1 :: decode s := by
  obtain ⟨b, hb, hinside, hreferent⟩ := exists_body e he
  have hhead : reference.head? (e.2 ++ s) = some (e.2, s) := by
    have hinside' := referenceHead?_of_inside hinside s
    rw [hreferent] at hinside'
    rw [hb, List.append_assoc]
    exact hinside'
  have hread : referent e.2 = [e.1] := by
    have hbody : (e.2.drop 1).dropLast = b := by
      rw [hb]
      exact List.dropLast_concat
    rw [referent, hbody, hreferent]
  calc decode (e.2 ++ s) = referent e.2 ++ decode s := reference.replace_of_head? hhead
    _ = e.1 :: decode s := by rw [hread, List.singleton_append]

theorem Escaping.decode_append (h : Escaping s t) (r : List Char) :
    decode (t ++ r) = s ++ decode r := by
  induction h with
  | nil => rfl
  | @plain c s t hc _ ih =>
    have hne : c ≠ '&' := hc ('&', _) List.mem_cons_self
    have hamp : '&' ∉ [c] := fun hmem => hne (List.mem_singleton.mp hmem).symm
    calc decode (c :: t ++ r) = c :: decode (t ++ r) := Markup.decode_append hamp (t ++ r)
      _ = c :: s ++ decode r := by rw [ih, List.cons_append]
  | @reference e s t he _ ih =>
    calc decode (e.2 ++ t ++ r) = e.1 :: decode (t ++ r) := by rw [List.append_assoc, decode_of_mem he]
      _ = e.1 :: s ++ decode r := by rw [ih, List.cons_append]

theorem displayText_escape_append (s label : String) :
    displayText (escape s ++ label) = s ++ displayText label := by
  have h := escaping_escape s
  have hclear := clear_of_lt_not_mem (h.not_mem (by decide)) label.toList
  rw [displayText, String.toList_append, stripTags_append hclear, h.decode_append,
    String.ofList_append, String.ofList_toList, displayText]

theorem displayText_escape (s : String) : displayText (escape s) = s := by
  have h := displayText_escape_append s ""
  rwa [String.append_empty, displayText_empty, String.append_empty] at h

/-- An escaped text shows as it was. It is what replacing the five characters one after another gives,
and what its parts give put together; no two texts give the same. No quote or angle bracket is left in
it, and every `&` begins a reference. -/
theorem escape_undone :
    (∀ s, displayText (escape s) = s) ∧
    (∀ s, (escape s).toList = replaceInTurn specials s.toList) ∧
    Function.Injective escape ∧
    (∀ s t, escape (s ++ t) = escape s ++ escape t) ∧
    (∀ s, ∀ c ∈ ['<', '>', '"', '\''], c ∉ (escape s).toList) ∧
    (∀ s a r, (escape s).toList = a ++ '&' :: r → ∃ e ∈ specials, e.2 <+: '&' :: r) := by
  refine ⟨displayText_escape, fun s => (escaping_escape s).replaceInTurn.symm, ?_, escape_append,
    fun s _ hc => (escaping_escape s).not_mem hc, fun s _ _ => (escaping_escape s).exists_reference⟩
  intro s t h
  rw [← displayText_escape s, h, displayText_escape]

theorem escape_undone_look_alikes :
    displayText (escape "O'Brien <b>&amp;lt;&#39;</b>") = "O'Brien <b>&amp;lt;&#39;</b>" ∧
    '<' ∉ (escape "O'Brien <b>&amp;lt;&#39;</b>").toList ∧
    ∃ e ∈ specials, e.2 <+: "&amp;amp;".toList := by
  have hamp : (escape "<&amp;").toList = "&lt;".toList ++ '&' :: "amp;amp;".toList := by rfl
  exact ⟨escape_undone.1 _, escape_undone.2.2.2.2.1 _ '<' (by decide),
    escape_undone.2.2.2.2.2 _ _ _ hamp⟩

end Typeahead.Markup
