import Typeahead.Proofs.Markup.Tag
import Typeahead.Proofs.Markup.Form

/-!
# What decoding leaves alone

A reference that stands for something has the form of one (`isReference_of_reference`), so nothing
but what is written as a reference is ever replaced. What has no `&` is passed as it is
(`decode_append`), and what is written as a reference is replaced or passed as a whole
(`exists_decode_append`).
-/

namespace Typeahead.Markup
open Text

/-! ### References that stand for something -/

/-- At least one letter or digit, and nothing else. -/
def IsWord (b : List Char) : Prop := b ≠ [] ∧ ∀ c ∈ b, isAlphanumeric c

instance (b : List Char) : Decidable (IsWord b) :=
  decidable_of_iff (b.isEmpty = false ∧ b.all isAlphanumeric = true) (by simp [IsWord])

theorem IsWord.cons {c : Char} {b : List Char} (hc : isAlphanumeric c) (h : IsWord b) :
    IsWord (c :: b) :=
  ⟨List.cons_ne_nil _ _, List.forall_mem_cons.mpr ⟨hc, h.2⟩⟩

theorem IsWord.isReference {b : List Char} (h : IsWord b) : IsReference ('&' :: b ++ [';']) :=
  ⟨['&'], by simp, b, rfl, h⟩

theorem IsWord.isReference_number {b : List Char} (h : IsWord b) :
    IsReference ('&' :: '#' :: b ++ [';']) :=
  ⟨['&', '#'], by simp, b, rfl, h⟩

theorem isAlphanumeric_iff {c : Char} :
    isAlphanumeric c ↔
      (('A' ≤ c ∧ c ≤ 'Z') ∨ ('a' ≤ c ∧ c ≤ 'z')) ∨ ('0' ≤ c ∧ c ≤ '9') := by
  delta isAlphanumeric Char.isAlphanum Char.isAlpha Char.isUpper Char.isLower Char.isDigit
  simp only [Bool.or_eq_true, Bool.and_eq_true, decide_eq_true_eq, Char.le_def, ge_iff_le]

theorem isAlphanumeric_of_hexDigit? {c : Char} (h : (hexDigit? c).isSome) : isAlphanumeric c := by
  unfold hexDigit? at h
  rw [isAlphanumeric_iff]
  split at h
  · rename_i hdigit
    exact .inr hdigit
  split at h
  · rename_i hlower
    have hz : c ≤ 'z' := Char.le_trans hlower.2 (by decide)
    exact .inl (.inr ⟨hlower.1, hz⟩)
  split at h
  · rename_i hupper
    have hz : c ≤ 'Z' := Char.le_trans hupper.2 (by decide)
    exact .inl (.inl ⟨hupper.1, hz⟩)
  · cases h

theorem exists_isSome_of_foldlM {α β : Type} {f : β → α → Option β} {s : List α} {n : β}
    (h : (s.foldlM f n).isSome) : ∀ c ∈ s, ∃ k, (f k c).isSome := by
  induction s generalizing n with
  | nil => simp
  | cons c s ih =>
    rw [List.foldlM_cons] at h
    cases hc : f n c with
    | none => rw [hc] at h; cases h
    | some k =>
      rw [hc] at h
      exact List.forall_mem_cons.mpr ⟨⟨n, by rw [hc]; rfl⟩, ih h⟩

theorem isWord_of_number? {base : Nat} {s : List Char} (h : (number? base s).isSome) :
    IsWord s := by
  unfold number? at h
  split at h
  · cases h
  · rename_i hne
    refine ⟨by simpa using hne, fun c hc => ?_⟩
    obtain ⟨k, hk⟩ := exists_isSome_of_foldlM h c hc
    refine isAlphanumeric_of_hexDigit? ?_
    split at hk
    · rename_i hdigit
      rw [hdigit]
      rfl
    · cases hk

theorem isWord_of_readName? {row : List Char} {name : String} {c : Char}
    (h : readName? row = some (name, c)) : IsWord name.toList := by
  unfold readName? at h
  split at h
  · dsimp only at h
    split at h
    · cases h
    · rename_i hne
      simp only [Option.some.injEq, Prod.mk.injEq] at h
      obtain ⟨rfl, -⟩ := h
      rw [String.toList_ofList]
      exact ⟨by simpa using hne, fun d hd => List.all_eq_true.mp List.all_takeWhile d hd⟩
  · cases h

theorem isWord_of_mem_referenceNames {name : String} (h : name ∈ referenceNames) :
    IsWord name.toList := by
  rw [referenceNames, Std.HashMap.mem_ofList, List.contains_iff_mem] at h
  obtain ⟨⟨name, c⟩, hentry, rfl⟩ := List.mem_map.mp h
  obtain ⟨row, -, hrow⟩ := List.mem_filterMap.mp hentry
  exact isWord_of_readName? hrow

theorem isSome_of_isSome_bind {α β : Type} {x : Option α} {f : α → Option β}
    (h : (x.bind f).isSome) : x.isSome := by
  cases x with
  | none => cases h
  | some _ => rfl

theorem isReference_of_referent? {b : List Char} (h : (referent? b).isSome) :
    IsReference ('&' :: b ++ [';']) := by
  unfold referent? at h
  split at h
  case h_6 | h_7 =>
    have hdigits := isWord_of_number? (isSome_of_isSome_bind h)
    exact (hdigits.cons (by decide)).isReference_number
  case h_8 => exact (isWord_of_number? (isSome_of_isSome_bind h)).isReference_number
  case h_9 =>
    have hname := isWord_of_mem_referenceNames (Std.HashMap.isSome_getElem?_iff_mem.mp h)
    rw [String.toList_ofList] at hname
    exact hname.isReference
  -- the names that markup itself needs
  all_goals exact IsWord.isReference (by decide)

theorem isReference_of_reference {s m r : List Char} (h : reference.head? s = some (m, r)) :
    IsReference m := by
  obtain ⟨b, rfl, -, -, hb⟩ := referenceHead?_eq_some h
  exact isReference_of_referent? hb

/-! ### Decoding -/

theorem insideReference_of_isAlphanumeric {c : Char} (h : isAlphanumeric c) : insideReference c := by
  have hamp : c ≠ '&' := fun heq => absurd (heq ▸ h) (by decide)
  have hsemicolon : c ≠ ';' := fun heq => absurd (heq ▸ h) (by decide)
  simp [insideReference, hamp, hsemicolon]

theorem IsReference.exists_inside {m : List Char} (h : IsReference m) :
    ∃ b, m = '&' :: b ++ [';'] ∧ ∀ c ∈ b, insideReference c := by
  obtain ⟨lead, hlead, b, rfl, -, hb⟩ := h
  have hinside : ∀ c ∈ b, insideReference c := fun c hc =>
    insideReference_of_isAlphanumeric (hb c hc)
  simp only [List.mem_cons, List.not_mem_nil, or_false] at hlead
  rcases hlead with rfl | rfl
  · exact ⟨b, rfl, hinside⟩
  · exact ⟨'#' :: b, rfl, List.forall_mem_cons.mpr ⟨by decide, hinside⟩⟩

theorem referenceHead?_of_inside {b : List Char} (hb : ∀ c ∈ b, insideReference c) (s : List Char) :
    referenceHead? ('&' :: b ++ ';' :: s) =
      if (referent? b).isSome then some ('&' :: b ++ [';'], s) else none := by
  have hd : (b ++ ';' :: s).dropWhile insideReference = ';' :: s :=
    dropWhile_append_cons hb (by decide) s
  have ht : (b ++ ';' :: s).takeWhile insideReference = b := takeWhile_append_cons hb (by decide) s
  simp [referenceHead?, hd, ht]

theorem clear_of_amp_not_mem {a : List Char} (h : '&' ∉ a) (s : List Char) : reference.Clear s a := by
  refine reference.clear_of_not_mem (fun s m r hm => ?_) h s
  obtain ⟨b, rfl, -⟩ := referenceHead?_eq_some hm
  rfl

/-- Text without `&` is passed as it is. -/
theorem decode_append {a : List Char} (h : '&' ∉ a) (s : List Char) :
    decode (a ++ s) = a ++ decode s :=
  reference.replace_append_of_clear (clear_of_amp_not_mem h s)

/-- What is written as a reference is replaced or passed, and what follows is decoded by itself. -/
theorem exists_decode_append {m : List Char} (h : IsReference m) (s : List Char) :
    ∃ d, decode (m ++ s) = d ++ decode s := by
  obtain ⟨b, rfl, hb⟩ := h.exists_inside
  have hhead : reference.head? ('&' :: b ++ ';' :: s) = _ := referenceHead?_of_inside hb s
  rw [List.append_assoc, List.singleton_append]
  split at hhead
  · exact ⟨_, reference.replace_of_head? hhead⟩
  · have hamp : '&' ∉ b ++ [';'] := by
      have hmem : '&' ∉ b := fun hmem => absurd (hb _ hmem) (by decide)
      simp [hmem]
    have hrest : decode (b ++ ';' :: s) = b ++ [';'] ++ decode s := by
      rw [← decode_append hamp s, List.append_assoc, List.singleton_append]
    have hcons : decode ('&' :: b ++ ';' :: s) = '&' :: decode (b ++ ';' :: s) :=
      reference.replace_cons hhead
    exact ⟨'&' :: b ++ [';'], by rw [hcons, hrest]; rfl⟩

end Typeahead.Markup
