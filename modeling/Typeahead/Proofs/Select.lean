import Mathlib.Order.Bounds.Defs
import Typeahead.Select

/-!
# Lookups in a select

Selecting by value and taking over a new list are positions in a list. Here they are said as the
choice found, and as the least position there is.
-/

namespace Typeahead

namespace Choice

theorem find?_eq_bind_position? (choices : List Choice) (v : String) :
    choices.find? (·.value = v) = (Choice.position? choices v).bind (choices[·]?) :=
  List.find?_eq_bind_findIdx?_getElem?

theorem position?_eq_some_iff {choices : List Choice} {v : String} {i : Nat} :
    position? choices v = some i ↔ IsLeast {j | ∃ c, choices[j]? = some c ∧ c.value = v} i := by
  rw [position?, List.findIdx?_eq_some_iff_getElem]
  constructor
  · rintro ⟨hlt, hv, hfirst⟩
    refine ⟨⟨choices[i], List.getElem?_eq_getElem hlt, of_decide_eq_true hv⟩, ?_⟩
    rintro j ⟨c, hc, hcv⟩
    obtain ⟨_, rfl⟩ := List.getElem?_eq_some_iff.mp hc
    exact Nat.le_of_not_lt fun hji => hfirst j hji (decide_eq_true hcv)
  · rintro ⟨⟨c, hc, hcv⟩, hleast⟩
    obtain ⟨hlt, rfl⟩ := List.getElem?_eq_some_iff.mp hc
    refine ⟨hlt, decide_eq_true hcv, fun j hji hv => ?_⟩
    have hj : j < choices.length := Nat.lt_trans hji hlt
    have hle : i ≤ j := hleast ⟨choices[j], List.getElem?_eq_getElem hj, of_decide_eq_true hv⟩
    omega

theorem position?_eq_none_iff {choices : List Choice} {v : String} :
    position? choices v = Option.none ↔ ∀ c ∈ choices, c.value ≠ v := by
  simp [position?]

end Choice

namespace Select

theorem choice?_setValue (s : Select) (v : String) :
    (s.setValue v).choice? = s.choices.find? (·.value = v) :=
  (Choice.find?_eq_bind_position? s.choices v).symm

/-- The empty choice that is put in front of a new list is never the one selected. -/
theorem choice?_replace (s : Select) (choices : List Choice) (keep : String) :
    (s.replace choices keep).choice? =
      if keep = "" then none else choices.find? (·.value = keep) := by
  by_cases hk : keep = ""
  · subst hk; rfl
  · have hfirst : ¬ Choice.none.value = keep := fun h => hk h.symm
    have hs : (s.replace choices keep).choice? = (Choice.none :: choices).find? (·.value = keep) := by
      rw [Choice.find?_eq_bind_position?]
      simp [replace, choice?, hk]
    rw [hs, if_neg hk, List.find?_cons_of_neg (by simpa using hfirst)]

theorem selected_replace (s : Select) (choices : List Choice) {keep : String} (hk : keep ≠ "") :
    (s.replace choices keep).selected = Choice.position? (.none :: choices) keep := by
  simp [replace, hk]

/-- The first of the choices that come with the value kept is selected. -/
theorem selected_replace_eq_some_iff (s : Select) (choices : List Choice) (keep : String) (i : Nat) :
    (s.replace choices keep).selected = some i ↔ keep ≠ "" ∧
      IsLeast {j | 1 ≤ j ∧ ∃ c, (Choice.none :: choices)[j]? = some c ∧ c.value = keep} i := by
  by_cases hk : keep = ""
  · subst hk; simp [replace]
  · have hpos : ∀ j, (∃ c, (Choice.none :: choices)[j]? = some c ∧ c.value = keep) → 1 ≤ j := by
      rintro j ⟨c, hc, rfl⟩
      refine Nat.one_le_iff_ne_zero.mpr fun hj => hk ?_
      subst hj
      obtain rfl : Choice.none = c := by simpa using hc
      rfl
    have hset : {j | 1 ≤ j ∧ ∃ c, (Choice.none :: choices)[j]? = some c ∧ c.value = keep} =
        {j | ∃ c, (Choice.none :: choices)[j]? = some c ∧ c.value = keep} :=
      Set.ext fun j => ⟨And.right, fun h => ⟨hpos j h, h⟩⟩
    rw [selected_replace s choices hk, hset, Choice.position?_eq_some_iff]
    exact (and_iff_right hk).symm

theorem selected_replace_eq_none_iff (s : Select) (choices : List Choice) (keep : String) :
    (s.replace choices keep).selected = none ↔ keep = "" ∨ ∀ c ∈ choices, c.value ≠ keep := by
  by_cases hk : keep = ""
  · simp [replace, hk]
  · have hfirst : Choice.none.value ≠ keep := fun h => hk h.symm
    rw [selected_replace s choices hk, Choice.position?_eq_none_iff, List.forall_mem_cons]
    exact ⟨fun h => .inr h.2, fun h => ⟨hfirst, h.resolve_left hk⟩⟩

theorem value_replace (s : Select) (choices : List Choice) (keep : String) :
    (s.replace choices keep).value = if ∃ c ∈ choices, c.value = keep then keep else "" := by
  rw [value, choice?_replace]
  by_cases hk : keep = ""
  · simp [hk]
  · rw [if_neg hk]
    cases hf : choices.find? (·.value = keep) with
    | none =>
      have hnone : ¬ ∃ c ∈ choices, c.value = keep := by simpa using hf
      rw [if_neg hnone]; rfl
    | some c =>
      have hv : c.value = keep := by simpa using List.find?_some hf
      rw [if_pos ⟨c, List.mem_of_find?_eq_some hf, hv⟩, ← hv]; rfl

end Select
end Typeahead
