import Typeahead.Proofs.Select

/-!
# Selects in use

The position selected is kept apart from the list it points into, and the list grows and is replaced.
A position that were left over would go unnoticed until the list is long enough again. It never is
left over (`InRange.edits`): a change writes a position found in the list, or makes the list longer,
or unselects. So what a select answers is what its list says (`sound_of_edits`).
-/

namespace Typeahead
namespace Select
variable {s : Select} {i : Nat} {v : String}

def edits (s : Select) (es : List Edit) : Select := es.foldl edit s

/-! ### Positions in the list -/

/-- The position selected, if any, is one of the list. -/
def InRange (s : Select) : Prop := ∀ i, s.selected = some i → i < s.choices.length

theorem position?_lt {choices : List Choice} (h : Choice.position? choices v = some i) :
    i < choices.length := by
  obtain ⟨⟨c, hc, -⟩, -⟩ := Choice.position?_eq_some_iff.mp h
  exact (List.getElem?_eq_some_iff.mp hc).1

theorem select?_eq_some_iff {t : Select} :
    s.select? i = some t ↔ i < s.choices.length ∧ t = { s with selected := some i } := by
  unfold select?
  split
  · rename_i hlt
    rw [Option.some.injEq, eq_comm]
    exact (and_iff_right hlt).symm
  · rename_i hge
    exact iff_of_false (fun h => by cases h) fun h => hge h.1

theorem InRange.append (h : s.InRange) (choices : List Choice) : (s.append choices).InRange := by
  intro i hi
  have hlt := h i hi
  show i < (s.choices ++ choices).length
  rw [List.length_append]
  omega

theorem InRange.select (h : s.InRange) (i : Nat) : ((s.select? i).getD s).InRange := by
  cases hs : s.select? i with
  | none => exact h
  | some t =>
    obtain ⟨hlt, rfl⟩ := select?_eq_some_iff.mp hs
    intro j hj
    obtain rfl : i = j := Option.some.inj hj
    exact hlt

theorem inRange_setValue (s : Select) (v : String) : (s.setValue v).InRange :=
  fun _ hi => position?_lt hi

theorem inRange_replace (s : Select) (choices : List Choice) (keep : String) :
    (s.replace choices keep).InRange := by
  intro i hi
  by_cases hk : keep = ""
  · subst hk; cases hi
  · rw [selected_replace s choices hk] at hi
    exact position?_lt hi

theorem inRange_new (name : String) : (new name).InRange := by
  intro i hi
  cases hi

theorem InRange.edit (h : s.InRange) (e : Edit) : (s.edit e).InRange := by
  cases e with
  | append choices => exact h.append choices
  | select i => exact h.select i
  | setValue v => exact inRange_setValue s v
  | clear => exact inRange_setValue s ""
  | replace choices keep => exact inRange_replace s choices keep
  | hide => exact h
  | unhide => exact h

theorem InRange.edits (h : s.InRange) (es : List Edit) : (s.edits es).InRange := by
  induction es generalizing s with
  | nil => exact h
  | cons e es ih => exact ih (h.edit e)

/-! ### The choice selected -/

theorem InRange.exists_choice (h : s.InRange) (hs : s.selected = some i) :
    ∃ c, s.choices[i]? = some c ∧ s.choice? = some c := by
  obtain ⟨c, hget⟩ : ∃ c, s.choices[i]? = some c := ⟨_, List.getElem?_eq_getElem (h i hs)⟩
  exact ⟨c, hget, by rw [choice?, hs]; exact hget⟩

theorem value_of_choice? {c : Choice} (hc : s.choice? = some c) : s.value = c.value := by
  rw [value, hc]; rfl

theorem value_of_choice?_eq_none (hc : s.choice? = none) : s.value = "" := by
  rw [value, hc]; rfl

theorem InRange.choice?_append (h : s.InRange) (choices : List Choice) :
    (s.append choices).choice? = s.choice? := by
  show s.selected.bind ((s.choices ++ choices)[·]?) = s.selected.bind (s.choices[·]?)
  cases hs : s.selected with
  | none => rfl
  | some i => exact List.getElem?_append_left (h i hs)

/-- Changes that have nothing to do with what is selected, or that are refused. -/
def Spares (s : Select) : Edit → Prop
  | .append _ | .hide | .unhide => True
  | .select i => s.answer (.select i) = some false
  | .setValue _ | .clear | .replace _ _ => False

theorem InRange.choice?_of_spares (h : s.InRange) {e : Edit} (he : s.Spares e) :
    (s.edit e).choice? = s.choice? := by
  cases e with
  | append choices => exact h.choice?_append choices
  | select i =>
    have hnone : s.select? i = none := by simpa [Spares, answer] using he
    rw [Select.edit, hnone]; rfl
  | hide | unhide => rfl
  | setValue _ | clear | replace _ _ => exact he.elim

/-! ### Selecting by value -/

theorem answer_setValue_iff :
    s.answer (.setValue v) = some true ↔ ∃ c ∈ s.choices, c.value = v := by
  have hnone : (s.setValue v).selected = none ↔ ∀ c ∈ s.choices, c.value ≠ v :=
    Choice.position?_eq_none_iff
  rw [answer, Option.some.injEq, Option.isSome_iff_ne_none, Ne, hnone]
  simp

theorem exists_isLeast_of_answer (h : s.answer (.setValue v) = some true) :
    ∃ i, (s.setValue v).selected = some i ∧
      IsLeast {j | ∃ c, s.choices[j]? = some c ∧ c.value = v} i := by
  rw [answer, Option.some.injEq] at h
  obtain ⟨i, hi⟩ := Option.isSome_iff_exists.mp h
  exact ⟨i, hi, Choice.position?_eq_some_iff.mp hi⟩

/-- Whether a choice with the value is found or none, the value submitted is the one asked for or
empty. -/
theorem value_setValue (s : Select) (v : String) :
    (s.setValue v).value = if s.answer (.setValue v) = some true then v else "" := by
  cases hf : s.choices.find? (·.value = v) with
  | none =>
    have hmiss : ¬ ∃ c ∈ s.choices, c.value = v := by simpa using hf
    rw [if_neg (mt answer_setValue_iff.mp hmiss), value_of_choice?_eq_none]
    rw [choice?_setValue, hf]
  | some c =>
    have hc : c.value = v := by simpa using List.find?_some hf
    have hhit : ∃ c ∈ s.choices, c.value = v := ⟨c, List.mem_of_find?_eq_some hf, hc⟩
    rw [if_pos (answer_setValue_iff.mpr hhit), ← hc, value_of_choice?]
    rw [choice?_setValue, hc, hf]

theorem value_clear (s : Select) : s.clear.value = "" := by
  rw [clear, value_setValue]
  split <;> rfl

/-! ### What a select answers -/

/-- There is a choice selected exactly if there is a position, and its value is the one submitted.
Only selecting, clearing and replacing touch it; selecting by value succeeds exactly if some choice
has the value, and then takes the first. -/
structure Sound (s : Select) : Prop where
  inRange : s.InRange
  selected : ∀ i, s.selected = some i →
    ∃ c, s.choices[i]? = some c ∧ s.choice? = some c ∧ s.value = c.value
  unselected : s.selected = none → s.choice? = none ∧ s.value = ""
  spared : ∀ e, s.Spares e → (s.edit e).choice? = s.choice? ∧ (s.edit e).value = s.value
  answered : ∀ v, s.answer (.setValue v) = some true ↔ ∃ c ∈ s.choices, c.value = v
  found : ∀ v, s.answer (.setValue v) = some true → (s.edit (.setValue v)).value = v ∧
    ∃ i, (s.edit (.setValue v)).selected = some i ∧
      IsLeast {j | ∃ c, s.choices[j]? = some c ∧ c.value = v} i
  missed : ∀ v, s.answer (.setValue v) ≠ some true → (s.edit (.setValue v)).value = ""

theorem InRange.sound (h : s.InRange) : s.Sound where
  inRange := h
  selected i hi := by
    obtain ⟨c, hget, hc⟩ := h.exists_choice hi
    exact ⟨c, hget, hc, value_of_choice? hc⟩
  unselected hs := by
    have hc : s.choice? = none := by rw [choice?, hs]; rfl
    exact ⟨hc, value_of_choice?_eq_none hc⟩
  spared e he := by
    have hc := h.choice?_of_spares he
    exact ⟨hc, by rw [value, hc]; rfl⟩
  answered _ := answer_setValue_iff
  found v hv := by
    have hvalue := value_setValue s v
    rw [if_pos hv] at hvalue
    exact ⟨hvalue, exists_isLeast_of_answer hv⟩
  missed v hv := by
    have hvalue := value_setValue s v
    rwa [if_neg hv] at hvalue

/-- A select made from nothing by any changes answers as its list says, and clearing leaves nothing
to submit, whatever a select holds. -/
theorem sound_of_edits (name : String) (es : List Edit) :
    ((new name).edits es).Sound ∧ ∀ s : Select, (s.edit .clear).value = "" :=
  ⟨((inRange_new name).edits es).sound, value_clear⟩

/-- A selection by position is gone with its list, and does not come back when the list grows. -/
example :
    let s := (new "color").edits
      [.append [⟨"Red", "r"⟩, ⟨"Green", "g"⟩], .select 1, .replace [] "g", .append [⟨"Blue", "b"⟩]]
    s.choices.length = 2 ∧ s.selected = none ∧ s.value = "" := by decide

end Select
end Typeahead
