import Typeahead.Page
import Typeahead.Proofs.Field.Run

/-!
# After the end of a field

A destroyed field has no select, so nothing can be searched for, selected or shown. `afterEnd` says
all that an operation still writes (`act_of_destroyed`): leaving the input takes the focus away and
sets the mark, the press of the toggle is remembered, and the host may clear what it has taken note
of. So the end is for good (`Ended.run`), and what a host sees changes by leaving the input only
(`Ended.sight_run`).
-/

namespace Typeahead
namespace Field
variable {f g : Field}

/-! ### The end -/

/-- What is left of a field whose load had come as far as `load` when it was destroyed. -/
structure Ended (load : Load) (f : Field) : Prop where
  control : f.control = none
  menuOpen : f.menuOpen = false
  suggestions : f.suggestions = []
  load : f.load = load

namespace Ended
variable {load : Load}

theorem isDestroyed (h : Ended load f) : f.isDestroyed = true := by
  rw [Field.isDestroyed, h.control]; rfl

theorem value (h : Ended load f) : f.value = "" := by
  rw [Field.value, h.control]; rfl

theorem choice? (h : Ended load f) : f.choice? = none := by
  rw [Field.choice?, h.control]; rfl

theorem render (h : Ended load f) : f.render = "" := by
  rw [Field.render, h.control]

end Ended

theorem ended_destroy (f : Field) : Ended f.load f.destroy := ⟨rfl, rfl, rfl, rfl⟩

theorem append_ne_empty {s : String} (h : s ≠ "") (t : String) : s ++ t ≠ "" := fun heq =>
  h (String.append_eq_empty_iff.mp heq).1

/-- A live field shows something, its select at least. -/
theorem render_ne_empty (hd : f.isDestroyed = false) : f.render ≠ "" := by
  obtain ⟨control, hc⟩ := exists_control hd
  have hselect : control.render ≠ "" := by
    unfold Select.render
    iterate 6 refine append_ne_empty ?_ _
    decide
  rw [Field.render, hc]
  exact append_ne_empty (append_ne_empty hselect _) _

/-! ### What an operation still does -/

def afterEnd (f : Field) : Op → Field
  | .blur => { f with focused := false, menuOpen := false, dirty := true }
  | .togglePress => { f with wasOpen := f.menuOpen }
  | .takeFocusRequest => { f with focusRequested := false }
  | .clearDirty => { f with dirty := false }
  | .destroy => f.destroy
  | _ => f

theorem pick?_of_destroyed (hd : f.isDestroyed = true) (s : Suggestion) : f.pick? s = none := by
  cases h : f.pick? s with
  | none => rfl
  | some r =>
    obtain ⟨_, control, _, _, hc, _⟩ := pick?_eq_some_iff.mp h
    rw [isDestroyed_of_control hc] at hd; cases hd

theorem blur_of_destroyed (hd : f.isDestroyed = true) :
    f.blur = { f with focused := false, menuOpen := false, dirty := true } := by
  by_cases he : f.edited = true
  · rw [blur_of_edited he, commit_of_destroyed (by exact hd)]
  · rw [blur_of_unedited (by simpa using he)]

section
variable [Engine]

theorem after_of_destroyed (hd : f.isDestroyed = true) (op : Op) : f.after op = f.afterEnd op := by
  have hpick := pick?_of_destroyed hd
  cases op with
  | input text => simp [Field.input, hd, afterEnd]
  | focus => simp [Field.focus, hd, afterEnd]
  | blur => exact blur_of_destroyed hd
  | commit text => exact commit_of_destroyed hd text
  | pick s =>
    rcases after_pick f s with heq | ⟨e, he⟩
    · exact heq
    · rw [hpick s] at he; cases he
  | pickAt position =>
    rcases after_pickAt f position with heq | ⟨s, -, heq⟩
    · exact heq
    · rcases after_pick f s with hs | ⟨e, he⟩
      · exact heq.trans hs
      · rw [hpick s] at he; cases he
  | toggleClick => simp [Field.toggleClick, hd, afterEnd]
  | search term => exact search_of_destroyed hd term
  | populate choices =>
    refine (populate_eq_or_loading f choices).resolve_right ?_
    rintro ⟨control, hc, -⟩
    rw [isDestroyed_of_control hc] at hd; cases hd
  | fail failure => simp [Field.fail, hd, afterEnd]
  | _ => rfl

theorem event_of_destroyed (hd : f.isDestroyed = true) (op : Op) : (act op f).event = none := by
  have hpick := pick?_of_destroyed hd
  cases op with
  | pick s => simp [act, hpick]
  | pickAt position =>
    have hnone : f.pickAt? position = none := by
      cases h : f.suggestions[position]? with
      | none => simp [pickAt?, h]
      | some s => simp [pickAt?, h, hpick]
    simp [act, hnone]
  | _ => rfl

theorem reply_destroy_of_destroyed (hd : f.isDestroyed = true) : (act .destroy f).reply = .gone := by
  have hc : f.control = none := by simpa [isDestroyed] using hd
  simp [act, hc]

theorem reply_destroy {control : Select} (hc : f.control = some control) :
    (act .destroy f).reply = .released control.unhide := by
  simp [act, hc]

/-! ### What stays -/

theorem Ended.after {load : Load} (h : Ended load f) (op : Op) : Ended load (f.after op) := by
  rw [after_of_destroyed h.isDestroyed]
  cases op with
  | blur => exact ⟨h.control, rfl, h.suggestions, h.load⟩
  | destroy => exact ⟨rfl, rfl, rfl, h.load⟩
  | _ => exact ⟨h.control, h.menuOpen, h.suggestions, h.load⟩

theorem Ended.run {load : Load} (h : Ended load f) (ops : List Op) : Ended load (f.run ops) := by
  induction ops generalizing f with
  | nil => exact h
  | cons op ops ih => exact ih (h.after op)

end

/-! ### What a host sees -/

/-- What a host can see of a field beside its select. -/
structure Sight where
  text : String
  focused : Bool
  menuOpen : Bool
  suggestions : List Suggestion
  load : Load
  focusRequested : Bool
  dirty : Bool
  deriving DecidableEq, Repr

def sight (f : Field) : Sight :=
  ⟨f.text, f.focused, f.menuOpen, f.suggestions, f.load, f.focusRequested, f.dirty⟩

/-- With it the host takes note of what it has seen. -/
def Op.acknowledges : Op → Bool
  | .takeFocusRequest | .clearDirty => true
  | _ => false

/-- What leaving the input does to a destroyed field. -/
def Sight.left (s : Sight) : Sight := { s with focused := false, dirty := true }

theorem Sight.left_left (s : Sight) : s.left.left = s.left := rfl

theorem Ended.sight_after [Engine] {load : Load} (h : Ended load f) {op : Op}
    (hop : op.acknowledges = false) :
    (f.after op).sight = if op = .blur then f.sight.left else f.sight := by
  rw [after_of_destroyed h.isDestroyed]
  cases op with
  | blur => simp [afterEnd, sight, Sight.left, h.menuOpen]
  | destroy => simp [afterEnd, sight, destroy, h.menuOpen, h.suggestions]
  | takeFocusRequest | clearDirty => cases hop
  | _ => rfl

theorem Ended.sight_run [Engine] {load : Load} (h : Ended load f) {ops : List Op}
    (hops : ∀ op ∈ ops, op.acknowledges = false) :
    (f.run ops).sight = if .blur ∈ ops then f.sight.left else f.sight := by
  induction ops generalizing f with
  | nil => rfl
  | cons op ops ih =>
    have hstep := h.sight_after (hops op List.mem_cons_self)
    have hrest := ih (h.after op) fun op' hop' => hops op' (List.mem_cons_of_mem op hop')
    rw [run_cons, hrest, hstep]
    by_cases hb : op = .blur
    · subst hb
      simp [Sight.left_left]
    · have hmem : (.blur ∈ op :: ops) ↔ .blur ∈ ops := by
        simp [List.mem_cons, Ne.symm hb]
      simp [hb, hmem]

end Field
end Typeahead
