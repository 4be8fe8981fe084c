import Typeahead.Page
import Typeahead.Proofs.Field.Run

/-!
# The mark of a change

A host draws a field again when the mark is set. So whatever changes what can be shown (`view`) has to
set it, and only the host may clear it. Searches set it if there is a field to search in, and most
operations end in one; the others set it by themselves, or write nothing that is shown
(`marked_after`).
-/

namespace Typeahead
namespace Field
variable {f g h : Field}

/-- All that a host can show of a field. -/
structure View where
  markup : String
  text : String
  value : String
  menuOpen : Bool
  focused : Bool
  suggestions : List Suggestion
  load : Load
  deriving DecidableEq, Repr

def view (f : Field) : View :=
  ⟨f.render, f.text, f.value, f.menuOpen, f.focused, f.suggestions, f.load⟩

/-- From `f` to `g` nothing that can be shown changes without the mark, and the mark stays. -/
structure Marked (f g : Field) : Prop where
  changed : g.view ≠ f.view → g.dirty = true
  kept : f.dirty = true → g.dirty = true

namespace Marked

theorem of_dirty (hd : g.dirty = true) : Marked f g := ⟨fun _ => hd, fun _ => hd⟩

theorem of_view (hv : g.view = f.view) (hd : g.dirty = f.dirty) : Marked f g :=
  ⟨fun hne => absurd hv hne, fun hf => hd.trans hf⟩

theorem refl (f : Field) : Marked f f := of_view rfl rfl

theorem trans (hfg : Marked f g) (hgh : Marked g h) : Marked f h := by
  refine ⟨fun hne => ?_, fun hf => hgh.kept (hfg.kept hf)⟩
  by_cases hv : h.view = g.view
  · rw [hv] at hne
    exact hgh.kept (hfg.changed hne)
  · exact hgh.changed hv

end Marked

/-! ### Searching and typing -/

section
variable [Engine]

theorem dirty_search (hd : f.isDestroyed = false) (term : String) : (f.search term).dirty = true := by
  rw [search_of_live hd]

theorem marked_search (f : Field) (term : String) : Marked f (f.search term) := by
  cases hd : f.isDestroyed with
  | true => rw [search_of_destroyed hd]; exact .refl f
  | false => exact .of_dirty (dirty_search hd term)

theorem marked_input (f : Field) (text : String) : Marked f (f.input text) := by
  cases hd : f.isDestroyed with
  | true => rw [input, if_pos hd]; exact .refl f
  | false =>
    by_cases ht : f.lastTerm = some text
    -- the search is passed over, but the text has been written
    · rw [input_of_skip hd ht]
      exact .of_dirty rfl
    · rw [input_of_search hd ht]
      exact .of_dirty (dirty_search (by exact hd) text)

theorem marked_focus (f : Field) : Marked f f.focus := by
  cases hd : f.isDestroyed with
  | true => rw [focus, if_pos hd]; exact .refl f
  | false =>
    rw [focus_of_live hd]
    exact .of_dirty (dirty_search (by exact hd) f.text)

theorem marked_toggleClick (f : Field) : Marked f f.toggleClick := by
  unfold toggleClick
  split
  · exact .refl f
  · rename_i hd
    have hlive : f.isDestroyed = false := by simpa using hd
    split
    · exact .of_dirty rfl
    · exact .of_dirty (dirty_search (by exact hlive) "")

end

/-! ### Choosing -/

theorem marked_commit (f : Field) (text : String) : Marked f (f.commit text) := by
  cases hd : f.isDestroyed with
  | true => rw [commit_of_destroyed hd]; exact .refl f
  | false =>
    obtain ⟨control, hc⟩ := exists_control hd
    rw [commit_of_live hc]
    exact .of_dirty rfl

/-- The mark is set when the input is left, and a commit that follows keeps it. -/
theorem dirty_blur (f : Field) : f.blur.dirty = true := by
  cases he : f.edited with
  | true => rw [blur_of_edited he]; exact (marked_commit _ f.text).kept rfl
  | false => rw [blur_of_unedited he]

theorem dirty_picked {s : Suggestion} {e : Selected} (hg : f.pick? s = some (g, e)) :
    g.dirty = true := by
  obtain ⟨_, _, _, _, _, _, _, rfl⟩ := pick?_eq_some_iff.mp hg
  rfl

section
variable [Engine]

theorem marked_pick (f : Field) (s : Suggestion) : Marked f (f.after (.pick s)) := by
  rcases after_pick f s with heq | ⟨e, he⟩
  · rw [heq]; exact .refl f
  · exact .of_dirty (dirty_picked he)

/-! ### The end of the load -/

theorem dirty_settle (f : Field) (load : Load) : (f.settle load).dirty = true := rfl

theorem marked_populate (f : Field) (choices : List Choice) : Marked f (f.populate choices) := by
  rcases populate_eq_or_loading f choices with heq | ⟨control, -, -, heq⟩
  · rw [heq]; exact .refl f
  · rw [heq]; exact .of_dirty (dirty_settle _ _)

theorem marked_fail (f : Field) (failure : Source.Failure) : Marked f (f.fail failure) := by
  rcases fail_eq_or_loading f failure with heq | ⟨-, -, heq⟩
  · rw [heq]; exact .refl f
  · rw [heq]; exact .of_dirty (dirty_settle _ _)

/-! ### All operations -/

theorem marked_after (f : Field) {op : Op} (hclear : op ≠ .clearDirty) (hdestroy : op ≠ .destroy) :
    Marked f (f.after op) := by
  cases op with
  | input text => exact marked_input f text
  | focus => exact marked_focus f
  | blur => exact .of_dirty (dirty_blur f)
  | commit text => exact marked_commit f text
  | pick s => exact marked_pick f s
  | pickAt position =>
    rcases after_pickAt f position with heq | ⟨s, -, heq⟩
    · rw [heq]; exact .refl f
    · rw [heq]; exact marked_pick f s
  | togglePress => exact .of_view rfl rfl
  | toggleClick => exact marked_toggleClick f
  | query _ => exact .refl f
  | search term => exact marked_search f term
  | populate choices => exact marked_populate f choices
  | fail failure => exact marked_fail f failure
  | takeFocusRequest => exact .of_view rfl rfl
  | clearDirty => exact absurd rfl hclear
  | destroy => exact absurd rfl hdestroy

/-- Even the end of the field leaves the mark as it is. -/
theorem dirty_after {op : Op} (hclear : op ≠ .clearDirty) (hf : f.dirty = true) :
    (f.after op).dirty = true := by
  by_cases hdestroy : op = .destroy
  · subst hdestroy; exact hf
  · exact (marked_after f hclear hdestroy).kept hf

end

end Field
end Typeahead
