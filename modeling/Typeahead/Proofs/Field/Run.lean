import Typeahead.Field
import Typeahead.Proofs.Select

/-!
# Runs of a field

`Field.after` is the state after one operation and `Field.run` the state after a list of them. What
an operation does is said once here: typing is a write and may be a search, the end of the load is a
search or only a mark, a commit selects the choice it finds or clears, a pick is refused or is a
write that `pick?_eq_some_iff` spells out.

Every operation is made of a few moves. `Field.Kept P` says that each of them keeps `P`; then every
run does (`Kept.run`). `Field.KeptInUse P` leaves out the answers of the source and the end of the
field. The first use: the id, the settings and the value at first are never written
(`run_mounting`).
-/

namespace Typeahead
namespace Field
variable {f g : Field}

section
variable [Engine]

def after (f : Field) (op : Op) : Field := (act op f).state

def run (f : Field) (ops : List Op) : Field := ops.foldl after f

@[simp] theorem run_nil (f : Field) : f.run [] = f := rfl

@[simp] theorem run_cons (f : Field) (op : Op) (ops : List Op) :
    f.run (op :: ops) = (f.after op).run ops := rfl

theorem run_append (f : Field) (ops ops' : List Op) : f.run (ops ++ ops') = (f.run ops).run ops' :=
  List.foldl_append ..

@[simp] theorem after_input (text : String) : f.after (.input text) = f.input text := rfl
@[simp] theorem after_focus : f.after .focus = f.focus := rfl
@[simp] theorem after_blur : f.after .blur = f.blur := rfl
@[simp] theorem after_commit (text : String) : f.after (.commit text) = f.commit text := rfl
@[simp] theorem after_togglePress : f.after .togglePress = f.togglePress := rfl
@[simp] theorem after_toggleClick : f.after .toggleClick = f.toggleClick := rfl
@[simp] theorem after_query (term : String) : f.after (.query term) = f := rfl
@[simp] theorem after_search (term : String) : f.after (.search term) = f.search term := rfl
@[simp] theorem after_populate (choices : List Choice) :
    f.after (.populate choices) = f.populate choices := rfl
@[simp] theorem after_fail (failure : Source.Failure) : f.after (.fail failure) = f.fail failure := rfl
@[simp] theorem after_takeFocusRequest :
    f.after .takeFocusRequest = { f with focusRequested := false } := rfl
@[simp] theorem after_clearDirty : f.after .clearDirty = { f with dirty := false } := rfl
@[simp] theorem after_destroy : f.after .destroy = f.destroy := rfl

end

/-! ### Live and destroyed fields -/

theorem exists_control (h : f.isDestroyed = false) : ∃ control, f.control = some control := by
  cases hc : f.control with
  | none => simp [isDestroyed, hc] at h
  | some control => exact ⟨control, rfl⟩

theorem isDestroyed_of_control {control : Select} (hc : f.control = some control) :
    f.isDestroyed = false := by
  simp [isDestroyed, hc]

/-! ### Searches -/

section
variable [Engine]

theorem search_of_live (h : f.isDestroyed = false) (term : String) :
    f.search term = { f with
      lastTerm := some term
      menuOpen := !(f.query term).isEmpty
      suggestions := f.query term
      dirty := true } := by
  simp [search, h]

theorem search_of_destroyed (h : f.isDestroyed = true) (term : String) : f.search term = f := by
  simp [search, h]

/-- Rows depend on the choices, the load and the settings only. -/
theorem query_congr (hc : g.control.map Select.choices = f.control.map Select.choices)
    (hl : g.load = f.load) (hs : g.settings = f.settings) (term : String) :
    g.query term = f.query term := by
  unfold query
  rw [hl, hs]
  cases hf : f.control <;> cases hg : g.control <;> simp_all

/-! ### Typing -/

/-- The field with a text typed into it that is not yet searched for. -/
def typed (f : Field) (text : String) : Field :=
  { f with text := text, edited := true, dirty := true }

theorem input_of_skip (h : f.isDestroyed = false) {text : String} (ht : f.lastTerm = some text) :
    f.input text = f.typed text := by
  simp [input, h, ht, typed]

theorem input_of_search (h : f.isDestroyed = false) {text : String} (ht : f.lastTerm ≠ some text) :
    f.input text = (f.typed text).search text := by
  simp [input, h, ht, typed]

end

theorem blur_of_edited (h : f.edited = true) :
    f.blur = { f with focused := false, menuOpen := false, dirty := true }.commit f.text := by
  simp [blur, h]

theorem blur_of_unedited (h : f.edited = false) :
    f.blur = { f with focused := false, menuOpen := false, dirty := true } := by
  simp [blur, h]

section
variable [Engine]

theorem focus_of_live (h : f.isDestroyed = false) :
    f.focus = { f with focused := true }.search f.text := by
  simp [focus, h]

/-! ### The end of the load -/

theorem settle_of_open (h : f.isDestroyed = false) (ho : f.menuOpen = true) (load : Load) :
    f.settle load = { f with load := load }.search f.text := by
  simp only [settle, ho, ↓reduceIte]
  rw [search_of_live (by exact h)]

theorem settle_of_closed (ho : f.menuOpen = false) (load : Load) :
    f.settle load = { f with load := load, dirty := true } := by
  simp [settle, ho]

theorem populate_of_loading {control : Select} (hc : f.control = some control)
    (hl : f.load = .loading) (choices : List Choice) :
    f.populate choices =
      { f with control := some (control.replace choices f.initialValue) }.settle .loaded := by
  simp [populate, hc, hl, Load.isLoading]

/-- The choices that come are taken by a live field that is loading, and else nothing happens. -/
theorem populate_eq_or_loading (f : Field) (choices : List Choice) :
    f.populate choices = f ∨ ∃ control, f.control = some control ∧ f.load = .loading ∧
      f.populate choices =
        { f with control := some (control.replace choices f.initialValue) }.settle .loaded := by
  cases hc : f.control with
  | none => left; simp [populate, hc]
  | some control =>
    cases hl : f.load with
    | loading => exact .inr ⟨control, rfl, rfl, populate_of_loading hc hl choices⟩
    | loaded => left; simp [populate, hc, hl, Load.isLoading]
    | failed reason => left; simp [populate, hc, hl, Load.isLoading]

theorem fail_of_loading (h : f.isDestroyed = false) (hl : f.load = .loading)
    (failure : Source.Failure) : f.fail failure = f.settle (.failed failure.message) := by
  simp [fail, h, hl, Load.isLoading]

theorem fail_eq_or_loading (f : Field) (failure : Source.Failure) :
    f.fail failure = f ∨ f.isDestroyed = false ∧ f.load = .loading ∧
      f.fail failure = f.settle (.failed failure.message) := by
  cases hd : f.isDestroyed with
  | true => left; simp [fail, hd]
  | false =>
    cases hl : f.load with
    | loading => exact .inr ⟨rfl, rfl, fail_of_loading hd hl failure⟩
    | loaded => left; simp [fail, hl, Load.isLoading]
    | failed reason => left; simp [fail, hl, Load.isLoading]

end

/-! ### Commits and picks -/

/-- What shows in the input for a choice, if there is one. -/
def shown (c? : Option Choice) : String := (c?.map fun c => displayText c.label).getD ""

/-- A commit selects by value; without a match it clears. -/
theorem commit_of_live {control : Select} (hc : f.control = some control) (text : String) :
    f.commit text = { f with
      control := some (if (control.choices.find? (·.value = text)).isSome then control.setValue text
        else control.clear)
      text := shown (control.choices.find? (·.value = text))
      lastTerm := if (control.choices.find? (·.value = text)).isSome then f.lastTerm else none
      edited := false
      dirty := true } := by
  unfold commit
  simp only [hc, Select.choice?_setValue]
  cases control.choices.find? (·.value = text) <;> rfl

theorem commit_of_destroyed (h : f.isDestroyed = true) (text : String) : f.commit text = f := by
  have hc : f.control = none := by simpa [isDestroyed] using h
  simp [commit, hc]

theorem commit_of_found {control : Select} (hc : f.control = some control) {text : String} {c : Choice}
    (hf : control.choices.find? (·.value = text) = some c) :
    f.commit text = { f with
      control := some (control.setValue text)
      text := displayText c.label
      edited := false
      dirty := true } := by
  rw [commit_of_live hc, hf]
  rfl

theorem commit_of_missed {control : Select} (hc : f.control = some control) {text : String}
    (hf : control.choices.find? (·.value = text) = none) :
    f.commit text = { f with
      control := some control.clear
      text := ""
      lastTerm := none
      edited := false
      dirty := true } := by
  rw [commit_of_live hc, hf]
  rfl

theorem pick?_eq_some_iff {s : Suggestion} {e : Selected} :
    f.pick? s = some (g, e) ↔ ∃ i control c, s.choice = some i ∧ f.control = some control ∧
      control.choices[i]? = some c ∧ e = ⟨f.id, i, c⟩ ∧
      g = { f with
        control := some { control with selected := some i }
        text := s.value
        lastTerm := some s.value
        edited := false
        menuOpen := false
        dirty := true } := by
  constructor
  · intro h
    simp only [pick?, Option.bind_eq_bind, Option.bind_eq_some_iff] at h
    obtain ⟨i, hi, control, hc, control', hs, c, hci, heq⟩ := h
    simp only [Option.some.injEq, Prod.mk.injEq] at heq
    obtain ⟨rfl, rfl⟩ := heq
    simp only [Select.select?, Option.ite_none_right_eq_some, Option.some.injEq] at hs
    obtain ⟨-, rfl⟩ := hs
    exact ⟨i, control, c, hi, hc, hci, rfl, rfl⟩
  · rintro ⟨i, control, c, hi, hc, hci, rfl, rfl⟩
    have hlt : i < control.choices.length := (List.getElem?_eq_some_iff.mp hci).1
    have hget : control.choices[i] = c := (List.getElem?_eq_some_iff.mp hci).2
    simp [pick?, hi, hc, Select.select?, hlt, hget]

section
variable [Engine]

theorem after_pick (f : Field) (s : Suggestion) :
    f.after (.pick s) = f ∨ ∃ e, f.pick? s = some (f.after (.pick s), e) := by
  cases h : f.pick? s with
  | none => exact .inl (by simp [after, act, h])
  | some r => exact .inr ⟨r.2, by simp [after, act, h]⟩

theorem after_pickAt (f : Field) (position : Nat) :
    f.after (.pickAt position) = f ∨
      ∃ s ∈ f.suggestions, f.after (.pickAt position) = f.after (.pick s) := by
  cases h : f.suggestions[position]? with
  | none => exact .inl (by simp [after, act, pickAt?, h])
  | some s => exact .inr ⟨s, List.mem_of_getElem? h, by simp [after, act, pickAt?, h]⟩

/-! ### What is kept -/

/-- The moves of a field in use keep `P`: the text is typed, a mark is set or cleared, the menu is
closed, a term is searched for, a text committed, a row picked. -/
structure KeptInUse (P : Field → Prop) : Prop where
  typed : ∀ f text, f.isDestroyed = false → P f → P (f.typed text)
  marked : ∀ f focused wasOpen dirty focusRequested, P f →
    P { f with
      focused := focused, wasOpen := wasOpen, dirty := dirty, focusRequested := focusRequested }
  closed : ∀ f, P f → P { f with menuOpen := false }
  searched : ∀ f term, P f → P (f.search term)
  committed : ∀ f text, P f → P (f.commit text)
  picked : ∀ f s g e, f.pick? s = some (g, e) → P f → P g

/-- All moves that operations are made of keep `P`: those in use, the end of the load, and the
destruction of the field. -/
structure Kept (P : Field → Prop) : Prop extends KeptInUse P where
  populated : ∀ f choices, P f → P (f.populate choices)
  failed : ∀ f failure, P f → P (f.fail failure)
  destroyed : ∀ f, P f → P f.destroy

/-- The operations of a field in use: no answer of the source, and not the end of the field. -/
def Op.isUse : Op → Bool
  | .populate _ | .fail _ | .destroy => false
  | _ => true

namespace KeptInUse
variable {P : Field → Prop}

theorem input (hP : KeptInUse P) (text : String) (h : P f) : P (f.input text) := by
  cases hd : f.isDestroyed with
  | true => simpa [Field.input, hd] using h
  | false =>
    have ht := hP.typed f text hd h
    by_cases hl : f.lastTerm = some text
    · rw [input_of_skip hd hl]; exact ht
    · rw [input_of_search hd hl]; exact hP.searched _ text ht

theorem focus (hP : KeptInUse P) (h : P f) : P f.focus := by
  cases hd : f.isDestroyed with
  | true => simpa [Field.focus, hd] using h
  | false =>
    rw [focus_of_live hd]
    exact hP.searched _ _ (hP.marked f true f.wasOpen f.dirty f.focusRequested h)

theorem blur (hP : KeptInUse P) (h : P f) : P f.blur := by
  have hc := hP.closed _ (hP.marked f false f.wasOpen true f.focusRequested h)
  unfold Field.blur
  split
  · exact hP.committed _ f.text hc
  · exact hc

theorem pick (hP : KeptInUse P) (s : Suggestion) (h : P f) : P (f.after (.pick s)) := by
  rcases after_pick f s with heq | ⟨e, he⟩
  · rw [heq]; exact h
  · exact hP.picked f s _ e he h

theorem toggleClick (hP : KeptInUse P) (h : P f) : P f.toggleClick := by
  have hm := fun dirty => hP.marked f true f.wasOpen dirty true h
  unfold Field.toggleClick
  split
  · exact h
  · split
    · exact hP.closed _ (hm true)
    · exact hP.searched _ "" (hm f.dirty)

theorem after (hP : KeptInUse P) {op : Op} (hop : op.isUse = true) (h : P f) : P (f.after op) := by
  cases op with
  | input text => exact hP.input text h
  | focus => exact hP.focus h
  | blur => exact hP.blur h
  | commit text => exact hP.committed f text h
  | pick s => exact hP.pick s h
  | pickAt position =>
    rcases after_pickAt f position with heq | ⟨s, -, heq⟩
    · rw [heq]; exact h
    · rw [heq]; exact hP.pick s h
  | togglePress => exact hP.marked f f.focused f.menuOpen f.dirty f.focusRequested h
  | toggleClick => exact hP.toggleClick h
  | query _ => exact h
  | search term => exact hP.searched f term h
  | takeFocusRequest => exact hP.marked f f.focused f.wasOpen f.dirty false h
  | clearDirty => exact hP.marked f f.focused f.wasOpen false f.focusRequested h
  | populate _ | fail _ | destroy => cases hop

end KeptInUse

namespace Kept
variable {P : Field → Prop}

theorem after (hP : Kept P) (op : Op) (h : P f) : P (f.after op) := by
  cases op with
  | populate choices => exact hP.populated f choices h
  | fail failure => exact hP.failed f failure h
  | destroy => exact hP.destroyed f h
  | _ => exact hP.toKeptInUse.after rfl h

theorem run (hP : Kept P) (ops : List Op) (h : P f) : P (f.run ops) := by
  induction ops generalizing f with
  | nil => exact h
  | cons op ops ih => exact ih (hP.after op h)

end Kept

/-! ### What is never written -/

/-- What is written once, when a field is mounted: its id, its settings and its value at first. -/
def mounting (f : Field) : String × Settings × String := (f.id, f.settings, f.initialValue)

theorem mounting_search (f : Field) (term : String) : (f.search term).mounting = f.mounting := by
  unfold search; split <;> rfl

theorem mounting_settle (f : Field) (load : Load) : (f.settle load).mounting = f.mounting := by
  unfold settle
  split
  · exact mounting_search { f with load := load } f.text
  · rfl

end

theorem mounting_commit (f : Field) (text : String) : (f.commit text).mounting = f.mounting := by
  cases hd : f.isDestroyed with
  | true => rw [commit_of_destroyed hd]
  | false =>
    obtain ⟨control, hc⟩ := exists_control hd
    rw [commit_of_live hc]; rfl

theorem mounting_populate [Engine] (f : Field) (choices : List Choice) :
    (f.populate choices).mounting = f.mounting := by
  rcases populate_eq_or_loading f choices with heq | ⟨control, -, -, heq⟩
  · rw [heq]
  · rw [heq]; exact mounting_settle _ _

theorem mounting_fail [Engine] (f : Field) (failure : Source.Failure) :
    (f.fail failure).mounting = f.mounting := by
  rcases fail_eq_or_loading f failure with heq | ⟨-, -, heq⟩
  · rw [heq]
  · rw [heq]; exact mounting_settle _ _

theorem mounting_picked {s : Suggestion} {e : Selected} (h : f.pick? s = some (g, e)) :
    g.mounting = f.mounting := by
  obtain ⟨_, _, _, _, _, _, _, rfl⟩ := pick?_eq_some_iff.mp h
  rfl

theorem kept_mounting [Engine] (m : String × Settings × String) : Kept fun f => f.mounting = m where
  typed _ _ _ h := h
  marked _ _ _ _ _ h := h
  closed _ h := h
  searched f term h := (mounting_search f term).trans h
  committed f text h := (mounting_commit f text).trans h
  picked _ _ _ _ hg h := (mounting_picked hg).trans h
  populated f choices h := (mounting_populate f choices).trans h
  failed f failure h := (mounting_fail f failure).trans h
  destroyed _ h := h

theorem run_mounting [Engine] (f : Field) (ops : List Op) : (f.run ops).mounting = f.mounting :=
  (kept_mounting f.mounting).run ops rfl

end Field
end Typeahead
