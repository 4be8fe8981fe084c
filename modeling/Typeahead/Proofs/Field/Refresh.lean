import Typeahead.Proofs.Field.Arrival

/-!
# The menu at the end of the load

Choices or a failure come to a live field that is loading. `Refreshes` says what becomes of it: a menu
that is open is searched again for the text as it is now, and may close for want of rows; one that is
closed is left as it is, rows and term included. What the user has typed is not touched, nor what the
toggle is to do. The host may bring the choices itself, or the fetch may be given time; the field does
not tell these apart (`refreshes_of_told`).
-/

namespace Typeahead
open Source

namespace Field
variable {f : Field}

section
variable [Engine]

/-- What becomes of the field `f` when the outcome comes to it. -/
structure Refreshes (outcome : Outcome) (f g : Field) : Prop where
  load : g.load = ended outcome
  closed : f.menuOpen = false →
    g.menuOpen = false ∧ g.suggestions = f.suggestions ∧ g.lastTerm = f.lastTerm
  opened : f.menuOpen = true →
    g.suggestions = g.query f.text ∧ g.lastTerm = some f.text ∧
      (g.menuOpen = true ↔ g.suggestions ≠ [])
  typing : g.text = f.text ∧ g.focused = f.focused ∧ g.edited = f.edited
  toggle : g.wasOpen = f.wasOpen ∧ g.focusRequested = f.focusRequested
  failed : ∀ failure, outcome = .error failure → g.control = f.control

theorem closed_arrive (ho : f.menuOpen = false) (control : Select) (load : Load) :
    (f.arrive control load).menuOpen = false ∧
      (f.arrive control load).suggestions = f.suggestions ∧
      (f.arrive control load).lastTerm = f.lastTerm := by
  rw [arrive_of_closed ho]
  exact ⟨ho, rfl, rfl⟩

theorem opened_arrive (ho : f.menuOpen = true) (control : Select) (load : Load) :
    (f.arrive control load).suggestions = (f.arrive control load).query f.text ∧
      (f.arrive control load).lastTerm = some f.text ∧
      ((f.arrive control load).menuOpen = true ↔ (f.arrive control load).suggestions ≠ []) := by
  rw [arrive_of_open ho, search_of_live rfl]
  refine ⟨rfl, rfl, ?_⟩
  simp

theorem refreshes_told (hd : f.isDestroyed = false) (hl : f.load = .loading) (outcome : Outcome) :
    Refreshes outcome f (f.after (Mounted.told outcome)) := by
  obtain ⟨control, hc⟩ := exists_control hd
  rw [after_told hc hl]
  obtain ⟨lastTerm, menuOpen, suggestions, heq⟩ :=
    exists_arrive f (taken outcome control f.initialValue) (ended outcome)
  refine ⟨load_arrive _ _ _, fun ho => closed_arrive ho _ _, fun ho => opened_arrive ho _ _, ?_, ?_, ?_⟩
  · rw [heq]
    exact ⟨rfl, rfl, rfl⟩
  · rw [heq]
    exact ⟨rfl, rfl⟩
  · rintro failure rfl
    rw [control_arrive, hc, taken]

/-- Whatever happened to a live field that is loading, the outcome of the fetch refreshes an open menu
and nothing else, whether the field is told of it by the host or by the fetch. -/
theorem refreshes_of_told (outcome : Outcome) :
    (∀ f : Field, f.isDestroyed = false → f.load = .loading →
      Refreshes outcome f (f.after (Mounted.told outcome))) ∧
    ∀ {ω : Type} (m : Mounted ω), m.field.isDestroyed = false → m.field.load = .loading →
      (∃ m', m.perform (Mounted.told outcome) = some (.done, m') ∧
        Refreshes outcome m.field m'.field) ∧
      (m.fetch = .answered outcome → Refreshes outcome m.field m.run.field) := by
  refine ⟨fun f hd hl => refreshes_told hd hl outcome, fun m hd hl => ⟨?_, fun hf => ?_⟩⟩
  · have hsilent : (act (Mounted.told outcome) m.field).event = none ∧
        (act (Mounted.told outcome) m.field).reply = .done := by
      cases outcome <;> exact ⟨rfl, rfl⟩
    obtain ⟨m', hperform, hfield⟩ := m.exists_perform_of_silent _ hsilent.1
    rw [hsilent.2] at hperform
    refine ⟨m', hperform, ?_⟩
    rw [hfield]
    exact refreshes_told hd hl outcome
  · have hrun : m.run.field = m.field.after (Mounted.told outcome) := by
      rw [Mounted.run, hf]
      rfl
    rw [hrun]
    exact refreshes_told hd hl outcome

end

section
attribute [local instance] Engine.unlimited

/-- A menu opened by a search for another term than the text, which is searched for now and finds
nothing; and one closed by the toggle, which a failure does not open again. -/
theorem refreshes_of_told_emptied :
    let came : Outcome := .ok [⟨"Red", "r"⟩]
    let failed : Outcome := .error (.http 500 "")
    let f := (mount (.new "color") {} 0).run [.input "x", .search "re"]
    (f.isDestroyed = false ∧ f.load = .loading ∧ f.menuOpen = true ∧
      Refreshes came f (f.after (Mounted.told came)) ∧
      (f.after (Mounted.told came)).menuOpen = false) ∧
    ∃ m m' : Mounted Unit, Mounted.create (.new "color") {} .waiting true 0 = .ok m ∧
      m.history [.perform .focus, .perform .togglePress, .perform .toggleClick,
        .answer failed] = some m' ∧
      m'.field.isDestroyed = false ∧ m'.field.load = .loading ∧ m'.fetch = .answered failed ∧
      m'.field.menuOpen = false ∧ Refreshes failed m'.field m'.run.field := by
  intro came failed f
  have hcame := (refreshes_of_told came).1 f rfl rfl
  have hclosed : (f.after (Mounted.told came)).menuOpen = false := by cbv
  obtain ⟨m, hm, m', h, hd, hl, hf, ho⟩ : ∃ m : Mounted Unit,
      Mounted.create (.new "color") {} .waiting true 0 = .ok m ∧ ∃ m',
      m.history [.perform .focus, .perform .togglePress, .perform .toggleClick,
        .answer failed] = some m' ∧ m'.field.isDestroyed = false ∧ m'.field.load = .loading ∧
      m'.fetch = .answered failed ∧ m'.field.menuOpen = false :=
    ⟨_, rfl, _, rfl, rfl, rfl, rfl, rfl⟩
  exact ⟨⟨rfl, rfl, rfl, hcame, hclosed⟩, m, m', hm, h, hd, hl, hf, ho,
    ((refreshes_of_told failed).2 m' hd hl).2 hf⟩

end

end Field
end Typeahead
