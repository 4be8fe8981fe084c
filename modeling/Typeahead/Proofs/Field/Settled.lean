import Typeahead.Proofs.Field.Blur

/-!
# A choice that stays

When the load is over and all that was typed has been committed, the field has settled. From then on
only a new choice can change what it shows and what it submits. Whatever else the user does, and
whatever the source still sends, goes to the menu, the focus and the marks (`held_after`): an answer
comes too late, and a blur finds nothing to commit. Neither brings back an edit, so the field stays
settled, and what one such operation keeps, a run of them keeps (`choice_stays`).
-/

namespace Typeahead

namespace Field
variable {f g : Field} {op : Op} {ops : List Op}

/-- What a user does who has chosen, and what the source does meanwhile: he looks around or leaves the
input. -/
def Op.isPassing : Op → Bool
  | .blur => true
  | op => op.isBrowsing

/-- The load is over, and nothing typed is left to be committed. -/
structure Settled (f : Field) : Prop where
  ended : f.load ≠ .loading
  committed : f.edited = false

theorem Settled.of_held (hs : f.Settled) (h : g.held = f.held) : g.Settled := by
  have hload : g.held.load = f.held.load := by rw [h]
  have hedited : g.held.edited = f.held.edited := by rw [h]
  exact ⟨fun hl => hs.ended (hload.symm.trans hl), hedited.trans hs.committed⟩

theorem held_told [Engine] (hs : f.Settled) (outcome : Source.Outcome) :
    (f.after (Mounted.told outcome)).held = f.held := by
  rw [after_told_of_late (.inr hs.ended)]

theorem held_blur (hs : f.Settled) : f.blur.held = f.held := by
  rw [blur_of_unedited hs.committed]
  rfl

theorem held_after [Engine] (hs : f.Settled) (hop : op.isPassing = true) : (f.after op).held = f.held := by
  cases op with
  | focus => exact held_focus f
  | blur => exact held_blur hs
  | toggleClick => exact held_toggleClick f
  | search term => exact held_search f term
  | populate choices => exact held_told hs (.ok choices)
  | fail failure => exact held_told hs (.error failure)
  | togglePress | query _ | takeFocusRequest | clearDirty => rfl
  | _ => cases hop

/-- The field stays settled all along, so the step above applies at every place of the run. -/
theorem held_run [Engine] (hs : f.Settled) (h : f.Along Op.isPassing ops) : (f.run ops).held = f.held := by
  refine h.keeps (P := fun g => g.held = f.held) (fun g op hop hg => ?_) rfl
  exact (held_after (hs.of_held hg) hop).trans hg

/-- The field `g` shows and submits what `f` did, and has nothing else to commit. -/
structure SameChoice (f g : Field) : Prop where
  text : g.text = f.text
  control : g.control = f.control
  committed : g.edited = false

theorem Settled.sameChoice (hs : f.Settled) (h : g.held = f.held) : SameChoice f g := by
  have htext : g.held.text = f.held.text := by rw [h]
  have hcontrol : g.held.control = f.held.control := by rw [h]
  exact ⟨htext, hcontrol, (hs.of_held h).committed⟩

theorem isPassing_told (outcome : Source.Outcome) : (Mounted.told outcome).isPassing = true := by
  cases outcome <;> rfl

theorem isPick_of_isPassing (op : Op) (hop : op.isPassing = true) : op.isPick = false := by
  cases op with
  | pick _ | pickAt _ => cases hop
  | _ => rfl

/-- Once a field has settled, its text and its select stay as they are through any number of blurs,
searches, clicks on the toggle, picks that are refused and answers of the source, in any order. The
same goes for a mounted field with any handlers, of which none is called. -/
theorem choice_stays [Engine] :
    (∀ (f : Field) (ops : List Op), f.Settled → f.Along Op.isPassing ops →
      SameChoice f (f.run ops)) ∧
    ∀ {ω : Type} (m : Mounted ω) (events : List (Mounted.Event ω)), m.field.Settled →
      m.Along Op.isPassing events →
      ∃ m', m.history events = some m' ∧ SameChoice m.field m'.field := by
  refine ⟨fun f ops hs h => hs.sameChoice (held_run hs h), fun m events hs h => ?_⟩
  obtain ⟨m', ops, hhistory, hfield, halong⟩ :=
    Mounted.exists_history_of_along isPassing_told isPick_of_isPassing h
  refine ⟨m', hhistory, ?_⟩
  rw [hfield]
  exact hs.sameChoice (held_run hs halong)

section
attribute [local instance] Engine.unlimited

/-- "Red" is picked and the input left and entered again, the list is opened and searched, rows that
are not there are picked, and another list comes. The other field was mounted with a choice and could
not be loaded; what its source sends later does not reach it. -/
theorem choice_stays_picked :
    let red : Choice := ⟨"<b>Red</b>", "r"⟩
    let f := (mount (.new "color") {} 0).run [.populate [red, ⟨"Blue", "b"⟩], .focus, .pickAt 0]
    let ops : List Op := [.blur, .focus, .togglePress, .toggleClick, .pickAt 7, .search "zz", .query "b",
      .pickAt 0, .blur, .populate [], .fail (.http 500 ""), .clearDirty, .takeFocusRequest]
    let control : Select := ⟨"color", [.none, red], some 1, false⟩
    let events : List (Mounted.Event Unit) := [.listen fun _ => .call (.commit "x") fun _ => .done,
      .perform .focus, .perform (.pickAt 0), .perform .blur, .perform (.populate [⟨"Blue", "b"⟩])]
    (f.Settled ∧ f.Along Op.isPassing ops ∧ SameChoice f (f.run ops) ∧ (f.run ops).value = "r") ∧
    ∃ m m₁ m₂ : Mounted Unit, Mounted.create control {} .waiting true 0 = .ok m ∧
      m.history [.answer (.error (.http 500 "")), .run] = some m₁ ∧ m₁.field.Settled ∧
      m₁.Along Op.isPassing events ∧ m₁.history events = some m₂ ∧ SameChoice m₁.field m₂.field := by
  intro red f ops control events
  have hload : f.load = .loaded := by decide +kernel
  have hedited : f.edited = false := by decide +kernel
  have hs : f.Settled := ⟨ne_loading_of_loaded hload, hedited⟩
  have halong : f.Along Op.isPassing ops := by decide +kernel
  have hsame := choice_stays.1 f ops hs halong
  have hvalue : f.value = "r" := by decide +kernel
  refine ⟨⟨hs, halong, hsame, ?_⟩, ?_⟩
  · rw [value, hsame.control]
    exact hvalue
  · obtain ⟨m, hm, m₁, h₁, hs₁, halong₁⟩ : ∃ m : Mounted Unit,
        Mounted.create control {} .waiting true 0 = .ok m ∧ ∃ m₁,
        m.history [.answer (.error (.http 500 "")), .run] = some m₁ ∧ m₁.field.Settled ∧
        m₁.Along Op.isPassing events := by
      refine ⟨_, rfl, _, rfl, ⟨Load.noConfusion, rfl⟩, ?_⟩
      refine .cons trivial rfl ?_
      refine .cons (.inl rfl) rfl ?_
      refine .cons (.inr ⟨rfl, rfl⟩) rfl ?_
      exact .cons (.inl rfl) rfl (.cons (.inl rfl) rfl trivial)
    obtain ⟨m₂, h₂, hsame₂⟩ := choice_stays.2 m₁ events hs₁ halong₁
    exact ⟨m, m₁, m₂, hm, h₁, hs₁, halong₁, h₂, hsame₂⟩

end

end Field
end Typeahead
