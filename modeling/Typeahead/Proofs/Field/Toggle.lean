import Typeahead.Proofs.Field.Blur
import Typeahead.Proofs.Suggestion.Listed

/-!
# Pressing and clicking the toggle

Between the press of the toggle and the click much may happen: the input loses the focus, which closes
the menu and may commit a text, or the choices come, which may close it too. The click does not look at
the menu then; it goes by what the toggle remembers of the press. `memory_after` says what each
operation does to that memory, and `wasOpen_run` that only another press could change it. So the click
shuts the menu if it was open at the press, and lists every choice if it was not
(`click_obeys_press`).

The click also asks the host for the focus. The host is told so once, however long it takes to look,
and not again before the next click (`AsksOnce`).
-/

namespace Typeahead

/-- A row for each choice that has a value, its label as it is. -/
def everyRow (choices : List Choice) : List Suggestion :=
  (choices.zipIdx.filter fun x => !x.1.isEmpty).map fun x =>
    ⟨x.1.label, displayText x.1.label, some x.2⟩

theorem suggest_empty [Engine] (choices : List Choice) (tag : String) :
    suggest choices "" tag = everyRow choices := by
  have hquery : Query.ofTerm "" = .all := by simp [Query.ofTerm]
  rw [suggest_eq_map_filter, hquery, everyRow]
  simp only [Query.admits, Query.accepts, Bool.and_true, Query.mark]

namespace Field
variable {f g : Field} {op : Op} {ops : List Op}

/-! ### What the toggle remembers -/

/-- Whether the menu was open at the press, and whether the focus is still asked for. -/
def memory (f : Field) : Bool × Bool := (f.wasOpen, f.focusRequested)

/-- The memory after an operation. A click on a destroyed field asks for nothing. -/
def remembered (f : Field) : Op → Bool × Bool
  | .togglePress => (f.menuOpen, f.focusRequested)
  | .toggleClick => (f.wasOpen, f.focusRequested || !f.isDestroyed)
  | .takeFocusRequest => (f.wasOpen, false)
  | _ => f.memory

theorem memory_search [Engine] (f : Field) (term : String) : (f.search term).memory = f.memory := by
  unfold search; split <;> rfl

theorem memory_input [Engine] (f : Field) (text : String) : (f.input text).memory = f.memory := by
  cases hd : f.isDestroyed with
  | true => simp only [input, hd, ↓reduceIte]
  | false =>
    by_cases hl : f.lastTerm = some text
    · rw [input_of_skip hd hl]; rfl
    · rw [input_of_search hd hl]; exact memory_search (f.typed text) text

theorem memory_focus [Engine] (f : Field) : f.focus.memory = f.memory := by
  unfold focus
  split
  · rfl
  · exact memory_search { f with focused := true } f.text

theorem memory_commit (f : Field) (text : String) : (f.commit text).memory = f.memory :=
  Prod.ext (sameMenu_commit f text).wasOpen (sameMenu_commit f text).focusRequested

theorem memory_blur (f : Field) : f.blur.memory = f.memory := by
  cases he : f.edited with
  | true => rw [blur_of_edited he]; exact memory_commit f.closed f.text
  | false => rw [blur_of_unedited he]; rfl

section
variable [Engine]

theorem memory_pick (f : Field) (s : Suggestion) : (f.after (.pick s)).memory = f.memory := by
  rcases after_pick f s with heq | ⟨e, he⟩
  · rw [heq]
  · obtain ⟨_, _, _, _, _, _, _, heq⟩ := pick?_eq_some_iff.mp he
    rw [heq]
    rfl

theorem memory_told (f : Field) (outcome : Source.Outcome) :
    (f.after (Mounted.told outcome)).memory = f.memory := by
  rcases late_or_loading f with hlate | ⟨control, hc, hl⟩
  · rw [after_told_of_late hlate]
  · rw [after_told hc hl]
    obtain ⟨_, _, _, heq⟩ :=
      exists_arrive f (taken outcome control f.initialValue) (ended outcome)
    rw [heq]
    rfl

theorem toggleClick_of_open (hd : f.isDestroyed = false) (ho : f.wasOpen = true) :
    f.toggleClick =
      { f with focused := true, focusRequested := true, menuOpen := false, dirty := true } := by
  simp [toggleClick, hd, ho]

theorem toggleClick_of_closed (hd : f.isDestroyed = false) (ho : f.wasOpen = false) :
    f.toggleClick = { f with focused := true, focusRequested := true }.search "" := by
  simp [toggleClick, hd, ho]

theorem memory_toggleClick (f : Field) : f.toggleClick.memory = f.remembered .toggleClick := by
  cases hd : f.isDestroyed with
  | true => simp [toggleClick, hd, remembered, memory]
  | false =>
    have hnow : f.remembered .toggleClick = (f.wasOpen, true) := by simp [remembered, hd]
    rw [hnow]
    cases ho : f.wasOpen with
    | true =>
      rw [toggleClick_of_open hd ho, memory]
      exact congrArg (·, true) ho
    | false =>
      rw [toggleClick_of_closed hd ho, memory_search, memory]
      exact congrArg (·, true) ho

theorem memory_after (f : Field) (op : Op) : (f.after op).memory = f.remembered op := by
  cases op with
  | input text => exact memory_input f text
  | focus => exact memory_focus f
  | blur => exact memory_blur f
  | commit text => exact memory_commit f text
  | pick s => exact memory_pick f s
  | pickAt position =>
    rcases after_pickAt f position with heq | ⟨s, -, heq⟩
    · rw [heq]; rfl
    · rw [heq]; exact memory_pick f s
  | toggleClick => exact memory_toggleClick f
  | search term => exact memory_search f term
  | populate choices => exact memory_told f (.ok choices)
  | fail failure => exact memory_told f (.error failure)
  | togglePress | query _ | takeFocusRequest | clearDirty | destroy => rfl

theorem wasOpen_after (f : Field) (hop : op ≠ .togglePress) : (f.after op).wasOpen = f.wasOpen := by
  have hmemory := congrArg Prod.fst (memory_after f op)
  cases op with
  | togglePress => exact absurd rfl hop
  | _ => exact hmemory

theorem focusRequested_after (hf : f.focusRequested = true) (hop : op ≠ .takeFocusRequest) :
    (f.after op).focusRequested = true := by
  have hmemory := congrArg Prod.snd (memory_after f op)
  cases op with
  | takeFocusRequest => exact absurd rfl hop
  | toggleClick =>
    refine hmemory.trans ?_
    simp [remembered, hf]
  | _ => exact hmemory.trans hf

theorem not_focusRequested_after (hf : f.focusRequested = false) (hop : op ≠ .toggleClick) :
    (f.after op).focusRequested = false := by
  have hmemory := congrArg Prod.snd (memory_after f op)
  cases op with
  | toggleClick => exact absurd rfl hop
  | takeFocusRequest => rfl
  | _ => exact hmemory.trans hf

/-! ### Runs -/

/-- What operations of one sort keep, a run of them keeps. -/
theorem run_keeps {P : Field → Prop} {Q : Op → Prop} (step : ∀ f op, Q op → P f → P (f.after op))
    (hops : ∀ op ∈ ops, Q op) (h : P f) : P (f.run ops) := by
  induction ops generalizing f with
  | nil => exact h
  | cons op ops ih =>
    have hop := step f op (hops op List.mem_cons_self) h
    exact ih (fun op' hop' => hops op' (List.mem_cons_of_mem op hop')) hop

theorem wasOpen_run (f : Field) (hops : ∀ op ∈ ops, op ≠ .togglePress) :
    (f.run ops).wasOpen = f.wasOpen :=
  run_keeps (P := fun g => g.wasOpen = f.wasOpen) (fun g _ hop hg => (wasOpen_after g hop).trans hg)
    hops rfl

theorem live_run (hd : f.isDestroyed = false) (hops : ∀ op ∈ ops, op ≠ .destroy) :
    (f.run ops).isDestroyed = false :=
  run_keeps (P := fun g => g.isDestroyed = false) (fun _ _ hop hg => isDestroyed_after hg hop) hops hd

/-- The host has yet to be told once that the focus is asked for. -/
structure AsksOnce (f : Field) : Prop where
  first : ∀ later, .takeFocusRequest ∉ later →
    (act .takeFocusRequest (f.run later)).reply = .flag true
  second : ∀ later last, .takeFocusRequest ∉ later → .toggleClick ∉ last →
    (act .takeFocusRequest (f.run (later ++ .takeFocusRequest :: last))).reply = .flag false

theorem asksOnce_of_focusRequested (hf : f.focusRequested = true) : f.AsksOnce where
  first later hlater := by
    have hasked := run_keeps (P := fun g => g.focusRequested = true)
      (fun _ _ hop hg => focusRequested_after hg hop) (fun op hop heq => hlater (heq ▸ hop)) hf
    exact congrArg Reply.flag hasked
  second later last _ hlast := by
    rw [run_append, run_cons]
    have htaken : ((f.run later).after .takeFocusRequest).focusRequested = false := rfl
    have hquiet := run_keeps (P := fun g => g.focusRequested = false)
      (fun _ _ hop hg => not_focusRequested_after hg hop) (fun op hop heq => hlast (heq ▸ hop)) htaken
    exact congrArg Reply.flag hquiet

/-! ### The click -/

/-- The click on the toggle has made `h` of the field `g`, given whether the menu was open at the
press. -/
structure Obeys (wasOpen : Bool) (g h : Field) : Prop where
  shut : wasOpen = true → h.menuOpen = false ∧ h.text = g.text ∧ h.control = g.control ∧
    h.suggestions = g.suggestions ∧ h.lastTerm = g.lastTerm
  listed : wasOpen = false → h.suggestions = h.query "" ∧ h.lastTerm = some "" ∧
    (h.menuOpen = true ↔ h.suggestions ≠ [])
  whole : wasOpen = false → h.load = .loaded → ∀ control, h.control = some control →
    h.suggestions = everyRow control.choices
  focused : h.focused = true

theorem query_empty_of_loaded {control : Select} (hc : f.control = some control)
    (hl : f.load = .loaded) : f.query "" = everyRow control.choices := by
  simp only [query, hc, hl]
  exact suggest_empty control.choices f.settings.highlightTag

theorem obeys_toggleClick (hd : f.isDestroyed = false) : Obeys f.wasOpen f f.toggleClick := by
  cases ho : f.wasOpen with
  | true =>
    rw [toggleClick_of_open hd ho]
    exact ⟨fun _ => ⟨rfl, rfl, rfl, rfl, rfl⟩, fun h => Bool.noConfusion h, fun h => Bool.noConfusion h, rfl⟩
  | false =>
    rw [toggleClick_of_closed hd ho, search_of_live (by exact hd)]
    refine ⟨fun h => Bool.noConfusion h, fun _ => ⟨rfl, rfl, ?_⟩, fun _ hl control hc => ?_, rfl⟩
    · simp
    · exact query_empty_of_loaded hc hl

theorem focusRequested_toggleClick (hd : f.isDestroyed = false) :
    f.toggleClick.focusRequested = true := by
  have hmemory := congrArg Prod.snd (memory_toggleClick f)
  refine hmemory.trans ?_
  simp [remembered, hd]

/-- No press and not the end of the field. -/
def Op.SparesToggle (op : Op) : Prop := op ≠ .togglePress ∧ op ≠ .destroy

instance (op : Op) : Decidable op.SparesToggle := inferInstanceAs (Decidable (_ ∧ _))

theorem click_run (hd : f.isDestroyed = false) (hops : ∀ op ∈ ops, op.SparesToggle) :
    Obeys f.menuOpen (f.togglePress.run ops) (f.togglePress.run ops).toggleClick ∧
      (f.togglePress.run ops).toggleClick.AsksOnce := by
  have hpressed : f.togglePress.wasOpen = f.menuOpen := rfl
  have hlive : (f.togglePress.run ops).isDestroyed = false :=
    live_run (by exact hd) fun op hop => (hops op hop).2
  have hremembered := wasOpen_run f.togglePress fun op hop => (hops op hop).1
  have hobeys := obeys_toggleClick hlive
  rw [hremembered, hpressed] at hobeys
  exact ⟨hobeys, asksOnce_of_focusRequested (focusRequested_toggleClick hlive)⟩

/-- The click obeys the press before it, whatever the user, the source and the handlers do in between,
as long as they neither press the toggle nor destroy the field; and it asks for the focus. -/
theorem click_obeys_press :
    (∀ (f : Field) (ops : List Op), f.isDestroyed = false → (∀ op ∈ ops, op.SparesToggle) →
      Obeys f.menuOpen (f.togglePress.run ops) (f.togglePress.run ops).toggleClick ∧
        (f.togglePress.run ops).toggleClick.AsksOnce) ∧
    ∀ {ω : Type} (m : Mounted ω), m.field.isDestroyed = false →
      ∃ m₁, m.perform .togglePress = some (.done, m₁) ∧
        ∀ events m₂, m₁.history events = some m₂ →
          ∃ deeds, m₁.chronicle Mounted.depth events = some (m₂, deeds) ∧
            ((∀ d ∈ deeds, d.op.SparesToggle) →
              ∃ m₃ m₄ m₅, m₂.perform .toggleClick = some (.done, m₃) ∧
                Obeys m.field.menuOpen m₂.field m₃.field ∧ m₃.field.AsksOnce ∧
                m₃.perform .takeFocusRequest = some (.flag true, m₄) ∧
                m₄.perform .takeFocusRequest = some (.flag false, m₅)) := by
  refine ⟨fun f ops hd hops => click_run hd hops, fun m hd => ?_⟩
  obtain ⟨m₁, hpress, hfield₁⟩ := m.exists_perform_of_silent .togglePress rfl
  refine ⟨m₁, hpress, fun events m₂ hhistory => ?_⟩
  obtain ⟨deeds, hdeeds⟩ := Mounted.exists_chronicle hhistory
  refine ⟨deeds, hdeeds, fun hspares => ?_⟩
  -- what handlers do is among the deeds, so the field goes along one run that spares the toggle
  have hrun := Mounted.leads_run (Mounted.chronicles_of_chronicle hdeeds).leads
  have hops : ∀ op ∈ deeds.map Stage.Deed.op, op.SparesToggle := by
    intro op hop
    obtain ⟨d, hd, rfl⟩ := List.mem_map.mp hop
    exact hspares d hd
  obtain ⟨hobeys, hasks⟩ := click_run hd hops
  rw [hfield₁, after_togglePress] at hrun
  rw [← hrun] at hobeys hasks
  obtain ⟨m₃, hclick, hfield₃⟩ := m₂.exists_perform_of_silent .toggleClick rfl
  rw [after_toggleClick] at hfield₃
  rw [← hfield₃] at hobeys hasks
  obtain ⟨m₄, hfirst, hfield₄⟩ := m₃.exists_perform_of_silent .takeFocusRequest rfl
  obtain ⟨m₅, hsecond, -⟩ := m₄.exists_perform_of_silent .takeFocusRequest rfl
  refine ⟨m₃, m₄, m₅, hclick, hobeys, hasks, ?_, ?_⟩
  · rw [hfirst]
    exact congrArg (fun r => some (r, m₄)) (hasks.first [] List.not_mem_nil)
  · rw [hsecond, hfield₄]
    exact congrArg (fun r => some (r, m₅)) (hasks.second [] [] List.not_mem_nil List.not_mem_nil)

end

section
attribute [local instance] Engine.unlimited

/-- A menu that is open at the press is shut by the blur, opened again by a search and shut by the click.
One that is not is opened meanwhile by the focus, and the click lists all choices but the one without a
value. In the mounted field the handler of a pick searches, and so opens the menu behind the press. -/
theorem click_obeys_press_meanwhile :
    let choices : List Choice := [⟨"<b>Red</b>", "r"⟩, ⟨"Any", ""⟩, ⟨"Blue", "b"⟩]
    let rows : List Suggestion := [⟨"<b>Red</b>", "Red", some 1⟩, ⟨"Blue", "Blue", some 3⟩]
    let loading := mount (.new "color") {} 0
    let opened := loading.run [.populate choices, .focus]
    let ops : List Op := [.blur, .input "b", .focus, .commit "r", .search "e"]
    let ops' : List Op := [.focus, .input "b", .populate choices, .blur]
    let before : List (Mounted.Event Unit) :=
      [.listen fun _ => .call (.search "e") fun _ => .done, .answer (.ok choices), .run]
    let events : List (Mounted.Event Unit) := [.perform .focus, .perform (.pickAt 1)]
    (opened.isDestroyed = false ∧ (∀ op ∈ ops, op.SparesToggle) ∧ opened.menuOpen = true ∧
      Obeys true (opened.togglePress.run ops) (opened.togglePress.run ops).toggleClick) ∧
    (loading.isDestroyed = false ∧ (∀ op ∈ ops', op.SparesToggle) ∧ loading.menuOpen = false ∧
      Obeys false (loading.togglePress.run ops') (loading.togglePress.run ops').toggleClick ∧
      (loading.togglePress.run ops').toggleClick.suggestions = rows) ∧
    ∃ m m₁ m₂ m₃ m₄ m₅ : Mounted Unit, ∃ mounted : Mounted Unit, ∃ deeds,
      Mounted.create (.new "color") {} .waiting true 0 = .ok mounted ∧
      mounted.history before = some m ∧ m.field.isDestroyed = false ∧ m.field.menuOpen = false ∧
      m.perform .togglePress = some (.done, m₁) ∧ m₁.history events = some m₂ ∧
      m₁.chronicle Mounted.depth events = some (m₂, deeds) ∧
      deeds.map Stage.Deed.op = [.focus, .pickAt 1, .search "e"] ∧ m₂.field.menuOpen = true ∧
      m₂.perform .toggleClick = some (.done, m₃) ∧ Obeys false m₂.field m₃.field ∧
      m₃.perform .takeFocusRequest = some (.flag true, m₄) ∧
      m₄.perform .takeFocusRequest = some (.flag false, m₅) := by
  intro choices rows loading opened ops ops' before events
  have hopened : opened.menuOpen = true := by cbv
  have hlive : opened.isDestroyed = false := by cbv
  have hops : ∀ op ∈ ops, op.SparesToggle := by decide
  have hops' : ∀ op ∈ ops', op.SparesToggle := by decide
  have hobeys := (click_obeys_press.1 opened ops hlive hops).1
  rw [hopened] at hobeys
  have hobeys' := (click_obeys_press.1 loading ops' rfl hops').1
  refine ⟨⟨hlive, hops, hopened, hobeys⟩, ⟨rfl, hops', rfl, hobeys', by cbv⟩, ?_⟩
  obtain ⟨mounted, hmounted, m, hbefore, hd, hclosed, m₁, hpress, m₂, hhistory, deeds, hdeeds, hlist,
    ho⟩ : ∃ mounted : Mounted Unit, Mounted.create (.new "color") {} .waiting true 0 = .ok mounted ∧
      ∃ m, mounted.history before = some m ∧ m.field.isDestroyed = false ∧
      m.field.menuOpen = false ∧ ∃ m₁, m.perform .togglePress = some (.done, m₁) ∧
      ∃ m₂, m₁.history events = some m₂ ∧
      ∃ deeds, m₁.chronicle Mounted.depth events = some (m₂, deeds) ∧
      deeds.map Stage.Deed.op = [.focus, .pickAt 1, .search "e"] ∧ m₂.field.menuOpen = true :=
    ⟨_, rfl, _, rfl, rfl, rfl, _, rfl, _, rfl, _, rfl, rfl, by cbv⟩
  have hspares : ∀ d ∈ deeds, d.op.SparesToggle := by
    have hall : ∀ op ∈ deeds.map Stage.Deed.op, op.SparesToggle := by
      rw [hlist]
      decide
    exact fun d hmem => hall d.op (List.mem_map_of_mem hmem)
  obtain ⟨m₁', hpress', hclick⟩ := click_obeys_press.2 m hd
  obtain ⟨-, rfl⟩ := Prod.mk.inj (Option.some.inj (hpress.symm.trans hpress'))
  obtain ⟨deeds', hdeeds', hthen⟩ := hclick events m₂ hhistory
  obtain ⟨-, rfl⟩ := Prod.mk.inj (Option.some.inj (hdeeds.symm.trans hdeeds'))
  obtain ⟨m₃, m₄, m₅, hdone, hobeyed, -, hfirst, hsecond⟩ := hthen hspares
  rw [hclosed] at hobeyed
  exact ⟨m, m₁, m₂, m₃, m₄, m₅, mounted, deeds, hmounted, hbefore, hd, hclosed, hpress, hhistory,
    hdeeds, hlist, ho, hdone, hobeyed, hfirst, hsecond⟩

end

end Field
end Typeahead
