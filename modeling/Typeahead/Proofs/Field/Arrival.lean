import Mathlib
import Typeahead.Proofs.Mounted

/-!
# The end of the load

The source answers while the field is in use. What its answer does to a live field that is loading
is one operation on the select, and then the load is settled (`after_told`).

Typing does not mind when that happens (`run_told_comm`): before, a search leaves a placeholder and
an open menu, which the end of the load searches again for the text typed last; afterwards, the same
text is searched for at once.

What the input shows may mind. The select goes back to the value it had at first, the text stays as
it is, so they agree afterwards exactly if the text is what the choice of that value shows
(`inStep_populate_iff`).
-/

namespace Typeahead
namespace Field
variable {f : Field}

/-! ### What an answer does -/

/-- The select after an answer of the source, given its value at first. -/
def taken (outcome : Source.Outcome) (control : Select) (keep : String) : Select :=
  match outcome with
  | .ok choices => control.replace choices keep
  | .error _ => control

def ended : Source.Outcome → Load
  | .ok _ => .loaded
  | .error failure => .failed failure.message

/-- The field with another select and load, which no search has seen yet. -/
def renewed (f : Field) (control : Select) (load : Load) : Field :=
  { f with control := some control, load := load, dirty := true }

section
variable [Engine]

/-- The field with another select, after the end of the load. -/
def arrive (f : Field) (control : Select) (load : Load) : Field :=
  { f with control := some control }.settle load

theorem after_told {control : Select} (hc : f.control = some control) (hl : f.load = .loading)
    (outcome : Source.Outcome) :
    f.after (Mounted.told outcome) =
      f.arrive (taken outcome control f.initialValue) (ended outcome) := by
  cases outcome with
  | ok choices => exact populate_of_loading hc hl choices
  | error failure =>
    have hd := isDestroyed_of_control hc
    refine (fail_of_loading hd hl failure).trans ?_
    rw [arrive, taken, ← hc, ended]

theorem arrive_of_open (ho : f.menuOpen = true) (control : Select) (load : Load) :
    f.arrive control load = (f.renewed control load).search f.text := by
  rw [arrive, settle_of_open rfl (by exact ho), search_of_live rfl, search_of_live rfl]
  rfl

theorem arrive_of_closed (ho : f.menuOpen = false) (control : Select) (load : Load) :
    f.arrive control load = f.renewed control load :=
  settle_of_closed (f := { f with control := some control }) ho load

/-- The end of the load writes the select and the load; besides it only searches. -/
theorem exists_arrive (f : Field) (control : Select) (load : Load) :
    ∃ lastTerm menuOpen suggestions, f.arrive control load = { f.renewed control load with
      lastTerm := lastTerm, menuOpen := menuOpen, suggestions := suggestions } := by
  cases ho : f.menuOpen with
  | true =>
    rw [arrive_of_open ho, search_of_live rfl]
    exact ⟨_, _, _, rfl⟩
  | false => exact ⟨f.lastTerm, f.menuOpen, f.suggestions, arrive_of_closed ho control load⟩

theorem control_arrive (f : Field) (control : Select) (load : Load) :
    (f.arrive control load).control = some control := by
  obtain ⟨_, _, _, heq⟩ := exists_arrive f control load
  rw [heq]; rfl

theorem load_arrive (f : Field) (control : Select) (load : Load) :
    (f.arrive control load).load = load := by
  obtain ⟨_, _, _, heq⟩ := exists_arrive f control load
  rw [heq]; rfl

/-- After a search for the text the end of the load finds the menu open and searches again, so it
does not matter what the search found. -/
theorem arrive_search (hd : f.isDestroyed = false) (hq : f.query f.text ≠ []) (control : Select)
    (load : Load) :
    (f.search f.text).arrive control load = (f.renewed control load).search f.text := by
  have ho : (f.search f.text).menuOpen = true := by
    rw [search_of_live hd]; simpa using hq
  rw [arrive_of_open ho, search_of_live hd, search_of_live rfl, search_of_live rfl]
  rfl

/-! ### Typing meanwhile -/

/-- What the user does while typing: no row is picked, no text committed, nothing closed. -/
def Op.isTyping : Op → Bool
  | .input _ | .focus => true
  | _ => false

/-- Typing after a search: passed over or not, what is found is found for the text typed. -/
theorem input_search (hd : f.isDestroyed = false) (term text : String) :
    (f.search term).input text = (f.typed text).search text := by
  have hd' : (f.search term).isDestroyed = false := by rw [search_of_live hd]; exact hd
  have hl : (f.search term).lastTerm = some term := by rw [search_of_live hd]
  by_cases ht : term = text
  · subst ht
    rw [input_of_skip hd' hl, search_of_live hd, search_of_live (by exact hd)]
    rfl
  · rw [input_of_search hd' (by simpa [hl] using ht), search_of_live hd,
      search_of_live (by exact hd), search_of_live (by exact hd)]
    rfl

theorem arrive_input (hd : f.isDestroyed = false) {text : String} (hq : f.query text ≠ [])
    (control : Select) (load : Load) :
    (f.input text).arrive control load = (f.arrive control load).input text := by
  by_cases ht : f.lastTerm = some text
  -- a term passed over is searched for by the end of the load, if the menu is open
  · rw [input_of_skip hd ht]
    cases ho : f.menuOpen with
    | true =>
      rw [arrive_of_open (by exact ho), arrive_of_open ho, input_search rfl]
      rfl
    | false =>
      rw [arrive_of_closed (by exact ho), arrive_of_closed ho, input_of_skip rfl (by exact ht)]
      rfl
  · have hs : (f.input text).arrive control load =
        ((f.typed text).renewed control load).search text := by
      rw [input_of_search hd ht]
      exact arrive_search (f := f.typed text) hd hq control load
    rw [hs]
    cases ho : f.menuOpen with
    | true =>
      rw [arrive_of_open ho, input_search rfl]
      rfl
    | false =>
      rw [arrive_of_closed ho, input_of_search rfl (by exact ht), search_of_live rfl, search_of_live rfl]
      rfl

theorem arrive_focus (hd : f.isDestroyed = false) (hq : f.query f.text ≠ []) (control : Select)
    (load : Load) : f.focus.arrive control load = (f.arrive control load).focus := by
  have hs : f.focus.arrive control load =
      ({ f with focused := true }.renewed control load).search f.text := by
    rw [focus_of_live hd]
    exact arrive_search (f := { f with focused := true }) hd hq control load
  rw [hs]
  cases ho : f.menuOpen with
  | true =>
    rw [arrive_of_open ho, search_of_live rfl, search_of_live rfl, focus_of_live rfl,
      search_of_live rfl]
    rfl
  | false =>
    rw [arrive_of_closed ho, focus_of_live rfl, search_of_live rfl, search_of_live rfl]
    rfl

theorem query_of_loading {control : Select} (hc : f.control = some control) (hl : f.load = .loading)
    (term : String) : f.query term = [.placeholder f.settings.loadingLabel] := by
  simp [query, hc, hl]

theorem typing_keeps (hd : f.isDestroyed = false) {op : Op} (ht : op.isTyping = true) :
    (f.after op).control = f.control ∧ (f.after op).load = f.load ∧
      (f.after op).initialValue = f.initialValue := by
  cases op with
  | input text =>
    rw [after_input]
    by_cases hl : f.lastTerm = some text
    · rw [input_of_skip hd hl]; exact ⟨rfl, rfl, rfl⟩
    · rw [input_of_search hd hl, search_of_live (by exact hd)]; exact ⟨rfl, rfl, rfl⟩
  | focus => rw [after_focus, focus_of_live hd, search_of_live (by exact hd)]; exact ⟨rfl, rfl, rfl⟩
  | _ => cases ht

theorem after_told_comm {control : Select} (hc : f.control = some control) (hl : f.load = .loading)
    {op : Op} (ht : op.isTyping = true) (outcome : Source.Outcome) :
    (f.after op).after (Mounted.told outcome) = (f.after (Mounted.told outcome)).after op := by
  have hd := isDestroyed_of_control hc
  have hq : ∀ term, f.query term ≠ [] := fun term => by simp [query_of_loading hc hl]
  obtain ⟨hc', hl', hi'⟩ := typing_keeps hd ht
  rw [after_told (hc'.trans hc) (hl'.trans hl), after_told hc hl, hi']
  cases op with
  | input text => exact arrive_input hd (hq text) _ _
  | focus => exact arrive_focus hd (hq f.text) _ _
  | _ => cases ht

theorem run_told_comm {control : Select} (hc : f.control = some control) (hl : f.load = .loading)
    {ops : List Op} (ht : ∀ op ∈ ops, op.isTyping = true) (outcome : Source.Outcome) :
    (f.run ops).after (Mounted.told outcome) = (f.after (Mounted.told outcome)).run ops := by
  induction ops generalizing f with
  | nil => rfl
  | cons op ops ih =>
    have hop := ht op List.mem_cons_self
    have hd := isDestroyed_of_control hc
    obtain ⟨hc', hl', -⟩ := typing_keeps hd hop
    rw [run_cons, run_cons, ← after_told_comm hc hl hop outcome]
    exact ih (hc'.trans hc) (hl'.trans hl) fun o ho => ht o (List.mem_cons_of_mem _ ho)

/-- Typing and the arrival of the answer commute: on a live field that is loading, the answer may
come before all that is typed, after it, or in between, and the field ends in the same state. -/
theorem run_told_anywhere {f : Field} (hd : f.isDestroyed = false) (hl : f.load = .loading)
    (outcome : Source.Outcome) (before later : List Op)
    (ht : ∀ op ∈ before ++ later, op.isTyping = true) :
    f.run (before ++ Mounted.told outcome :: later) =
        f.run (Mounted.told outcome :: (before ++ later)) ∧
      f.run (before ++ Mounted.told outcome :: later) =
        f.run (before ++ later ++ [Mounted.told outcome]) := by
  obtain ⟨control, hc⟩ := exists_control hd
  have hfirst : f.run (before ++ Mounted.told outcome :: later) =
      f.run (Mounted.told outcome :: (before ++ later)) := by
    have hb := run_told_comm hc hl (fun op ho => ht op (List.mem_append_left later ho)) outcome
    rw [run_append, run_cons, hb, run_cons, run_append]
  refine ⟨hfirst, ?_⟩
  have hlast := run_told_comm hc hl ht outcome
  rw [hfirst, run_append, run_cons, run_cons, run_nil]
  exact hlast.symm

end

section
attribute [local instance] Engine.unlimited

/-- A term searched for, forgotten by a commit and typed again, with the choices coming first, last
or in between. -/
theorem run_told_anywhere_typed_again :
    let f := (mount (.new "color") {} 0).run [.input "re", .commit "re"]
    let before : List Op := [.focus, .input "re"]
    let later : List Op := [.input "r"]
    let came := Mounted.told (.ok [⟨"Red", "r"⟩])
    f.isDestroyed = false ∧ f.load = .loading ∧
      f.run (before ++ came :: later) = f.run (came :: (before ++ later)) ∧
      f.run (before ++ came :: later) = f.run (before ++ later ++ [came]) :=
  ⟨rfl, rfl, run_told_anywhere rfl rfl (.ok [⟨"Red", "r"⟩]) [.focus, .input "re"] [.input "r"]
    (by decide)⟩

end

/-! ### The text afterwards -/

/-- The text is what shows for the choice selected; nothing shows if there is none. -/
def InStep (f : Field) : Prop := f.text = shown f.choice?

theorem text_arrive [Engine] (f : Field) (control : Select) (load : Load) :
    (f.arrive control load).text = f.text := by
  obtain ⟨_, _, _, heq⟩ := exists_arrive f control load
  rw [heq]; rfl

theorem choice?_arrive [Engine] (f : Field) (control : Select) (load : Load) :
    (f.arrive control load).choice? = control.choice? := by
  rw [choice?, control_arrive]; rfl

/-- The value recorded is that of the select, also when the choice selected has none. -/
theorem initially_fst (control : Select) : (initially control).1 = control.value := by
  unfold initially Select.value
  cases hc : control.choice? with
  | none => rfl
  | some c =>
    by_cases hv : c.value = "" <;> simp [Choice.isEmpty, hv]

theorem initialValue_run_mount [Engine] (control : Select) (settings : Settings) (serial : Nat)
    (ops : List Op) : ((mount control settings serial).run ops).initialValue = control.value := by
  have hm := run_mounting (mount control settings serial) ops
  have hi : ((mount control settings serial).run ops).initialValue = (initially control).1 :=
    congrArg (·.2.2) hm
  rw [hi, initially_fst]

theorem inStep_populate_of_loading [Engine] (hd : f.isDestroyed = false) (hl : f.load = .loading)
    (choices : List Choice) :
    (f.populate choices).InStep ↔
      f.text = shown (if f.initialValue = "" then none
        else choices.find? (·.value = f.initialValue)) := by
  obtain ⟨control, hc⟩ := exists_control hd
  have heq : f.populate choices = f.arrive (control.replace choices f.initialValue) .loaded :=
    populate_of_loading hc hl choices
  rw [heq, InStep, text_arrive, choice?_arrive, Select.choice?_replace]

/-- The choices come and select by the value the select had at first, whatever was committed or
picked since. So the text shows the choice selected exactly if it is what the first choice of that
value shows among those that came. -/
theorem inStep_populate_iff [Engine] (control : Select) (settings : Settings) (serial : Nat) (ops : List Op)
    (choices : List Choice)
    (hd : ((mount control settings serial).run ops).isDestroyed = false)
    (hl : ((mount control settings serial).run ops).load = .loading) :
    (((mount control settings serial).run ops).populate choices).InStep ↔
      ((mount control settings serial).run ops).text =
        shown (if control.value = "" then none
          else choices.find? (·.value = control.value)) := by
  have hi := initialValue_run_mount control settings serial ops
  have hstep := inStep_populate_of_loading hd hl choices
  rwa [hi] at hstep

section
attribute [local instance] Engine.unlimited

/-- Another choice was committed before the same choices come: it shows, and the first is selected. -/
theorem inStep_populate_iff_committed :
    let choices : List Choice := [⟨"One", "1"⟩, ⟨"Two", "2"⟩]
    let control : Select := ⟨"number", choices, some 0, false⟩
    let f := (mount control {} 0).run [.commit "2"]
    f.isDestroyed = false ∧ f.load = .loading ∧ f.edited = false ∧
      ((f.populate choices).InStep ↔ f.text = shown (some ⟨"One", "1"⟩)) ∧
      ¬ (f.populate choices).InStep := by
  intro choices control f
  have hiff : (f.populate choices).InStep ↔ f.text = shown (some ⟨"One", "1"⟩) :=
    inStep_populate_iff control {} 0 [.commit "2"] choices rfl rfl
  refine ⟨rfl, rfl, rfl, hiff, fun h => ?_⟩
  have ht : f.text = displayText "Two" := rfl
  have hs : displayText "Two" = displayText "One" := ht.symm.trans (hiff.mp h)
  have htwo : displayText "Two" = "Two" := by cbv
  have hone : displayText "One" = "One" := by cbv
  rw [htwo, hone] at hs
  exact absurd hs (by decide)

end

end Field
end Typeahead
