import Typeahead.Proofs.Field.Marked
import Typeahead.Proofs.Mounted.Announced
import Typeahead.Proofs.Stage.Invariant

/-!
# No change without the mark

A pick that succeeds sets the mark before any handler learns of it, and handlers that never clear it
themselves, nor register others that would, leave it set, whatever else they do; an operation without
an event is its turn alone. So a host that finds the mark clear sees what it saw before
(`marked_of_history`).
-/

namespace Typeahead
namespace Mounted
open Typeahead.Field
variable {ω : Type}

/-- Neither the handler nor any that it registers clears the mark. -/
def Sparing (handler : Handler Field Op Reply ω) : Prop :=
  Handler.Only (· ≠ .clearDirty) (fun _ => True) handler

def AllSparing (st : Stage Field Op Reply ω) : Prop := ∀ handler ∈ st.handlers, Sparing handler

theorem AllSparing.turned [Engine] {st : Stage Field Op Reply ω} (h : AllSparing st) (op : Op) :
    AllSparing (st.turned Field.act op) := by
  intro handler hmem
  simp only [Stage.turned] at hmem
  split at hmem
  · cases hmem
  · exact h handler hmem

theorem AllSparing.listen {st : Stage Field Op Reply ω} (h : AllSparing st)
    {handler : Handler Field Op Reply ω} (hs : Sparing handler) : AllSparing (st.listen handler) := by
  intro handler' hmem
  rcases List.mem_append.mp hmem with hmem | hmem
  · exact h handler' hmem
  · obtain rfl := List.mem_singleton.mp hmem
    exact hs

section
variable [Engine]

theorem keeps_sparing {K : Field → Prop} (hK : ∀ op f, op ≠ .clearDirty → K f → K (f.after op)) :
    Stage.Keeps (ω := ω) Field.act (· ≠ .clearDirty) (fun _ => True)
      fun st => K st.state ∧ AllSparing st where
  heard _ h := h.2
  turned op st hop h := ⟨hK op st.state hop h.1, h.2.turned op⟩
  listened _ _ _ hs h := ⟨h.1, h.2.listen hs⟩
  noted _ _ h := h

theorem dirty_of_event {f : Field} {op : Op} {e : Selected} (h : (act op f).event = some e) :
    (f.after op).dirty = true := by
  cases hop : op.isPick with
  | false =>
    rw [event_of_not_isPick hop] at h
    cases h
  | true =>
    rw [act_of_isPick hop] at h
    rw [Field.after, act_of_isPick hop]
    cases hpick : (f.rowPicked? op).bind f.pick? with
    | none => rw [hpick] at h; cases h
    | some r =>
      obtain ⟨row, -, hg⟩ := Option.bind_eq_some_iff.mp hpick
      exact dirty_picked hg

section perform
variable {depth : Nat} {op : Op} {reply : Reply} {st st' : Stage Field Op Reply ω}

theorem AllSparing.perform (hst : AllSparing st) (hop : op ≠ .clearDirty)
    (h : st.perform Field.act (Stage.emit Field.act depth) op = some (reply, st')) : AllSparing st' :=
  ((keeps_sparing (K := fun _ => True) fun _ _ _ _ => trivial).perform hop h ⟨trivial, hst⟩).2

theorem marked_of_perform (hst : AllSparing st) (hclear : op ≠ .clearDirty) (hdestroy : op ≠ .destroy)
    (h : st.perform Field.act (Stage.emit Field.act depth) op = some (reply, st')) :
    Marked st.state st'.state := by
  rcases (Stage.perform_eq_some_iff.mp h).2 with ⟨-, rfl⟩ | ⟨e, he, hemit⟩
  · exact marked_after st.state hclear hdestroy
  -- the mark is set before the event is delivered
  · have hkeeps := keeps_sparing (ω := ω) (K := fun f => f.dirty = true) fun _ _ => dirty_after
    exact .of_dirty (hkeeps.emit depth e _ st' hemit ⟨dirty_of_event he, hst.turned op⟩).1

end perform

/-! ### Histories -/

theorem marked_told (f : Field) (outcome : Source.Outcome) : Marked f (f.after (told outcome)) := by
  cases outcome with
  | ok choices => exact marked_populate f choices
  | error failure => exact marked_fail f failure

/-- The host does not clear the mark nor destroy the field, and registers sparing handlers only. -/
def Event.Spares : Event ω → Prop
  | .perform op => op ≠ .clearDirty ∧ op ≠ .destroy
  | .listen handler => Sparing handler
  | .answer _ | .run => True

theorem marked_of_happen {m m' : Mounted ω} {event : Event ω} (hm : AllSparing m.stage)
    (hevent : event.Spares) (h : m.happen event = some m') :
    Marked m.field m'.field ∧ AllSparing m'.stage := by
  cases event with
  | perform op =>
    simp only [happen, perform, Option.map_map, Option.map_eq_some_iff] at h
    obtain ⟨⟨reply, st⟩, hst, rfl⟩ := h
    exact ⟨marked_of_perform hm hevent.1 hevent.2 hst, hm.perform hevent.1 hst⟩
  | listen handler =>
    obtain rfl := Option.some.inj h
    exact ⟨.refl m.field, hm.listen hevent⟩
  | answer outcome =>
    obtain rfl := Option.some.inj h
    rw [answer_field]
    refine ⟨.refl m.field, ?_⟩
    unfold answer
    split <;> exact hm
  | run =>
    obtain rfl := Option.some.inj h
    constructor
    · rcases run_field m with heq | ⟨outcome, heq⟩
      · rw [heq]; exact .refl m.field
      · rw [heq]; exact marked_told m.field outcome
    · unfold run
      split <;> exact hm

/-- Whatever changes of what can be shown is marked, and a mark set stays: in each operation, be it the
host's or a handler's, with all that handlers do in answer to it, and so in every history in which the
host does not clear the mark. The end of the field by the host is left out; handlers may bring it
about. -/
theorem marked_of_history :
    (∀ {depth : Nat} {op : Op} {reply : Reply} {st st' : Stage Field Op Reply ω},
      (∀ handler ∈ st.handlers, Sparing handler) → op ≠ .clearDirty → op ≠ .destroy →
      st.perform Field.act (Stage.emit Field.act depth) op = some (reply, st') →
      Marked st.state st'.state) ∧
    ∀ {m m' : Mounted ω} {events : List (Event ω)},
      (∀ handler ∈ m.stage.handlers, Sparing handler) → (∀ event ∈ events, event.Spares) →
      m.history events = some m' → Marked m.field m'.field := by
  refine ⟨fun hst hclear hdestroy h => marked_of_perform hst hclear hdestroy h, ?_⟩
  intro m m' events hm hevents h
  induction events generalizing m with
  | nil =>
    obtain rfl : m = m' := Option.some.inj h
    exact .refl m.field
  | cons event events ih =>
    rw [history, List.foldlM_cons] at h
    obtain ⟨m₁, h₁, h⟩ := Option.bind_eq_some_iff.mp h
    obtain ⟨hfirst, hm₁⟩ := marked_of_happen hm (hevents event List.mem_cons_self) h₁
    exact hfirst.trans (ih hm₁ (fun event' hmem => hevents event' (List.mem_cons_of_mem event hmem)) h)

end

section
attribute [local instance] Engine.unlimited

/-- The host has cleared the mark. A handler hears of a pick, registers another, and destroys the
field: what is shown is gone, and the mark is set. Then the text is typed in vain. -/
theorem marked_of_history_destroyed :
    let other : Handler Field Op Reply Unit := fun _ => .note () .done
    let handler : Handler Field Op Reply Unit := fun _ => .listen other (.call .destroy fun _ => .done)
    let earlier : List (Event Unit) := [.answer (.ok [⟨"Red", "r"⟩]), .run, .listen handler,
      .perform .focus, .perform .clearDirty]
    let events : List (Event Unit) := [.perform (.pickAt 0), .perform (.input "x")]
    ∃ m₀ m m' : Mounted Unit, create (.new "color") {} .waiting true 0 = .ok m₀ ∧
      m₀.history earlier = some m ∧ m.history events = some m' ∧
      (∀ handler ∈ m.stage.handlers, Sparing handler) ∧ (∀ event ∈ events, event.Spares) ∧
      m.field.dirty = false ∧ m'.field.render = "" ∧ m'.field.view ≠ m.field.view ∧
      m'.field.dirty = true ∧
      ∃ reply st, m.stage.perform Field.act (Stage.emit Field.act 1) (.pickAt 0) = some (reply, st) ∧
        Marked m.stage.state st.state := by
  intro other handler earlier events
  obtain ⟨m₀, hm₀, m, hm, m', h, hhandlers, hdirty, hrender, hmenu, reply, st, hst⟩ :
      ∃ m₀ : Mounted Unit,
      create (.new "color") {} .waiting true 0 = .ok m₀ ∧ ∃ m, m₀.history earlier = some m ∧
      ∃ m', m.history events = some m' ∧ m.stage.handlers = [handler] ∧ m.field.dirty = false ∧
      m'.field.render = "" ∧ (m.field.menuOpen = true ∧ m'.field.menuOpen = false) ∧
      ∃ reply st, m.stage.perform Field.act (Stage.emit Field.act 1) (.pickAt 0) = some (reply, st) :=
    ⟨_, rfl, _, rfl, _, rfl, rfl, rfl, rfl, ⟨rfl, rfl⟩, _, _, rfl⟩
  have hsparing : ∀ handler ∈ m.stage.handlers, Sparing handler := by
    intro handler' hmem
    rw [hhandlers] at hmem
    obtain rfl := List.mem_singleton.mp hmem
    have hdestroy : Op.destroy ≠ .clearDirty := by decide
    intro e
    exact And.intro trivial ⟨fun _ => trivial, And.intro hdestroy fun _ => trivial⟩
  have hspares : ∀ event ∈ events, event.Spares := by
    intro event hmem
    simp only [events, List.mem_cons, List.not_mem_nil, or_false] at hmem
    rcases hmem with rfl | rfl
    · show Op.pickAt 0 ≠ .clearDirty ∧ Op.pickAt 0 ≠ .destroy
      decide
    · show Op.input "x" ≠ .clearDirty ∧ Op.input "x" ≠ .destroy
      decide
  have hchanged : m'.field.view ≠ m.field.view := by
    intro hview
    have hopen : m'.field.menuOpen = m.field.menuOpen := congrArg View.menuOpen hview
    rw [hmenu.1, hmenu.2] at hopen
    cases hopen
  exact ⟨m₀, m, m', hm₀, hm, h, hsparing, hspares, hdirty, hrender, hchanged,
    (marked_of_history.2 hsparing hspares h).changed hchanged, reply, st, hst,
    marked_of_history.1 hsparing (by decide) (by decide) hst⟩

end

end Mounted
end Typeahead
