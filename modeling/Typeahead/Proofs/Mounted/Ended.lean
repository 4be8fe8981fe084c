import Typeahead.Proofs.Field.Ended
import Typeahead.Proofs.Mounted.Chronicle

/-!
# After the end of a mounted field

A field may be destroyed by the host or by a handler, with other handlers still to be called and the
fetch still under way. The chronicle of a history splits there (`ended_later`): every deed after it
begins on a field that has ended and calls nobody, whatever has been registered since.

The end gives the select back as it was, visible, and a second one does not (`destroy_ends_life`).
It does not set the mark that something has changed, though nothing is shown from then on; and
leaving the input is the one thing that a host still sees afterwards (`sight_after_destroy`).
-/

namespace Typeahead
namespace Mounted
open Stage Typeahead.Field
variable {ω : Type} {n : Nat} {m m' : Mounted ω} {events : List (Event ω)}
  {earlier later : List (Deed ω)} {d : Deed ω}

theorem ended_later [Engine] (h : m.chronicle n events = some (m', earlier ++ d :: later))
    (hop : d.op = .destroy) :
    (∀ d' ∈ later, Ended d.before.state.load d'.before.state ∧ d'.calls = []) ∧
      Ended d.before.state.load m'.field := by
  have hchronicle := chronicles_of_chronicle h
  have hlater := hchronicle.leads.split.2
  rw [hop] at hlater
  have hends : Ended d.before.state.load (act .destroy d.before.state).state := ended_destroy _
  obtain ⟨hdeeds, hend⟩ := hlater.keeps (P := Ended d.before.state.load)
    (fun op f hf => hf.after op) hends
  refine ⟨fun d' hd' => ⟨hdeeds d' hd', ?_⟩, hend⟩
  have htold := hchronicle.told d' (List.mem_append_right earlier (List.mem_cons_of_mem d hd'))
  exact (htold.quiet (event_of_destroyed (hdeeds d' hd').isDestroyed d'.op)).1

/-- The field has ended while its load was `load`: nothing is selected, submitted or shown. -/
structure Gone (load : Load) (f : Field) : Prop where
  load : f.load = load
  control : f.control = none
  value : f.value = ""
  choice : f.choice? = none
  menuOpen : f.menuOpen = false
  render : f.render = ""

theorem gone_of_ended {load : Load} {f : Field} (h : Ended load f) : Gone load f :=
  ⟨h.load, h.control, h.value, h.choice?, h.menuOpen, h.render⟩

/-- Destroying a live field gives its select back as it is, visible. Afterwards, with whatever
operations, answers and registrations follow, the load stays as it was, there is no select, nothing
is submitted, open or shown, no handler is called by what began later, and whoever destroys the field
again learns that it has been destroyed. -/
theorem destroy_ends_life [Engine] (h : m.chronicle n events = some (m', earlier ++ d :: later))
    (hop : d.op = .destroy) (hd : d.before.state.isDestroyed = false) :
    (∃ control, d.before.state.control = some control ∧
      givenBack m.field.id d.reply = .ok { control with hidden := false }) ∧
    (∀ d' ∈ later, Gone d.before.state.load d'.before.state ∧ d'.calls = [] ∧
      (d'.op = .destroy → givenBack m.field.id d'.reply = .error (.destroyed m.field.id))) ∧
    Gone d.before.state.load m'.field := by
  have hchronicle := chronicles_of_chronicle h
  obtain ⟨hlater, hend⟩ := ended_later h hop
  refine ⟨?_, fun d' hd' => ?_, gone_of_ended hend⟩
  · obtain ⟨control, hc⟩ := exists_control hd
    have hreply := (hchronicle.told d (List.mem_append_right earlier List.mem_cons_self)).reply
    rw [hop, reply_destroy hc] at hreply
    exact ⟨control, hc, by rw [hreply]; rfl⟩
  · obtain ⟨hended, hcalls⟩ := hlater d' hd'
    refine ⟨gone_of_ended hended, hcalls, fun hop' => ?_⟩
    have htold := hchronicle.told d' (List.mem_append_right earlier (List.mem_cons_of_mem d hd'))
    have hreply := htold.reply
    rw [hop', reply_destroy_of_destroyed hended.isDestroyed] at hreply
    rw [hreply]; rfl

section
attribute [local instance] Engine.unlimited

/-- A handler destroys the field while another is still to hear of the pick, which then registers a
third and picks in vain; the answer of the source comes too late, and the host destroys the field
again. -/
theorem destroy_ends_life_by_handler :
    let row : Suggestion := ⟨"Old", "Old", some 0⟩
    let control : Select := ⟨"color", [⟨"Old", "o"⟩], none, false⟩
    let quiet : Handler Field Field.Op Field.Reply Unit := fun _ => .note () .done
    let first : Handler Field Field.Op Field.Reply Unit := fun _ => .call .destroy fun _ => .done
    let second : Handler Field Field.Op Field.Reply Unit := fun _ =>
      .note () (.listen quiet (.call (.pick row) fun _ => .done))
    let events : List (Event Unit) := [.listen first, .listen second, .perform (.pick row),
      .answer (.ok [⟨"Red", "r"⟩]), .run, .listen quiet, .perform .destroy]
    ∃ m m' : Mounted Unit, ∃ earlier later, ∃ d : Deed Unit,
      create control {} .waiting true 0 = .ok m ∧
      m.chronicle depth events = some (m', earlier ++ d :: later) ∧
      d.op = .destroy ∧ d.before.state.isDestroyed = false ∧
      later.map (fun d => d.op) = [.pick row, .populate [⟨"Red", "r"⟩], .destroy] ∧
      givenBack m.field.id d.reply = .ok ⟨"color", [⟨"Old", "o"⟩], some 0, false⟩ ∧
      (∀ d' ∈ later, Gone .loading d'.before.state ∧ d'.calls = [] ∧
        (d'.op = .destroy → givenBack m.field.id d'.reply = .error (.destroyed m.field.id))) ∧
      Gone .loading m'.field := by
  intro row control quiet first second events
  obtain ⟨m, hm, m', earlier, d, later, h, hop, hd, hops, hback, hload⟩ : ∃ m : Mounted Unit,
      create control {} .waiting true 0 = .ok m ∧ ∃ m' earlier, ∃ d : Deed Unit, ∃ later,
      m.chronicle depth events = some (m', earlier ++ d :: later) ∧
      d.op = .destroy ∧ d.before.state.isDestroyed = false ∧
      later.map (fun d => d.op) = [.pick row, .populate [⟨"Red", "r"⟩], .destroy] ∧
      givenBack m.field.id d.reply = .ok ⟨"color", [⟨"Old", "o"⟩], some 0, false⟩ ∧
      d.before.state.load = .loading :=
    ⟨_, rfl, _, [_], _, [_, _, _], rfl, rfl, rfl, rfl, rfl, rfl⟩
  obtain ⟨-, hlater, hend⟩ := destroy_ends_life h hop hd
  rw [hload] at hlater hend
  exact ⟨m, m', earlier, later, d, hm, h, hop, hd, hops, hback, hlater, hend⟩

end

/-- Destroying a live field leaves the mark that something has changed as it is, though all that was
shown is gone. Afterwards, until the host takes note, nothing that it sees changes unless the input
is left: then the focus goes and the mark is set, and again nothing more. -/
theorem sight_after_destroy [Engine] (h : m.chronicle n events = some (m', earlier ++ d :: later))
    (hop : d.op = .destroy) (hd : d.before.state.isDestroyed = false) :
    let f := d.before.state.after d.op
    f.dirty = d.before.state.dirty ∧ d.before.state.render ≠ "" ∧ f.render = "" ∧
    (∀ d' ∈ later, d'.op.acknowledges = false → (d'.before.state.after d'.op).sight =
      if d'.op = .blur then { d'.before.state.sight with focused := false, dirty := true }
      else d'.before.state.sight) ∧
    ((∀ d' ∈ later, d'.op.acknowledges = false) → m'.field.sight =
      if .blur ∈ later.map Stage.Deed.op then { f.sight with focused := false, dirty := true }
      else f.sight) := by
  intro f
  have hf : f = d.before.state.destroy := congrArg d.before.state.after hop
  have hends : Ended d.before.state.load f := hf ▸ ended_destroy _
  obtain ⟨hlater, -⟩ := ended_later h hop
  refine ⟨by rw [hf]; rfl, render_ne_empty hd, hends.render, fun d' hd' hop' => ?_, fun hops => ?_⟩
  · exact (hlater d' hd').1.sight_after hop'
  · have hrun : m'.field = f.run (later.map Stage.Deed.op) :=
      leads_run (chronicles_of_chronicle h).leads.split.2
    rw [hrun]
    refine hends.sight_run fun op hmem => ?_
    obtain ⟨d', hd', rfl⟩ := List.mem_map.mp hmem
    exact hops d' hd'

section
attribute [local instance] Engine.unlimited

/-- A host that has taken note of all changes destroys a field in focus: the mark stays clear. Then
the input is left, and the focus goes and the mark is set. -/
theorem sight_after_destroy_left :
    let events : List (Event Unit) := [.perform .focus, .perform .clearDirty, .perform .destroy,
      .perform (.input "x"), .perform .blur]
    ∃ m m' : Mounted Unit, ∃ earlier later, ∃ d : Deed Unit,
      create (.new "color") {} .waiting true 0 = .ok m ∧
      m.chronicle depth events = some (m', earlier ++ d :: later) ∧
      d.op = .destroy ∧ d.before.state.isDestroyed = false ∧
      (∀ d' ∈ later, d'.op.acknowledges = false) ∧
      d.before.state.render ≠ "" ∧ (d.before.state.after d.op).render = "" ∧
      (d.before.state.after d.op).dirty = false ∧ (d.before.state.after d.op).focused = true ∧
      m'.field.sight = { (d.before.state.after d.op).sight with focused := false, dirty := true } := by
  intro events
  obtain ⟨m, hm, m', earlier, d, later, h, hop, hd, hops, hdirty, hfocus⟩ : ∃ m : Mounted Unit,
      create (.new "color") {} .waiting true 0 = .ok m ∧ ∃ m' earlier, ∃ d : Deed Unit, ∃ later,
      m.chronicle depth events = some (m', earlier ++ d :: later) ∧
      d.op = .destroy ∧ d.before.state.isDestroyed = false ∧
      later.map (fun d => d.op) = [.input "x", .blur] ∧
      d.before.state.dirty = false ∧ (d.before.state.after d.op).focused = true :=
    ⟨_, rfl, _, [_, _], _, [_, _], rfl, rfl, rfl, rfl, rfl, rfl⟩
  have hnote : ∀ d' ∈ later, d'.op.acknowledges = false := fun d' hd' => by
    have hmem : d'.op ∈ later.map (fun d => d.op) := List.mem_map_of_mem hd'
    rw [hops] at hmem
    simp only [List.mem_cons, List.not_mem_nil, or_false] at hmem
    rcases hmem with heq | heq
    · rw [heq]; rfl
    · rw [heq]; rfl
  obtain ⟨hstay, hshown, hempty, -, hsight⟩ := sight_after_destroy h hop hd
  have hleft : Op.blur ∈ later.map Stage.Deed.op := by
    show Op.blur ∈ later.map fun d => d.op
    rw [hops]; decide
  have hend := hsight hnote
  rw [if_pos hleft] at hend
  exact ⟨m, m', earlier, later, d, hm, h, hop, hd, hnote, hshown, hempty, hstay.trans hdirty, hfocus,
    hend⟩

end

end Mounted
end Typeahead
