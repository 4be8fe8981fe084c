import Typeahead.Proofs.Mounted.Chronicle

/-!
# Picks and their events

A pick of a row that stands for a choice there is selects it and raises one event; a pick that is
refused changes nothing, and no other operation raises an event (`act_of_isPick`,
`event_of_not_isPick`). In a history this makes every deed `Announced`: a pick with success calls
the handlers registered when it began, in their order, each once and with its own event, whatever
those handlers do to the field or to their list meanwhile; all else calls nobody
(`announced_chronicle`).
-/

namespace Typeahead
namespace Field
variable {f g : Field} {op : Op}

def Op.isPick : Op → Bool
  | .pick _ | .pickAt _ => true
  | _ => false

/-- The row that is picked, given or by its position. -/
def rowPicked? (f : Field) : Op → Option Suggestion
  | .pick row => some row
  | .pickAt position => f.suggestions[position]?
  | _ => none

/-- The turn of a pick. -/
def pickTurn (f : Field) : Option (Field × Selected) → Turn Field Reply
  | some (g, e) => ⟨g, .flag true, some e, false⟩
  | none => ⟨f, .flag false, none, false⟩

theorem act_of_isPick [Engine] (hop : op.isPick = true) :
    act op f = f.pickTurn ((f.rowPicked? op).bind f.pick?) := by
  cases op with
  | pick row =>
    show act (.pick row) f = f.pickTurn (f.pick? row)
    cases h : f.pick? row <;> simp [act, h, pickTurn]
  | pickAt position =>
    show act (.pickAt position) f = f.pickTurn (f.pickAt? position)
    cases h : f.pickAt? position <;> simp [act, h, pickTurn]
  | _ => cases hop

theorem event_of_not_isPick [Engine] (hop : op.isPick = false) : (act op f).event = none := by
  cases op with
  | pick _ | pickAt _ => cases hop
  | _ => rfl

/-- The choice `c` at position `i` is the one selected. -/
def Selects (f : Field) (i : Nat) (c : Choice) : Prop :=
  ∃ control, f.control = some control ∧ control.selected = some i ∧ control.choices[i]? = some c

/-- The row stands for a position within the list of a live field. -/
def Offers (f : Field) (row : Suggestion) : Prop :=
  ∃ i control, row.choice = some i ∧ f.control = some control ∧ i < control.choices.length

theorem offers_iff_pick? {row : Suggestion} : f.Offers row ↔ ∃ g e, f.pick? row = some (g, e) := by
  constructor
  · rintro ⟨i, control, hi, hc, hlt⟩
    have hget : control.choices[i]? = some control.choices[i] := List.getElem?_eq_getElem hlt
    exact ⟨_, _, pick?_eq_some_iff.mpr ⟨i, control, control.choices[i], hi, hc, hget, rfl, rfl⟩⟩
  · rintro ⟨g, e, h⟩
    obtain ⟨i, control, c, hi, hc, hget, -, -⟩ := pick?_eq_some_iff.mp h
    exact ⟨i, control, hi, hc, (List.getElem?_eq_some_iff.mp hget).1⟩

/-- A pick answers with success or leaves the field as it is. -/
theorem pick_cases [Engine] (f : Field) (hop : op.isPick = true) :
    (∃ row i c, f.rowPicked? op = some row ∧ f.Offers row ∧ row.choice = some i ∧
      (f.after op).Selects i c ∧ (act op f).reply = .flag true ∧
      (act op f).event = some ⟨f.id, i, c⟩ ∧ (act op f).dismisses = false) ∨
    (∀ row, f.rowPicked? op = some row → ¬ f.Offers row) ∧ act op f = ⟨f, .flag false, none, false⟩ := by
  rw [after, act_of_isPick hop]
  cases hpick : (f.rowPicked? op).bind f.pick? with
  | none =>
    refine .inr ⟨fun row hrow hoffers => ?_, rfl⟩
    obtain ⟨g, e, he⟩ := offers_iff_pick?.mp hoffers
    rw [hrow, Option.bind_some, he] at hpick
    cases hpick
  | some r =>
    obtain ⟨g, e⟩ := r
    obtain ⟨row, hrow, he⟩ := Option.bind_eq_some_iff.mp hpick
    obtain ⟨i, control, c, hi, hc, hget, rfl, rfl⟩ := pick?_eq_some_iff.mp he
    have hoffers : f.Offers row := offers_iff_pick?.mpr ⟨_, _, he⟩
    exact .inl ⟨row, i, c, hrow, hoffers, hi, ⟨_, rfl, rfl, hget⟩, rfl, rfl, rfl⟩

end Field

namespace Mounted
open Stage Typeahead.Field
variable {ω : Type}

/-- A deed on the field `id` calls whom it should. -/
structure Announced [Engine] (id : String) (d : Deed ω) : Prop where
  accepted : d.op.isPick = true → (d.reply = .flag true ↔
    ∃ row, d.before.state.rowPicked? d.op = some row ∧ d.before.state.Offers row)
  picked : d.op.isPick = true → d.reply = .flag true → ∃ row i c,
    d.before.state.rowPicked? d.op = some row ∧ row.choice = some i ∧
      (d.before.state.after d.op).Selects i c ∧
      d.calls = d.before.handlers.map fun handler => (handler, ⟨id, i, c⟩)
  refused : d.op.isPick = true → d.reply ≠ .flag true →
    d.reply = .flag false ∧ d.after = d.before ∧ d.calls = []
  silent : d.op.isPick = false → d.calls = []

theorem announced_of_told [Engine] {d : Deed ω} (h : d.Told Field.act) :
    Announced d.before.state.id d := by
  cases hop : d.op.isPick with
  | false =>
    have hother : d.op.isPick ≠ true := by rw [hop]; decide
    have hcalls := (h.quiet (event_of_not_isPick hop)).1
    exact ⟨fun hpick => absurd hpick hother, fun hpick => absurd hpick hother,
      fun hpick => absurd hpick hother, fun _ => hcalls⟩
  | true =>
    have hloud : d.op.isPick = false → d.calls = [] := fun hfalse => by
      rw [hop] at hfalse; cases hfalse
    rcases pick_cases d.before.state hop with
      ⟨row, i, c, hrow, hoffers, hi, hselects, hreply, hevent, hstay⟩ | ⟨hnone, hact⟩
    · have hdone : d.reply = .flag true := h.reply.trans hreply
      -- a pick dismisses nobody, so those there are after its turn were there before
      have hhandlers : (d.before.turned Field.act d.op).handlers = d.before.handlers := by
        simp [turned, hstay]
      have hcalls := h.calls _ hevent
      rw [hhandlers] at hcalls
      exact ⟨fun _ => ⟨fun _ => ⟨row, hrow, hoffers⟩, fun _ => hdone⟩,
        fun _ _ => ⟨row, i, c, hrow, hi, hselects, hcalls⟩, fun _ hne => absurd hdone hne, hloud⟩
    · have hno : d.reply = .flag false := by rw [h.reply, hact]
      have hne : d.reply ≠ .flag true := by rw [hno]; decide
      obtain ⟨hcalls, hafter⟩ := h.quiet (by rw [hact])
      have hsame : d.before.turned Field.act d.op = d.before := by
        rw [turned, hact]; rfl
      refine ⟨fun _ => ⟨fun hdone => absurd hdone hne, ?_⟩, fun _ hdone => absurd hdone hne,
        fun _ _ => ⟨hno, hafter.trans hsame, hcalls⟩, hloud⟩
      rintro ⟨row, hrow, hoffers⟩
      exact absurd hoffers (hnone row hrow)

/-- Each pick that succeeds is announced once to each handler, and nothing else is. Whatever the
handlers are and do, and however deep their answers go, the deeds of a history, which are all
operations performed in it, are announced; every history that comes to an end has such a list. -/
theorem announced_chronicle [Engine] (m : Mounted ω) (events : List (Event ω)) :
    (∀ m', m.history events = some m' → ∃ deeds, m.chronicle depth events = some (m', deeds)) ∧
    ∀ n m' deeds, m.chronicle n events = some (m', deeds) →
      m'.field = m.field.run (deeds.map Stage.Deed.op) ∧ ∀ d ∈ deeds, Announced m.field.id d := by
  refine ⟨fun m' h => exists_chronicle h, fun n m' deeds h => ?_⟩
  have hchronicle := chronicles_of_chronicle h
  refine ⟨leads_run hchronicle.leads, fun d hd => ?_⟩
  have hannounced := announced_of_told (hchronicle.told d hd)
  rwa [id_of_leads hchronicle.leads d hd] at hannounced

section
attribute [local instance] Engine.unlimited

/-- Two handlers hear of a pick. The first picks another row, of which both hear before the second
hears of the first pick; then it registers a third handler and destroys the field, so that the pick
after that is refused. -/
theorem announced_chronicle_nested :
    let red : Suggestion := ⟨"Red", "Red", some 1⟩
    let blue : Suggestion := ⟨"Blue", "Blue", some 2⟩
    let second : Handler Field Field.Op Field.Reply (String × Nat) := fun e =>
      .note ("second", e.index) .done
    let first : Handler Field Field.Op Field.Reply (String × Nat) := fun e =>
      .note ("first", e.index) (if e.index = 1 then
        .call (.pick blue) fun _ => .listen second (.call .destroy fun _ => .done) else .done)
    let events : List (Event (String × Nat)) :=
      [.answer (.ok [⟨"Red", "r"⟩, ⟨"Blue", "b"⟩]), .run, .listen first, .listen second,
        .perform (.pick red), .perform (.pick blue)]
    ∃ m m' : Mounted (String × Nat), ∃ deeds,
      create (.new "color") {} .waiting true 0 = .ok m ∧ m.history events = some m' ∧
      m.chronicle depth events = some (m', deeds) ∧
      deeds.map (fun d => (d.op, d.reply, d.calls.map Prod.snd)) =
        [(.populate [⟨"Red", "r"⟩, ⟨"Blue", "b"⟩], .done, []),
          (.pick red, .flag true, List.replicate 2 ⟨m.field.id, 1, ⟨"Red", "r"⟩⟩),
          (.pick blue, .flag true, List.replicate 2 ⟨m.field.id, 2, ⟨"Blue", "b"⟩⟩),
          (.destroy, .released ⟨"color", [.none, ⟨"Red", "r"⟩, ⟨"Blue", "b"⟩], some 2, false⟩, []),
          (.pick blue, .flag false, [])] ∧
      m'.stage.notes = [("first", 1), ("first", 2), ("second", 2), ("second", 1)] ∧
      m'.field = m.field.run (deeds.map Stage.Deed.op) ∧ ∀ d ∈ deeds, Announced m.field.id d := by
  intro red blue second first events
  obtain ⟨m, hm, m', hm', deeds, hdeeds, hlist, hnotes⟩ : ∃ m : Mounted (String × Nat),
      create (.new "color") {} .waiting true 0 = .ok m ∧ ∃ m', m.history events = some m' ∧
      ∃ deeds, m.chronicle depth events = some (m', deeds) ∧
      deeds.map (fun d => (d.op, d.reply, d.calls.map Prod.snd)) =
        [(.populate [⟨"Red", "r"⟩, ⟨"Blue", "b"⟩], .done, []),
          (.pick red, .flag true, List.replicate 2 ⟨m.field.id, 1, ⟨"Red", "r"⟩⟩),
          (.pick blue, .flag true, List.replicate 2 ⟨m.field.id, 2, ⟨"Blue", "b"⟩⟩),
          (.destroy, .released ⟨"color", [.none, ⟨"Red", "r"⟩, ⟨"Blue", "b"⟩], some 2, false⟩, []),
          (.pick blue, .flag false, [])] ∧
      m'.stage.notes = [("first", 1), ("first", 2), ("second", 2), ("second", 1)] :=
    ⟨_, rfl, _, rfl, _, rfl, rfl, rfl⟩
  obtain ⟨hrun, hannounced⟩ := (announced_chronicle m events).2 depth m' deeds hdeeds
  exact ⟨m, m', deeds, hm, hm', hdeeds, hlist, hnotes, hrun, hannounced⟩

end

end Mounted
end Typeahead
