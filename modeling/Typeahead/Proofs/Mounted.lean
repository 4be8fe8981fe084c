import Typeahead.Mounted
import Typeahead.Proofs.Field.Run
import Typeahead.Proofs.Stage

/-!
# Histories of a mounted field

What happens to a mounted field is a list of `Mounted.Event`s: the host performs an operation or
registers a handler, the source answers, the fetch is given time. Whatever the handlers do, the
field ends in a state that a run of operations leads to (`exists_run_of_history`), so what holds of
all runs holds of all histories.
-/

namespace Typeahead
namespace Mounted
variable {ω : Type}

inductive Event (ω : Type) where
  | perform (op : Field.Op)
  | listen (handler : Handler Field Field.Op Field.Reply ω)
  | answer (outcome : Source.Outcome)
  | run

/-- What comes of it; none if handlers keep answering each other without end. -/
def happen [Engine] (m : Mounted ω) : Event ω → Option (Mounted ω)
  | .perform op => (m.perform op).map Prod.snd
  | .listen handler => some (m.listen handler)
  | .answer outcome => some (m.answer outcome)
  | .run => some m.run

def history [Engine] (m : Mounted ω) (events : List (Event ω)) : Option (Mounted ω) :=
  events.foldlM happen m

theorem answer_field (m : Mounted ω) (outcome : Source.Outcome) :
    (m.answer outcome).field = m.field := by
  unfold answer; split <;> rfl

section
variable [Engine]

theorem run_field (m : Mounted ω) :
    m.run.field = m.field ∨ ∃ outcome, m.run.field = m.field.after (told outcome) := by
  unfold run
  split
  · rename_i outcome _
    exact .inr ⟨outcome, rfl⟩
  · exact .inl rfl

theorem exists_run_of_happen {m m' : Mounted ω} {event : Event ω} (h : m.happen event = some m') :
    ∃ ops, m'.field = m.field.run ops := by
  cases event with
  | perform op =>
    simp only [happen, perform, Option.map_map, Option.map_eq_some_iff] at h
    obtain ⟨⟨reply, st⟩, hst, rfl⟩ := h
    obtain ⟨ops, hops⟩ := Stage.reaches_of_perform hst
    exact ⟨op :: ops, hops.symm⟩
  | listen handler => cases h; exact ⟨[], rfl⟩
  | answer outcome => cases h; exact ⟨[], answer_field m outcome⟩
  | run =>
    cases h
    rcases run_field m with heq | ⟨outcome, heq⟩
    · exact ⟨[], heq⟩
    · exact ⟨[told outcome], heq⟩

theorem exists_run_of_history {m m' : Mounted ω} {events : List (Event ω)}
    (h : m.history events = some m') : ∃ ops, m'.field = m.field.run ops := by
  induction events generalizing m with
  | nil => cases h; exact ⟨[], rfl⟩
  | cons event events ih =>
    rw [history, List.foldlM_cons] at h
    obtain ⟨m₁, h₁, h⟩ := Option.bind_eq_some_iff.mp h
    obtain ⟨ops, hops⟩ := exists_run_of_happen h₁
    obtain ⟨ops', hops'⟩ := ih h
    exact ⟨ops ++ ops', by rw [hops', hops, Field.run_append]⟩

theorem reply_of_perform {m m' : Mounted ω} {op : Field.Op} {reply : Field.Reply}
    (h : m.perform op = some (reply, m')) : reply = (Field.act op m.field).reply := by
  simp only [perform, Option.map_eq_some_iff] at h
  obtain ⟨⟨reply', st⟩, hst, heq⟩ := h
  obtain ⟨rfl, -⟩ := Prod.mk.inj heq
  exact Stage.reply_of_perform hst

/-- An operation that raises no event is over at once. -/
theorem exists_perform_of_silent (m : Mounted ω) (op : Field.Op)
    (h : (Field.act op m.field).event = none) :
    ∃ m', m.perform op = some ((Field.act op m.field).reply, m') ∧ m'.field = m.field.after op := by
  have hst : ∃ st', m.stage.perform Field.act (Stage.emit Field.act depth) op =
      some ((Field.act op m.field).reply, st') ∧ st'.state = m.field.after op := by
    unfold Stage.perform
    dsimp only
    change (Field.act op m.stage.state).event = none at h
    rw [h]
    exact ⟨_, rfl, rfl⟩
  obtain ⟨st', hst, hstate⟩ := hst
  refine ⟨{ m with stage := st' }, ?_, hstate⟩
  rw [perform, hst, Option.map_some]

end

/-- A field that could be mounted has settings that pass their check, and starts out as
`Field.mount` says. -/
theorem field_of_create {control : Select} {settings : Settings} {fetch : Fetch} {running : Bool}
    {serial : Nat} {m : Mounted ω} (h : create control settings fetch running serial = .ok m) :
    settings.check = .ok () ∧ m.field = .mount control settings serial := by
  unfold create at h
  split at h
  · cases h
  · rename_i hc
    split at h
    · cases h; exact ⟨hc, rfl⟩
    · cases h

theorem exists_run_of_create [Engine] {control : Select} {settings : Settings} {fetch : Fetch}
    {running : Bool} {serial : Nat} {m m' : Mounted ω} {events : List (Event ω)}
    (hm : create control settings fetch running serial = .ok m) (h : m.history events = some m') :
    ∃ ops, m'.field = (Field.mount control settings serial).run ops := by
  obtain ⟨ops, hops⟩ := exists_run_of_history h
  exact ⟨ops, by rw [hops, (field_of_create hm).2]⟩

end Mounted
end Typeahead
