import Typeahead.Proofs.Mounted
import Typeahead.Proofs.Stage.Chronicle

/-!
# Chronicles of a mounted field

The deeds of a history in the order in which they began: what the host does, what handlers do in
answer, at whatever depth, and what the field is told when the fetch ends. The chronicle goes with
the history (`chronicle_history`) and is one run of the field (`leads_run`). The depth to which
answers to answers are followed is left open, so what holds of all chronicles does not hang on it.
-/

namespace Typeahead
namespace Mounted
open Stage
variable {ω : Type}

abbrev Deed (ω : Type) := Stage.Deed Field Field.Op Field.Reply ω

section
variable [Engine]

def record (depth : Nat) (op : Field.Op) (m : Mounted ω) :
    Option (Field.Reply × Stage Field Field.Op Field.Reply ω × List (Deed ω)) :=
  recordPerform Field.act (recordEmit Field.act depth) op m.stage

/-- `happen`, with the deeds. -/
def recount (depth : Nat) (m : Mounted ω) : Event ω → Option (Mounted ω × List (Deed ω))
  | .perform op => (m.record depth op).map fun (_, st, deeds) => ({ m with stage := st }, deeds)
  | .listen handler => some (m.listen handler, [])
  | .answer outcome => some (m.answer outcome, [])
  | .run =>
    match m.fetch with
    | .answered outcome =>
      (m.record depth (told outcome)).map fun (_, st, deeds) => (⟨st, .over⟩, deeds)
    | _ => some (m, [])

/-- `history`, with the deeds. -/
def chronicle (depth : Nat) (m : Mounted ω) : List (Event ω) → Option (Mounted ω × List (Deed ω))
  | [] => some (m, [])
  | event :: events =>
    match m.recount depth event with
    | none => none
    | some (m₁, deeds) => (chronicle depth m₁ events).map fun (m₂, deeds') => (m₂, deeds ++ deeds')

/-! ### Beside the history -/

theorem record_told (depth : Nat) (outcome : Source.Outcome) (m : Mounted ω) :
    m.record depth (told outcome) =
      some (.done, { m.stage with state := m.field.after (told outcome) },
        [⟨told outcome, m.stage, .done, { m.stage with state := m.field.after (told outcome) }, []⟩]) := by
  cases outcome <;> rfl

theorem recount_happen (m : Mounted ω) (event : Event ω) :
    (m.recount depth event).map Prod.fst = m.happen event := by
  cases event with
  | perform op =>
    have hst : (m.record depth op).map (fun r => (r.1, r.2.1)) =
        m.stage.perform Field.act (emit Field.act depth) op :=
      recordPerform_stage (recordEmit_stage Field.act depth) op m.stage
    simp only [recount, happen, perform, ← hst, Option.map_map]
    rfl
  | listen handler => rfl
  | answer outcome => rfl
  | run =>
    simp only [recount, happen, run]
    cases m.fetch with
    | answered outcome => simp only [record_told, Option.map_some]; rfl
    | _ => rfl

theorem chronicle_history (m : Mounted ω) (events : List (Event ω)) :
    (m.chronicle depth events).map Prod.fst = m.history events := by
  induction events generalizing m with
  | nil => rfl
  | cons event events ih =>
    rw [history, List.foldlM_cons, ← recount_happen]
    simp only [chronicle]
    cases m.recount depth event with
    | none => rfl
    | some r =>
      obtain ⟨m₁, deeds⟩ := r
      have hrest := ih m₁
      simp only [Option.map_map, Option.map_some]
      exact hrest

theorem exists_chronicle {m m' : Mounted ω} {events : List (Event ω)}
    (h : m.history events = some m') : ∃ deeds, m.chronicle depth events = some (m', deeds) := by
  rw [← chronicle_history] at h
  obtain ⟨⟨m₁, deeds⟩, hr, rfl⟩ := Option.map_eq_some_iff.mp h
  exact ⟨deeds, hr⟩

/-! ### One run -/

theorem chronicles_of_recount {n : Nat} {m m' : Mounted ω} {event : Event ω} {deeds : List (Deed ω)}
    (h : m.recount n event = some (m', deeds)) : Chronicles Field.act m.field deeds m'.field := by
  cases event with
  | perform op =>
    obtain ⟨⟨reply, st, deeds'⟩, hr, heq⟩ := Option.map_eq_some_iff.mp h
    simp only [Prod.mk.injEq] at heq
    obtain ⟨rfl, rfl⟩ := heq
    exact chronicles_of_recordPerform hr
  | listen handler => cases h; exact .nil _
  | answer outcome =>
    cases h
    rw [answer_field]
    exact .nil _
  | run =>
    simp only [recount] at h
    split at h
    · obtain ⟨⟨reply, st, deeds'⟩, hr, heq⟩ := Option.map_eq_some_iff.mp h
      simp only [Prod.mk.injEq] at heq
      obtain ⟨rfl, rfl⟩ := heq
      exact chronicles_of_recordPerform hr
    · cases h; exact .nil _

theorem chronicles_of_chronicle {n : Nat} {m m' : Mounted ω} {events : List (Event ω)}
    {deeds : List (Deed ω)} (h : m.chronicle n events = some (m', deeds)) :
    Chronicles Field.act m.field deeds m'.field := by
  induction events generalizing m deeds with
  | nil => cases h; exact .nil _
  | cons event events ih =>
    simp only [chronicle] at h
    split at h
    · cases h
    · rename_i m₁ deeds₁ h₁
      obtain ⟨⟨m₂, deeds₂⟩, h₂, heq⟩ := Option.map_eq_some_iff.mp h
      simp only [Prod.mk.injEq] at heq
      obtain ⟨rfl, rfl⟩ := heq
      exact (chronicles_of_recount h₁).append (ih h₂)

theorem leads_run {f g : Field} {deeds : List (Deed ω)} (h : Leads Field.act f deeds g) :
    g = f.run (deeds.map Stage.Deed.op) := by
  induction deeds generalizing f with
  | nil => exact h
  | cons d deeds ih => exact ih h.2

/-- The id of a field stays, and every deed begins on a field of that id. -/
theorem id_of_leads {f g : Field} {deeds : List (Deed ω)} (h : Leads Field.act f deeds g) :
    ∀ d ∈ deeds, d.before.state.id = f.id :=
  (h.keeps (P := fun g => g.id = f.id)
    (fun op g hg => (congrArg Prod.fst (Field.run_mounting g [op])).trans hg) rfl).1

end

end Mounted
end Typeahead
