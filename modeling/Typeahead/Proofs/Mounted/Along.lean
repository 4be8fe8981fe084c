import Typeahead.Proofs.Mounted.Announced

/-!
# Runs of one kind

A run may be limited to operations of one kind. A pick belongs to such a run if it is refused, and
that shows only in the state it comes to: `Field.Along kind` reads the run along the states it passes.
What the operations of the kind keep, the run keeps (`Field.Along.keeps`).

The same is said of what happens to a mounted field. If the kind has no picks, no handler is ever
called, so the history comes to an end, and the field goes along a run of the kind
(`exists_history_of_along`).
-/

namespace Typeahead

namespace Field
variable {f : Field} {kind : Op → Bool} {op : Op} {ops ops' : List Op}

section
variable [Engine]

/-- The operation is a pick that is refused. -/
def Refuses (f : Field) (op : Op) : Prop := op.isPick = true ∧ (act op f).reply = .flag false

instance : Decidable (f.Refuses op) := inferInstanceAs (Decidable (_ ∧ _))

theorem act_of_refuses (h : f.Refuses op) : act op f = ⟨f, .flag false, none, false⟩ := by
  rcases f.pick_cases h.1 with ⟨_, _, _, _, _, _, _, hreply, _⟩ | ⟨-, hact⟩
  · rw [h.2] at hreply; cases hreply
  · exact hact

theorem after_of_refuses (h : f.Refuses op) : f.after op = f := by
  rw [after, act_of_refuses h]

/-- Each of the operations is of the kind, or a pick that is refused when its turn comes. -/
def Along (kind : Op → Bool) : Field → List Op → Prop
  | _, [] => True
  | f, op :: ops => (kind op = true ∨ f.Refuses op) ∧ Along kind (f.after op) ops

instance decidableAlong : ∀ (f : Field) (ops : List Op), Decidable (f.Along kind ops)
  | _, [] => inferInstanceAs (Decidable True)
  | f, op :: ops =>
    have := decidableAlong (f.after op) ops
    inferInstanceAs (Decidable ((kind op = true ∨ f.Refuses op) ∧ (f.after op).Along kind ops))

namespace Along

theorem keeps {P : Field → Prop} (step : ∀ f op, kind op = true → P f → P (f.after op))
    (h : f.Along kind ops) (hf : P f) : P (f.run ops) := by
  induction ops generalizing f with
  | nil => exact hf
  | cons op ops ih =>
    obtain ⟨hop, hrest⟩ := h
    refine ih hrest ?_
    rcases hop with hkind | hrefuses
    · exact step f op hkind hf
    · rw [after_of_refuses hrefuses]; exact hf

theorem append (h : f.Along kind ops) (h' : (f.run ops).Along kind ops') :
    f.Along kind (ops ++ ops') := by
  induction ops generalizing f with
  | nil => exact h'
  | cons op ops ih => exact ⟨h.1, ih h.2 h'⟩

end Along

end

end Field

namespace Mounted
variable {ω : Type} {m m' : Mounted ω} {kind : Field.Op → Bool} {event : Event ω}
  {events : List (Event ω)}

section
variable [Engine]

/-- What the host does to the field is of the kind or refused. -/
def Admits (kind : Field.Op → Bool) (m : Mounted ω) : Event ω → Prop
  | .perform op => kind op = true ∨ m.field.Refuses op
  | _ => True

/-- All that happens is admitted when its turn comes. -/
def Along (kind : Field.Op → Bool) : Mounted ω → List (Event ω) → Prop
  | _, [] => True
  | m, event :: events =>
    m.Admits kind event ∧ ∀ m', m.happen event = some m' → Along kind m' events

theorem Along.cons (hadmits : m.Admits kind event) (hm : m.happen event = some m')
    (h : m'.Along kind events) : m.Along kind (event :: events) := by
  refine ⟨hadmits, fun m'' hm' => ?_⟩
  obtain rfl := Option.some.inj (hm.symm.trans hm')
  exact h

section
variable (htold : ∀ outcome, kind (told outcome) = true)
  (hpick : ∀ op, kind op = true → op.isPick = false)
include htold hpick

theorem exists_happen_of_admits (h : m.Admits kind event) :
    ∃ m' ops, m.happen event = some m' ∧ m'.field = m.field.run ops ∧ m.field.Along kind ops := by
  cases event with
  | perform op =>
    have hsilent : (Field.act op m.field).event = none := by
      rcases h with hkind | hrefuses
      · exact Field.event_of_not_isPick (hpick op hkind)
      · rw [Field.act_of_refuses hrefuses]
    obtain ⟨m', hperform, hfield⟩ := exists_perform_of_silent m op hsilent
    refine ⟨m', [op], ?_, hfield, h, trivial⟩
    rw [happen, hperform, Option.map_some]
  | listen handler => exact ⟨m.listen handler, [], rfl, rfl, trivial⟩
  | answer outcome => exact ⟨m.answer outcome, [], rfl, answer_field m outcome, trivial⟩
  | run =>
    rcases run_field m with heq | ⟨outcome, heq⟩
    · exact ⟨m.run, [], rfl, heq, trivial⟩
    · exact ⟨m.run, [told outcome], rfl, heq, .inl (htold outcome), trivial⟩

theorem exists_history_of_along (h : m.Along kind events) :
    ∃ m' ops, m.history events = some m' ∧ m'.field = m.field.run ops ∧ m.field.Along kind ops := by
  induction events generalizing m with
  | nil => exact ⟨m, [], rfl, rfl, trivial⟩
  | cons event events ih =>
    obtain ⟨hadmits, hrest⟩ := h
    obtain ⟨m₁, ops, hhappen, hfield, halong⟩ := exists_happen_of_admits htold hpick hadmits
    obtain ⟨m₂, ops', hhistory, hfield', halong'⟩ := ih (hrest m₁ hhappen)
    rw [hfield] at hfield' halong'
    refine ⟨m₂, ops ++ ops', ?_, ?_, halong.append halong'⟩
    · rw [history, List.foldlM_cons, hhappen]
      exact hhistory
    · rw [hfield', Field.run_append]

end

end

end Mounted
end Typeahead
