import Typeahead.Proofs.Stage.Chronicle

/-!
# What scripts keep

`Script.Only P Q`: a script calls operations in `P` only and registers handlers in `Q` only, itself
among them, and so does every handler it registers, whenever that is called. What turns of such
operations and such registrations keep, on stages whose handlers do no more than that themselves, is
kept by the whole script, with all that the handlers do in answer (`Keeps.follow`), and by each operation
(`Keeps.perform`).
-/

namespace Typeahead
variable {σ κ ρ ω : Type}

/-- All it calls is in `P` and all it registers in `Q`, handlers registered by it included. The handler
that is answering with it, if one is, is `self`. -/
def Script.Only (P : κ → Prop) (Q : Handler σ κ ρ ω → Prop) :
    Option (Handler σ κ ρ ω) → Script σ κ ρ ω → Prop
  | _, .done => True
  | self, .look next => ∀ s, (next s).Only P Q self
  | self, .consult next => ∀ seen, (next seen).Only P Q self
  | self, .call op next => P op ∧ ∀ reply, (next reply).Only P Q self
  | self, .listen h next => Q h ∧ (∀ e, (h e).Only P Q (some h)) ∧ next.Only P Q self
  | self, .again next => (∀ h, self = some h → Q h) ∧ next.Only P Q self
  | self, .note _ next => next.Only P Q self

/-- Whenever it is called, it calls operations in `P` and registers handlers in `Q` only. -/
def Handler.Only (P : κ → Prop) (Q : Handler σ κ ρ ω → Prop) (h : Handler σ κ ρ ω) : Prop :=
  ∀ e, (h e).Only P Q (some h)

namespace Stage
variable {act : κ → σ → Turn σ ρ} {deliver : Selected → Stage σ κ ρ ω → Option (Stage σ κ ρ ω)}
  {P : κ → Prop} {Q : Handler σ κ ρ ω → Prop} {I : Stage σ κ ρ ω → Prop} {op : κ} {reply : ρ}
  {st st' : Stage σ κ ρ ω}

/-- Single steps within `P` and `Q` keep `I`, and where it holds the handlers stay within them. -/
structure Keeps (act : κ → σ → Turn σ ρ) (P : κ → Prop) (Q : Handler σ κ ρ ω → Prop)
    (I : Stage σ κ ρ ω → Prop) : Prop where
  heard : ∀ st, I st → ∀ h ∈ st.handlers, Handler.Only P Q h
  turned : ∀ op st, P op → I st → I (st.turned act op)
  listened : ∀ h st, Q h → Handler.Only P Q h → I st → I (st.listen h)
  noted : ∀ entry st, I st → I (st.note entry)

/-- Delivering events keeps `I`. -/
def Passes (deliver : Selected → Stage σ κ ρ ω → Option (Stage σ κ ρ ω))
    (I : Stage σ κ ρ ω → Prop) : Prop :=
  ∀ e st st', deliver e st = some st' → I st → I st'

theorem perform_eq_some_iff : st.perform act deliver op = some (reply, st') ↔
    reply = (act op st.state).reply ∧
      (((act op st.state).event = none ∧ st' = st.turned act op) ∨
        ∃ e, (act op st.state).event = some e ∧ deliver e (st.turned act op) = some st') := by
  unfold Stage.perform turned
  dsimp only
  cases (act op st.state).event with
  | none =>
    simp only [Option.some.injEq, Prod.mk.injEq, true_and, reduceCtorEq, false_and, exists_false,
      or_false]
    exact and_congr eq_comm eq_comm
  | some e =>
    simp only [Option.map_eq_some_iff, Prod.mk.injEq, reduceCtorEq, false_and, false_or,
      Option.some.injEq, exists_eq_left']
    constructor
    · rintro ⟨st₁, h₁, rfl, rfl⟩
      exact ⟨rfl, h₁⟩
    · rintro ⟨rfl, h₁⟩
      exact ⟨st', h₁, rfl, rfl⟩

theorem Keeps.performed (hI : Keeps act P Q I) (hd : Passes deliver I) (hop : P op)
    (h : st.perform act deliver op = some (reply, st')) (hst : I st) : I st' := by
  have hturned := hI.turned op st hop hst
  rcases (perform_eq_some_iff.mp h).2 with ⟨-, rfl⟩ | ⟨e, -, h₁⟩
  · exact hturned
  · exact hd e _ st' h₁ hturned

theorem Keeps.renewed {self : Option (Handler σ κ ρ ω)} (hI : Keeps act P Q I)
    (hself : ∀ h, self = some h → Handler.Only P Q h) (hQ : ∀ h, self = some h → Q h) (hst : I st) :
    I (st.renew self) := by
  cases self with
  | none => exact hst
  | some h => exact hI.listened h st (hQ h rfl) (hself h rfl) hst

theorem Keeps.follow {self : Option (Handler σ κ ρ ω)} (hI : Keeps act P Q I)
    (hd : Passes deliver I) (hself : ∀ h, self = some h → Handler.Only P Q h)
    (script : Script σ κ ρ ω) (hs : script.Only P Q self)
    (h : Stage.follow act deliver self script st = some st') (hst : I st) : I st' := by
  induction script generalizing st with
  | done =>
    obtain rfl : st = st' := Option.some.inj h
    exact hst
  | look next ih => exact ih st.state (hs st.state) h hst
  | consult next ih => exact ih st.notes (hs st.notes) h hst
  | call op next ih =>
    obtain ⟨hop, hnext⟩ := hs
    simp only [Stage.follow] at h
    split at h
    · cases h
    · rename_i reply st₁ h₁
      exact ih reply (hnext reply) h (hI.performed hd hop h₁ hst)
  | listen handler next _ ih =>
    obtain ⟨hQ, hhandler, hnext⟩ := hs
    exact ih hnext h (hI.listened handler st hQ hhandler hst)
  | again next ih => exact ih hs.2 h (hI.renewed hself hs.1 hst)
  | note entry next ih => exact ih hs h (hI.noted entry st hst)

theorem Keeps.callAll (hI : Keeps act P Q I) (hd : Passes deliver I) {e : Selected}
    (handlers : List (Handler σ κ ρ ω)) (hhandlers : ∀ h ∈ handlers, Handler.Only P Q h)
    (h : Stage.callAll act deliver e handlers st = some st') (hst : I st) : I st' := by
  induction handlers generalizing st with
  | nil =>
    obtain rfl : st = st' := Option.some.inj h
    exact hst
  | cons handler handlers ih =>
    rw [Stage.callAll, List.foldlM_cons] at h
    obtain ⟨st₁, h₁, h⟩ := Option.bind_eq_some_iff.mp h
    have hhandler := hhandlers handler List.mem_cons_self
    have hself : ∀ h', some handler = some h' → Handler.Only P Q h' := fun h' heq =>
      Option.some.inj heq ▸ hhandler
    exact ih (fun h' hh' => hhandlers h' (List.mem_cons_of_mem handler hh')) h
      (hI.follow hd hself _ (hhandler e) h₁ hst)

theorem Keeps.emit (hI : Keeps act P Q I) (depth : Nat) : Passes (Stage.emit act depth) I := by
  induction depth with
  | zero => intro e st st' h; cases h
  | succ depth hd =>
    intro e st st' h hst
    -- those called are the handlers there were at first, though each may register others
    exact hI.callAll hd st.handlers (hI.heard st hst) h hst

theorem Keeps.perform (hI : Keeps act P Q I) {depth : Nat} (hop : P op)
    (h : st.perform act (Stage.emit act depth) op = some (reply, st')) (hst : I st) : I st' :=
  hI.performed (hI.emit depth) hop h hst

end Stage
end Typeahead
