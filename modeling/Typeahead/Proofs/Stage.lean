import Typeahead.Stage

/-!
# What handlers can bring about

Handlers change the state of a stage by operations only. So the state after an operation, with all
that handlers do in answer to its event, and in answer to the events of that, is the state after
some list of operations, the given one first (`reaches_of_perform`). What every list of operations
keeps, handlers keep.
-/

namespace Typeahead.Stage
variable {σ κ ρ ω : Type} {act : κ → σ → Turn σ ρ}
  {deliver : Selected → Stage σ κ ρ ω → Option (Stage σ κ ρ ω)}

/-- `s'` is `s` after some operations. -/
def Reaches (act : κ → σ → Turn σ ρ) (s s' : σ) : Prop :=
  ∃ ops : List κ, ops.foldl (fun s op => (act op s).state) s = s'

namespace Reaches
variable {s s' s'' : σ}

theorem refl (s : σ) : Reaches act s s := ⟨[], rfl⟩

theorem head (op : κ) (h : Reaches act (act op s).state s') : Reaches act s s' := by
  obtain ⟨ops, h⟩ := h
  exact ⟨op :: ops, h⟩

theorem trans (h : Reaches act s s') (h' : Reaches act s' s'') : Reaches act s s'' := by
  obtain ⟨ops, rfl⟩ := h
  obtain ⟨ops', rfl⟩ := h'
  exact ⟨ops ++ ops', List.foldl_append ..⟩

end Reaches

/-- Delivering events leads from a state only where operations lead. -/
def Delivers (act : κ → σ → Turn σ ρ)
    (deliver : Selected → Stage σ κ ρ ω → Option (Stage σ κ ρ ω)) : Prop :=
  ∀ e st st', deliver e st = some st' → Reaches act st.state st'.state

theorem Delivers.perform (hd : Delivers act deliver) {op : κ} {r : ρ} {st st' : Stage σ κ ρ ω}
    (h : st.perform act deliver op = some (r, st')) :
    Reaches act (act op st.state).state st'.state := by
  unfold Stage.perform at h
  dsimp only at h
  split at h
  · simp only [Option.some.injEq, Prod.mk.injEq] at h
    obtain ⟨-, rfl⟩ := h
    exact .refl _
  · obtain ⟨st₁, h₁, heq⟩ := Option.map_eq_some_iff.mp h
    simp only [Prod.mk.injEq] at heq
    obtain ⟨-, rfl⟩ := heq
    exact hd _ _ _ h₁

theorem state_renew (st : Stage σ κ ρ ω) (self : Option (Handler σ κ ρ ω)) :
    (st.renew self).state = st.state := by
  cases self <;> rfl

theorem Delivers.follow (hd : Delivers act deliver) {self : Option (Handler σ κ ρ ω)}
    (script : Script σ κ ρ ω) {st st' : Stage σ κ ρ ω}
    (h : Stage.follow act deliver self script st = some st') :
    Reaches act st.state st'.state := by
  induction script generalizing st with
  | done =>
    simp only [Stage.follow, Option.some.injEq] at h
    subst h
    exact .refl _
  | look next ih => exact ih _ h
  | consult next ih => exact ih _ h
  | call op next ih =>
    simp only [Stage.follow] at h
    split at h
    · cases h
    · rename_i r st₁ h₁
      exact .head op ((hd.perform h₁).trans (ih r h))
  | listen _ next _ ih =>
    have hr := ih h
    exact hr
  | again next ih =>
    have hr := ih h
    rwa [state_renew] at hr
  | note _ next ih =>
    have hr := ih h
    exact hr

theorem Delivers.callAll (hd : Delivers act deliver) {e : Selected}
    (handlers : List (Handler σ κ ρ ω)) {st st' : Stage σ κ ρ ω}
    (h : Stage.callAll act deliver e handlers st = some st') : Reaches act st.state st'.state := by
  induction handlers generalizing st with
  | nil =>
    obtain rfl : st = st' := Option.some.inj h
    exact .refl _
  | cons handler handlers ih =>
    rw [Stage.callAll, List.foldlM_cons] at h
    obtain ⟨st₁, h₁, h⟩ := Option.bind_eq_some_iff.mp h
    exact (hd.follow _ h₁).trans (ih h)

theorem delivers_emit (depth : Nat) : Delivers act (emit (ω := ω) act depth) := by
  induction depth with
  | zero => intro e st st' h; cases h
  | succ depth hd =>
    intro e st st' h
    exact hd.callAll st.handlers h

/-- What an operation answers is settled before the handlers learn of it. -/
theorem reply_of_perform {op : κ} {r : ρ} {st st' : Stage σ κ ρ ω}
    (h : st.perform act deliver op = some (r, st')) : r = (act op st.state).reply := by
  unfold Stage.perform at h
  dsimp only at h
  split at h
  · simp only [Option.some.injEq, Prod.mk.injEq] at h
    exact h.1.symm
  · obtain ⟨st₁, -, heq⟩ := Option.map_eq_some_iff.mp h
    simp only [Prod.mk.injEq] at heq
    exact heq.1.symm

/-- An operation, with what all handlers do about it, comes to operations, itself the first. -/
theorem reaches_of_perform {depth : Nat} {op : κ} {r : ρ} {st st' : Stage σ κ ρ ω}
    (h : st.perform act (emit act depth) op = some (r, st')) :
    Reaches act (act op st.state).state st'.state :=
  (delivers_emit depth).perform h

end Typeahead.Stage
