import Typeahead.Proofs.Stage

/-!
# Notes that nobody reads

A script is heedless if it never reads the notes, and registers heedless handlers only. On a stage
whose handlers are heedless, it goes the same way if more has been noted before, with those notes in
front (`follow_recalling`).
-/

namespace Typeahead
variable {σ κ ρ ω : Type}

/-- Neither the script nor any handler that it registers reads the notes. -/
def Script.Heedless : Script σ κ ρ ω → Prop
  | .done => True
  | .look next => ∀ s, (next s).Heedless
  | .consult _ => False
  | .call _ next => ∀ reply, (next reply).Heedless
  | .listen h next => (∀ e, (h e).Heedless) ∧ next.Heedless
  | .again next => next.Heedless
  | .note _ next => next.Heedless

namespace Stage
variable (act : κ → σ → Turn σ ρ) {deliver : Selected → Stage σ κ ρ ω → Option (Stage σ κ ρ ω)}
  {st : Stage σ κ ρ ω} {old : List ω} {self : Option (Handler σ κ ρ ω)}

def Heedless (st : Stage σ κ ρ ω) : Prop := ∀ h ∈ st.handlers, ∀ e, (h e).Heedless

def recalling (old : List ω) (st : Stage σ κ ρ ω) : Stage σ κ ρ ω :=
  { st with notes := old ++ st.notes }

theorem Heedless.turned (hst : st.Heedless) (op : κ) : Stage.Heedless { st with
    state := (act op st.state).state
    handlers := if (act op st.state).dismisses then [] else st.handlers } := by
  intro h hmem
  dsimp only at hmem
  split at hmem
  · cases hmem
  · exact hst h hmem

theorem Heedless.listen (hst : st.Heedless) {h : Handler σ κ ρ ω} (hh : ∀ e, (h e).Heedless) :
    (st.listen h).Heedless := by
  intro h' hmem
  rcases List.mem_append.mp hmem with hmem | hmem
  · exact hst h' hmem
  · obtain rfl := List.mem_singleton.mp hmem
    exact hh

theorem Heedless.renew (hst : st.Heedless) (hself : ∀ h, self = some h → ∀ e, (h e).Heedless) :
    (st.renew self).Heedless := by
  cases self with
  | none => exact hst
  | some h => exact hst.listen (hself h rfl)

theorem renew_recalling (old : List ω) (st : Stage σ κ ρ ω) :
    (st.recalling old).renew self = (st.renew self).recalling old := by
  cases self <;> rfl

theorem note_recalling (old : List ω) (st : Stage σ κ ρ ω) (entry : ω) :
    (st.recalling old).note entry = (st.note entry).recalling old := by
  simp only [note, recalling, List.append_assoc]

/-- `r'` is what `r` is, with `old` noted before. -/
structure Recalls (old : List ω) (r r' : Option (Stage σ κ ρ ω)) : Prop where
  same : r' = r.map (recalling old)
  heedless : ∀ st, r = some st → st.Heedless

theorem Recalls.none (old : List ω) : Recalls (σ := σ) (κ := κ) (ρ := ρ) old none none :=
  ⟨rfl, fun _ h => by cases h⟩

/-- Delivering events does not depend on what has been noted before. -/
def Oblivious (deliver : Selected → Stage σ κ ρ ω → Option (Stage σ κ ρ ω)) : Prop :=
  ∀ old e st, st.Heedless → Recalls old (deliver e st) (deliver e (st.recalling old))

theorem Oblivious.perform (hd : Oblivious deliver) (old : List ω) (op : κ) (hst : st.Heedless) :
    (st.recalling old).perform act deliver op =
        (st.perform act deliver op).map (fun (reply, st') => (reply, st'.recalling old)) ∧
      ∀ reply st', st.perform act deliver op = some (reply, st') → st'.Heedless := by
  have hturned := hst.turned act op
  unfold Stage.perform
  dsimp only [recalling]
  cases (act op st.state).event with
  | none =>
    refine ⟨rfl, fun reply st' h => ?_⟩
    obtain ⟨-, rfl⟩ := Prod.mk.inj (Option.some.inj h)
    exact hturned
  | some e =>
    obtain ⟨hsame, hheedless⟩ := hd old e _ hturned
    dsimp only [recalling] at hsame ⊢
    rw [hsame, Option.map_map, Option.map_map]
    refine ⟨rfl, fun reply st' h => ?_⟩
    obtain ⟨st₁, h₁, heq⟩ := Option.map_eq_some_iff.mp h
    obtain ⟨-, rfl⟩ := Prod.mk.inj heq
    exact hheedless st₁ h₁

theorem Oblivious.follow (hd : Oblivious deliver) (old : List ω)
    (hself : ∀ h, self = some h → ∀ e, (h e).Heedless) (script : Script σ κ ρ ω)
    (hscript : script.Heedless) (hst : st.Heedless) :
    Recalls old (Stage.follow act deliver self script st)
      (Stage.follow act deliver self script (st.recalling old)) := by
  induction script generalizing st with
  | done => exact ⟨rfl, fun st' h => Option.some.inj h ▸ hst⟩
  | look next ih => exact ih st.state (hscript st.state) hst
  | consult next _ => exact hscript.elim
  | call op next ih =>
    obtain ⟨hsame, hheedless⟩ := hd.perform act old op hst
    simp only [Stage.follow, hsame]
    cases hperform : st.perform act deliver op with
    | none => exact .none old
    | some r => exact ih r.1 (hscript r.1) (hheedless r.1 r.2 hperform)
  | listen h next _ ih => exact ih hscript.2 (hst.listen hscript.1)
  | again next ih =>
    simp only [Stage.follow, renew_recalling]
    exact ih hscript (hst.renew hself)
  | note entry next ih =>
    simp only [Stage.follow, note_recalling]
    exact ih hscript (show (st.note entry).Heedless from hst)

theorem Oblivious.callAll (hd : Oblivious deliver) (old : List ω) (e : Selected)
    (handlers : List (Handler σ κ ρ ω)) (hh : ∀ h ∈ handlers, ∀ e, (h e).Heedless)
    (hst : st.Heedless) : Recalls old (Stage.callAll act deliver e handlers st)
      (Stage.callAll act deliver e handlers (st.recalling old)) := by
  induction handlers generalizing st with
  | nil => exact ⟨rfl, fun st' h => Option.some.inj h ▸ hst⟩
  | cons handler handlers ih =>
    have hhandler := hh handler List.mem_cons_self
    have hself : ∀ h, some handler = some h → ∀ e, (h e).Heedless := fun h heq =>
      Option.some.inj heq ▸ hhandler
    obtain ⟨hsame, hheedless⟩ := hd.follow act old hself (handler e) (hhandler e) hst
    simp only [Stage.callAll, List.foldlM_cons, hsame]
    cases hfollow : Stage.follow act deliver (some handler) (handler e) st with
    | none => exact .none old
    | some st₁ =>
      exact ih (fun h hmem => hh h (List.mem_cons_of_mem handler hmem)) (hheedless st₁ hfollow)

theorem oblivious_emit (depth : Nat) :
    Oblivious (ω := ω) (emit act depth) := by
  induction depth with
  | zero => exact fun old _ _ _ => .none old
  | succ depth hd => exact fun old e st hst => hd.callAll act old e st.handlers hst hst

theorem follow_recalling (depth : Nat) (old : List ω) {script : Script σ κ ρ ω}
    (hscript : script.Heedless) (hst : st.Heedless) :
    Recalls old (Stage.follow act (emit act depth) none script st)
      (Stage.follow act (emit act depth) none script (st.recalling old)) :=
  (oblivious_emit act depth).follow act old (by simp) script hscript hst

end Stage
end Typeahead
