import Typeahead.Proofs.Stage

/-!
# Chronicles

What happens on a stage, written down. A `Deed` is one operation with the stage on which it began,
what came of it, and the calls of handlers that it led to. `recordPerform`, `recordFollow` and
`recordEmit` do what `perform`, `follow` and `emit` do, and list the deeds in the order in which they
began, those of handlers among them; without the list they are the same (`recordEmit_stage`,
`recordPerform_stage`).

In that order the deeds make one run of the machine, however deep the handlers nest: each begins in
the state in which the one before left the machine to its handlers (`Leads`). And each deed is
`Told`: its event goes to the handlers there were when it began, in their order, to each once, and
without an event nothing more happens.
-/

namespace Typeahead.Stage
variable {σ κ ρ ω : Type}

/-- The stage after the turn of an operation, when no handler has been called yet. -/
def turned (act : κ → σ → Turn σ ρ) (op : κ) (st : Stage σ κ ρ ω) : Stage σ κ ρ ω :=
  { st with
    state := (act op st.state).state
    handlers := if (act op st.state).dismisses then [] else st.handlers }

/-- An operation performed: on which stage, its reply, the stage when all was done, and the calls of
handlers that it led to itself. -/
structure Deed (σ κ ρ ω : Type) where
  op : κ
  before : Stage σ κ ρ ω
  reply : ρ
  after : Stage σ κ ρ ω
  calls : List (Handler σ κ ρ ω × Selected)

/-- What came of an event: the stage, the calls made for it, and the deeds done in them. -/
structure Delivery (σ κ ρ ω : Type) where
  stage : Stage σ κ ρ ω
  calls : List (Handler σ κ ρ ω × Selected)
  deeds : List (Deed σ κ ρ ω)

section record
variable (act : κ → σ → Turn σ ρ) (deliver : Selected → Stage σ κ ρ ω → Option (Delivery σ κ ρ ω))

def recordPerform (op : κ) (st : Stage σ κ ρ ω) :
    Option (ρ × Stage σ κ ρ ω × List (Deed σ κ ρ ω)) :=
  let reply := (act op st.state).reply
  let st' := st.turned act op
  match (act op st.state).event with
  | none => some (reply, st', [⟨op, st, reply, st', []⟩])
  | some e => (deliver e st').map fun d =>
      (reply, d.stage, ⟨op, st, reply, d.stage, d.calls⟩ :: d.deeds)

def recordFollow (self : Option (Handler σ κ ρ ω)) :
    Script σ κ ρ ω → Stage σ κ ρ ω → Option (Stage σ κ ρ ω × List (Deed σ κ ρ ω))
  | .done, st => some (st, [])
  | .look next, st => recordFollow self (next st.state) st
  | .consult next, st => recordFollow self (next st.notes) st
  | .call op next, st =>
    match recordPerform act deliver op st with
    | none => none
    | some (reply, st', deeds) =>
      (recordFollow self (next reply) st').map fun (st'', deeds') => (st'', deeds ++ deeds')
  | .listen h next, st => recordFollow self next (st.listen h)
  | .again next, st => recordFollow self next (st.renew self)
  | .note entry next, st => recordFollow self next (st.note entry)

def recordCalls (e : Selected) :
    List (Handler σ κ ρ ω) → Stage σ κ ρ ω → Option (Delivery σ κ ρ ω)
  | [], st => some ⟨st, [], []⟩
  | h :: handlers, st =>
    match recordFollow act deliver (some h) (h e) st with
    | none => none
    | some (st', deeds) => (recordCalls e handlers st').map fun d =>
        ⟨d.stage, (h, e) :: d.calls, deeds ++ d.deeds⟩

end record

def recordEmit (act : κ → σ → Turn σ ρ) :
    Nat → Selected → Stage σ κ ρ ω → Option (Delivery σ κ ρ ω)
  | 0, _, _ => none
  | depth + 1, e, st => recordCalls act (recordEmit act depth) e st.handlers st

/-! ### Without the list -/

section stage
variable {act : κ → σ → Turn σ ρ} {deliver : Selected → Stage σ κ ρ ω → Option (Stage σ κ ρ ω)}
  {recordDeliver : Selected → Stage σ κ ρ ω → Option (Delivery σ κ ρ ω)}

theorem recordPerform_stage (hd : ∀ e st, (recordDeliver e st).map Delivery.stage = deliver e st)
    (op : κ) (st : Stage σ κ ρ ω) :
    (recordPerform act recordDeliver op st).map (fun r => (r.1, r.2.1)) =
      st.perform act deliver op := by
  unfold recordPerform Stage.perform
  dsimp only
  cases (act op st.state).event with
  | none => rfl
  | some e =>
    show _ = (deliver e (st.turned act op)).map fun st' => ((act op st.state).reply, st')
    rw [← hd, Option.map_map, Option.map_map]
    rfl

theorem recordFollow_stage (hd : ∀ e st, (recordDeliver e st).map Delivery.stage = deliver e st)
    (self : Option (Handler σ κ ρ ω)) (script : Script σ κ ρ ω) (st : Stage σ κ ρ ω) :
    (recordFollow act recordDeliver self script st).map Prod.fst =
      Stage.follow act deliver self script st := by
  induction script generalizing st with
  | done => rfl
  | look next ih => exact ih _ st
  | consult next ih => exact ih _ st
  | call op next ih =>
    simp only [recordFollow, Stage.follow]
    rw [← recordPerform_stage hd]
    cases recordPerform act recordDeliver op st with
    | none => rfl
    | some r =>
      obtain ⟨reply, st', deeds⟩ := r
      have hnext := ih reply st'
      simp only [Option.map_map, Option.map_some]
      rw [← hnext]
      rfl
  | listen h next _ ih => exact ih (st.listen h)
  | again next ih => exact ih (st.renew self)
  | note entry next ih => exact ih (st.note entry)

theorem recordCalls_stage (hd : ∀ e st, (recordDeliver e st).map Delivery.stage = deliver e st)
    (e : Selected) (handlers : List (Handler σ κ ρ ω)) (st : Stage σ κ ρ ω) :
    (recordCalls act recordDeliver e handlers st).map Delivery.stage =
      callAll act deliver e handlers st := by
  induction handlers generalizing st with
  | nil => rfl
  | cons h handlers ih =>
    rw [callAll, List.foldlM_cons, ← recordFollow_stage hd]
    simp only [recordCalls]
    cases recordFollow act recordDeliver (some h) (h e) st with
    | none => rfl
    | some r =>
      obtain ⟨st', deeds⟩ := r
      have hrest := ih st'
      simp only [Option.map_map, Option.map_some]
      exact hrest

end stage

theorem recordEmit_stage (act : κ → σ → Turn σ ρ) (depth : Nat) (e : Selected)
    (st : Stage σ κ ρ ω) : (recordEmit act depth e st).map Delivery.stage = emit act depth e st := by
  induction depth generalizing e st with
  | zero => rfl
  | succ depth ih => exact recordCalls_stage ih e st.handlers st

/-! ### One run -/

/-- The deeds lead from `s` to `s'`: each begins where the turn of the one before ended. -/
def Leads (act : κ → σ → Turn σ ρ) : σ → List (Deed σ κ ρ ω) → σ → Prop
  | s, [], s' => s' = s
  | s, d :: deeds, s' => d.before.state = s ∧ Leads act (act d.op s).state deeds s'

theorem Leads.append {act : κ → σ → Turn σ ρ} {deeds deeds' : List (Deed σ κ ρ ω)} {s s' s'' : σ}
    (h : Leads act s deeds s') (h' : Leads act s' deeds' s'') :
    Leads act s (deeds ++ deeds') s'' := by
  induction deeds generalizing s with
  | nil =>
    have hs : s' = s := h
    rwa [hs] at h'
  | cons d deeds ih =>
    obtain ⟨hbefore, hrest⟩ := h
    exact ⟨hbefore, ih hrest⟩

/-- The deeds up to a place lead to where the next one begins. -/
theorem Leads.split {act : κ → σ → Turn σ ρ} {earlier later : List (Deed σ κ ρ ω)}
    {d : Deed σ κ ρ ω} {s s' : σ} (h : Leads act s (earlier ++ d :: later) s') :
    Leads act s earlier d.before.state ∧ Leads act (act d.op d.before.state).state later s' := by
  induction earlier generalizing s with
  | nil =>
    obtain ⟨hbefore, hrest⟩ := h
    rw [← hbefore] at hrest
    exact ⟨hbefore, hrest⟩
  | cons d' earlier ih =>
    obtain ⟨hbefore, hrest⟩ := h
    obtain ⟨hearlier, hlater⟩ := ih hrest
    exact ⟨⟨hbefore, hearlier⟩, hlater⟩

/-- What every turn keeps holds where any of the deeds begins, and at the end. -/
theorem Leads.keeps {act : κ → σ → Turn σ ρ} {P : σ → Prop} (hP : ∀ op s, P s → P (act op s).state)
    {deeds : List (Deed σ κ ρ ω)} {s s' : σ} (h : Leads act s deeds s') (hs : P s) :
    (∀ d ∈ deeds, P d.before.state) ∧ P s' := by
  induction deeds generalizing s with
  | nil =>
    have heq : s' = s := h
    rw [heq]
    exact ⟨fun d hd => absurd hd List.not_mem_nil, hs⟩
  | cons d deeds ih =>
    obtain ⟨hbefore, hrest⟩ := h
    obtain ⟨hdeeds, hend⟩ := ih hrest (hP d.op s hs)
    refine ⟨fun d' hd' => ?_, hend⟩
    rcases List.mem_cons.mp hd' with rfl | hd'
    · rw [hbefore]; exact hs
    · exact hdeeds d' hd'

/-- The reply is that of the turn. The event goes to each of the handlers there are when it occurs;
without one the deed ends with the turn. -/
structure Deed.Told (act : κ → σ → Turn σ ρ) (d : Deed σ κ ρ ω) : Prop where
  reply : d.reply = (act d.op d.before.state).reply
  calls : ∀ e, (act d.op d.before.state).event = some e →
    d.calls = (d.before.turned act d.op).handlers.map (·, e)
  quiet : (act d.op d.before.state).event = none →
    d.calls = [] ∧ d.after = d.before.turned act d.op

/-- What a chronicle says: the deeds lead from one state to the other, and all are told. -/
structure Chronicles (act : κ → σ → Turn σ ρ) (s : σ) (deeds : List (Deed σ κ ρ ω)) (s' : σ) :
    Prop where
  leads : Leads act s deeds s'
  told : ∀ d ∈ deeds, d.Told act

namespace Chronicles
variable {act : κ → σ → Turn σ ρ} {deeds deeds' : List (Deed σ κ ρ ω)} {s s' s'' : σ}

theorem nil (s : σ) : Chronicles (ω := ω) act s [] s :=
  ⟨rfl, fun _ hd => absurd hd List.not_mem_nil⟩

theorem append (h : Chronicles act s deeds s') (h' : Chronicles act s' deeds' s'') :
    Chronicles act s (deeds ++ deeds') s'' := by
  refine ⟨h.leads.append h'.leads, fun d hd => ?_⟩
  rcases List.mem_append.mp hd with hd | hd
  · exact h.told d hd
  · exact h'.told d hd

end Chronicles

section chronicles
variable {act : κ → σ → Turn σ ρ} {deliver : Selected → Stage σ κ ρ ω → Option (Delivery σ κ ρ ω)}

/-- What is delivered is delivered to the handlers registered, and done in one run. -/
def DeliversToAll (act : κ → σ → Turn σ ρ)
    (deliver : Selected → Stage σ κ ρ ω → Option (Delivery σ κ ρ ω)) : Prop :=
  ∀ e st d, deliver e st = some d →
    d.calls = st.handlers.map (·, e) ∧ Chronicles act st.state d.deeds d.stage.state

theorem DeliversToAll.perform (hd : DeliversToAll act deliver) {op : κ} {reply : ρ}
    {st st' : Stage σ κ ρ ω} {deeds : List (Deed σ κ ρ ω)}
    (h : recordPerform act deliver op st = some (reply, st', deeds)) :
    Chronicles act st.state deeds st'.state := by
  unfold recordPerform at h
  dsimp only at h
  split at h
  · rename_i hevent
    simp only [Option.some.injEq, Prod.mk.injEq] at h
    obtain ⟨-, rfl, rfl⟩ := h
    refine ⟨⟨rfl, rfl⟩, fun d hd => ?_⟩
    obtain rfl := List.mem_singleton.mp hd
    refine ⟨rfl, fun e he => ?_, fun _ => ⟨rfl, rfl⟩⟩
    have hnone : none = some e := hevent.symm.trans he
    cases hnone
  · rename_i e hevent
    obtain ⟨d, hdeliver, heq⟩ := Option.map_eq_some_iff.mp h
    simp only [Prod.mk.injEq] at heq
    obtain ⟨-, rfl, rfl⟩ := heq
    obtain ⟨hcalls, hleads, htold⟩ := hd e _ d hdeliver
    refine ⟨⟨rfl, hleads⟩, fun d' hd' => ?_⟩
    rcases List.mem_cons.mp hd' with rfl | hd'
    · refine ⟨rfl, fun e' he' => ?_, fun hnone => ?_⟩
      · have hsame : some e = some e' := hevent.symm.trans he'
        obtain rfl := Option.some.inj hsame
        exact hcalls
      · have hsome : none = some e := hnone.symm.trans hevent
        cases hsome
    · exact htold d' hd'

theorem DeliversToAll.follow (hd : DeliversToAll act deliver) {self : Option (Handler σ κ ρ ω)}
    (script : Script σ κ ρ ω) {st st' : Stage σ κ ρ ω} {deeds : List (Deed σ κ ρ ω)}
    (h : recordFollow act deliver self script st = some (st', deeds)) :
    Chronicles act st.state deeds st'.state := by
  induction script generalizing st st' deeds with
  | done =>
    simp only [recordFollow, Option.some.injEq, Prod.mk.injEq] at h
    obtain ⟨rfl, rfl⟩ := h
    exact .nil _
  | look next ih => exact ih _ h
  | consult next ih => exact ih _ h
  | call op next ih =>
    simp only [recordFollow] at h
    split at h
    · cases h
    · rename_i reply st₁ deeds₁ h₁
      obtain ⟨⟨st₂, deeds₂⟩, h₂, heq⟩ := Option.map_eq_some_iff.mp h
      simp only [Prod.mk.injEq] at heq
      obtain ⟨rfl, rfl⟩ := heq
      exact (hd.perform h₁).append (ih reply h₂)
  | listen _ next _ ih =>
    have hnext := ih h
    exact hnext
  | again next ih =>
    have hnext := ih h
    rwa [state_renew] at hnext
  | note _ next ih =>
    have hnext := ih h
    exact hnext

theorem DeliversToAll.calls (hd : DeliversToAll act deliver) {e : Selected}
    {handlers : List (Handler σ κ ρ ω)} {st : Stage σ κ ρ ω} {d : Delivery σ κ ρ ω}
    (h : recordCalls act deliver e handlers st = some d) :
    d.calls = handlers.map (·, e) ∧ Chronicles act st.state d.deeds d.stage.state := by
  induction handlers generalizing st d with
  | nil =>
    simp only [recordCalls, Option.some.injEq] at h
    subst h
    exact ⟨rfl, .nil _⟩
  | cons handler handlers ih =>
    simp only [recordCalls] at h
    split at h
    · cases h
    · rename_i st₁ deeds₁ h₁
      obtain ⟨d₁, hd₁, rfl⟩ := Option.map_eq_some_iff.mp h
      obtain ⟨hcalls, hrest⟩ := ih hd₁
      refine ⟨?_, (hd.follow _ h₁).append hrest⟩
      rw [List.map_cons, ← hcalls]

end chronicles

theorem deliversToAll_recordEmit (act : κ → σ → Turn σ ρ) (depth : Nat) :
    DeliversToAll (ω := ω) act (recordEmit act depth) := by
  induction depth with
  | zero => intro e st d h; cases h
  | succ depth hd => intro e st d h; exact hd.calls h

/-- The chronicle of an operation, with all that handlers do about it and about what they do. -/
theorem chronicles_of_recordPerform {act : κ → σ → Turn σ ρ} {depth : Nat} {op : κ} {reply : ρ}
    {st st' : Stage σ κ ρ ω} {deeds : List (Deed σ κ ρ ω)}
    (h : recordPerform act (recordEmit act depth) op st = some (reply, st', deeds)) :
    Chronicles act st.state deeds st'.state :=
  (deliversToAll_recordEmit act depth).perform h

end Typeahead.Stage
