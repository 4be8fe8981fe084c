import Mathlib.Data.List.Induction
import Typeahead.Proofs.Stage.Chronicle

/-!
# Runs of a registry

Handlers on their own can only note, look back and register. So an event calls the handlers there
are, and those that they register are behind them afterwards (`recordEmit_registry`), to be called by
the next event. Between two clearings the list only grows: it holds what has been registered, by
steps and by handlers, in that order (`handlers_run`).

A registry is shared by all handles on it. A `Shelf` keeps the handles apart from the lists that
they lead to; through which of its handles a registry is used makes no difference (`run_through`).
-/

namespace Typeahead

abbrev Listener (ω : Type) := Handler Unit Empty Empty ω

/-- What comes of a call: the handlers registered and the notes made, in order. -/
structure Effect (ω : Type) where
  listens : List (Listener ω)
  notes : List ω

/-- What a script of the handler `self` does where `seen` has been noted. -/
def Script.effect {ω : Type} (self : Listener ω) : Script Unit Empty Empty ω → List ω → Effect ω
  | .done, _ => ⟨[], []⟩
  | .look next, seen => (next ()).effect self seen
  | .consult next, seen => (next seen).effect self seen
  | .call op _, _ => op.elim
  | .listen h next, seen => ⟨h :: (next.effect self seen).listens, (next.effect self seen).notes⟩
  | .again next, seen => ⟨self :: (next.effect self seen).listens, (next.effect self seen).notes⟩
  | .note entry next, seen =>
    let x := next.effect self (seen ++ [entry])
    ⟨x.listens, entry :: x.notes⟩

namespace Registry
variable {ω : Type}

/-- The calls that an event leads to. -/
def calls (r : Registry ω) (e : Selected) : List (Listener ω × Selected) :=
  ((Stage.recordEmit (fun op => op.elim) 1 e r).map Stage.Delivery.calls).getD []

/-- What comes of calls one after the other, each of which may recall what has been noted by then. -/
def effects : List (Listener ω × Selected) → List ω → List (Effect ω)
  | [], _ => []
  | call :: calls, seen =>
    let x := (call.1 call.2).effect call.1 seen
    x :: effects calls (seen ++ x.notes)

/-- What comes of each call that an event leads to. -/
def answers (r : Registry ω) (e : Selected) : List (Effect ω) := effects (r.calls e) r.notes

/-! ### One event -/

theorem recordFollow_registry
    (deliver : Selected → Registry ω → Option (Stage.Delivery Unit Empty Empty ω))
    (self : Listener ω) (script : Script Unit Empty Empty ω) (r : Registry ω) :
    Stage.recordFollow (fun op => op.elim) deliver (some self) script r =
      some (⟨(), r.handlers ++ (script.effect self r.notes).listens,
        r.notes ++ (script.effect self r.notes).notes⟩, []) := by
  induction script generalizing r with
  | done => simp [Stage.recordFollow, Script.effect]
  | look next ih => exact ih () r
  | consult next ih => exact ih r.notes r
  | call op _ => exact op.elim
  | listen h next _ ih =>
    have hnext := ih (r.listen h)
    simpa [Stage.recordFollow, Script.effect, Stage.listen] using hnext
  | again next ih =>
    have hnext := ih (r.listen self)
    simpa [Stage.recordFollow, Script.effect, Stage.renew, Stage.listen] using hnext
  | note entry next ih =>
    have hnext := ih (r.note entry)
    simpa [Stage.recordFollow, Script.effect, Stage.note] using hnext

theorem recordCalls_registry
    (deliver : Selected → Registry ω → Option (Stage.Delivery Unit Empty Empty ω))
    (e : Selected) (handlers : List (Listener ω)) (r : Registry ω) :
    Stage.recordCalls (fun op => op.elim) deliver e handlers r =
      some ⟨⟨(), r.handlers ++ (effects (handlers.map (·, e)) r.notes).flatMap Effect.listens,
        r.notes ++ (effects (handlers.map (·, e)) r.notes).flatMap Effect.notes⟩,
        handlers.map (·, e), []⟩ := by
  induction handlers generalizing r with
  | nil => simp [Stage.recordCalls, effects]
  | cons h handlers ih => simp [Stage.recordCalls, recordFollow_registry, effects, ih]

theorem recordEmit_registry (r : Registry ω) (e : Selected) :
    Stage.recordEmit (fun op => op.elim) 1 e r =
      some ⟨⟨(), r.handlers ++ (effects (r.handlers.map (·, e)) r.notes).flatMap Effect.listens,
        r.notes ++ (effects (r.handlers.map (·, e)) r.notes).flatMap Effect.notes⟩,
        r.handlers.map (·, e), []⟩ :=
  recordCalls_registry _ e r.handlers r

theorem calls_eq (r : Registry ω) (e : Selected) : r.calls e = r.handlers.map (·, e) := by
  rw [calls, recordEmit_registry]; rfl

theorem emit_eq (r : Registry ω) (e : Selected) :
    r.emit e = ⟨(), r.handlers ++ (r.answers e).flatMap Effect.listens,
      r.notes ++ (r.answers e).flatMap Effect.notes⟩ := by
  rw [emit, ← Stage.recordEmit_stage, recordEmit_registry, answers, calls_eq]; rfl

/-! ### Runs -/

inductive Step (ω : Type) where
  | register (h : Listener ω)
  | emit (e : Selected)
  | clear
  | clone

def Step.isClone : Step ω → Bool
  | .clone => true
  | _ => false

/-- A clone leads to the same list, which stays as it is. -/
def after (r : Registry ω) : Step ω → Registry ω
  | .register h => r.listen h
  | .emit e => r.emit e
  | .clear => r.dismiss
  | .clone => r

def run (r : Registry ω) (steps : List (Step ω)) : Registry ω := steps.foldl after r

theorem run_append (r : Registry ω) (steps steps' : List (Step ω)) :
    r.run (steps ++ steps') = (r.run steps).run steps' :=
  List.foldl_append ..

/-- The handlers registered in a step, by the host or by the handlers that it calls. -/
def registered (r : Registry ω) : Step ω → List (Listener ω)
  | .register h => [h]
  | .emit e => (r.answers e).flatMap Effect.listens
  | .clear | .clone => []

/-- The handlers registered in a run, in order. -/
def registrations (r : Registry ω) : List (Step ω) → List (Listener ω)
  | [] => []
  | step :: steps => r.registered step ++ (r.after step).registrations steps

theorem handlers_after {r : Registry ω} {step : Step ω} (h : step ≠ .clear) :
    (r.after step).handlers = r.handlers ++ r.registered step := by
  cases step with
  | register h => rfl
  | emit e => rw [after, emit_eq, registered]
  | clear => exact absurd rfl h
  | clone => simp [after, registered]

theorem handlers_run {r : Registry ω} {steps : List (Step ω)} (h : .clear ∉ steps) :
    (r.run steps).handlers = r.handlers ++ r.registrations steps := by
  induction steps generalizing r with
  | nil => simp [run, registrations]
  | cons step steps ih =>
    have hstep : step ≠ .clear := fun heq => h (heq ▸ List.mem_cons_self)
    have hrest := ih (r := r.after step) fun hmem => h (List.mem_cons_of_mem step hmem)
    show ((r.after step).run steps).handlers = _
    rw [hrest, handlers_after hstep, registrations, List.append_assoc]

/-- The steps since the last clearing. -/
theorem exists_since (steps : List (Step ω)) : ∃ old since, steps = old ++ since ∧ .clear ∉ since ∧
    (empty.run old).handlers = [] ∧ (old = [] ∨ ∃ older, old = older ++ [.clear]) := by
  induction steps using List.reverseRecOn with
  | nil => exact ⟨[], [], rfl, List.not_mem_nil, rfl, .inl rfl⟩
  | append_singleton steps step ih =>
    by_cases hstep : step = .clear
    · subst hstep
      refine ⟨steps ++ [.clear], [], by simp, List.not_mem_nil, ?_, .inr ⟨steps, rfl⟩⟩
      rw [run_append]; rfl
    · obtain ⟨old, since, rfl, hsince, hempty, hold⟩ := ih
      refine ⟨old, since ++ [step], by simp, fun hmem => ?_, hempty, hold⟩
      rcases List.mem_append.mp hmem with hmem | hmem
      · exact hsince hmem
      · exact hstep (List.mem_singleton.mp hmem).symm

/-! ### How many there are -/

/-- Registers one handler at most whenever it is called, and so do all that come of it. -/
def Modest (h : Listener ω) : Prop :=
  ∃ kin : Listener ω → Prop, kin h ∧ ∀ h', kin h' → ∀ e seen,
    ((h' e).effect h' seen).listens.length ≤ 1 ∧ ∀ h'' ∈ ((h' e).effect h' seen).listens, kin h''

theorem Modest.length_le {h : Listener ω} (hm : Modest h) (e : Selected) (seen : List ω) :
    ((h e).effect h seen).listens.length ≤ 1 := by
  obtain ⟨kin, hkin, hall⟩ := hm
  exact (hall h hkin e seen).1

theorem Modest.listens {h : Listener ω} (hm : Modest h) (e : Selected) (seen : List ω) :
    ∀ h' ∈ ((h e).effect h seen).listens, Modest h' := by
  obtain ⟨kin, hkin, hall⟩ := hm
  exact fun h' hmem => ⟨kin, (hall h hkin e seen).2 h' hmem, hall⟩

theorem modest_noting (entry : Selected → ω) : Modest fun e => .note (entry e) .done := by
  refine ⟨(· = fun e => .note (entry e) .done), rfl, ?_⟩
  rintro _ rfl e seen
  exact ⟨Nat.zero_le 1, fun _ hmem => absurd hmem List.not_mem_nil⟩

theorem modest_registering (entry : Selected → ω) {next : Listener ω} (hn : Modest next) :
    Modest fun e => .note (entry e) (.listen next .done) := by
  obtain ⟨kin, hkin, hall⟩ := hn
  refine ⟨fun h => h = (fun e => .note (entry e) (.listen next .done)) ∨ kin h, .inl rfl, ?_⟩
  rintro h (rfl | hh) e seen
  · refine ⟨Nat.le_refl 1, fun h' hmem => ?_⟩
    obtain rfl := List.mem_singleton.mp hmem
    exact .inr hkin
  · exact ⟨(hall h hh e seen).1, fun h' hmem => .inr ((hall h hh e seen).2 h' hmem)⟩

/-- It is its own kin. -/
theorem modest_renewing (entry : Selected → List ω → ω) :
    Modest fun e => .consult fun seen => .note (entry e seen) (.again .done) := by
  refine ⟨(· = fun e => .consult fun seen => .note (entry e seen) (.again .done)), rfl, ?_⟩
  rintro _ rfl e seen
  exact ⟨Nat.le_refl 1, fun h hmem => List.mem_singleton.mp hmem⟩

theorem modest_effects {handlers : List (Listener ω)} (hm : ∀ h ∈ handlers, Modest h) (e : Selected)
    (seen : List ω) : ∀ x ∈ effects (handlers.map (·, e)) seen,
      x.listens.length ≤ 1 ∧ ∀ h ∈ x.listens, Modest h := by
  induction handlers generalizing seen with
  | nil => exact fun x hx => absurd hx List.not_mem_nil
  | cons h handlers ih =>
    intro x hx
    have hh := hm h List.mem_cons_self
    rcases List.mem_cons.mp hx with rfl | hx
    · exact ⟨hh.length_le e seen, hh.listens e seen⟩
    · exact ih (fun h' hmem => hm h' (List.mem_cons_of_mem h hmem)) _ x hx

theorem modest_answers {r : Registry ω} (hr : ∀ h ∈ r.handlers, Modest h) (e : Selected) :
    ∀ x ∈ r.answers e, x.listens.length ≤ 1 ∧ ∀ h ∈ x.listens, Modest h := by
  rw [answers, calls_eq]
  exact modest_effects hr e r.notes

theorem modest_after {r : Registry ω} (hr : ∀ h ∈ r.handlers, Modest h) {step : Step ω}
    (hstep : ∀ h, step = .register h → Modest h) : ∀ h ∈ (r.after step).handlers, Modest h := by
  intro h hmem
  cases step with
  | register h' =>
    rcases List.mem_append.mp hmem with hmem | hmem
    · exact hr h hmem
    · obtain rfl := List.mem_singleton.mp hmem
      exact hstep h rfl
  | emit e =>
    rw [after, emit_eq] at hmem
    rcases List.mem_append.mp hmem with hmem | hmem
    · exact hr h hmem
    · obtain ⟨x, hx, hlistens⟩ := List.mem_flatMap.mp hmem
      exact (modest_answers hr e x hx).2 h hlistens
  | clear => exact absurd hmem List.not_mem_nil
  | clone => exact hr h hmem

theorem modest_run {r : Registry ω} (hr : ∀ h ∈ r.handlers, Modest h) {steps : List (Step ω)}
    (hsteps : ∀ h, .register h ∈ steps → Modest h) : ∀ h ∈ (r.run steps).handlers, Modest h := by
  induction steps generalizing r with
  | nil => exact hr
  | cons step steps ih =>
    have hstep : ∀ h, step = .register h → Modest h := fun h heq =>
      hsteps h (heq ▸ List.mem_cons_self)
    exact ih (modest_after hr hstep) fun h hmem => hsteps h (List.mem_cons_of_mem step hmem)

/-- A further handler was registered in the call. -/
def Effect.grows (x : Effect ω) : Bool := !x.listens.isEmpty

theorem length_listens {xs : List (Effect ω)} (hxs : ∀ x ∈ xs, x.listens.length ≤ 1) :
    (xs.flatMap Effect.listens).length = xs.countP Effect.grows := by
  induction xs with
  | nil => rfl
  | cons x xs ih =>
    have hone := hxs x List.mem_cons_self
    have hrest := ih fun x' hmem => hxs x' (List.mem_cons_of_mem x hmem)
    rw [List.flatMap_cons, List.length_append, hrest, List.countP_cons]
    cases hl : x.listens with
    | nil => simp [Effect.grows, hl]
    | cons h rest =>
      rw [hl, List.length_cons] at hone
      have hnil : rest = [] := List.length_eq_zero_iff.mp (by omega)
      simp [Effect.grows, hl, hnil, Nat.add_comm]

theorem length_emit {r : Registry ω} (hr : ∀ h ∈ r.handlers, Modest h) (e : Selected) :
    (r.emit e).handlers.length = r.handlers.length + (r.answers e).countP Effect.grows := by
  rw [emit_eq, List.length_append, length_listens fun x hx => (modest_answers hr e x hx).1]

end Registry

/-! ### Handles -/

/-- Lists of handlers, and which of them each handle leads to. -/
structure Shelf (ω : Type) where
  registries : List (Registry ω)
  handles : List Nat

namespace Shelf
open Registry
variable {ω : Type}

/-- One handle on one list. -/
def ofRegistry (r : Registry ω) : Shelf ω := ⟨[r], [0]⟩

/-- A step through the handle at position `k`; a clone of it is one more handle on the same list. -/
def after (s : Shelf ω) (k : Nat) (step : Step ω) : Shelf ω :=
  match s.handles[k]? with
  | none => s
  | some i =>
    { registries := s.registries.modify i (·.after step)
      handles := if step.isClone then s.handles ++ [i] else s.handles }

def run (s : Shelf ω) (steps : List (Nat × Step ω)) : Shelf ω :=
  steps.foldl (fun s step => s.after step.1 step.2) s

/-- With `n` handles to begin with, every step goes through one that there is by then. -/
def Usable : Nat → List (Nat × Step ω) → Prop
  | _, [] => True
  | n, step :: steps => step.1 < n ∧ Usable (if step.2.isClone then n + 1 else n) steps

theorem run_through {steps : List (Nat × Step ω)} {s : Shelf ω} {r : Registry ω}
    (hr : s.registries = [r]) (hs : ∀ i ∈ s.handles, i = 0) (hu : Usable s.handles.length steps) :
    (s.run steps).registries = [r.run ((steps.map Prod.snd).filter fun step => !step.isClone)] := by
  induction steps generalizing s r with
  | nil => exact hr
  | cons step steps ih =>
    obtain ⟨k, step⟩ := step
    obtain ⟨hk, hu⟩ := hu
    have hhandle : s.handles[k]? = some 0 := by
      rw [List.getElem?_eq_getElem hk, hs _ (List.getElem_mem hk)]
    show ((s.after k step).run steps).registries = _
    have hafter : s.after k step = ⟨[r.after step],
        if step.isClone then s.handles ++ [0] else s.handles⟩ := by
      rw [after, hhandle, hr]; rfl
    rw [hafter]
    cases hc : step.isClone with
    | true =>
      cases step with
      | clone =>
        have hrest := ih (s := ⟨[r], s.handles ++ [0]⟩) rfl ?_ ?_
        · exact hrest
        · intro i hi
          rcases List.mem_append.mp hi with hi | hi
          · exact hs i hi
          · exact List.mem_singleton.mp hi
        · rw [List.length_append]; exact hu
      | _ => cases hc
    | false =>
      have hrest := ih (s := ⟨[r.after step], s.handles⟩) rfl hs (by rwa [hc] at hu)
      rw [List.map_cons, List.filter_cons_of_pos (by simp [hc])]
      exact hrest

end Shelf

namespace Registry
variable {ω : Type}

theorem run_filter (r : Registry ω) (steps : List (Step ω)) :
    r.run (steps.filter fun step => !step.isClone) = r.run steps := by
  induction steps generalizing r with
  | nil => rfl
  | cons step steps ih =>
    cases step with
    | clone => exact ih r
    | _ => exact ih _

theorem calls_run_emit (r : Registry ω) (e e' : Selected) {later : List (Step ω)}
    (h : .clear ∉ later) : ((r.emit e).run later).calls e' =
      ((r.calls e).map Prod.fst ++ r.registrations (.emit e :: later)).map (·, e') := by
  have hafter : (r.after (.emit e)).handlers = r.handlers ++ r.registered (.emit e) :=
    handlers_after (by simp)
  have hemit : r.after (.emit e) = r.emit e := rfl
  have hfirst : (r.calls e).map Prod.fst = r.handlers := by
    rw [calls_eq, List.map_map]; exact List.map_id _
  rw [calls_eq, handlers_run h, ← hemit, hafter, hfirst, List.append_assoc]
  rfl

/-- An event in a run calls the handlers registered since the last clearing, by whomever, in their
order and each once; what these note and register comes behind what there was. The next event calls
them all, and those registered meanwhile. With handlers that register one further handler at most,
themselves perhaps, the list grows by the number of calls in which one does. And the same steps
through any handles on the registry, with whatever clones in between, come to the same. -/
theorem calls_of_run (steps : List (Step ω)) (e : Selected) :
    (∃ old since, steps = old ++ since ∧ .clear ∉ since ∧
      (old = [] ∨ ∃ older, old = older ++ [.clear]) ∧
      (empty.run steps).calls e = ((empty.run old).registrations since).map (·, e)) ∧
    ((empty.run steps).emit e).notes = (empty.run steps).notes ++
      (effects ((empty.run steps).calls e) (empty.run steps).notes).flatMap Effect.notes ∧
    (∀ later e', .clear ∉ later → (((empty.run steps).emit e).run later).calls e' =
      (((empty.run steps).calls e).map Prod.fst ++
        (empty.run steps).registrations (.emit e :: later)).map (·, e')) ∧
    ((∀ h, .register h ∈ steps → Modest h) → ((empty.run steps).emit e).handlers.length =
      (empty.run steps).handlers.length +
        (effects ((empty.run steps).calls e) (empty.run steps).notes).countP Effect.grows) ∧
    ∀ through : List (Nat × Step ω), Shelf.Usable 1 through →
      (through.map Prod.snd).filter (fun step => !step.isClone) =
        steps.filter (fun step => !step.isClone) →
      ((Shelf.ofRegistry empty).run through).registries = [empty.run steps] := by
  refine ⟨?_, ?_, fun later e' h => calls_run_emit _ e e' h, fun hm => ?_, fun through hu heq => ?_⟩
  · obtain ⟨old, since, rfl, hsince, hempty, hold⟩ := exists_since steps
    refine ⟨old, since, rfl, hsince, hold, ?_⟩
    rw [calls_eq, run_append, handlers_run hsince, hempty, List.nil_append]
  · rw [emit_eq, answers]
  · exact length_emit (modest_run (fun h hmem => absurd hmem List.not_mem_nil) hm) e
  · have hzero : ∀ i ∈ (Shelf.ofRegistry (empty : Registry ω)).handles, i = 0 := fun i hi =>
      List.mem_singleton.mp hi
    rw [Shelf.run_through rfl hzero hu, heq, run_filter]

/-- A handler that is cleared before the first event; one that counts the notes and registers itself
once more whenever it is called; and, through a clone, one that registers a plain one. At the second
event four handlers are called, and three of them register. -/
theorem calls_of_run_renewing :
    let plain (n : Nat) : Listener Nat := fun _ => .note n .done
    let counting : Listener Nat := fun _ => .consult fun seen => .note seen.length (.again .done)
    let founding : Listener Nat := fun _ => .note 7 (.listen (plain 8) .done)
    let e : Selected := ⟨"w", 1, ⟨"Red", "r"⟩⟩
    let steps : List (Step Nat) :=
      [.register (plain 0), .clear, .register counting, .clone, .register founding, .emit e]
    let through : List (Nat × Step Nat) :=
      [(0, .register (plain 0)), (0, .clone), (1, .clear), (0, .clone), (2, .register counting),
        (1, .register founding), (0, .emit e)]
    (∀ h, .register h ∈ steps → Modest h) ∧ .clear ∉ [(.clone : Step Nat)] ∧ Shelf.Usable 1 through ∧
      (empty.run steps).notes = [0, 7] ∧
      (empty.run steps).calls e =
        [(counting, e), (founding, e), (counting, e), (plain 8, e)] ∧
      ((empty.run steps).emit e).notes = [0, 7] ++ [2, 7, 4, 8] ∧
      ((empty.run steps).emit e).handlers.length = 4 + 3 ∧
      (((empty.run steps).emit e).run [.clone]).calls e =
        ([counting, founding, counting, plain 8] ++ [counting, plain 8, counting]).map (·, e) ∧
      ((Shelf.ofRegistry empty).run through).registries = [empty.run steps] := by
  intro plain counting founding e steps through
  have hmodest : ∀ h, .register h ∈ steps → Modest h := by
    have hplain : ∀ n, Modest (plain n) := fun n => modest_noting fun _ => n
    intro h hmem
    simp only [steps, List.mem_cons, Step.register.injEq, List.not_mem_nil, reduceCtorEq, false_or,
      or_false] at hmem
    rcases hmem with rfl | rfl | rfl
    · exact hplain 0
    · exact modest_renewing fun _ seen => seen.length
    · exact modest_registering (fun _ => 7) (hplain 8)
  have hclear : Step.clear ∉ [(.clone : Step Nat)] := by simp
  have husable : Shelf.Usable 1 through := by simp [through, Shelf.Usable, Step.isClone]
  obtain ⟨-, hnotes, hnext, hlength, hthrough⟩ := calls_of_run steps e
  have hcalls : (empty.run steps).calls e =
      [(counting, e), (founding, e), (counting, e), (plain 8, e)] := rfl
  have hnoted : (empty.run steps).notes = [0, 7] := rfl
  refine ⟨hmodest, hclear, husable, hnoted, hcalls, ?_, ?_, ?_, hthrough through husable rfl⟩
  · rw [hnotes, hcalls, hnoted]; rfl
  · rw [hlength hmodest, hcalls, hnoted]; rfl
  · rw [hnext [.clone] e hclear, hcalls]; rfl

end Registry
end Typeahead
