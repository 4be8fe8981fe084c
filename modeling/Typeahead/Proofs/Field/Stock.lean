import Typeahead.Proofs.Field.Arrival

/-!
# What is on offer

The stock of a field is how far its load has come and what its select offers, whatever is selected.
Use never touches it; an answer of the source changes it, once, while the field is alive and
loading; the end of the field empties it (`stock_after`). So a run can do only what these two do
(`run_stock`).

The list is written at most once (`choices_written_once`): the host's choices are there until others
come, and those stay. What is selected when they come is settled by the value the select had at
first, whatever happened to it since (`populate_selects_initial`).
-/

namespace Typeahead
open Source

namespace Select

/-- What is offered: the select without its selection. -/
def offer (s : Select) : Select := { s with selected := none }

theorem offer_eq_iff {s t : Select} :
    s.offer = t.offer ↔ s.name = t.name ∧ s.choices = t.choices ∧ s.hidden = t.hidden := by
  simp [offer]

/-- What is offered after an answer of the source. -/
def restock (s : Select) : Outcome → Select
  | .ok choices => { s with choices := .none :: choices }
  | .error _ => s

end Select

namespace Field
variable {f g : Field}

/-- The load, and what is on offer; nothing is, once the field is destroyed. -/
def stock (f : Field) : Load × Option Select := (f.load, f.control.map Select.offer)

theorem stock_of_control {control : Select} (hc : f.control = some control) :
    f.stock = (f.load, some control.offer) := by
  simp [stock, hc]

/-! ### What an operation does to it -/

theorem stock_search [Engine] (f : Field) (term : String) : (f.search term).stock = f.stock := by
  unfold search; split <;> rfl

theorem stock_commit (f : Field) (text : String) : (f.commit text).stock = f.stock := by
  cases hd : f.isDestroyed with
  | true => rw [commit_of_destroyed hd]
  | false =>
    obtain ⟨control, hc⟩ := exists_control hd
    rw [commit_of_live hc, stock_of_control hc, stock_of_control rfl]
    dsimp only
    split <;> rfl

theorem stock_picked {s : Suggestion} {e : Selected} (h : f.pick? s = some (g, e)) :
    g.stock = f.stock := by
  obtain ⟨_, control, _, _, hc, _, _, rfl⟩ := pick?_eq_some_iff.mp h
  rw [stock_of_control hc]; rfl

section
variable [Engine]

theorem keptInUse_stock (stock : Load × Option Select) : KeptInUse fun f => f.stock = stock where
  typed _ _ _ h := h
  marked _ _ _ _ _ h := h
  closed _ h := h
  searched f term h := (stock_search f term).trans h
  committed f text h := (stock_commit f text).trans h
  picked _ _ _ _ hg h := (stock_picked hg).trans h

theorem stock_after_of_isUse {op : Op} (hop : op.isUse = true) : (f.after op).stock = f.stock :=
  (keptInUse_stock f.stock).after hop rfl

theorem control_populate {control : Select} (hc : f.control = some control) (hl : f.load = .loading)
    (choices : List Choice) :
    (f.populate choices).control = some (control.replace choices f.initialValue) :=
  (congrArg Field.control (after_told hc hl (.ok choices))).trans (control_arrive ..)

theorem load_populate {control : Select} (hc : f.control = some control) (hl : f.load = .loading)
    (choices : List Choice) : (f.populate choices).load = .loaded :=
  (congrArg Field.load (after_told hc hl (.ok choices))).trans (load_arrive ..)

end

theorem offer_taken (outcome : Outcome) (control : Select) (keep : String) :
    (taken outcome control keep).offer = control.offer.restock outcome := by
  cases outcome <;> rfl

theorem stock_after_told [Engine] {control : Select} (hc : f.control = some control)
    (hl : f.load = .loading) (outcome : Outcome) :
    (f.after (Mounted.told outcome)).stock =
      (ended outcome, some (control.offer.restock outcome)) := by
  rw [after_told hc hl, stock_of_control (control_arrive ..), load_arrive, offer_taken]

theorem late_or_loading (f : Field) : (f.isDestroyed = true ∨ f.load ≠ .loading) ∨
    ∃ control, f.control = some control ∧ f.load = .loading := by
  cases hd : f.isDestroyed with
  | true => exact .inl (.inl rfl)
  | false =>
    obtain ⟨control, hc⟩ := exists_control hd
    by_cases hl : f.load = .loading
    · exact .inr ⟨control, hc, hl⟩
    · exact .inl (.inr hl)

theorem after_told_of_late [Engine] (h : f.isDestroyed = true ∨ f.load ≠ .loading) (outcome : Outcome) :
    f.after (Mounted.told outcome) = f := by
  cases outcome with
  | ok choices =>
    refine (populate_eq_or_loading f choices).resolve_right ?_
    rintro ⟨control, hc, hl, -⟩
    rcases h with hd | hne
    · rw [isDestroyed_of_control hc] at hd; cases hd
    · exact hne hl
  | error failure =>
    refine (fail_eq_or_loading f failure).resolve_right ?_
    rintro ⟨hlive, hl, -⟩
    rcases h with hd | hne
    · rw [hlive] at hd; cases hd
    · exact hne hl

theorem Op.told_or_destroy {op : Op} (hop : op.isUse = false) :
    (∃ outcome, op = Mounted.told outcome) ∨ op = .destroy := by
  cases op with
  | populate choices => exact .inl ⟨.ok choices, rfl⟩
  | fail failure => exact .inl ⟨.error failure, rfl⟩
  | destroy => exact .inr rfl
  | _ => cases hop

/-- All that one operation can do to the stock. -/
theorem stock_after [Engine] (f : Field) (op : Op) :
    (f.after op).stock = f.stock ∨
    (∃ control outcome, f.control = some control ∧ f.load = .loading ∧ op = Mounted.told outcome ∧
      (f.after op).stock = (ended outcome, some (control.offer.restock outcome))) ∨
    op = .destroy ∧ (f.after op).stock = (f.load, none) := by
  cases hop : op.isUse with
  | true => exact .inl (stock_after_of_isUse hop)
  | false =>
    rcases Op.told_or_destroy hop with ⟨outcome, rfl⟩ | rfl
    · rcases late_or_loading f with hlate | ⟨control, hc, hl⟩
      · exact .inl (by rw [after_told_of_late hlate])
      · exact .inr (.inl ⟨control, outcome, hc, hl, rfl, stock_after_told hc hl outcome⟩)
    · exact .inr (.inr ⟨rfl, rfl⟩)

theorem isDestroyed_of_stock (h : g.stock = f.stock) : g.isDestroyed = f.isDestroyed := by
  have hnone := congrArg (fun s => s.2.isNone) h
  simpa [stock, isDestroyed] using hnone

theorem isDestroyed_after [Engine] (hd : f.isDestroyed = false) {op : Op} (hop : op ≠ .destroy) :
    (f.after op).isDestroyed = false := by
  rcases stock_after f op with heq | ⟨control, outcome, hc, hl, rfl, -⟩ | ⟨rfl, -⟩
  · rw [isDestroyed_of_stock heq]; exact hd
  · rw [after_told hc hl]; exact isDestroyed_of_control (control_arrive ..)
  · exact absurd rfl hop

/-! ### What a run does to it -/

/-- What answers and the end of the field keep, a run keeps. -/
theorem run_stock [Engine] {Q : Load × Option Select → Prop}
    (answered : ∀ outcome offer, Q (.loading, some offer) →
      Q (ended outcome, some (offer.restock outcome)))
    (emptied : ∀ load offer?, Q (load, offer?) → Q (load, none)) (ops : List Op) (h : Q f.stock) :
    Q (f.run ops).stock := by
  induction ops generalizing f with
  | nil => exact h
  | cons op ops ih =>
    refine ih ?_
    rcases stock_after f op with heq | ⟨control, outcome, hc, hl, -, heq⟩ | ⟨-, heq⟩
    · rw [heq]; exact h
    · rw [heq]
      rw [stock_of_control hc, hl] at h
      exact answered outcome control.offer h
    · rw [heq]; exact emptied _ _ h

theorem ended_ne_loading (outcome : Outcome) : ended outcome ≠ .loading := by
  cases outcome <;> exact Load.noConfusion

theorem ne_loading_of_loaded (hl : f.load = .loaded) : f.load ≠ .loading := by
  rw [hl]; exact Load.noConfusion

theorem ne_loaded_of_loading (hl : f.load = .loading) : f.load ≠ .loaded := by
  rw [hl]; exact Load.noConfusion

section
variable [Engine]

theorem load_run (h : f.load ≠ .loading ∨ f.isDestroyed = true) (ops : List Op) :
    (f.run ops).load = f.load := by
  have hstock : f.stock.1 = f.load ∧ (f.stock.1 ≠ .loading ∨ f.stock.2 = none) := by
    simpa [stock, isDestroyed] using h
  refine (run_stock (Q := fun s => s.1 = f.load ∧ (s.1 ≠ .loading ∨ s.2 = none)) ?_ ?_ ops hstock).1
  · rintro outcome offer ⟨-, hne | hnone⟩
    · exact absurd rfl hne
    · cases hnone
  · rintro load offer? ⟨hl, -⟩
    exact ⟨hl, .inr rfl⟩

theorem offer_run {control control' : Select} (hc : f.control = some control) {ops : List Op}
    (hl : (f.run ops).load ≠ .loaded) (hc' : (f.run ops).control = some control') :
    control'.offer = control.offer := by
  have hrun := run_stock
    (Q := fun s => s.1 ≠ .loaded → ∀ offer, s.2 = some offer → offer = control.offer) ?_ ?_ ops
    (f := f) ?_
  · exact hrun hl _ (congrArg Prod.snd (stock_of_control hc'))
  -- an answer with choices ends what is kept, one without leaves the select alone
  · intro outcome offer h hne
    cases outcome with
    | ok choices => exact absurd rfl hne
    | error failure => exact h Load.noConfusion
  · intro _ _ _ _ _ hnone
    cases hnone
  · intro _ offer hoffer
    rw [stock_of_control hc] at hoffer
    exact (Option.some.inj hoffer).symm

theorem choices_run {control : Select} (hc : f.control = some control) (hl : f.load = .loaded)
    {ops : List Op} {control' : Select} (hc' : (f.run ops).control = some control') :
    control'.choices = control.choices := by
  have hrun := run_stock
    (Q := fun s => s.1 = .loaded ∧ ∀ offer, s.2 = some offer → offer.choices = control.choices)
    ?_ ?_ ops (f := f) ?_
  · exact (hrun.2 _ (congrArg Prod.snd (stock_of_control hc')) :)
  · rintro _ _ ⟨hloading, -⟩
    cases hloading
  · rintro _ _ ⟨hloaded, -⟩
    exact ⟨hloaded, fun _ h => absurd h.symm (Option.some_ne_none _)⟩
  · refine ⟨hl, fun offer hoffer => ?_⟩
    rw [stock_of_control hc] at hoffer
    obtain rfl := Option.some.inj hoffer
    rfl

theorem isDestroyed_run (hd : f.isDestroyed = true) (ops : List Op) :
    (f.run ops).isDestroyed = true := by
  have hstock : f.stock.2 = none := by simpa [stock, isDestroyed] using hd
  have hrun := run_stock (Q := fun s => s.2 = none)
    (fun _ _ h => absurd h (Option.some_ne_none _)) (fun _ _ _ => rfl) ops hstock
  simpa [stock, isDestroyed] using hrun

/-- A load that has ended was ended by an answer that found the field alive and loading. -/
theorem exists_told_of_load_run {ops : List Op} (hl : f.load = .loading)
    (h : (f.run ops).load ≠ .loading) :
    ∃ before outcome later, ops = before ++ Mounted.told outcome :: later ∧
      (f.run before).isDestroyed = false ∧ (f.run before).load = .loading ∧
      (f.run ops).load = ended outcome := by
  induction ops generalizing f with
  | nil => exact absurd hl h
  | cons op ops ih =>
    rcases stock_after f op with heq | ⟨control, outcome, hc, -, rfl, heq⟩ | ⟨rfl, heq⟩
    · have hl' : (f.after op).load = .loading := (congrArg Prod.fst heq).trans hl
      obtain ⟨before, outcome, later, rfl, hd, hload, hend⟩ := ih hl' h
      exact ⟨op :: before, outcome, later, rfl, hd, hload, hend⟩
    · have hend : (f.after (Mounted.told outcome)).load = ended outcome := congrArg Prod.fst heq
      have hne : (f.after (Mounted.told outcome)).load ≠ .loading := by
        rw [hend]; exact ended_ne_loading outcome
      have hkeep := load_run (.inl hne) ops
      exact ⟨[], outcome, ops, rfl, isDestroyed_of_control hc, hl, hkeep.trans hend⟩
    -- after the end of the field no answer is taken any more
    · have hkeep : (f.destroy.run ops).load = f.load := load_run (.inr rfl) ops
      exact absurd (hkeep.trans hl) h

/-! ### The list -/

/-- The field is loaded with a list; its select offers that list, and is given back with it. -/
structure Holds (choices : List Choice) (f : Field) : Prop where
  loaded : f.load = .loaded
  offered : ∀ control, f.control = some control → control.choices = choices
  released : f.isDestroyed = false →
    ∃ control, (act .destroy f).reply = .released control ∧ control.choices = choices

/-- From here on the list is written at most once: the load ends once, and not after the field;
until choices come the list is the host's; those that come are there for good, behind the empty one. -/
structure WrittenOnce (host : List Choice) (f : Field) : Prop where
  ends : f.load ≠ .loading ∨ f.isDestroyed = true → ∀ later, (f.run later).load = f.load
  unwritten : f.load ≠ .loaded → ∀ control, f.control = some control → control.choices = host
  written : f.isDestroyed = false → f.load = .loading → ∀ choices later,
    Holds (.none :: choices) ((f.populate choices).run later)

theorem holds_run {control : Select} (hc : f.control = some control) (hl : f.load = .loaded)
    (ops : List Op) : Holds control.choices (f.run ops) where
  loaded := (load_run (.inl (ne_loading_of_loaded hl)) ops).trans hl
  offered _ hc' := choices_run hc hl hc'
  released hd := by
    obtain ⟨control', hc'⟩ := exists_control hd
    refine ⟨control'.unhide, ?_, (choices_run hc hl hc' :)⟩
    simp [act, hc']

theorem holds_populate_run (hd : f.isDestroyed = false) (hl : f.load = .loading)
    (choices : List Choice) (later : List Op) :
    Holds (.none :: choices) ((f.populate choices).run later) := by
  obtain ⟨control, hc⟩ := exists_control hd
  have h : Holds (control.replace choices f.initialValue).choices ((f.populate choices).run later) :=
    holds_run (control_populate hc hl choices) (load_populate hc hl choices) later
  exact h

theorem exists_holds_of_loaded (control : Select) (settings : Settings) (serial : Nat)
    {ops : List Op} (hl : ((mount control settings serial).run ops).load = .loaded) :
    ∃ choices, Holds (.none :: choices) ((mount control settings serial).run ops) := by
  obtain ⟨before, outcome, later, rfl, hd, hloading, hend⟩ :=
    exists_told_of_load_run rfl (ne_loading_of_loaded hl)
  cases outcome with
  | ok choices =>
    rw [run_append, run_cons]
    exact ⟨choices, holds_populate_run hd hloading choices later⟩
  | error failure =>
    rw [hl] at hend; cases hend

theorem writtenOnce_run_mount (control : Select) (settings : Settings) (serial : Nat)
    (ops : List Op) : WrittenOnce control.choices ((mount control settings serial).run ops) where
  ends := load_run
  unwritten hl control' hc := by
    have hoffer : control'.offer = control.hide.offer := offer_run rfl hl hc
    exact (Select.offer_eq_iff.mp hoffer).2.1
  written hd hl := holds_populate_run hd hl

/-- The list of choices is written at most once. In every run the load ends only by an answer that
finds the field alive and loading; whatever the run, and in every history of a mounted field, it
ends for good, the host's list is on offer until another has come, and that one for ever after. -/
theorem choices_written_once (control : Select) (settings : Settings) (serial : Nat) :
    (∀ ops, WrittenOnce control.choices ((mount control settings serial).run ops) ∧
      (((mount control settings serial).run ops).load ≠ .loading →
        ∃ before outcome later, ops = before ++ Mounted.told outcome :: later ∧
          ((mount control settings serial).run before).isDestroyed = false ∧
          ((mount control settings serial).run before).load = .loading ∧
          ((mount control settings serial).run ops).load = ended outcome)) ∧
    ∀ {ω : Type} (fetch running) (m m' : Mounted ω) (events),
      Mounted.create control settings fetch running serial = .ok m →
      m.history events = some m' → WrittenOnce control.choices m'.field := by
  refine ⟨fun ops => ⟨writtenOnce_run_mount control settings serial ops,
    exists_told_of_load_run rfl⟩, fun fetch running m m' events hm h => ?_⟩
  obtain ⟨ops, hops⟩ := Mounted.exists_run_of_create hm h
  rw [hops]
  exact writtenOnce_run_mount control settings serial ops

end

section
attribute [local instance] Engine.unlimited

/-- A list handed over while the fetch is still under way, then a second one, a failure and the end
of the field; and a history in which the answer comes after such a list. -/
theorem choices_written_once_raced :
    let control : Select := ⟨"color", [⟨"Old", "o"⟩], some 0, false⟩
    let red : List Choice := [⟨"Red", "r"⟩]
    let ops : List Op := [.commit "o", .populate red, .populate [], .fail (.http 500 ""), .destroy]
    (WrittenOnce control.choices ((mount control {} 0).run ops) ∧
      ((mount control {} 0).run ops).load ≠ .loading ∧
      ∃ before outcome later, ops = before ++ Mounted.told outcome :: later ∧
        ((mount control {} 0).run before).isDestroyed = false ∧
        ((mount control {} 0).run before).load = .loading ∧
        ((mount control {} 0).run ops).load = ended outcome) ∧
    ∃ m m' : Mounted Unit,
      Mounted.create control {} .waiting true 0 = .ok m ∧
      m.history [.answer (.ok []), .perform (.populate red), .run] = some m' ∧
      WrittenOnce control.choices m'.field ∧
      m'.field.control.map Select.choices = some (.none :: red) := by
  intro control red ops
  have hl : ((mount control {} 0).run ops).load ≠ .loading := by decide +kernel
  obtain ⟨hruns, hhistories⟩ := choices_written_once control {} 0
  obtain ⟨m, hm, m', h, hred⟩ : ∃ m : Mounted Unit, Mounted.create control {} .waiting true 0 = .ok m ∧
      ∃ m', m.history [.answer (.ok []), .perform (.populate red), .run] = some m' ∧
        m'.field.control.map Select.choices = some (.none :: red) :=
    ⟨_, rfl, _, rfl, rfl⟩
  exact ⟨⟨(hruns ops).1, hl, (hruns ops).2 hl⟩, m, m', hm, h,
    hhistories .waiting true m m' _ hm h, hred⟩

end

/-! ### The selection -/

/-- The select `before` has become `now`: it offers the choices that have come behind the empty one,
under its name and hidden as before, and the first of them with the value of the select at first is
selected. -/
structure SelectsInitial (initial : Select) (choices : List Choice) (before now : Select) : Prop where
  offered : now.choices = .none :: choices
  name : now.name = before.name ∧ before.name = initial.name
  hidden : now.hidden = before.hidden ∧ before.hidden = true
  selected : ∀ i, now.selected = some i ↔ initial.value ≠ "" ∧
    IsLeast {j | 1 ≤ j ∧ ∃ c, now.choices[j]? = some c ∧ c.value = initial.value} i
  unselected : now.selected = none ↔ initial.value = "" ∨ ∀ c ∈ choices, c.value ≠ initial.value
  value : now.value = if ∃ c ∈ choices, c.value = initial.value then initial.value else ""

theorem selectsInitial_replace {initial before : Select} (h : before.offer = initial.hide.offer)
    (choices : List Choice) :
    SelectsInitial initial choices before (before.replace choices initial.value) := by
  obtain ⟨hname, -, hhidden⟩ := Select.offer_eq_iff.mp h
  exact ⟨rfl, ⟨rfl, hname⟩, ⟨rfl, hhidden⟩,
    Select.selected_replace_eq_some_iff before choices initial.value,
    Select.selected_replace_eq_none_iff before choices initial.value,
    Select.value_replace before choices initial.value⟩

theorem selectsInitial_run_mount [Engine] (control : Select) (settings : Settings) (serial : Nat)
    (ops : List Op) (choices : List Choice)
    (hd : ((mount control settings serial).run ops).isDestroyed = false)
    (hl : ((mount control settings serial).run ops).load = .loading) :
    ∃ before now, ((mount control settings serial).run ops).control = some before ∧
      (((mount control settings serial).run ops).populate choices).control = some now ∧
      (((mount control settings serial).run ops).populate choices).value = now.value ∧
      SelectsInitial control choices before now := by
  obtain ⟨before, hc⟩ := exists_control hd
  -- nothing before has touched what the select offers, only what is selected
  have hoffer : before.offer = control.hide.offer := offer_run rfl (ne_loaded_of_loading hl) hc
  have hnow : (((mount control settings serial).run ops).populate choices).control =
      some (before.replace choices control.value) := by
    rw [control_populate hc hl choices, initialValue_run_mount]
  exact ⟨before, before.replace choices control.value, hc, hnow, by rw [value, hnow]; rfl,
    selectsInitial_replace hoffer choices⟩

/-- The choices come to a live field that is loading, after whatever run or history: then the first
of them with the value of the select at first is selected, whatever was selected meanwhile. -/
theorem populate_selects_initial [Engine] (control : Select) (settings : Settings) (serial : Nat)
    (choices : List Choice) :
    (∀ ops, ((mount control settings serial).run ops).isDestroyed = false →
      ((mount control settings serial).run ops).load = .loading →
      ∃ before now, ((mount control settings serial).run ops).control = some before ∧
        (((mount control settings serial).run ops).populate choices).control = some now ∧
        (((mount control settings serial).run ops).populate choices).value = now.value ∧
        SelectsInitial control choices before now) ∧
    ∀ {ω : Type} (fetch running) (m m' : Mounted ω) (events),
      Mounted.create control settings fetch running serial = .ok m →
      m.history events = some m' → m'.field.isDestroyed = false → m'.field.load = .loading →
      ∃ before now, m'.field.control = some before ∧
        (m'.field.populate choices).control = some now ∧
        (m'.field.populate choices).value = now.value ∧
        SelectsInitial control choices before now := by
  refine ⟨fun ops => selectsInitial_run_mount control settings serial ops choices,
    fun fetch running m m' events hm h hd hl => ?_⟩
  obtain ⟨ops, hops⟩ := Mounted.exists_run_of_create hm h
  rw [hops] at hd hl ⊢
  exact selectsInitial_run_mount control settings serial ops choices hd hl

section
attribute [local instance] Engine.unlimited

/-- Another choice was selected meanwhile, by a commit or by a pick that a handler answers; and
among those that come two have the value that was selected at first, and one has none. -/
theorem populate_selects_initial_first_of_two :
    let control : Select := ⟨"color", [⟨"Green", "g"⟩, ⟨"Red", "r"⟩], some 0, false⟩
    let f := (mount control {} 0).run [.commit "r", .input "o"]
    let choices : List Choice := [⟨"Any", ""⟩, ⟨"Lime", "g"⟩, ⟨"Olive", "g"⟩]
    (f.isDestroyed = false ∧ f.load = .loading ∧ f.value = "r" ∧
      (f.populate choices).value = "g" ∧ ∃ now, (f.populate choices).control = some now ∧
        now.choices = .none :: choices ∧ now.selected = some 2) ∧
    ∃ m m' : Mounted Unit, Mounted.create control {} .waiting true 0 = .ok m ∧
      m.history [.listen fun _ => .call .focus fun _ => .done,
        .perform (.pick ⟨"Red", "Red", some 1⟩)] = some m' ∧
      m'.field.isDestroyed = false ∧ m'.field.load = .loading ∧ m'.field.value = "r" ∧
      ∃ before now, m'.field.control = some before ∧
        (m'.field.populate choices).control = some now ∧ SelectsInitial control choices before now := by
  intro control f choices
  have hvalue : control.value = "g" := rfl
  have hlime : ∃ c ∈ choices, c.value = control.value := ⟨⟨"Lime", "g"⟩, by decide, rfl⟩
  obtain ⟨hruns, hhistories⟩ := populate_selects_initial control {} 0 choices
  obtain ⟨before, now, -, hnow, hnowvalue, h⟩ := hruns [.commit "r", .input "o"] rfl rfl
  have hleast : IsLeast {j | 1 ≤ j ∧ ∃ c, now.choices[j]? = some c ∧ c.value = control.value} 2 := by
    rw [h.offered]
    refine ⟨⟨by decide, ⟨"Lime", "g"⟩, rfl, rfl⟩, ?_⟩
    rintro j ⟨hj, c, hc, hcv⟩
    -- the one before has no value
    refine Nat.lt_of_le_of_ne hj fun heq => ?_
    subst heq
    obtain rfl : (⟨"Any", ""⟩ : Choice) = c := Option.some.inj hc
    exact absurd hcv (by decide)
  have hselected : now.selected = some 2 := (h.selected 2).mpr ⟨by rw [hvalue]; decide, hleast⟩
  have hg : (f.populate choices).value = "g" := by
    rw [hnowvalue, h.value, if_pos hlime, hvalue]
  obtain ⟨m, hm, m', hm', hd, hl, hr⟩ : ∃ m : Mounted Unit,
      Mounted.create control {} .waiting true 0 = .ok m ∧ ∃ m',
      m.history [.listen fun _ => .call .focus fun _ => .done,
        .perform (.pick ⟨"Red", "Red", some 1⟩)] = some m' ∧
      m'.field.isDestroyed = false ∧ m'.field.load = .loading ∧ m'.field.value = "r" :=
    ⟨_, rfl, _, rfl, rfl, rfl, rfl⟩
  obtain ⟨before', now', hbefore', hnow', -, h'⟩ := hhistories .waiting true m m' _ hm hm' hd hl
  exact ⟨⟨rfl, rfl, rfl, hg, now, hnow, h.offered, hselected⟩, m, m', hm, hm', hd, hl, hr, before',
    now', hbefore', hnow', h'⟩

end

end Field
end Typeahead
