import Typeahead.Console.Run
import Typeahead.Proofs.Mounted
import Typeahead.Proofs.Stage.Invariant

/-!
# What a session keeps

Lines do no more to the field than its operations, none of them the last one, and register nobody. So
in every session that a command line begins the field is in a state that a run of operations leads to,
and the announcer is the one handler (`Launch.exists_conducted`).
-/

namespace Typeahead.Console
open Typeahead.Field

namespace Session
variable {s : Session} {f : Field}

/-! ### Runs -/

section
variable [Engine]

@[simp] theorem run_nil (s : Session) : s.run [] = s := rfl

@[simp] theorem run_cons (s : Session) (e : Event) (es : List Event) :
    s.run (e :: es) = (s.step e).run es := rfl

theorem run_append (s : Session) (es es' : List Event) : s.run (es ++ es') = (s.run es).run es' :=
  List.foldl_append ..

theorem step_line (h : s.status = .reading) (text : Option String) :
    s.step (.line text) = s.line text := by
  simp only [step, h]

theorem step_of_ended (h : s.status ≠ .reading) (e : Event) : s.step e = s := by
  unfold step
  split
  · rename_i hr; exact absurd hr h
  · rfl

theorem run_of_ended (h : s.status ≠ .reading) (es : List Event) : s.run es = s := by
  induction es with
  | nil => rfl
  | cons e es ih => rw [run_cons, step_of_ended h, ih]

theorem obey_wait (s : Session) : s.obey .wait =
    match s.mounted.fetch with
    | .waiting => { s with status := .stuck }
    | _ => s.pause.act Command.wait.action := rfl

theorem obey_of_ne {c : Command} (hquit : c ≠ .quit) (hwait : c ≠ .wait) :
    s.obey c = s.act c.action := by
  cases c with
  | quit => exact absurd rfl hquit
  | wait => exact absurd rfl hwait
  | _ => rfl

theorem line_of_command {text : String} {c : Command} (h : Command.parse text = .ok (some c)) :
    s.line (some text) = s.obey c := by
  simp only [line, h]

end

/-! ### Lines printed -/

def printing (s : Session) (lines : List String) : Session :=
  { s with mounted.stage.notes := s.mounted.stage.notes ++ lines }

@[simp] theorem printing_nil (s : Session) : s.printing [] = s := by
  simp [printing]

section
variable [Engine]

theorem follow_print
    {deliver : Selected → Stage Field Op Reply String → Option (Stage Field Op Reply String)}
    (lines : List String) (st : Stage Field Op Reply String) :
    Stage.follow Field.act deliver none (print lines .done) st =
      some { st with notes := st.notes ++ lines } := by
  induction lines generalizing st with
  | nil => simp [print, Stage.follow]
  | cons line lines ih =>
    rw [print, Stage.follow, ih]
    simp [Stage.note, List.append_assoc]

theorem act_print (s : Session) (lines : List String) :
    s.act (print lines .done) = s.printing lines := by
  simp only [act, follow_print]
  rfl

theorem act_report (s : Session) (lines : Field → List String) :
    s.act (report lines) = s.printing (lines s.field) := act_print s _

theorem line_of_error {text : String} {e : Command.Error} (h : Command.parse text = .error e) :
    s.line (some text) = s.printing [e.message] := by
  simp only [line, h]
  exact act_print s [e.message]

end

/-! ### Scripts of a session -/

/-- Operations other than the last one are performed, and nobody is registered. -/
abbrev Modest (a : Action) : Prop := a.Only (· ≠ .destroy) (fun _ => False) none

theorem modest_print (lines : List String) {next : Action} (h : Modest next) :
    Modest (print lines next) := by
  induction lines with
  | nil => exact h
  | cons line lines ih => exact ih

theorem modest_report (lines : Field → List String) : Modest (report lines) :=
  fun f => modest_print (lines f) trivial

theorem modest_action (c : Command) : Modest c.action := by
  cases c with
  | type text => exact And.intro nofun fun _ => modest_report menuText
  | focus => exact And.intro nofun fun _ => modest_report menuText
  | blur => exact And.intro nofun fun _ => modest_report fun f => [stateText f]
  | commit text => exact And.intro nofun fun _ => modest_report fun f => [stateText f]
  | pick position =>
    refine And.intro nofun fun reply => ?_
    dsimp only
    split <;> trivial
  | press => exact And.intro nofun fun _ => trivial
  | click => exact And.intro nofun fun _ => modest_report menuText
  | toggle => exact And.intro nofun fun _ => And.intro nofun fun _ => modest_report menuText
  | wait => exact modest_report fun f => stateText f :: menuText f
  | «show» => exact modest_report fun f => [f.render]
  | state => exact modest_report fun f => [stateText f]
  | help => trivial
  | quit => trivial

section
variable [Engine]

theorem dismisses_of_ne_destroy {op : Op} (hop : op ≠ .destroy) : (Field.act op f).dismisses = false := by
  cases op with
  | pick row =>
    simp only [Field.act]
    split <;> rfl
  | pickAt position =>
    simp only [Field.act]
    split <;> rfl
  | destroy => exact absurd rfl hop
  | _ => rfl

theorem keeps_heard : Stage.Keeps Field.act (· ≠ .destroy) (fun _ => False)
    fun st => st.handlers = [announce] where
  heard st h handler hmem e := by
    -- the announcer prints, and does nothing else
    rw [h] at hmem
    obtain rfl := List.mem_singleton.mp hmem
    trivial
  turned op st hop h := by
    rw [Stage.turned, dismisses_of_ne_destroy hop]
    exact h
  listened _ _ hfalse := hfalse.elim
  noted _ _ h := h

/-! ### Conducted sessions -/

/-- The announcer hears the events, and nobody else; the field has come here from `f`. -/
structure Conducted (s : Session) (f : Field) : Prop where
  heard : s.mounted.stage.handlers = [announce]
  run : ∃ ops, s.field = f.run ops

namespace Conducted

theorem act (h : s.Conducted f) {a : Action} (ha : Modest a) : (s.act a).Conducted f := by
  unfold Session.act
  split
  · rename_i stage hfollow
    refine ⟨keeps_heard.follow (keeps_heard.emit 1) (by simp) a ha hfollow h.heard, ?_⟩
    obtain ⟨ops, hops⟩ := h.run
    obtain ⟨ops', hops'⟩ := (Stage.delivers_emit 1).follow a hfollow
    refine ⟨ops ++ ops', ?_⟩
    rw [Field.run_append, ← hops]
    exact hops'.symm
  · exact h

theorem pause (h : s.Conducted f) : s.pause.Conducted f := by
  constructor
  · unfold Session.pause Mounted.run
    split <;> exact h.heard
  · obtain ⟨ops, hops⟩ := h.run
    rcases Mounted.run_field s.mounted with heq | ⟨outcome, heq⟩
    · exact ⟨ops, heq.trans hops⟩
    · refine ⟨ops ++ [Mounted.told outcome], ?_⟩
      rw [Field.run_append, ← hops]
      exact heq

theorem obey (h : s.Conducted f) (c : Command) : (s.obey c).Conducted f := by
  by_cases hquit : c = .quit
  · subst hquit
    exact ⟨h.heard, h.run⟩
  by_cases hwait : c = .wait
  · subst hwait
    rw [obey_wait]
    split
    · exact ⟨h.heard, h.run⟩
    · exact h.pause.act (modest_action .wait)
  · rw [obey_of_ne hquit hwait]
    exact h.act (modest_action c)

theorem line (h : s.Conducted f) (text : Option String) : (s.line text).Conducted f := by
  unfold Session.line
  split
  · exact ⟨h.heard, h.run⟩
  · split
    · exact h
    · exact h.obey _
    · exact h.act trivial

theorem step (h : s.Conducted f) (e : Event) : (s.step e).Conducted f := by
  unfold Session.step
  split
  · split
    · exact h.line _
    · exact h.pause
  · exact h

theorem run_events (h : s.Conducted f) (es : List Event) : (s.run es).Conducted f := by
  induction es generalizing s with
  | nil => exact h
  | cons e es ih => exact ih (h.step e)

end Conducted

/-- A session that arguments begin starts on a field just mounted. -/
theorem exists_mount {a : Arguments} {file : Settings} {link : Source.Client → Fetch}
    (h : a.session file link = .ok s) : s.status = .reading ∧
      ∃ control, s.Conducted (mount control (a.settings file) 0) := by
  unfold Arguments.session at h
  split at h
  · cases h
  · rename_i control hcontrol
    split at h
    · cases h
    · rename_i m hm
      obtain rfl : start m = s := by simpa using h
      unfold Mounted.createFromAddress at hm
      split at hm
      · cases hm
      · rename_i c hc
        have hstage : m.stage = .ofState (mount control (a.settings file) 0) := by
          unfold Mounted.create at hm
          split at hm
          · cases hm
          · obtain rfl := Except.ok.inj hm
            rfl
        refine ⟨rfl, control, ?_, [], congrArg Stage.state hstage⟩
        show m.stage.handlers ++ [announce] = [announce]
        rw [hstage]
        rfl

end

end Session

/-! ### Launches -/

/-- What the console is started with, and how its fetch stands at first. -/
structure Launch where
  arguments : List String
  environment : Environment
  disk : Disk
  link : Source.Client → Fetch

namespace Launch
variable {l : Launch} {s : Session} {d : Disk}

/-- A launch on an empty disk, with one option fetched from the machine itself. -/
def oneOption : Launch :=
  ⟨["--source-url", "http://[::1]/"], {}, ⟨[], []⟩, fun _ => .answered (.ok [⟨"Red", "r"⟩])⟩

/-- The session that begins, and the disk as it is then; nothing if none begins. -/
def opened? (l : Launch) : Option (Session × Disk) :=
  match Arguments.read l.arguments with
  | .run a => (a.opening l.environment l.disk l.link).toOption
  | _ => none

section
variable [Engine]

def session? (l : Launch) (events : List Event) : Option Session :=
  l.opened?.map fun (s, _) => s.run events

def report? (l : Launch) (events : List Event) : Option Report :=
  run l.arguments l.environment l.disk l.link events

theorem report?_of_opened (h : l.opened? = some (s, d)) (es : List Event) :
    l.report? es = (s.run es).report? d := by
  cases hread : Arguments.read l.arguments with
  | run a =>
    simp only [opened?, hread] at h
    cases hopen : a.opening l.environment l.disk l.link with
    | error r => rw [hopen] at h; cases h
    | ok p =>
      rw [hopen] at h
      obtain rfl : p = (s, d) := Option.some.inj h
      simp only [report?, run, hread, runWith, hopen]
  | _ => simp only [opened?, hread] at h; cases h

theorem report?_of_unopened (h : l.opened? = none) (es es' : List Event) :
    l.report? es = l.report? es' := by
  cases hread : Arguments.read l.arguments with
  | run a =>
    simp only [opened?, hread] at h
    cases hopen : a.opening l.environment l.disk l.link with
    | error r => simp only [report?, run, hread, runWith, hopen]
    | ok p => rw [hopen] at h; cases h
  | _ => simp only [report?, run, hread]

end

theorem exists_session (h : l.opened? = some (s, d)) :
    ∃ (a : Arguments) (file : Settings), a.session file l.link = .ok s := by
  unfold opened? at h
  split at h
  · rename_i a hread
    unfold Arguments.opening at h
    dsimp only at h
    split at h
    · cases h
    · split at h
      · cases h
      · split at h
        · cases h
        · rename_i s' hs
          cases h
          exact ⟨_, _, hs⟩
  · cases h

theorem exists_conducted_of_opened [Engine] (h : l.opened? = some (s, d)) :
    ∃ control settings, s.Conducted (mount control settings 0) := by
  obtain ⟨a, file, hs⟩ := exists_session h
  obtain ⟨-, control, hconducted⟩ := Session.exists_mount hs
  exact ⟨control, a.settings file, hconducted⟩

end Launch
end Typeahead.Console
