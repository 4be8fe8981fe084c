import Typeahead.Proofs.Console.Session
import Typeahead.Proofs.Stage.Notes

/-!
# Lines that only ask

A blank line asks for nothing. One that is refused, and one that asks for the markup, the state or the
help, gets an answer printed and does no more (`step_of_idle`). No script of a session reads what has
been printed, so the lines after it do what they would have done (`run_idle`). And a session that has
ended takes no lines (`run_quit`). All this holds of whole runs, with what they print last and their
exit code (`Launch.undisturbed`).
-/

namespace Typeahead.Console
open Typeahead.Field

def Command.asks : Command → Bool
  | .show | .state | .help => true
  | _ => false

/-- The line is blank, refused or a question. -/
def idle (text : String) : Bool :=
  match Command.parse text with
  | .ok (some c) => c.asks
  | _ => true

open Text in
theorem Command.parse_of_blank {text : String} (h : ∀ c ∈ text.toList, isBlank c = true) :
    Command.parse text = .ok none := by
  have hall : (dropWhileEnd (fun c => c = '\r' || c = '\n') text.toList).all isBlank = true := by
    refine List.all_eq_true.mpr fun c hc => h c ?_
    rw [dropWhileEnd, List.mem_reverse] at hc
    exact List.mem_reverse.mp ((List.dropWhile_suffix _).subset hc)
  exact if_pos hall

/-- The report with `old` printed before everything else. -/
def Report.recalling (old : List String) (r : Report) : Report := { r with printed := old ++ r.printed }

namespace Session
variable {s : Session} {text : String}

/-! ### Scripts that do not read -/

theorem heedless_print (lines : List String) {next : Action} (h : next.Heedless) :
    (print lines next).Heedless := by
  induction lines with
  | nil => exact h
  | cons line lines ih => exact ih

theorem heedless_report (lines : Field → List String) : (report lines).Heedless :=
  fun f => heedless_print (lines f) trivial

theorem heedless_action (c : Command) : c.action.Heedless := by
  cases c with
  | type _ | focus | click => exact fun _ => heedless_report menuText
  | blur | commit _ => exact fun _ => heedless_report fun f => [stateText f]
  | pick position =>
    intro reply
    dsimp only
    split <;> trivial
  | press => exact fun _ => trivial
  | toggle => exact fun _ _ => heedless_report menuText
  | wait => exact heedless_report fun f => stateText f :: menuText f
  | «show» => exact heedless_report fun f => [f.render]
  | state => exact heedless_report fun f => [stateText f]
  | help | quit => trivial

/-! ### Printing an answer -/

/-- What is printed in answer to an idle line, if the session still takes lines. -/
def answer (s : Session) (text : String) : List String :=
  if s.status = .reading then
    match Command.parse text with
    | .error e => [e.message]
    | .ok (some .show) => [s.field.render]
    | .ok (some .state) => [stateText s.field]
    | .ok (some .help) => [helpText]
    | .ok _ => []
  else []

theorem answer_of_blank (s : Session) (h : Command.parse text = .ok none) : s.answer text = [] := by
  unfold answer
  rw [h]
  split <;> rfl

section
variable [Engine]

theorem step_of_idle (s : Session) (h : idle text = true) :
    s.step (.line (some text)) = s.printing (s.answer text) := by
  by_cases hr : s.status = .reading
  · rw [step_line hr, answer, if_pos hr]
    unfold idle at h
    simp only [line]
    cases hp : Command.parse text with
    | error e => exact act_print s [e.message]
    | ok c? =>
      rw [hp] at h
      cases c? with
      | none => exact (printing_nil s).symm
      | some c =>
        cases c with
        | «show» => exact act_report s fun f => [f.render]
        | state => exact act_report s fun f => [stateText f]
        | help => exact act_print s [helpText]
        | _ => cases h
  · rw [step_of_ended hr, answer, if_neg hr, printing_nil]

/-! ### What has been printed before -/

def recalling (old : List String) (s : Session) : Session :=
  { s with mounted.stage := s.mounted.stage.recalling old }

section
variable {f : Field} (h : s.Conducted f)
include h

theorem Conducted.heedless : s.mounted.stage.Heedless := by
  intro handler hmem e
  -- the announcer prints, and does nothing else
  rw [h.heard] at hmem
  obtain rfl := List.mem_singleton.mp hmem
  trivial

theorem act_recalling (old : List String) {a : Action} (ha : a.Heedless) :
    (s.recalling old).act a = (s.act a).recalling old := by
  have hfollow := (Stage.follow_recalling Field.act 1 old ha h.heedless).same
  unfold act
  simp only [recalling, hfollow]
  cases Stage.follow Field.act (Stage.emit Field.act 1) none a s.mounted.stage <;> rfl

omit h in
theorem pause_recalling (old : List String) (s : Session) :
    (s.recalling old).pause = s.pause.recalling old := by
  obtain ⟨⟨stage, fetch⟩, status⟩ := s
  cases fetch <;> rfl

theorem obey_recalling (old : List String) (c : Command) :
    (s.recalling old).obey c = (s.obey c).recalling old := by
  by_cases hquit : c = .quit
  · subst hquit; rfl
  by_cases hwait : c = .wait
  · subst hwait
    -- whether waiting ends is up to the fetch alone
    have hpause := act_recalling h.pause old (heedless_action .wait)
    rw [← pause_recalling] at hpause
    obtain ⟨⟨stage, fetch⟩, status⟩ := s
    cases fetch with
    | waiting => rfl
    | _ => exact hpause
  · rw [obey_of_ne hquit hwait, obey_of_ne hquit hwait, act_recalling h old (heedless_action c)]

theorem line_recalling (old : List String) (text : Option String) :
    (s.recalling old).line text = (s.line text).recalling old := by
  cases text with
  | none => rfl
  | some text =>
    simp only [line]
    cases Command.parse text with
    | error e => exact act_recalling h old trivial
    | ok c? =>
      cases c? with
      | none => rfl
      | some c => exact obey_recalling h old c

theorem step_recalling (old : List String) (e : Event) :
    (s.recalling old).step e = (s.step e).recalling old := by
  by_cases hr : s.status = .reading
  · cases e with
    | line text =>
      rw [step_line hr, step_line (by exact hr), line_recalling h]
    | pause =>
      have hpause : ∀ t : Session, t.status = .reading → t.step .pause = t.pause := fun t ht => by
        simp only [step, ht]
      rw [hpause s hr, hpause _ (by exact hr), pause_recalling]
  · rw [step_of_ended hr, step_of_ended (by exact hr)]

theorem run_recalling (old : List String) (es : List Event) :
    (s.recalling old).run es = (s.run es).recalling old := by
  induction es generalizing s with
  | nil => rfl
  | cons e es ih => rw [run_cons, run_cons, step_recalling h, ih (h.step e)]

theorem report?_recalling (old : List String) (d : Disk) :
    (s.recalling old).report? d = (s.report? d).map (.recalling old) := by
  have hclose : (s.recalling old).close = s.close.recalling old :=
    act_recalling h old fun reply => by cases reply <;> trivial
  unfold report?
  rw [hclose]
  obtain ⟨m, status⟩ := s
  cases status <;> rfl

/-! ### Idle lines in a run -/

theorem run_idle (before after : List Event) (hidle : idle text = true) :
    ∃ u : Session, u.Conducted f ∧ s.run (before ++ after) = u.recalling (s.run before).printed ∧
      s.run (before ++ .line (some text) :: after) =
        u.recalling ((s.run before).printed ++ (s.run before).answer text) := by
  -- both runs go on from this session, with other lines printed before
  let bare : Session := { s.run before with mounted.stage.notes := [] }
  have hbare : ∀ old, bare.recalling old = { s.run before with mounted.stage.notes := old } :=
    fun old => by simp [bare, recalling, Stage.recalling]
  have hconducted : bare.Conducted f := ⟨(h.run_events before).heard, (h.run_events before).run⟩
  refine ⟨bare.run after, hconducted.run_events after, ?_, ?_⟩
  · rw [run_append, ← run_recalling hconducted, hbare]
    rfl
  · rw [run_append, run_cons, step_of_idle _ hidle, ← run_recalling hconducted, hbare]
    rfl

end

/-! ### After the end -/

theorem step_of_quit (h : Command.parse text = .ok (some .quit)) (hr : s.status = .reading) :
    s.step (.line (some text)) = { s with status := .finished } := by
  rw [step_line hr, line_of_command h]
  rfl

theorem run_quit (s : Session) (before after : List Event)
    (h : Command.parse text = .ok (some .quit)) :
    s.run (before ++ .line (some text) :: after) = s.run (before ++ [.line (some text)]) := by
  rw [run_append, run_append, run_cons, run_cons, run_nil]
  refine run_of_ended ?_ after
  by_cases hr : (s.run before).status = .reading
  · rw [step_of_quit h hr]
    exact nofun
  · rw [step_of_ended hr]
    exact hr

theorem printed_close (s : Session) (status : Status) :
    ({ s with status := status } : Session).close.printed = s.close.printed := by
  unfold close act
  dsimp only
  split <;> rfl

/-- The field is destroyed in the same way at the end of input. -/
theorem report?_quit (s : Session) (before : List Event)
    (h : Command.parse text = .ok (some .quit)) (d : Disk) :
    (s.run (before ++ [.line (some text)])).report? d = (s.run before).report? d := by
  rw [run_append, run_cons, run_nil]
  by_cases hr : (s.run before).status = .reading
  · rw [step_of_quit h hr]
    unfold report?
    simp only [hr, printed_close]
  · rw [step_of_ended hr]

end

end Session

/-! ### Whole runs -/

namespace Launch

section
variable [Engine]

def shown (l : Launch) (events : List Event) : List String :=
  ((l.session? events).map Session.printed).getD []

def answer (l : Launch) (events : List Event) (text : String) : List String :=
  ((l.session? events).map (·.answer text)).getD []

theorem session?_idle (l : Launch) (before after : List Event) {text : String}
    (h : idle text = true) :
    ∃ u : Option Session,
      l.session? (before ++ after) = u.map (.recalling (l.shown before)) ∧
      l.session? (before ++ .line (some text) :: after) =
        u.map (.recalling (l.shown before ++ l.answer before text)) := by
  unfold shown answer session?
  cases hopen : l.opened? with
  | none => exact ⟨none, rfl, rfl⟩
  | some p =>
    obtain ⟨_, _, hconducted⟩ := exists_conducted_of_opened hopen
    obtain ⟨u, -, hplain, hmore⟩ := Session.run_idle hconducted before after h
    exact ⟨some u, congrArg some hplain, congrArg some hmore⟩

theorem report?_idle (l : Launch) (before after : List Event) {text : String}
    (h : idle text = true) :
    ∃ r : Option Report,
      l.report? (before ++ after) = r.map (.recalling (l.shown before)) ∧
      l.report? (before ++ .line (some text) :: after) =
        r.map (.recalling (l.shown before ++ l.answer before text)) := by
  unfold shown answer session?
  cases hopen : l.opened? with
  | none =>
    have hsame : ∀ es, l.report? es = (l.report? []).map (.recalling []) := fun es => by
      rw [report?_of_unopened hopen es []]
      exact (Option.map_id' ..).symm
    exact ⟨l.report? [], hsame _, hsame _⟩
  | some p =>
    obtain ⟨_, _, hconducted⟩ := exists_conducted_of_opened hopen
    obtain ⟨u, hu, hplain, hmore⟩ := Session.run_idle hconducted before after h
    refine ⟨u.report? p.2, ?_, ?_⟩
    · rw [report?_of_opened hopen, hplain, Session.report?_recalling hu]
      rfl
    · rw [report?_of_opened hopen, hmore, Session.report?_recalling hu]
      rfl

/-- A blank line changes nothing. A line that is refused or asks for the markup, the state or the help
adds its answer to the lines printed, and nothing else. The lines after one that quits have no
influence, and quitting ends in the same way as the end of input. -/
theorem undisturbed (l : Launch) (before after : List Event) (text : String) :
    ((∀ c ∈ text.toList, Text.isBlank c = true) →
      l.session? (before ++ .line (some text) :: after) = l.session? (before ++ after) ∧
      l.report? (before ++ .line (some text) :: after) = l.report? (before ++ after)) ∧
    (idle text = true →
      (∃ u : Option Session,
        l.session? (before ++ after) = u.map (.recalling (l.shown before)) ∧
        l.session? (before ++ .line (some text) :: after) =
          u.map (.recalling (l.shown before ++ l.answer before text))) ∧
      ∃ r : Option Report,
        l.report? (before ++ after) = r.map (.recalling (l.shown before)) ∧
        l.report? (before ++ .line (some text) :: after) =
          r.map (.recalling (l.shown before ++ l.answer before text))) ∧
    (Command.parse text = .ok (some .quit) →
      l.session? (before ++ .line (some text) :: after) = l.session? (before ++ [.line (some text)]) ∧
      l.report? (before ++ .line (some text) :: after) = l.report? before) := by
  refine ⟨fun hblank => ?_, fun hidle => ?_, fun hquit => ?_⟩
  · have hparse := Command.parse_of_blank hblank
    have hidle : idle text = true := by simp only [idle, hparse]
    have hanswer : l.answer before text = [] := by
      unfold answer
      cases l.session? before with
      | none => rfl
      | some s => exact s.answer_of_blank hparse
    obtain ⟨u, hplain, hmore⟩ := l.session?_idle before after hidle
    obtain ⟨r, hreport, hreport'⟩ := l.report?_idle before after hidle
    rw [hanswer, List.append_nil] at hmore hreport'
    exact ⟨hmore.trans hplain.symm, hreport'.trans hreport.symm⟩
  · exact ⟨l.session?_idle before after hidle, l.report?_idle before after hidle⟩
  · constructor
    · unfold session?
      cases l.opened? with
      | none => rfl
      | some p => exact congrArg some (p.1.run_quit before after hquit)
    · cases hopen : l.opened? with
      | none => exact report?_of_unopened hopen ..
      | some p =>
        rw [report?_of_opened hopen, report?_of_opened hopen, Session.run_quit _ _ _ hquit]
        exact p.1.report?_quit before hquit p.2

end

section
attribute [local instance] Engine.unlimited

theorem undisturbed_oneOption :
    oneOption.report? [.pause, .line (some "focus"), .line (some " \t"), .line (some "pick 1")] =
      oneOption.report? [.pause, .line (some "focus"), .line (some "pick 1")] ∧
    (∃ r : Option Report,
      oneOption.report? [.pause, .line (some "focus"), .line (some "pick 1")] =
        r.map (.recalling [helpText, " 1 Red"]) ∧
      oneOption.report? [.pause, .line (some "focus"), .line (some "state"), .line (some "pick 1")] =
        r.map (.recalling [helpText, " 1 Red",
          "text=\"\" value=\"\" open=true focused=true options=loaded"])) ∧
    oneOption.report? [.pause, .line (some "focus"), .line (some "exit"), .line (some "pick 1")] =
      oneOption.report? [.pause, .line (some "focus")] := by
  have hshown : oneOption.shown [.pause, .line (some "focus")] = [helpText, " 1 Red"] := by rfl
  have hanswer : oneOption.answer [.pause, .line (some "focus")] "state" =
      ["text=\"\" value=\"\" open=true focused=true options=loaded"] := by rfl
  have hblanks : " \t".toList.all Text.isBlank = true := by rfl
  have hblank := (undisturbed oneOption [.pause, .line (some "focus")] [.line (some "pick 1")] " \t").1
    (List.all_eq_true.mp hblanks)
  have hidle := (undisturbed oneOption [.pause, .line (some "focus")] [.line (some "pick 1")] "state").2.1
    rfl
  have hquit := (undisturbed oneOption [.pause, .line (some "focus")] [.line (some "pick 1")] "exit").2.2
    rfl
  rw [hshown, hanswer] at hidle
  exact ⟨hblank.2, hidle.2, hquit.2⟩

end

end Launch
end Typeahead.Console
