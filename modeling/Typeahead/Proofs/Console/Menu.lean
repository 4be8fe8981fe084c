import Typeahead.Proofs.Console.Command
import Typeahead.Proofs.Console.Session
import Typeahead.Proofs.Field.Rows
import Typeahead.Proofs.Mounted.Announced

/-!
# Numbers of the menu

A menu is printed row by row, and a row that can be picked with its number, counted from one. The line
that picks by that number asks for the position before it, where the row is stored. In every session
that a command line begins the row stands for a choice that is there. So the number picks what it
stands next to, and every other number picks nothing (`Launch.numbered_session`).
-/

namespace Typeahead.Console
open Typeahead.Field

/-! ### The menu printed -/

theorem menuText_of_open {f : Field} (h : f.menuOpen = true) :
    menuText f = f.suggestions.zipIdx.map fun (row, i) => rowText row (i + 1) := if_pos h

theorem getElem?_menuText {f : Field} (h : f.menuOpen = true) (i : Nat) :
    (menuText f)[i]? = f.suggestions[i]?.map fun row => rowText row (i + 1) := by
  rw [menuText_of_open h, List.getElem?_map, List.getElem?_zipIdx, Option.map_map, Nat.zero_add]
  rfl

def Command.showsMenu : Command → Bool
  | .type _ | .focus | .click | .toggle | .wait => true
  | _ => false

namespace Session
variable {s : Session} {op : Op}

section
variable [Engine]

/-- The session with an operation performed that raises no event. -/
def performing (s : Session) (op : Op) : Session :=
  { s with mounted.stage := s.mounted.stage.turned Field.act op }

theorem follow_call (hop : op.isPick = false) (next : Reply → Action)
    (st : Stage Field Op Reply String) :
    Stage.follow Field.act (Stage.emit Field.act 1) none (.call op next) st =
      Stage.follow Field.act (Stage.emit Field.act 1) none (next (Field.act op st.state).reply)
        (st.turned Field.act op) := by
  have hperform : st.perform Field.act (Stage.emit Field.act 1) op =
      some ((Field.act op st.state).reply, st.turned Field.act op) :=
    Stage.perform_eq_some_iff.mpr ⟨rfl, .inl ⟨event_of_not_isPick hop, rfl⟩⟩
  rw [Stage.follow, hperform]

theorem follow_report (lines : Field → List String) (st : Stage Field Op Reply String) :
    Stage.follow Field.act (Stage.emit Field.act 1) none (report lines) st =
      some { st with notes := st.notes ++ lines st.state } := follow_print (lines st.state) st

theorem act_call_report (hop : op.isPick = false) (lines : Field → List String) :
    s.act (.call op fun _ => report lines) =
      (s.performing op).printing (lines (s.performing op).field) := by
  rw [act, follow_call hop, follow_report]
  rfl

theorem act_toggle (s : Session) :
    s.act Command.toggle.action =
      ((s.performing .togglePress).performing .toggleClick).printing
        (menuText ((s.performing .togglePress).performing .toggleClick).field) := by
  rw [act, Command.action, follow_call rfl, follow_call rfl, follow_report]
  rfl

/-- What such a command prints last is the menu as it is then. -/
theorem exists_printed_obey {c : Command} (hc : c.showsMenu = true)
    (hwait : c = .wait → s.mounted.fetch ≠ .waiting) :
    ∃ earlier, (s.obey c).printed = earlier ++ menuText (s.obey c).field := by
  have hlast : ∀ {t u : Session}, u = t.printing (menuText t.field) →
      ∃ earlier, u.printed = earlier ++ menuText u.field := by
    rintro t _ rfl
    exact ⟨t.printed, rfl⟩
  cases c with
  | type _ | focus | click => exact hlast (act_call_report rfl menuText)
  | toggle => exact hlast (act_toggle s)
  | wait =>
    rw [obey_wait]
    split
    · rename_i hfetch
      exact absurd hfetch (hwait rfl)
    · rw [Command.action, act_report]
      refine ⟨s.pause.printed ++ [stateText s.pause.field], ?_⟩
      exact List.append_cons s.pause.printed (stateText s.pause.field) (menuText s.pause.field)
  | _ => cases hc

/-! ### Picks -/

theorem act_pick_of_some {i : Nat} {g : Field} {e : Selected}
    (hheard : s.mounted.stage.handlers = [announce]) (h : s.field.pickAt? i = some (g, e)) :
    s.act (Command.pick i).action =
      ({ s with mounted.stage.state := g } : Session).printing [selectedText e.choice] := by
  have hact : Field.act (.pickAt i) s.mounted.stage.state = ⟨g, .flag true, some e, false⟩ :=
    act_pickAt_of_some h
  have hperform : s.mounted.stage.perform Field.act (Stage.emit Field.act 1) (.pickAt i) =
      some (.flag true, { s.mounted.stage with
        state := g
        notes := s.mounted.stage.notes ++ [selectedText e.choice] }) := by
    refine Stage.perform_eq_some_iff.mpr ⟨by rw [hact], .inr ⟨e, by rw [hact], ?_⟩⟩
    -- the announcer is the one handler, and its script is one note
    simp only [Stage.turned, Stage.emit, hact, hheard]
    rfl
  simp only [act, Command.action, Stage.follow, hperform]
  rfl

theorem act_pick_of_none {i : Nat} (h : s.field.pickAt? i = none) :
    s.act (Command.pick i).action = s.printing ["nothing to pick at " ++ toString (i + 1)] := by
  have hact : Field.act (.pickAt i) s.mounted.stage.state = ⟨s.field, .flag false, none, false⟩ := by
    have hnone : s.mounted.stage.state.pickAt? i = none := h
    simp only [Field.act, hnone]
    rfl
  have hperform : s.mounted.stage.perform Field.act (Stage.emit Field.act 1) (.pickAt i) =
      some (.flag false, s.mounted.stage) := by
    refine Stage.perform_eq_some_iff.mpr ⟨by rw [hact], .inl ⟨by rw [hact], ?_⟩⟩
    rw [Stage.turned, hact]
    rfl
  simp only [act, Command.action, Stage.follow, hperform]
  rfl

/-! ### Numbers -/

/-- Each number of the menu picks the row next to it, and other numbers pick nothing. -/
structure Numbered (s : Session) : Prop where
  /-- A menu printed is the one there is. -/
  shown : ∀ c : Command, c.showsMenu = true → (c = .wait → s.mounted.fetch ≠ .waiting) →
    ∃ earlier, (s.obey c).printed = earlier ++ menuText (s.obey c).field
  rows : s.field.menuOpen = true → ∀ i, (menuText s.field)[i]? =
    s.field.suggestions[i]?.map fun row : Suggestion =>
      if row.isPlaceholder then "   " ++ row.label
      else (if i + 1 < 10 then " " else "") ++ toString (i + 1) ++ " " ++ row.label
  /-- The largest number is that of the machine, whose lists are no longer. -/
  picked : ∀ i row, s.field.suggestions[i]? = some row → row.isPlaceholder = false →
    i + 1 ≤ Command.largestNumber →
    Command.parse (Command.pickLine (i + 1)) = .ok (some (.pick i)) ∧
    ∃ j c g, s.field.Backs row j c ∧ g.Shows j c ∧ g.text = row.value ∧ g.menuOpen = false ∧
      s.line (some (Command.pickLine (i + 1))) =
        ({ s with mounted.stage.state := g } : Session).printing
          ["selected: " ++ c.value ++ " = " ++ Text.quote c.label]
  missed : ∀ n, n ≠ 0 → n ≤ Command.largestNumber →
    (∀ row, s.field.suggestions[n - 1]? = some row → row.isPlaceholder = true) →
    Command.parse (Command.pickLine n) = .ok (some (.pick (n - 1))) ∧
    s.line (some (Command.pickLine n)) = s.printing ["nothing to pick at " ++ toString n]
  /-- However a line asks for a pick, the number after the position is one that is understood. -/
  bounded : ∀ text p, Command.parse text = .ok (some (.pick p)) → p + 1 ≤ Command.largestNumber
  refused : ∀ n, n = 0 ∨ Command.largestNumber < n →
    Command.parse (Command.pickLine n) = .error (.badNumber (toString n)) ∧
    s.line (some (Command.pickLine n)) =
      s.printing ["`pick` needs a suggestion number starting at 1, got " ++ Text.quote (toString n)]

end

theorem parse_pick_of_fits {n : Nat} (hpos : n ≠ 0) (hfits : n ≤ Command.largestNumber) :
    Command.parse (Command.pickLine n) = .ok (some (.pick (n - 1))) := by
  rw [Command.parse_pick, if_neg (by omega)]

section
variable [Engine]

theorem Conducted.rowsBacked {control : Select} {settings : Settings}
    (h : s.Conducted (mount control settings 0)) : s.field.RowsBacked := by
  obtain ⟨ops, hops⟩ := h.run
  rw [hops]
  exact rowsBacked_run_mount control settings 0 ops

theorem obey_pick (s : Session) (i : Nat) : s.obey (.pick i) = s.act (Command.pick i).action := rfl

theorem line_of_backs {i j : Nat} {row : Suggestion} {c : Choice} {text : String}
    (hheard : s.mounted.stage.handlers = [announce]) (hrow : s.field.suggestions[i]? = some row)
    (hb : s.field.Backs row j c) (hparse : Command.parse text = .ok (some (.pick i))) :
    ∃ g, g.Shows j c ∧ g.text = row.value ∧ g.menuOpen = false ∧
      s.line (some text) = ({ s with mounted.stage.state := g } : Session).printing [selectedText c] := by
  obtain ⟨g, hpick, hshows⟩ := hb.pick
  have hat : s.field.pickAt? i = some (g, ⟨s.field.id, j, c⟩) := by
    rw [pickAt?, hrow]
    exact hpick
  have htext : g.text = row.value ∧ g.menuOpen = false := by
    obtain ⟨_, _, _, _, _, _, _, rfl⟩ := pick?_eq_some_iff.mp hpick
    exact ⟨rfl, rfl⟩
  refine ⟨g, hshows, htext.1, htext.2, ?_⟩
  rw [line_of_command hparse, obey_pick, act_pick_of_some hheard hat]

theorem line_of_no_row {i : Nat} {text : String}
    (hplace : ∀ row, s.field.suggestions[i]? = some row → row.isPlaceholder = true)
    (hparse : Command.parse text = .ok (some (.pick i))) :
    s.line (some text) = s.printing ["nothing to pick at " ++ toString (i + 1)] := by
  rw [line_of_command hparse, obey_pick,
    act_pick_of_none (pickAt?_of_isPlaceholder hplace)]

theorem Conducted.numbered {control : Select} {settings : Settings}
    (h : s.Conducted (mount control settings 0)) : s.Numbered where
  shown c hc hwait := exists_printed_obey hc hwait
  rows hopen i := getElem?_menuText hopen i
  picked i row hrow hplace hfits := by
    have hparse : Command.parse (Command.pickLine (i + 1)) = .ok (some (.pick i)) :=
      parse_pick_of_fits (Nat.succ_ne_zero i) hfits
    obtain ⟨j, c, hb⟩ := h.rowsBacked row (List.mem_of_getElem? hrow) hplace
    obtain ⟨g, hshows, htext, hclosed, hline⟩ := line_of_backs h.heard hrow hb hparse
    exact ⟨hparse, j, c, g, hb, hshows, htext, hclosed, hline⟩
  missed n hpos hfits hplace := by
    have hparse := parse_pick_of_fits hpos hfits
    have hline := line_of_no_row hplace hparse
    rw [Nat.sub_add_cancel (Nat.pos_of_ne_zero hpos)] at hline
    exact ⟨hparse, hline⟩
  bounded _ _ hparse := Command.lt_of_parse_pick hparse
  refused n hn := by
    have hparse : Command.parse (Command.pickLine n) = .error (.badNumber (toString n)) := by
      rw [Command.parse_pick, if_pos hn]
    exact ⟨hparse, line_of_error hparse⟩

end

end Session

section
attribute [local instance] Engine.unlimited

end

end Typeahead.Console
