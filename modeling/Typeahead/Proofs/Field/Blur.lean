import Typeahead.Proofs.Field.Commit
import Typeahead.Proofs.Mounted.Along

/-!
# Leaving the input

The text typed last is committed when the input loses the focus. Between the two the user may look
around: open and close the menu, search for other terms, pick rows that stand for nothing; and the
choices may come, or fail to. None of this touches what was typed (`typing_after`). So a blur looks
up that text among the choices there are by then, and a second one finds nothing left to commit
(`blur_commits_typed`).
-/

namespace Typeahead

namespace Field
variable {f g : Field} {op : Op} {ops : List Op} {text : String}

/-! ### What was typed -/

/-- What a user does without making up his mind, and what the source does meanwhile: no text is typed
or committed, no row picked. -/
def Op.isBrowsing : Op → Bool
  | .focus | .togglePress | .toggleClick | .query _ | .search _ | .populate _ | .fail _
  | .takeFocusRequest | .clearDirty => true
  | _ => false

/-- The text, and whether it is still to be committed. -/
def typing (f : Field) : String × Bool := (f.text, f.edited)

/-- The field with its menu, its focus and its marks wiped: what a user does not touch who only looks
around. -/
def held (f : Field) : Field :=
  { f with
    focused := false, menuOpen := false, lastTerm := none, suggestions := [], wasOpen := false,
    dirty := false, focusRequested := false }

theorem held_search [Engine] (f : Field) (term : String) : (f.search term).held = f.held := by
  unfold search; split <;> rfl

theorem held_focus [Engine] (f : Field) : f.focus.held = f.held := by
  unfold focus
  split
  · rfl
  · exact held_search { f with focused := true } f.text

theorem held_toggleClick [Engine] (f : Field) : f.toggleClick.held = f.held := by
  unfold toggleClick
  split
  · rfl
  · dsimp only
    split
    · rfl
    · exact held_search { f with focused := true, focusRequested := true } ""

theorem typing_eq_of_held (h : g.held = f.held) : g.typing = f.typing := by
  have heq : g.held.typing = f.held.typing := by rw [h]
  exact heq

section
variable [Engine]

theorem typing_told (f : Field) (outcome : Source.Outcome) :
    (f.after (Mounted.told outcome)).typing = f.typing := by
  rcases late_or_loading f with hlate | ⟨control, hc, hl⟩
  · rw [after_told_of_late hlate]
  · rw [after_told hc hl]
    obtain ⟨_, _, _, heq⟩ :=
      exists_arrive f (taken outcome control f.initialValue) (ended outcome)
    rw [heq]
    rfl

theorem typing_after (f : Field) (hop : op.isBrowsing = true) : (f.after op).typing = f.typing := by
  cases op with
  | focus => exact typing_eq_of_held (held_focus f)
  | toggleClick => exact typing_eq_of_held (held_toggleClick f)
  | search term => exact typing_eq_of_held (held_search f term)
  | populate choices => exact typing_told f (.ok choices)
  | fail failure => exact typing_told f (.error failure)
  | togglePress | query _ | takeFocusRequest | clearDirty => rfl
  | _ => cases hop

theorem typing_run_of_along (h : f.Along Op.isBrowsing ops) : (f.run ops).typing = f.typing :=
  h.keeps (P := fun g => g.typing = f.typing) (fun g _ hop hg => (typing_after g hop).trans hg) rfl

theorem isDestroyed_run_of_along (hd : f.isDestroyed = false) (h : f.Along Op.isBrowsing ops) :
    (f.run ops).isDestroyed = false := by
  refine h.keeps (P := fun g => g.isDestroyed = false) (fun g op hop hg => ?_) hd
  refine isDestroyed_after hg fun heq => ?_
  rw [heq] at hop; cases hop

theorem typing_input (hd : f.isDestroyed = false) (text : String) :
    (f.input text).typing = (text, true) := by
  by_cases hl : f.lastTerm = some text
  · rw [input_of_skip hd hl]; rfl
  · rw [input_of_search hd hl]; exact typing_eq_of_held (held_search (f.typed text) text)

end

/-! ### Two steps -/

/-- The input of the field `f` was left, and `g` came of it: `text` was looked up, and nothing is
open or left to be done. -/
structure Leaves (text : String) (f g : Field) : Prop where
  reconciled : ∃ control, f.control = some control ∧ Reconciled control.choices text g
  stock : g.stock = f.stock
  closed : g.menuOpen = false
  unfocused : g.focused = false
  settled : g.edited = false
  again : g.blur = g

/-- The field with its menu closed and without the focus. -/
def closed (f : Field) : Field := { f with focused := false, menuOpen := false, dirty := true }

theorem dirty_commit {control : Select} (hc : f.control = some control) (text : String) :
    (f.commit text).dirty = true := by
  rw [commit_of_live hc]

/-- Where there is nothing to close and nothing to commit, a blur does nothing. -/
theorem blur_eq_self (he : f.edited = false) (ho : f.menuOpen = false) (hf : f.focused = false)
    (hdirty : f.dirty = true) : f.blur = f := by
  rw [blur_of_unedited he]
  cases f
  cases ho; cases hf; cases hdirty
  rfl

theorem leaves_blur (hd : f.isDestroyed = false) (ht : f.typing = (text, true)) :
    Leaves text f f.blur := by
  obtain ⟨rfl, he⟩ := Prod.mk.inj ht
  obtain ⟨control, hc⟩ := exists_control hd
  have hblur : f.blur = f.closed.commit f.text := blur_of_edited he
  have hc' : f.closed.control = some control := hc
  have hmenu := sameMenu_commit f.closed f.text
  have hsettled := edited_commit hc' f.text
  rw [hblur]
  exact ⟨⟨control, hc, reconciled_commit hc' f.text⟩, stock_commit f.closed f.text, hmenu.menuOpen,
    hmenu.focused, hsettled,
    blur_eq_self hsettled hmenu.menuOpen hmenu.focused (dirty_commit hc' f.text)⟩

theorem leaves_run [Engine] (hd : f.isDestroyed = false) (h : (f.input text).Along Op.isBrowsing ops) :
    Leaves text ((f.input text).run ops) ((f.input text).run ops).blur := by
  have hlive : (f.after (.input text)).isDestroyed = false :=
    isDestroyed_after hd fun heq => by cases heq
  refine leaves_blur (isDestroyed_run_of_along hlive h) ?_
  rw [typing_run_of_along h, typing_input hd]

theorem isBrowsing_told (outcome : Source.Outcome) : (Mounted.told outcome).isBrowsing = true := by
  cases outcome <;> rfl

theorem isPick_of_isBrowsing (op : Op) (hop : op.isBrowsing = true) : op.isPick = false := by
  cases op with
  | pick _ | pickAt _ => cases hop
  | _ => rfl

/-- However the user looks around after typing, and whatever comes of the load meanwhile, leaving the
input commits the text typed last to the choices there are then. Doing it twice is doing it once. The
same goes for a mounted field with any handlers. -/
theorem blur_commits_typed [Engine] (text : String) :
    (∀ (f : Field) (ops : List Op), f.isDestroyed = false →
      (f.input text).Along Op.isBrowsing ops →
      Leaves text ((f.input text).run ops) ((f.input text).run ops).blur) ∧
    ∀ {ω : Type} (m : Mounted ω), m.field.isDestroyed = false →
      ∃ m₁, m.perform (.input text) = some (.done, m₁) ∧
        ∀ events, m₁.Along Op.isBrowsing events →
          ∃ m₂ m₃, m₁.history events = some m₂ ∧ m₂.perform .blur = some (.done, m₃) ∧
            Leaves text m₂.field m₃.field ∧ m₃.perform .blur = some (.done, m₃) := by
  refine ⟨fun f ops hd h => leaves_run hd h, fun {ω} m hd => ?_⟩
  obtain ⟨m₁, hperform, hfield⟩ := Mounted.exists_perform_of_silent m (.input text) rfl
  refine ⟨m₁, hperform, fun events h => ?_⟩
  obtain ⟨m₂, ops, hhistory, hrun, halong⟩ :=
    Mounted.exists_history_of_along isBrowsing_told isPick_of_isBrowsing h
  obtain ⟨m₃, hblur, hfield₃⟩ := Mounted.exists_perform_of_silent m₂ .blur rfl
  rw [hfield, after_input] at hrun halong
  have hleaves : Leaves text m₂.field m₃.field := by
    rw [hfield₃, hrun]
    exact leaves_run hd halong
  refine ⟨m₂, m₃, hhistory, hblur, hleaves, ?_⟩
  have hperform' : m₃.perform .blur =
      some (.done, { m₃ with stage := { m₃.stage with state := m₃.field.blur } }) := rfl
  rw [hperform', hleaves.again]
  rfl

section
attribute [local instance] Engine.unlimited

/-- While the choices are on their way "r" is typed, the menu shut and opened again by the toggle, a
placeholder picked in vain and another term searched for. Then the choices come, the first by that
value is "Red", and "r" becomes "Red"; where "red" was typed instead, nothing is left. A handler is
there all the time. -/
theorem blur_commits_typed_looked_around :
    let choices : List Choice := [⟨"Any", ""⟩, ⟨"<b>Red</b>", "r"⟩, ⟨"Rouge", "r"⟩]
    let ops : List Op := [.focus, .togglePress, .toggleClick, .togglePress, .toggleClick, .pickAt 0,
      .search "zz", .query "R", .populate choices, .fail (.http 500 ""), .populate []]
    let f := mount (.new "color") {} 0
    let events : List (Mounted.Event Unit) := [.listen fun _ => .call (.commit "x") fun _ => .done,
      .perform (.pickAt 0), .answer (.ok choices), .run, .perform (.search "zz")]
    (f.isDestroyed = false ∧ (f.input "r").Along Op.isBrowsing ops ∧
      Leaves "r" ((f.input "r").run ops) ((f.input "r").run ops).blur ∧
      ((f.input "r").run ops).blur.value = "r") ∧
    ((f.input "red").Along Op.isBrowsing ops ∧
      Leaves "red" ((f.input "red").run ops) ((f.input "red").run ops).blur ∧
      ((f.input "red").run ops).blur.text = "") ∧
    ∃ m m₁ m₂ m₃ : Mounted Unit, Mounted.create (.new "color") {} .waiting true 0 = .ok m ∧
      m.field.isDestroyed = false ∧ m.perform (.input "r") = some (.done, m₁) ∧
      m₁.Along Op.isBrowsing events ∧ m₁.history events = some m₂ ∧
      m₂.perform .blur = some (.done, m₃) ∧ Leaves "r" m₂.field m₃.field ∧
      m₃.perform .blur = some (.done, m₃) := by
  intro choices ops f events
  have halong : ∀ text ∈ ["r", "red"], (f.input text).Along Op.isBrowsing ops := by decide +kernel
  have hr := (blur_commits_typed "r").1 f ops rfl (halong "r" (by decide))
  have hred := (blur_commits_typed "red").1 f ops rfl (halong "red" (by decide))
  have hlist : ∀ text ∈ ["r", "red"],
      ((f.input text).run ops).control.map Select.choices = some (.none :: choices) := by
    decide +kernel
  refine ⟨⟨rfl, halong "r" (by decide), hr, ?_⟩, ⟨halong "red" (by decide), hred, ?_⟩, ?_⟩
  · obtain ⟨control, hc, hreconciled⟩ := hr.reconciled
    have hchoices := hlist "r" (by decide)
    rw [hc] at hchoices
    refine (hreconciled.found ⟨⟨"Rouge", "r"⟩, ?_, rfl⟩).1
    rw [Option.some.inj hchoices]
    decide
  · obtain ⟨control, hc, hreconciled⟩ := hred.reconciled
    have hchoices := hlist "red" (by decide)
    rw [hc] at hchoices
    refine (hreconciled.missed ?_).2
    rw [Option.some.inj hchoices]
    decide
  · obtain ⟨m, hm, hd, m₁, hinput, hevents⟩ : ∃ m : Mounted Unit,
        Mounted.create (.new "color") {} .waiting true 0 = .ok m ∧ m.field.isDestroyed = false ∧
        ∃ m₁, m.perform (.input "r") = some (.done, m₁) ∧ m₁.Along Op.isBrowsing events := by
      refine ⟨_, rfl, rfl, _, rfl, ?_⟩
      refine .cons trivial rfl ?_
      refine .cons (.inr ⟨rfl, rfl⟩) rfl ?_
      exact .cons trivial rfl (.cons trivial rfl (.cons (.inl rfl) rfl trivial))
    obtain ⟨m₁', hinput', hblur⟩ := (blur_commits_typed "r").2 m hd
    obtain ⟨-, rfl⟩ := Prod.mk.inj (Option.some.inj (hinput.symm.trans hinput'))
    obtain ⟨m₂, m₃, hhistory, hleft, hleaves, hagain⟩ := hblur events hevents
    exact ⟨m, m₁, m₂, m₃, hm, hd, hinput, hevents, hhistory, hleft, hleaves, hagain⟩

end

end Field
end Typeahead
