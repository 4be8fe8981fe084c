import Typeahead.Proofs.Field.Rows
import Typeahead.Proofs.Select.Edits

/-!
# Committing a text

A commit looks the text up among the values of the choices there are. `Reconciled` says what that
comes to: the first choice with the value is selected and shows in the input, or there is none, and
then neither is there a value to submit nor a text. Nothing else about the field changes, and another
commit of the text changes nothing at all (`commit_commit`). A commit that finds nothing forgets the
term last searched for, so that whatever is typed next is searched for, be it the same
(`input_of_forgotten`). All of this holds however far the load has come (`commit_reconciles`).
-/

namespace Typeahead

namespace Field
variable {f g : Field} {control : Select} {text : String} {c : Choice}

/-! ### What is found -/

/-- The first of the choices with the value `text` is selected and shows; without one nothing is
submitted and nothing shows. -/
structure Reconciled (choices : List Choice) (text : String) (g : Field) : Prop where
  found : (∃ c ∈ choices, c.value = text) → g.value = text ∧
    ∃ i c, IsLeast {j | ∃ c, choices[j]? = some c ∧ c.value = text} i ∧ g.Shows i c
  missed : (∀ c ∈ choices, c.value ≠ text) → g.value = "" ∧ g.text = ""

theorem find?_of_missed (hmiss : ∀ c ∈ control.choices, c.value ≠ text) :
    control.choices.find? (·.value = text) = none := by
  simpa using hmiss

theorem reconciled_commit (hc : f.control = some control) (text : String) :
    Reconciled control.choices text (f.commit text) where
  found hhit := by
    obtain ⟨i, hi, hleast⟩ := Select.exists_isLeast_of_answer (Select.answer_setValue_iff.mpr hhit)
    obtain ⟨c, hget, hv⟩ := hleast.1
    have hf : control.choices.find? (·.value = text) = some c := by
      rw [Choice.find?_eq_bind_position?, Choice.position?_eq_some_iff.mpr hleast]
      exact hget
    have hshows : (f.commit text).Shows i c := by
      rw [commit_of_found hc hf]
      exact shows_of_selected rfl hi hget rfl
    exact ⟨hshows.value.trans hv, i, c, hleast, hshows⟩
  missed hmiss := by
    rw [commit_of_missed hc (find?_of_missed hmiss)]
    exact ⟨Select.value_clear control, rfl⟩

/-! ### What is not touched -/

/-- Menu, focus and toggle are as they were. -/
structure SameMenu (f g : Field) : Prop where
  menuOpen : g.menuOpen = f.menuOpen
  suggestions : g.suggestions = f.suggestions
  focused : g.focused = f.focused
  wasOpen : g.wasOpen = f.wasOpen
  focusRequested : g.focusRequested = f.focusRequested

theorem sameMenu_commit (f : Field) (text : String) : SameMenu f (f.commit text) := by
  cases hd : f.isDestroyed with
  | true => rw [commit_of_destroyed hd]; exact ⟨rfl, rfl, rfl, rfl, rfl⟩
  | false =>
    obtain ⟨control, hc⟩ := exists_control hd
    rw [commit_of_live hc]
    exact ⟨rfl, rfl, rfl, rfl, rfl⟩

theorem edited_commit (hc : f.control = some control) (text : String) :
    (f.commit text).edited = false := by
  rw [commit_of_live hc]

/-- A commit finds what it found before, and selects it again. -/
theorem commit_commit (f : Field) (text : String) : (f.commit text).commit text = f.commit text := by
  cases hd : f.isDestroyed with
  | true => rw [commit_of_destroyed hd, commit_of_destroyed hd]
  | false =>
    obtain ⟨control, hc⟩ := exists_control hd
    cases hf : control.choices.find? (·.value = text) with
    | some c =>
      have hf' : (control.setValue text).choices.find? (·.value = text) = some c := hf
      rw [commit_of_found hc hf, commit_of_found rfl hf']
      rfl
    | none =>
      have hf' : control.clear.choices.find? (·.value = text) = none := hf
      rw [commit_of_missed hc hf, commit_of_missed rfl hf']
      rfl

/-! ### Typing afterwards -/

/-- With the term forgotten no text is passed over. -/
theorem input_of_forgotten [Engine] (hd : f.isDestroyed = false) (hl : f.lastTerm = none) (text : String) :
    (f.input text).suggestions = f.query text ∧
      ((f.input text).menuOpen = true ↔ f.query text ≠ []) ∧
      (f.input text).lastTerm = some text := by
  have hne : f.lastTerm ≠ some text := by
    rw [hl]
    exact (Option.some_ne_none text).symm
  have hq : (f.typed text).query text = f.query text := query_congr rfl rfl rfl text
  rw [input_of_search hd hne, search_of_live (by exact hd), hq]
  refine ⟨rfl, ?_, rfl⟩
  simp

theorem forgotten_of_missed (hc : f.control = some control)
    (hmiss : ∀ c ∈ control.choices, c.value ≠ text) :
    (f.commit text).isDestroyed = false ∧ (f.commit text).lastTerm = none := by
  rw [commit_of_missed hc (find?_of_missed hmiss)]
  exact ⟨rfl, rfl⟩

/-! ### All together -/

/-- A commit of `text` has made `g` of the field `f`. -/
structure Commits [Engine] (text : String) (f g : Field) : Prop where
  reconciled : ∀ control, f.control = some control → Reconciled control.choices text g
  stock : g.stock = f.stock
  menu : SameMenu f g
  edited : g.edited = false
  again : g.commit text = g
  typing : ∀ control, f.control = some control → (∀ c ∈ control.choices, c.value ≠ text) →
    ∀ term, (g.input term).suggestions = g.query term ∧
      ((g.input term).menuOpen = true ↔ g.query term ≠ []) ∧ (g.input term).lastTerm = some term

/-- In any state of a live field a commit reconciles the text with the choices there are, and leaves
all else as it is. No handler hears of it. -/
theorem commit_reconciles [Engine] (text : String) :
    (∀ f : Field, f.isDestroyed = false →
      Commits text f (f.commit text) ∧ (act (.commit text) f).event = none) ∧
    ∀ {ω : Type} (m : Mounted ω), m.perform (.commit text) =
      some (.done, { m with stage := { m.stage with state := m.field.commit text } }) := by
  refine ⟨fun f hd => ⟨?_, rfl⟩, fun m => rfl⟩
  obtain ⟨control, hc⟩ := exists_control hd
  refine ⟨fun control' hc' => reconciled_commit hc' text, stock_commit f text, sameMenu_commit f text,
    edited_commit hc text, commit_commit f text, fun control' hc' hmiss term => ?_⟩
  obtain ⟨hlive, hterm⟩ := forgotten_of_missed hc' hmiss
  exact input_of_forgotten hlive hterm term

section
attribute [local instance] Engine.unlimited

/-- Two choices have the value, and another has none. The text that was searched for is committed, in
vain, and searched for again. -/
theorem commit_reconciles_typed_again :
    let f := (mount (.new "color") {} 0).run
      [.populate [⟨"Red", "r"⟩, ⟨"Any", ""⟩, ⟨"Rouge", "r"⟩], .input "re"]
    f.isDestroyed = false ∧ f.lastTerm = some "re" ∧
      (Commits "r" f (f.commit "r") ∧ (f.commit "r").value = "r") ∧
      (Commits "re" f (f.commit "re") ∧ (f.commit "re").value = "" ∧
        ((f.commit "re").input "re").suggestions = (f.commit "re").query "re") ∧
      ∀ m : Mounted Unit, m.perform (.commit "re") =
        some (.done, { m with stage := { m.stage with state := m.field.commit "re" } }) := by
  intro f
  have hchoices : f.control.map Select.choices =
      some [.none, ⟨"Red", "r"⟩, ⟨"Any", ""⟩, ⟨"Rouge", "r"⟩] := by cbv
  obtain ⟨control, hc, hlist⟩ := Option.map_eq_some_iff.mp hchoices
  have hhit : ∃ c ∈ control.choices, c.value = "r" := by
    rw [hlist]
    exact ⟨⟨"Red", "r"⟩, by decide, rfl⟩
  have hmiss : ∀ c ∈ control.choices, c.value ≠ "re" := by
    rw [hlist]
    decide
  have hr := (commit_reconciles "r").1 f rfl
  have hre := (commit_reconciles "re").1 f rfl
  exact ⟨rfl, rfl, ⟨hr.1, ((hr.1.reconciled control hc).found hhit).1⟩,
    ⟨hre.1, ((hre.1.reconciled control hc).missed hmiss).1, (hre.1.typing control hc hmiss "re").1⟩,
    (commit_reconciles "re").2⟩

end

end Field
end Typeahead
