import Typeahead.Proofs.Mounted
import Typeahead.Proofs.Suggestion

/-!
# What an open menu shows

The rows are stored when a term is searched for, and shown as long as the menu is open. Meanwhile
the text may be typed, committed or replaced, the term forgotten, and the load may end. `Current`
says that the rows shown are those that a search would find at present, and `Coherent` that this
holds of an open menu. Every move keeps it (`kept_coherent`): the end of the load because it
searches again, everything else because the choices, the load and the settings stay.
-/

namespace Typeahead
namespace Field
variable {f g : Field}

section
variable [Engine]

/-- The rows stored are what a search for some term finds at present, and there are some. The term
is the last one, unless that is forgotten. -/
structure Current (f : Field) : Prop where
  live : f.isDestroyed = false
  rows : f.suggestions ≠ []
  found : ∃ term, f.suggestions = f.query term ∧ ∀ t, f.lastTerm = some t → term = t

/-- What the menu shows is current whenever it is open. -/
def Coherent (f : Field) : Prop := f.menuOpen = true → f.Current

theorem coherent_of_closed (h : f.menuOpen = false) : f.Coherent := by
  intro ho
  rw [h] at ho; cases ho

/-- Rows stay current as long as searches find the same and the last term is kept or forgotten. -/
theorem Current.of_query_eq (h : f.Current) (hd : g.isDestroyed = false)
    (hs : g.suggestions = f.suggestions) (hl : g.lastTerm = f.lastTerm ∨ g.lastTerm = none)
    (hq : ∀ term, g.query term = f.query term) : g.Current := by
  obtain ⟨term, hterm, hlast⟩ := h.found
  refine ⟨hd, by rw [hs]; exact h.rows, term, by rw [hs, hq]; exact hterm, fun t ht => ?_⟩
  rcases hl with hl | hl
  · exact hlast t (by rw [← hl]; exact ht)
  · rw [hl] at ht; cases ht

theorem Coherent.of_query_eq (h : f.Coherent) (ho : g.menuOpen = f.menuOpen)
    (hd : g.isDestroyed = f.isDestroyed) (hs : g.suggestions = f.suggestions)
    (hl : g.lastTerm = f.lastTerm ∨ g.lastTerm = none)
    (hq : ∀ term, g.query term = f.query term) : g.Coherent := by
  intro hg
  have hf := h (by rw [← ho]; exact hg)
  exact hf.of_query_eq (by rw [hd]; exact hf.live) hs hl hq

/-! ### The moves -/

theorem query_search (f : Field) (term t : String) : (f.search term).query t = f.query t := by
  cases hd : f.isDestroyed with
  | true => rw [search_of_destroyed hd]
  | false => rw [search_of_live hd]; rfl

theorem coherent_search (hd : f.isDestroyed = false) (term : String) : (f.search term).Coherent := by
  intro ho
  have hq := query_search f term
  rw [search_of_live hd] at ho hq ⊢
  refine ⟨hd, ?_, term, (hq term).symm, fun t ht => by simpa using ht⟩
  simpa using ho

theorem Coherent.search (h : f.Coherent) (term : String) : (f.search term).Coherent := by
  cases hd : f.isDestroyed with
  | true => rw [search_of_destroyed hd]; exact h
  | false => exact coherent_search hd term

/-- The end of the load leaves the menu closed or searches again. -/
theorem coherent_settle (hd : f.isDestroyed = false) (load : Load) : (f.settle load).Coherent := by
  cases ho : f.menuOpen with
  | true => rw [settle_of_open hd ho]; exact coherent_search (by exact hd) _
  | false => rw [settle_of_closed ho]; exact coherent_of_closed ho

theorem Coherent.populate (h : f.Coherent) (choices : List Choice) :
    (f.populate choices).Coherent := by
  rcases populate_eq_or_loading f choices with heq | ⟨control, -, -, heq⟩
  · rw [heq]; exact h
  · rw [heq]; exact coherent_settle rfl _

theorem Coherent.fail (h : f.Coherent) (failure : Source.Failure) : (f.fail failure).Coherent := by
  rcases fail_eq_or_loading f failure with heq | ⟨hd, -, heq⟩
  · rw [heq]; exact h
  · rw [heq]; exact coherent_settle hd _

/-- A commit writes the selection, not the choices, and may forget the term. -/
theorem Coherent.commit (h : f.Coherent) (text : String) : (f.commit text).Coherent := by
  cases hd : f.isDestroyed with
  | true => rw [commit_of_destroyed hd]; exact h
  | false =>
    obtain ⟨control, hc⟩ := exists_control hd
    rw [commit_of_live hc]
    refine h.of_query_eq rfl (isDestroyed_of_control hc).symm rfl ?_ (query_congr ?_ rfl rfl)
    · dsimp only
      split
      · exact .inl rfl
      · exact .inr rfl
    · dsimp only
      rw [hc]
      split <;> rfl

theorem coherent_picked {s : Suggestion} {e : Selected} (h : f.pick? s = some (g, e)) :
    g.Coherent := by
  obtain ⟨_, _, _, _, _, _, _, rfl⟩ := pick?_eq_some_iff.mp h
  exact coherent_of_closed rfl

theorem kept_coherent : Kept Coherent where
  typed _ _ _ h := h.of_query_eq rfl rfl rfl (.inl rfl) (query_congr rfl rfl rfl)
  marked _ _ _ _ _ h := h.of_query_eq rfl rfl rfl (.inl rfl) (query_congr rfl rfl rfl)
  closed _ _ := coherent_of_closed rfl
  searched _ term h := h.search term
  committed _ text h := h.commit text
  picked _ _ _ _ hg _ := coherent_picked hg
  populated _ choices h := h.populate choices
  failed _ failure h := h.fail failure
  destroyed _ _ := coherent_of_closed rfl

theorem coherent_run (control : Select) (settings : Settings) (serial : Nat) (ops : List Op) :
    ((mount control settings serial).run ops).Coherent :=
  kept_coherent.run ops (coherent_of_closed rfl)

/-! ### What follows for an open menu -/

/-- The rows of an open menu are current. So no placeholder stands among them once the choices are
there, the failure stands there alone once the fetch has failed, and passing over a term that was
searched for last leaves nothing to find. -/
structure Fresh (f : Field) : Prop extends Current f where
  loaded : f.load = .loaded → ∀ s ∈ f.suggestions, s.isPlaceholder = false
  failed : ∀ reason, f.load = .failed reason →
    f.suggestions = [.placeholder f.settings.failedLabel]
  skipped : ∀ text, f.lastTerm = some text → (f.input text).search text = f.input text

theorem query_of_failed (hd : f.isDestroyed = false) {reason : String}
    (hl : f.load = .failed reason) (term : String) :
    f.query term = [.placeholder f.settings.failedLabel] := by
  obtain ⟨control, hc⟩ := exists_control hd
  simp [query, hc, hl]

theorem not_isPlaceholder_of_mem_query (hl : f.load = .loaded) {term : String} {s : Suggestion}
    (h : s ∈ f.query term) : s.isPlaceholder = false := by
  unfold query at h
  split at h
  · cases h
  · rw [hl] at h
    obtain ⟨c, i, -, hs⟩ := mem_suggest h
    obtain ⟨-, -, rfl⟩ := Suggestion.ofChoice?_eq_some_iff.mp hs
    rfl

/-- On an open menu the search that is passed over would write what is there. -/
theorem Current.search_input (h : f.Current) (ho : f.menuOpen = true) {text : String}
    (ht : f.lastTerm = some text) : (f.input text).search text = f.input text := by
  obtain ⟨term, hterm, hlast⟩ := h.found
  obtain rfl := hlast text ht
  rw [input_of_skip h.live ht, search_of_live (by exact h.live)]
  have hq : (f.typed term).query term = f.suggestions := hterm.symm
  have hne : (!f.suggestions.isEmpty) = true := by simpa using h.rows
  rw [hq, hne]
  simp [typed, ho, ht]

theorem Current.fresh (h : f.Current) (ho : f.menuOpen = true) : f.Fresh where
  toCurrent := h
  loaded hl s hs := by
    obtain ⟨term, hterm, -⟩ := h.found
    rw [hterm] at hs
    exact not_isPlaceholder_of_mem_query hl hs
  failed reason hl := by
    obtain ⟨term, hterm, -⟩ := h.found
    rw [hterm]; exact query_of_failed h.live hl term
  skipped _ ht := h.search_input ho ht

/-- The menu is coherent: after every run of operations, and so in every history of a mounted field
with whatever handlers, an open menu belongs to a live field and shows, in one row or more, what a
search would find at present. -/
theorem fresh_of_menuOpen (control : Select) (settings : Settings) (serial : Nat) :
    (∀ ops, ((mount control settings serial).run ops).menuOpen = true →
      ((mount control settings serial).run ops).Fresh) ∧
    ∀ {ω : Type} (fetch running) (m m' : Mounted ω) (events),
      Mounted.create control settings fetch running serial = .ok m →
      m.history events = some m' → m'.field.menuOpen = true → m'.field.Fresh := by
  have hrun : ∀ ops, ((mount control settings serial).run ops).menuOpen = true →
      ((mount control settings serial).run ops).Fresh :=
    fun ops ho => (coherent_run control settings serial ops ho).fresh ho
  refine ⟨hrun, fun fetch running m m' events hm h ho => ?_⟩
  obtain ⟨-, hfield⟩ := Mounted.field_of_create hm
  obtain ⟨ops, hops⟩ := Mounted.exists_run_of_history h
  rw [hfield] at hops
  rw [hops] at ho ⊢
  exact hrun ops ho

end

section
attribute [local instance] Engine.unlimited

/-- A menu that a commit leaves open though it forgets the term, and one that a handler opens again
in answer to the pick that closed it. -/
theorem fresh_of_menuOpen_reopened :
    (((mount (.new "color") {} 0).run [.input "re", .commit "re"]).menuOpen = true ∧
      ((mount (.new "color") {} 0).run [.input "re", .commit "re"]).Fresh) ∧
    ∃ m m' : Mounted Unit,
      Mounted.create (.new "color") {} .waiting true 0 = .ok m ∧
      m.history [.perform .focus, .answer (.ok [⟨"Red", "r"⟩]), .run,
        .listen fun _ => .call .togglePress fun _ => .call .toggleClick fun _ => .done,
        .perform (.pickAt 0)] = some m' ∧
      m'.field.menuOpen = true ∧ m'.field.Fresh := by
  have ho : ((mount (.new "color") {} 0).run [.input "re", .commit "re"]).menuOpen = true := rfl
  obtain ⟨m, hm, m', h, ho'⟩ : ∃ m : Mounted Unit,
      Mounted.create (.new "color") {} .waiting true 0 = .ok m ∧ ∃ m',
      m.history [.perform .focus, .answer (.ok [⟨"Red", "r"⟩]), .run,
        .listen fun _ => .call .togglePress fun _ => .call .toggleClick fun _ => .done,
        .perform (.pickAt 0)] = some m' ∧ m'.field.menuOpen = true :=
    ⟨_, rfl, _, rfl, rfl⟩
  exact ⟨⟨ho, (fresh_of_menuOpen (.new "color") {} 0).1 _ ho⟩, m, m', hm, h, ho',
    (fresh_of_menuOpen (.new "color") {} 0).2 .waiting true m m' _ hm h ho'⟩

end

end Field
end Typeahead
