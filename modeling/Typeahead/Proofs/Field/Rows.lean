import Typeahead.Proofs.Field.Stock
import Typeahead.Proofs.Suggestion

/-!
# What a stored row stands for

Rows are stored by a search and stay when the menu closes, so they may be picked much later. A row
is `Backed` if it is a placeholder, or the choices are there and it stands for one of them, with the
text of that choice. A search finds only such rows (`backed_of_mem_query`). Before the end of the
load they are placeholders, which mind nothing; afterwards the list stays. So every row stored is
backed at any time (`kept_rowsBacked`), and picking it by position selects the choice it stands for
(`anchored_rows`).
-/

namespace Typeahead
namespace Field
variable {f g : Field} {s : Suggestion} {i : Nat} {c : Choice}

/-- The choices are there, and the row stands for `c` at position `i`, with its text. -/
structure Backs (f : Field) (s : Suggestion) (i : Nat) (c : Choice) : Prop where
  loaded : f.load = .loaded
  position : s.choice = some i
  offered : ∃ control, f.control = some control ∧ control.choices[i]? = some c
  valued : c.value ≠ ""
  text : s.value = displayText c.label

/-- The row is a placeholder or stands for a choice. -/
def Backed (f : Field) (s : Suggestion) : Prop :=
  s.isPlaceholder = false → ∃ i c, f.Backs s i c

theorem backed_of_isPlaceholder (h : s.isPlaceholder = true) : f.Backed s := by
  intro hs
  rw [h] at hs; cases hs

theorem Backed.isPlaceholder (h : f.Backed s) (hl : f.load ≠ .loaded) : s.isPlaceholder = true := by
  cases hs : s.isPlaceholder with
  | true => rfl
  | false =>
    obtain ⟨i, c, hb⟩ := h hs
    exact absurd hb.loaded hl

theorem Backs.of_stock (h : f.Backs s i c) (hstock : g.stock = f.stock) : g.Backs s i c := by
  obtain ⟨control, hc, hi⟩ := h.offered
  rw [stock_of_control hc] at hstock
  obtain ⟨control', hc', hoffer⟩ := Option.map_eq_some_iff.mp (congrArg Prod.snd hstock)
  have hchoices : control'.choices = control.choices := (Select.offer_eq_iff.mp hoffer).2.1
  exact ⟨(congrArg Prod.fst hstock).trans h.loaded, h.position, ⟨control', hc', hchoices ▸ hi⟩,
    h.valued, h.text⟩

theorem Backed.of_stock (h : f.Backed s) (hstock : g.stock = f.stock) : g.Backed s := by
  intro hs
  obtain ⟨i, c, hb⟩ := h hs
  exact ⟨i, c, hb.of_stock hstock⟩

/-- Before the choices come a search finds a placeholder, and then only choices with a value. -/
theorem backed_of_mem_query [Engine] {term : String} (h : s ∈ f.query term) : f.Backed s := by
  unfold query at h
  split at h
  · cases h
  · rename_i control hc
    split at h
    · exact backed_of_isPlaceholder (by rw [List.mem_singleton.mp h]; rfl)
    · exact backed_of_isPlaceholder (by rw [List.mem_singleton.mp h]; rfl)
    · rename_i hl
      obtain ⟨c, i, hi, hs⟩ := mem_suggest h
      obtain ⟨hv, -, rfl⟩ := Suggestion.ofChoice?_eq_some_iff.mp hs
      refine fun _ => ⟨i, c, hl, rfl, ⟨control, hc, hi⟩, ?_, rfl⟩
      simpa [Choice.isEmpty] using hv

/-! ### The rows stored -/

def RowsBacked (f : Field) : Prop := ∀ s ∈ f.suggestions, f.Backed s

theorem RowsBacked.of_stock (h : f.RowsBacked) (hs : g.suggestions = f.suggestions)
    (hstock : g.stock = f.stock) : g.RowsBacked := by
  intro s hsg
  rw [hs] at hsg
  exact (h s hsg).of_stock hstock

theorem RowsBacked.search [Engine] (h : f.RowsBacked) (term : String) : (f.search term).RowsBacked := by
  cases hd : f.isDestroyed with
  | true => rw [search_of_destroyed hd]; exact h
  | false =>
    intro s hs
    rw [search_of_live hd] at hs
    exact (backed_of_mem_query hs).of_stock (stock_search f term)

theorem RowsBacked.commit (h : f.RowsBacked) (text : String) : (f.commit text).RowsBacked := by
  refine h.of_stock ?_ (stock_commit f text)
  cases hd : f.isDestroyed with
  | true => rw [commit_of_destroyed hd]
  | false =>
    obtain ⟨control, hc⟩ := exists_control hd
    rw [commit_of_live hc]

theorem RowsBacked.told [Engine] (h : f.RowsBacked) (outcome : Source.Outcome) :
    (f.after (Mounted.told outcome)).RowsBacked := by
  rcases late_or_loading f with hlate | ⟨control, hc, hl⟩
  · rw [after_told_of_late hlate]; exact h
  -- what was stored before are placeholders, to which the new list does not matter
  · have hold : ∀ control load, (f.renewed control load).RowsBacked := fun control load s hs =>
      backed_of_isPlaceholder ((h s hs).isPlaceholder (ne_loaded_of_loading hl))
    rw [after_told hc hl]
    cases ho : f.menuOpen with
    | true => rw [arrive_of_open ho]; exact (hold _ _).search f.text
    | false => rw [arrive_of_closed ho]; exact hold _ _

theorem rowsBacked_picked {e : Selected} (h : f.RowsBacked) (hg : f.pick? s = some (g, e)) :
    g.RowsBacked := by
  refine h.of_stock ?_ (stock_picked hg)
  obtain ⟨_, _, _, _, _, _, _, rfl⟩ := pick?_eq_some_iff.mp hg
  rfl

theorem kept_rowsBacked [Engine] : Kept RowsBacked where
  typed _ _ _ h := h.of_stock rfl rfl
  marked _ _ _ _ _ h := h.of_stock rfl rfl
  closed _ h := h.of_stock rfl rfl
  searched _ term h := h.search term
  committed _ text h := h.commit text
  picked _ _ _ _ hg h := rowsBacked_picked h hg
  populated _ choices h := h.told (.ok choices)
  failed _ failure h := h.told (.error failure)
  destroyed _ _ _ hs := absurd hs List.not_mem_nil

theorem rowsBacked_run_mount [Engine] (control : Select) (settings : Settings) (serial : Nat)
    (ops : List Op) : ((mount control settings serial).run ops).RowsBacked :=
  kept_rowsBacked.run ops fun _ hs => absurd hs List.not_mem_nil

/-! ### Picking one -/

/-- The choice `c` at position `i` is selected, and its text is in the input. -/
structure Shows (f : Field) (i : Nat) (c : Choice) : Prop where
  selected : ∃ control, f.control = some control ∧ control.selected = some i ∧
    control.choices[i]? = some c
  choice : f.choice? = some c
  value : f.value = c.value
  text : f.text = displayText c.label

theorem shows_of_selected {control : Select} (hc : f.control = some control)
    (hs : control.selected = some i) (hi : control.choices[i]? = some c)
    (ht : f.text = displayText c.label) : f.Shows i c := by
  have hchoice : control.choice? = some c := by simp [Select.choice?, hs, hi]
  refine ⟨⟨control, hc, hs, hi⟩, ?_, ?_, ht⟩
  · rw [choice?, hc]; exact hchoice
  · simp [value, hc, Select.value, hchoice]

theorem pick?_of_isPlaceholder (h : s.isPlaceholder = true) : f.pick? s = none := by
  have hs : s.choice = none := by simpa [Suggestion.isPlaceholder] using h
  simp [pick?, hs]

theorem Backs.pick (h : f.Backs s i c) : ∃ g, f.pick? s = some (g, ⟨f.id, i, c⟩) ∧ g.Shows i c := by
  obtain ⟨control, hc, hi⟩ := h.offered
  exact ⟨_, pick?_eq_some_iff.mpr ⟨i, control, c, h.position, hc, hi, rfl, rfl⟩,
    shows_of_selected rfl rfl hi h.text⟩

theorem act_pickAt_of_none [Engine] {p : Nat} (h : f.pickAt? p = none) :
    (act (.pickAt p) f).reply = .flag false := by
  simp [act, h]

theorem act_pickAt_of_some [Engine] {p : Nat} {e : Selected} (h : f.pickAt? p = some (g, e)) :
    act (.pickAt p) f = ⟨g, .flag true, some e, false⟩ := by
  simp [act, h]

/-- Rows stored stand for choices, so that picking by position does what the row says: it succeeds
exactly at a row that is no placeholder, and selects the choice of that row. -/
structure Anchored [Engine] (f : Field) : Prop where
  rows : ∀ s ∈ f.suggestions, s.isPlaceholder = false → ∃ i c, f.Backs s i c
  reply : ∀ p, (act (.pickAt p) f).reply = .flag true ↔
    ∃ s, f.suggestions[p]? = some s ∧ s.isPlaceholder = false
  picked : ∀ p s, f.suggestions[p]? = some s → s.isPlaceholder = false →
    ∃ i c, f.Backs s i c ∧ (f.after (.pickAt p)).Shows i c
  unloaded : f.load ≠ .loaded → ∀ p, (act (.pickAt p) f).reply = .flag false

theorem pickAt?_of_isPlaceholder {p : Nat}
    (h : ∀ s, f.suggestions[p]? = some s → s.isPlaceholder = true) : f.pickAt? p = none := by
  unfold pickAt?
  cases hs : f.suggestions[p]? with
  | none => rfl
  | some s => exact pick?_of_isPlaceholder (h s hs)

theorem Backs.pickAt [Engine] {p : Nat} (h : f.Backs s i c) (hp : f.suggestions[p]? = some s) :
    (act (.pickAt p) f).reply = .flag true ∧ (f.after (.pickAt p)).Shows i c := by
  obtain ⟨g, hg, hshows⟩ := h.pick
  have hact := act_pickAt_of_some (p := p) (by rw [pickAt?, hp]; exact hg)
  exact ⟨by rw [hact], by rw [after, hact]; exact hshows⟩

theorem RowsBacked.anchored [Engine] (h : f.RowsBacked) : f.Anchored where
  rows := h
  reply p := by
    constructor
    · intro hr
      by_contra hnone
      have hplace : ∀ s, f.suggestions[p]? = some s → s.isPlaceholder = true := fun s hs =>
        Bool.eq_true_of_not_eq_false fun hfalse => hnone ⟨s, hs, hfalse⟩
      rw [act_pickAt_of_none (pickAt?_of_isPlaceholder hplace)] at hr
      cases hr
    · rintro ⟨s, hs, hplace⟩
      obtain ⟨i, c, hb⟩ := h s (List.mem_of_getElem? hs) hplace
      exact (hb.pickAt hs).1
  picked p s hs hplace := by
    obtain ⟨i, c, hb⟩ := h s (List.mem_of_getElem? hs) hplace
    exact ⟨i, c, hb, (hb.pickAt hs).2⟩
  unloaded hl p := act_pickAt_of_none (pickAt?_of_isPlaceholder fun s hs =>
    (h s (List.mem_of_getElem? hs)).isPlaceholder hl)

/-- No row stored ever dangles: after every run of operations, and in every history of a mounted
field, it stands for a choice of the list there is or is a placeholder, and picking by position
answers and selects accordingly, up to what handlers then do. -/
theorem anchored_rows [Engine] (control : Select) (settings : Settings) (serial : Nat) :
    (∀ ops, ((mount control settings serial).run ops).Anchored) ∧
    ∀ {ω : Type} (fetch running) (m m' : Mounted ω) (events),
      Mounted.create control settings fetch running serial = .ok m →
      m.history events = some m' → m'.field.Anchored ∧
        ∀ p reply m'', m'.perform (.pickAt p) = some (reply, m'') →
          reply = (act (.pickAt p) m'.field).reply := by
  refine ⟨fun ops => (rowsBacked_run_mount control settings serial ops).anchored,
    fun fetch running m m' events hm h => ⟨?_, fun p reply m'' hp => ?_⟩⟩
  · obtain ⟨ops, hops⟩ := Mounted.exists_run_of_create hm h
    rw [hops]
    exact (rowsBacked_run_mount control settings serial ops).anchored
  · exact Mounted.reply_of_perform hp

section
attribute [local instance] Engine.unlimited

/-- A row left over on a closed menu, and a pick of it that a handler answers by destroying the
field. -/
theorem anchored_rows_left_over :
    let ops : List Op := [.focus, .populate [⟨"<b>Red</b>", "r"⟩], .blur]
    let f := (mount (.new "color") {} 0).run ops
    (f.Anchored ∧ f.menuOpen = false ∧ ∃ s i c, f.suggestions[0]? = some s ∧
      s.isPlaceholder = false ∧ f.Backs s i c ∧ (f.after (.pickAt 0)).Shows i c) ∧
    ∃ m m' m'' : Mounted Unit, ∃ reply,
      Mounted.create (.new "color") {} .waiting true 0 = .ok m ∧
      m.history (ops.map .perform ++ [.listen fun _ => .call .destroy fun _ => .done]) = some m' ∧
      m'.field.Anchored ∧ m'.perform (.pickAt 0) = some (reply, m'') ∧
      reply = (act (.pickAt 0) m'.field).reply ∧ m''.field.isDestroyed = true := by
  intro ops f
  obtain ⟨hruns, hhistories⟩ := anchored_rows (.new "color") {} 0
  obtain ⟨s, hs, hplace⟩ : ∃ s, f.suggestions[0]? = some s ∧ s.isPlaceholder = false :=
    ⟨_, rfl, rfl⟩
  obtain ⟨i, c, hb, hshows⟩ := (hruns ops).picked 0 s hs hplace
  obtain ⟨m, hm, m', h, reply, m'', hp, hd⟩ : ∃ m : Mounted Unit,
      Mounted.create (.new "color") {} .waiting true 0 = .ok m ∧ ∃ m',
      m.history (ops.map .perform ++ [.listen fun _ => .call .destroy fun _ => .done]) = some m' ∧
      ∃ reply m'', m'.perform (.pickAt 0) = some (reply, m'') ∧ m''.field.isDestroyed = true :=
    ⟨_, rfl, _, rfl, _, _, rfl, rfl⟩
  obtain ⟨hanchored, hreply⟩ := hhistories .waiting true m m' _ hm h
  exact ⟨⟨hruns ops, rfl, s, i, c, hs, hplace, hb, hshows⟩, m, m', m'', reply, hm, h, hanchored, hp,
    hreply 0 reply m'' hp, hd⟩

end

end Field
end Typeahead
