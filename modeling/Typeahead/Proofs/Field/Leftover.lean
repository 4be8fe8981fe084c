import Typeahead.Proofs.Field.Commit

/-!
# What a closed menu leaves behind

The menu closes in two ways. A search that finds nothing stores that it found nothing. Leaving the
input, the toggle and a pick only shut it, and the rows stay stored (`shuts_after`). So the rows of a
closed menu are none, or those of the menu that was open last, shut since in one of these ways
(`shutSince_or_empty`).

A pick by position asks for the row stored there and not whether it can be seen. Hence a closed menu
refuses exactly where no row stands for a choice; any other position can be picked, which selects and
announces the choice, and as often as the host asks (`leftover_rows`).
-/

namespace Typeahead

namespace Field
variable {f g : Field} {op : Op} {ops : List Op} {p : Nat} {e : Selected}

/-! ### How a menu closes -/

/-- The operations that can close a menu without a search. -/
def Op.isShutting : Op → Bool
  | .blur | .toggleClick | .pick _ | .pickAt _ => true
  | _ => false

section
variable [Engine]

/-- The operation leaves no rows, or the rows as they were; if they could be seen, it is one that shuts
the menu. -/
def Shuts (f : Field) (op : Op) : Prop :=
  (f.after op).suggestions = [] ∨
    (f.after op).suggestions = f.suggestions ∧ (f.menuOpen = true → op.isShutting = true)

theorem suggestions_search_of_closed (hd : f.isDestroyed = false) {term : String}
    (ho : (f.search term).menuOpen = false) : (f.search term).suggestions = [] := by
  rw [search_of_live hd] at ho ⊢
  simpa using ho

theorem shuts_of_eq (heq : f.after op = g) (hs : g.suggestions = f.suggestions)
    (hm : g.menuOpen = f.menuOpen) (ho : (f.after op).menuOpen = false) : f.Shuts op := by
  refine .inr ⟨by rw [heq, hs], fun hopen => ?_⟩
  rw [heq, hm, hopen] at ho; cases ho

theorem shuts_input (hd : f.isDestroyed = false) {text : String}
    (ho : (f.input text).menuOpen = false) : f.Shuts (.input text) := by
  by_cases hl : f.lastTerm = some text
  · exact shuts_of_eq (input_of_skip hd hl) rfl rfl ho
  · rw [input_of_search hd hl] at ho
    refine .inl ?_
    rw [after_input, input_of_search hd hl]
    exact suggestions_search_of_closed (by exact hd) ho

end

theorem suggestions_blur (f : Field) : f.blur.suggestions = f.suggestions := by
  cases he : f.edited with
  | true => rw [blur_of_edited he]; exact (sameMenu_commit _ f.text).suggestions
  | false => rw [blur_of_unedited he]

theorem suggestions_picked {s : Suggestion} (h : f.pick? s = some (g, e)) :
    g.suggestions = f.suggestions := by
  obtain ⟨_, _, _, _, _, _, _, rfl⟩ := pick?_eq_some_iff.mp h
  rfl

section
variable [Engine]

theorem suggestions_pick (f : Field) (s : Suggestion) :
    (f.after (.pick s)).suggestions = f.suggestions := by
  rcases after_pick f s with heq | ⟨e, he⟩
  · rw [heq]
  · exact suggestions_picked he

theorem suggestions_pickAt (f : Field) (p : Nat) :
    (f.after (.pickAt p)).suggestions = f.suggestions := by
  rcases after_pickAt f p with heq | ⟨s, -, heq⟩
  · rw [heq]
  · rw [heq]; exact suggestions_pick f s

theorem shuts_toggleClick (hd : f.isDestroyed = false) (ho : f.toggleClick.menuOpen = false) :
    f.Shuts .toggleClick := by
  unfold Shuts
  rw [after_toggleClick]
  unfold toggleClick at ho ⊢
  simp only [hd, Bool.false_eq_true, ↓reduceIte] at ho ⊢
  split
  · exact .inr ⟨rfl, fun _ => rfl⟩
  · rename_i hw
    rw [if_neg hw] at ho
    exact .inl (suggestions_search_of_closed (by exact hd) ho)

/-- The end of the load searches an open menu again and leaves a closed one alone. -/
theorem shuts_told (outcome : Source.Outcome)
    (ho : (f.after (Mounted.told outcome)).menuOpen = false) : f.Shuts (Mounted.told outcome) := by
  rcases late_or_loading f with hlate | ⟨control, hc, hl⟩
  · exact shuts_of_eq (after_told_of_late hlate outcome) rfl rfl ho
  · have heq := after_told hc hl outcome
    cases hopen : f.menuOpen with
    | true =>
      rw [heq, arrive_of_open hopen] at ho
      refine .inl ?_
      rw [heq, arrive_of_open hopen]
      exact suggestions_search_of_closed rfl ho
    | false =>
      rw [arrive_of_closed hopen] at heq
      exact shuts_of_eq heq rfl rfl ho

theorem shuts_after (hd : f.isDestroyed = false) (hop : op ≠ .destroy)
    (ho : (f.after op).menuOpen = false) : f.Shuts op := by
  cases op with
  | input text => exact shuts_input hd ho
  | focus =>
    rw [after_focus, focus_of_live hd] at ho
    refine .inl ?_
    rw [after_focus, focus_of_live hd]
    exact suggestions_search_of_closed (by exact hd) ho
  | blur => exact .inr ⟨suggestions_blur f, fun _ => rfl⟩
  | commit text =>
    exact shuts_of_eq rfl (sameMenu_commit f text).suggestions (sameMenu_commit f text).menuOpen ho
  | pick s => exact .inr ⟨suggestions_pick f s, fun _ => rfl⟩
  | pickAt p => exact .inr ⟨suggestions_pickAt f p, fun _ => rfl⟩
  | toggleClick => exact shuts_toggleClick hd ho
  | search term => exact .inl (suggestions_search_of_closed hd ho)
  | populate choices => exact shuts_told (.ok choices) ho
  | fail failure => exact shuts_told (.error failure) ho
  | togglePress | query _ | takeFocusRequest | clearDirty => exact shuts_of_eq rfl rfl rfl ho
  | destroy => exact absurd rfl hop

/-- In the run `ops` of the field `f` the menu was open with the rows that are stored at its end; then
it was shut, and it has been closed ever since. -/
def ShutSince (f : Field) (ops : List Op) : Prop :=
  ∃ before op later, ops = before ++ op :: later ∧ op.isShutting = true ∧
    (f.run before).menuOpen = true ∧ (f.run before).suggestions = (f.run ops).suggestions ∧
    ∀ later', later' <+: later → (f.run (before ++ op :: later')).menuOpen = false

theorem ShutSince.snoc (h : f.ShutSince ops)
    (hs : (f.run (ops ++ [op])).suggestions = (f.run ops).suggestions)
    (ho : (f.run (ops ++ [op])).menuOpen = false) : f.ShutSince (ops ++ [op]) := by
  obtain ⟨before, shut, later, rfl, hshut, hopen, hrows, hclosed⟩ := h
  have hsplit : before ++ shut :: later ++ [op] = before ++ shut :: (later ++ [op]) := by simp
  refine ⟨before, shut, later ++ [op], hsplit, hshut, hopen, hrows.trans hs.symm, fun later' hpre => ?_⟩
  rcases List.prefix_concat_iff.mp hpre with rfl | hpre
  · rwa [hsplit] at ho
  · exact hclosed later' hpre

theorem shutSince_or_empty (hrows : f.suggestions = []) (hd : (f.run ops).isDestroyed = false)
    (ho : (f.run ops).menuOpen = false) : (f.run ops).suggestions = [] ∨ f.ShutSince ops := by
  induction ops using List.reverseRecOn with
  | nil => exact .inl hrows
  | append_singleton ops op ih =>
    have hlast : f.run (ops ++ [op]) = (f.run ops).after op := run_append f ops [op]
    have hlive : (f.run ops).isDestroyed = false := by
      by_contra hgone
      rw [run_append, isDestroyed_run (by simpa using hgone)] at hd
      cases hd
    have hop : op ≠ .destroy := by
      rintro rfl
      rw [hlast] at hd; cases hd
    rw [hlast] at ho
    rcases shuts_after hlive hop ho with hempty | ⟨hsame, hshut⟩
    · exact .inl (hlast ▸ hempty)
    · rw [← hlast] at hsame ho
      cases hopen : (f.run ops).menuOpen with
      | true =>
        refine .inr ⟨ops, op, [], rfl, hshut hopen, hopen, hsame.symm, fun later' hpre => ?_⟩
        rwa [List.prefix_nil.mp hpre]
      | false =>
        rcases ih hlive hopen with hempty | hsince
        · exact .inl (hsame.trans hempty)
        · exact .inr (hsince.snoc hsame ho)

end

/-! ### Picking again -/

theorem pickAt?_again (h : f.pickAt? p = some (g, e)) : g.pickAt? p = some (g, e) := by
  obtain ⟨s, hs, hpick⟩ := Option.bind_eq_some_iff.mp h
  have hrow : g.suggestions[p]? = some s := by rw [suggestions_picked hpick]; exact hs
  obtain ⟨i, control, c, hi, hc, hget, rfl, rfl⟩ := pick?_eq_some_iff.mp hpick
  rw [pickAt?, hrow]
  exact pick?_eq_some_iff.mpr ⟨i, { control with selected := some i }, c, hi, rfl, hget, rfl, rfl⟩

section
variable [Engine]

/-- Every repetition of a pick comes to the same as the first. -/
theorem act_pickAt_replicate (h : f.pickAt? p = some (g, e)) (n : Nat) :
    act (.pickAt p) (f.run (List.replicate n (.pickAt p))) = ⟨g, .flag true, some e, false⟩ := by
  induction n generalizing f with
  | zero => exact act_pickAt_of_some h
  | succ n ih =>
    have hfirst : f.after (.pickAt p) = g := congrArg Turn.state (act_pickAt_of_some h)
    rw [List.replicate_succ, run_cons, hfirst]
    exact ih (pickAt?_again h)

/-! ### Picks from a closed menu -/

/-- What the rows stored still do, seen or not. A position where no row stands for a choice is refused,
and nothing changes or is announced. At any other the choice of the row is selected and announced, and
so it is each time the position is picked again. -/
structure Leftover (f : Field) : Prop where
  refused : ∀ p, act (.pickAt p) f = ⟨f, .flag false, none, false⟩ ↔
    ∀ s, f.suggestions[p]? = some s → s.isPlaceholder = true
  picked : ∀ p s, f.suggestions[p]? = some s → s.isPlaceholder = false →
    ∃ i c g, f.Backs s i c ∧ g.Shows i c ∧ g.menuOpen = false ∧
      ∀ n, act (.pickAt p) (f.run (List.replicate n (.pickAt p))) =
        ⟨g, .flag true, some ⟨f.id, i, c⟩, false⟩
  unloaded : f.load ≠ .loaded → ∀ p, act (.pickAt p) f = ⟨f, .flag false, none, false⟩

theorem act_pickAt_of_isPlaceholder
    (h : ∀ s, f.suggestions[p]? = some s → s.isPlaceholder = true) :
    act (.pickAt p) f = ⟨f, .flag false, none, false⟩ := by
  simp [act, pickAt?_of_isPlaceholder h]

theorem RowsBacked.leftover (h : f.RowsBacked) : f.Leftover where
  refused p := by
    refine ⟨fun hact s hs => ?_, act_pickAt_of_isPlaceholder⟩
    by_contra hplace
    obtain ⟨i, c, hb⟩ := h s (List.mem_of_getElem? hs) (by simpa using hplace)
    have hreply := (hb.pickAt hs).1
    rw [hact] at hreply; cases hreply
  picked p s hs hplace := by
    obtain ⟨i, c, hb⟩ := h s (List.mem_of_getElem? hs) hplace
    obtain ⟨g, hpick, hshows⟩ := hb.pick
    have hat : f.pickAt? p = some (g, ⟨f.id, i, c⟩) := by rw [pickAt?, hs]; exact hpick
    refine ⟨i, c, g, hb, hshows, ?_, act_pickAt_replicate hat⟩
    obtain ⟨_, _, _, _, _, _, _, rfl⟩ := pick?_eq_some_iff.mp hpick
    rfl
  unloaded hl p := act_pickAt_of_isPlaceholder fun s hs =>
    (h s (List.mem_of_getElem? hs)).isPlaceholder hl

theorem Leftover.perform_eq_iff {ω : Type} {m : Mounted ω} (h : m.field.Leftover) (p : Nat) :
    m.perform (.pickAt p) = some (.flag false, m) ↔
      ∀ s, m.field.suggestions[p]? = some s → s.isPlaceholder = true := by
  constructor
  · intro hperform s hs
    by_contra hplace
    obtain ⟨i, c, g, -, -, -, hact⟩ := h.picked p s hs (by simpa using hplace)
    have hreply := (Mounted.reply_of_perform hperform).trans (congrArg Turn.reply (hact 0))
    cases hreply
  · intro hplace
    have hact := (h.refused p).mpr hplace
    change act (.pickAt p) m.stage.state = _ at hact
    simp only [Mounted.perform, Stage.perform, hact, Option.map_some]
    rfl

/-- A pick by position does not ask whether the menu is open. Whatever happened to a field, it is refused,
and leaves everything as it is, if and only if no row that stands for a choice is stored there; else it
overwrites selection and text and is announced, however often it is repeated. The rows that a closed
menu of a live field hides are none, or those of the menu that was open last and has been shut since. -/
theorem leftover_rows (control : Select) (settings : Settings) (serial : Nat) :
    (∀ ops, ((mount control settings serial).run ops).Leftover ∧
      (((mount control settings serial).run ops).isDestroyed = false →
        ((mount control settings serial).run ops).menuOpen = false →
        ((mount control settings serial).run ops).suggestions = [] ∨
          (mount control settings serial).ShutSince ops)) ∧
    ∀ {ω : Type} (fetch running) (m m' : Mounted ω) (events),
      Mounted.create control settings fetch running serial = .ok m →
      m.history events = some m' → m'.field.Leftover ∧
        ∀ p, m'.perform (.pickAt p) = some (.flag false, m') ↔
          ∀ s, m'.field.suggestions[p]? = some s → s.isPlaceholder = true := by
  have hrows := fun ops => (rowsBacked_run_mount control settings serial ops).leftover
  refine ⟨fun ops => ⟨hrows ops, shutSince_or_empty rfl⟩, fun fetch running m m' events hm h => ?_⟩
  obtain ⟨ops, hops⟩ := Mounted.exists_run_of_create hm h
  have hleft : m'.field.Leftover := hops ▸ hrows ops
  exact ⟨hleft, hleft.perform_eq_iff⟩

end

section
attribute [local instance] Engine.unlimited

/-- A text is typed that no choice has as its value, and the input is left, which clears it; then a row
of the menu that is gone is picked. And a handler hears twice of a row that is picked twice. -/
theorem leftover_rows_blurred :
    let choices : List Choice := [⟨"Red", "r"⟩, ⟨"Green", "g"⟩]
    let f := mount (.new "color") {} 0
    let ops : List Op := [.populate choices, .input "gr", .blur]
    let handler : Handler Field Op Reply Nat := fun e => .note e.index .done
    ((f.run ops).isDestroyed = false ∧ (f.run ops).menuOpen = false ∧ (f.run ops).Leftover ∧
      f.ShutSince ops ∧ (f.run ops).value = "" ∧ ((f.run ops).after (.pickAt 0)).value = "g") ∧
    ∃ m m' m'' : Mounted Nat, Mounted.create (.new "color") {} .waiting true 0 = .ok m ∧
      m.history [.perform (.populate choices), .listen handler, .perform .focus,
        .perform (.pickAt 0)] = some m' ∧
      m'.field.menuOpen = false ∧ m'.field.Leftover ∧
      m'.perform (.pickAt 0) ≠ some (.flag false, m') ∧
      m'.perform (.pickAt 0) = some (.flag true, m'') ∧ m'.stage.notes = [1] ∧
      m''.stage.notes = [1, 1] := by
  intro choices f ops handler
  obtain ⟨hruns, hhistories⟩ := leftover_rows (.new "color") {} 0
  have hd : (f.run ops).isDestroyed = false := by cbv
  have ho : (f.run ops).menuOpen = false := by cbv
  have hstored : (f.run ops).suggestions = [⟨"<strong>Gr</strong>een", "Green", some 2⟩] := by cbv
  have hrows : (f.run ops).suggestions ≠ [] := by rw [hstored]; exact List.cons_ne_nil _ _
  have hcleared : (f.run ops).value = "" := by cbv
  have hgreen : ((f.run ops).after (.pickAt 0)).value = "g" := by cbv
  obtain ⟨m, hm, m', h, hclosed, s, hs, hplace, m'', hperform, hnotes, hnotes'⟩ :
      ∃ m : Mounted Nat, Mounted.create (.new "color") {} .waiting true 0 = .ok m ∧ ∃ m',
      m.history [.perform (.populate choices), .listen handler, .perform .focus,
        .perform (.pickAt 0)] = some m' ∧ m'.field.menuOpen = false ∧
      ∃ s, m'.field.suggestions[0]? = some s ∧ s.isPlaceholder = false ∧
      ∃ m'', m'.perform (.pickAt 0) = some (.flag true, m'') ∧ m'.stage.notes = [1] ∧
        m''.stage.notes = [1, 1] :=
    ⟨_, rfl, _, rfl, rfl, _, rfl, rfl, _, rfl, rfl, rfl⟩
  obtain ⟨hleft, hrefused⟩ := hhistories .waiting true m m' _ hm h
  refine ⟨⟨hd, ho, (hruns ops).1, ((hruns ops).2 hd ho).resolve_left hrows, hcleared, hgreen⟩,
    m, m', m'', hm, h, hclosed, hleft, fun hno => ?_, hperform, hnotes, hnotes'⟩
  have hyes := (hrefused 0).mp hno s hs
  rw [hplace] at hyes; cases hyes

end

end Field
end Typeahead
