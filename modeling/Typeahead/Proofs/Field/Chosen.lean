import Typeahead.Proofs.Field.Rows

/-!
# The text follows the choice

Once the choices are there, a commit or a pick selects one of them and puts its text into the input
(`exists_shows_commit`, `Backs.pick`): a commit that finds nothing selects the empty choice in front,
which shows nothing. From then on the text is that of the choice selected, unless it is being typed
(`follows_run`), and the next commit or pick settles what was typed. Rows from elsewhere may say
anything; so the picks are those of rows that the field itself has let out.
-/

namespace Typeahead
namespace Field
variable {f g : Field} {s : Suggestion} {i : Nat} {c : Choice}

/-! ### Rows let out -/

section
variable [Engine]

/-- The field has let the row out by the end of a run: it was stored at some point, or was there to
answer some term. -/
def Returned (f : Field) (ops : List Op) (s : Suggestion) : Prop :=
  ∃ before, before <+: ops ∧
    (s ∈ (f.run before).suggestions ∨ ∃ term, s ∈ (f.run before).query term)

/-- After the run `before`, all rows picked have been let out when they are picked. -/
def PicksReturned (f : Field) (before : List Op) : List Op → Prop
  | [] => True
  | op :: later =>
    (∀ s, op = .pick s → f.Returned before s) ∧ f.PicksReturned (before ++ [op]) later

theorem Backed.after (h : f.Backed s) {op : Op} (hop : op ≠ .destroy) : (f.after op).Backed s := by
  rcases stock_after f op with heq | ⟨_, _, _, hl, -, -⟩ | ⟨rfl, -⟩
  · exact h.of_stock heq
  -- what was let out before the choices came is a placeholder
  · exact backed_of_isPlaceholder (h.isPlaceholder (ne_loaded_of_loading hl))
  · exact absurd rfl hop

theorem Backed.run (h : f.Backed s) {ops : List Op} (hd : (f.run ops).isDestroyed = false) :
    (f.run ops).Backed s := by
  induction ops generalizing f with
  | nil => exact h
  | cons op ops ih =>
    refine ih (h.after ?_) hd
    rintro rfl
    rw [run_cons, isDestroyed_run rfl ops] at hd; cases hd

theorem Returned.backed {control : Select} {settings : Settings} {serial : Nat} {ops : List Op}
    (h : (mount control settings serial).Returned ops s)
    (hd : ((mount control settings serial).run ops).isDestroyed = false) :
    ((mount control settings serial).run ops).Backed s := by
  obtain ⟨before, ⟨later, rfl⟩, hs⟩ := h
  have hback : ((mount control settings serial).run before).Backed s := by
    rcases hs with hs | ⟨term, hs⟩
    · exact rowsBacked_run_mount control settings serial before s hs
    · exact backed_of_mem_query hs
  rw [run_append] at hd ⊢
  exact hback.run hd

end

/-! ### Choosing -/

theorem exists_shows_of_choice? {control : Select} (hc : f.control = some control)
    (h : control.choice? = some c) (ht : f.text = displayText c.label) : ∃ i c, f.Shows i c := by
  obtain ⟨i, hs, hi⟩ := Option.bind_eq_some_iff.mp h
  exact ⟨i, c, shows_of_selected hc hs hi ht⟩

/-- A commit selects what it finds, and else the empty choice in front. -/
theorem exists_shows_commit [Engine] {choices : List Choice} (hd : f.isDestroyed = false)
    (h : Holds (.none :: choices) f) (text : String) : ∃ i c, (f.commit text).Shows i c := by
  obtain ⟨control, hc⟩ := exists_control hd
  have hchoices := h.offered control hc
  cases hf : control.choices.find? (·.value = text) with
  | some c =>
    rw [commit_of_found hc hf]
    have hchoice : (control.setValue text).choice? = some c := by
      rw [Select.choice?_setValue, hf]
    exact exists_shows_of_choice? rfl hchoice rfl
  -- clearing looks for the first choice without a value, and that is the one in front
  | none =>
    rw [commit_of_missed hc hf]
    have hchoice : control.clear.choice? = some Choice.none := by
      rw [Select.clear, Select.choice?_setValue, hchoices]
      exact List.find?_cons_of_pos (by decide)
    exact exists_shows_of_choice? rfl hchoice displayText_empty.symm

theorem exists_shows_blur [Engine] {choices : List Choice} (hd : f.isDestroyed = false)
    (h : Holds (.none :: choices) f) (he : f.edited = true) : ∃ i c, f.blur.Shows i c := by
  rw [blur_of_edited he]
  exact exists_shows_commit (f := { f with focused := false, menuOpen := false, dirty := true }) hd
    ⟨h.loaded, h.offered, h.released⟩ f.text

theorem shows_of_pick? {e : Selected} (h : f.Backed s) (hg : f.pick? s = some (g, e)) :
    ∃ i c, g.Shows i c := by
  cases hs : s.isPlaceholder with
  | true => rw [pick?_of_isPlaceholder hs] at hg; cases hg
  | false =>
    obtain ⟨i, c, hb⟩ := h hs
    obtain ⟨g', hg', hshows⟩ := hb.pick
    rw [hg', Option.some.injEq, Prod.mk.injEq] at hg
    obtain ⟨rfl, -⟩ := hg
    exact ⟨i, c, hshows⟩

/-! ### Following -/

/-- The text is that of the choice selected, unless it is being typed. -/
def Follows (f : Field) : Prop := f.edited = false → ∃ i c, f.Shows i c

theorem follows_of_shows (h : ∃ i c, f.Shows i c) : f.Follows := fun _ => h

theorem Follows.of_eq (h : f.Follows) (hc : g.control = f.control) (ht : g.text = f.text)
    (he : g.edited = f.edited) : g.Follows := by
  intro hg
  rw [he] at hg
  obtain ⟨i, c, ⟨control, hcf, hs, hi⟩, -, -, htext⟩ := h hg
  exact ⟨i, c, shows_of_selected (hc.trans hcf) hs hi (ht.trans htext)⟩

section
variable [Engine]

theorem Follows.search (h : f.Follows) (term : String) : (f.search term).Follows := by
  cases hd : f.isDestroyed with
  | true => rw [search_of_destroyed hd]; exact h
  | false => rw [search_of_live hd]; exact h.of_eq rfl rfl rfl

theorem follows_input (hd : f.isDestroyed = false) (text : String) : (f.input text).Follows := by
  have hedited : (f.input text).edited = true := by
    by_cases hl : f.lastTerm = some text
    · rw [input_of_skip hd hl]; rfl
    · rw [input_of_search hd hl, search_of_live (by exact hd)]; rfl
  intro he
  rw [hedited] at he; cases he

theorem Follows.toggleClick (h : f.Follows) : f.toggleClick.Follows := by
  unfold Field.toggleClick
  split
  · exact h
  · split
    · exact h.of_eq rfl rfl rfl
    · exact Follows.search (f := { f with focused := true, focusRequested := true })
        (h.of_eq rfl rfl rfl) ""

theorem Follows.blur {choices : List Choice} (hd : f.isDestroyed = false)
    (hh : Holds (.none :: choices) f) (h : f.Follows) : f.blur.Follows := by
  cases he : f.edited with
  | true => exact follows_of_shows (exists_shows_blur hd hh he)
  | false => rw [blur_of_unedited he]; exact h.of_eq rfl rfl rfl

theorem Follows.pick (h : f.Follows) (hb : f.Backed s) : (f.after (.pick s)).Follows := by
  rcases after_pick f s with heq | ⟨e, he⟩
  · rw [heq]; exact h
  · exact follows_of_shows (shows_of_pick? hb he)

theorem follows_after {choices : List Choice} (hd : f.isDestroyed = false)
    (hh : Holds (.none :: choices) f) (hrows : f.RowsBacked) {op : Op} (hop : op ≠ .destroy)
    (hpick : ∀ s, op = .pick s → f.Backed s) (h : f.Follows) : (f.after op).Follows := by
  have hne := ne_loading_of_loaded hh.loaded
  -- only commits and picks write the selection, and they write its text; typing sets the mark
  cases op with
  | input text => exact follows_input hd text
  | focus =>
    rw [after_focus, focus_of_live hd]
    exact Follows.search (f := { f with focused := true }) (h.of_eq rfl rfl rfl) f.text
  | blur => exact h.blur hd hh
  | commit text => exact follows_of_shows (exists_shows_commit hd hh text)
  | pick s => exact h.pick (hpick s rfl)
  | pickAt position =>
    rcases after_pickAt f position with heq | ⟨s, hs, heq⟩
    · rw [heq]; exact h
    · rw [heq]; exact h.pick (hrows s hs)
  | togglePress => exact h.of_eq rfl rfl rfl
  | toggleClick => exact h.toggleClick
  | query _ => exact h
  | search term => exact h.search term
  | populate choices =>
    have heq : f.after (.populate choices) = f := after_told_of_late (.inr hne) (.ok choices)
    rw [heq]; exact h
  | fail failure =>
    have heq : f.after (.fail failure) = f := after_told_of_late (.inr hne) (.error failure)
    rw [heq]; exact h
  | takeFocusRequest => exact h.of_eq rfl rfl rfl
  | clearDirty => exact h.of_eq rfl rfl rfl
  | destroy => exact absurd rfl hop

theorem follows_run {control : Select} {settings : Settings} {serial : Nat} {before later : List Op}
    (hd : ((mount control settings serial).run before).isDestroyed = false)
    (hl : ((mount control settings serial).run before).load = .loaded) (hlater : .destroy ∉ later)
    (hpicks : (mount control settings serial).PicksReturned before later)
    (h : ((mount control settings serial).run before).Follows) :
    ((mount control settings serial).run (before ++ later)).Follows := by
  induction later generalizing before with
  | nil => rwa [List.append_nil]
  | cons op later ih =>
    obtain ⟨hpick, hpicks⟩ := hpicks
    have hop : op ≠ .destroy := fun heq => hlater (heq ▸ List.mem_cons_self)
    obtain ⟨choices, hh⟩ := exists_holds_of_loaded control settings serial hl
    have hd' : ((mount control settings serial).run (before ++ [op])).isDestroyed = false := by
      rw [run_append]; exact isDestroyed_after hd hop
    have hl' : ((mount control settings serial).run (before ++ [op])).load = .loaded := by
      rw [run_append]; exact (load_run (.inl (ne_loading_of_loaded hl)) [op]).trans hl
    have hstep : ((mount control settings serial).run (before ++ [op])).Follows := by
      rw [run_append]
      exact follows_after hd hh (rowsBacked_run_mount control settings serial before) hop
        (fun s hs => (hpick s hs).backed hd) h
    have hrun := ih hd' hl' (fun hmem => hlater (List.mem_cons_of_mem op hmem)) hpicks hstep
    rwa [List.append_assoc] at hrun

/-! ### After the first choice -/

/-- After the run `before` the operation is a choice: text is committed, or a row that the field has
let out is picked with success. -/
def Chooses (f : Field) (before : List Op) : Op → Prop
  | .commit _ => True
  | .blur => (f.run before).edited = true
  | .pick s => f.Returned before s ∧ (act (.pick s) (f.run before)).reply = .flag true
  | .pickAt position => (act (.pickAt position) (f.run before)).reply = .flag true
  | _ => False

theorem Chooses.isUse {before : List Op} {op : Op} (h : f.Chooses before op) : op.isUse = true := by
  cases op with
  | populate _ | fail _ | destroy => exact False.elim h
  | _ => rfl

theorem exists_pick?_of_reply (h : (act (.pick s) f).reply = .flag true) :
    ∃ e, f.pick? s = some (f.after (.pick s), e) := by
  rcases after_pick f s with heq | he
  · cases hp : f.pick? s with
    | none => simp [act, hp] at h
    | some r => exact ⟨r.2, by simp [after, act, hp]⟩
  · exact he

theorem Chooses.exists_shows {control : Select} {settings : Settings} {serial : Nat}
    {before : List Op} {op : Op} (h : (mount control settings serial).Chooses before op)
    (hd : ((mount control settings serial).run before).isDestroyed = false)
    (hl : ((mount control settings serial).run before).load = .loaded) :
    ∃ i c, (((mount control settings serial).run before).after op).Shows i c := by
  obtain ⟨choices, hh⟩ := exists_holds_of_loaded control settings serial hl
  have hrows := rowsBacked_run_mount control settings serial before
  cases op with
  | commit text => exact exists_shows_commit hd hh text
  | blur =>
    have hedited : ((mount control settings serial).run before).edited = true := h
    exact exists_shows_blur hd hh hedited
  | pick s =>
    obtain ⟨hreturned, hreply⟩ := h
    obtain ⟨e, he⟩ := exists_pick?_of_reply hreply
    exact shows_of_pick? (hreturned.backed hd) he
  | pickAt position =>
    have hanchored := hrows.anchored
    obtain ⟨s, hs, hplace⟩ := (hanchored.reply position).mp h
    obtain ⟨i, c, -, hshows⟩ := hanchored.picked position s hs hplace
    exact ⟨i, c, hshows⟩
  | _ => exact False.elim h

/-- From the first choice on that is made while the choices are there, the text follows the
selection: in whatever state a run then comes to, with picks of rows that the field has let out, if
nothing has been typed since the last choice, some choice is selected and its text is in the
input. -/
theorem shows_of_chosen (control : Select) (settings : Settings) (serial : Nat) (before : List Op)
    (choice : Op) (later : List Op)
    (hd : ((mount control settings serial).run (before ++ [choice])).isDestroyed = false)
    (hl : ((mount control settings serial).run (before ++ [choice])).load = .loaded)
    (hchoice : (mount control settings serial).Chooses before choice) (hlater : .destroy ∉ later)
    (hpicks : (mount control settings serial).PicksReturned (before ++ [choice]) later)
    (hedited : ((mount control settings serial).run (before ++ choice :: later)).edited = false) :
    ∃ i c, ((mount control settings serial).run (before ++ choice :: later)).Shows i c := by
  have hfollows : ((mount control settings serial).run (before ++ [choice])).Follows := by
    rw [run_append] at hd hl ⊢
    have hstock : (((mount control settings serial).run before).after choice).stock =
        ((mount control settings serial).run before).stock := stock_after_of_isUse hchoice.isUse
    refine follows_of_shows (hchoice.exists_shows ?_ ?_)
    · rw [← isDestroyed_of_stock hstock]; exact hd
    · exact (congrArg Prod.fst hstock).symm.trans hl
  have hrun := follows_run hd hl hlater hpicks hfollows
  rw [List.append_assoc] at hrun
  exact hrun hedited

end

section
attribute [local instance] Engine.unlimited

/-- A commit that finds nothing; then text typed and left, and a pick of a row that an earlier search
found, over a list that comes too late. -/
theorem shows_of_chosen_late_pick :
    let f := mount (.new "color") {} 0
    let before : List Op := [.populate [⟨"<b>Red</b>", "r"⟩, ⟨"Blue", "b"⟩], .search ""]
    let miss : Op := .commit "red"
    let row : Suggestion := ⟨"<b>Red</b>", "Red", some 1⟩
    let later : List Op := [.input "b", .blur, .input "x", .pick row, .populate [], .toggleClick]
    (f.run (before ++ [miss])).isDestroyed = false ∧ (f.run (before ++ [miss])).load = .loaded ∧
      f.Chooses before miss ∧ .destroy ∉ later ∧ f.PicksReturned (before ++ [miss]) later ∧
      (f.run (before ++ miss :: later)).edited = false ∧
      ∃ i c, (f.run (before ++ miss :: later)).Shows i c := by
  intro f before miss row later
  have hrow : row ∈ (f.run before).suggestions := by
    have hrows : (f.run before).suggestions = [row, ⟨"Blue", "Blue", some 2⟩] := by cbv
    rw [hrows]; exact List.mem_cons_self
  have hreturned : ∀ ops, f.Returned (before ++ ops) row := fun ops =>
    ⟨before, List.prefix_append before ops, .inl hrow⟩
  have hpicks : f.PicksReturned (before ++ [miss]) later := by
    have hpick : ∀ s, Op.pick row = .pick s →
        f.Returned (before ++ [miss, .input "b", .blur, .input "x"]) s := fun s h =>
      Op.pick.inj h ▸ hreturned _
    exact ⟨fun _ h => Op.noConfusion h, fun _ h => Op.noConfusion h, fun _ h => Op.noConfusion h,
      hpick, fun _ h => Op.noConfusion h, fun _ h => Op.noConfusion h, trivial⟩
  have hlater : .destroy ∉ later := by decide
  have hedited : (f.run (before ++ miss :: later)).edited = false := rfl
  exact ⟨rfl, rfl, trivial, hlater, hpicks, hedited,
    shows_of_chosen (.new "color") {} 0 before miss later rfl rfl trivial hlater hpicks hedited⟩

end

end Field
end Typeahead
