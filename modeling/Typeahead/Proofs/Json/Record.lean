import Typeahead.Json.Record
import Typeahead.Proofs.Json.Skip

/-!
# Reading values of a known type

What a reader makes of a value can be said of the tree, without the text: a text is what its signs
say (`Value.text?`), a list is its items (`Value.list?`), and a record is read off the members of an
object, or off a list (`Record.value?`). Each reader agrees with what is said of the tree, and is an
error where nothing is (`agrees_text`, `agrees_list`, `Record.agrees_reader`). Blanks, the order of
members and values that are passed over are thereby settled once.
-/

namespace Typeahead.Json
open Text

/-- The reader takes `f v` off a value `v`, or is an error if that is nothing. -/
def Agrees {α : Type} (r : Reader α) (f : Value → Option α) : Prop :=
  ∀ ⦃v : Value⦄ ⦃s rest : List Symbol⦄, Delimited rest →
    skipBlanks s = v.write.map .char ++ rest → Gives (f v) rest (run r s)

section
variable {α β : Type} {meant : Option α} {rest : List Symbol} {s t : List Symbol}

theorem Gives.read {e : Except Fault (Read α s)} (h : Gives meant rest (outcome e)) :
    (∃ err, meant = none ∧ e = .error err) ∨ ∃ x hx, meant = some x ∧ e = .ok ⟨x, rest, hx⟩ := by
  cases meant with
  | none =>
    obtain ⟨err, h⟩ := h
    exact .inl ⟨err, rfl, outcome_eq_error_iff.mp h⟩
  | some x =>
    obtain ⟨hx, h⟩ := outcome_eq_ok_iff.mp h
    exact .inr ⟨x, hx, rfl, h⟩

theorem gives_error (err : Fault) : Gives (none : Option α) rest (.error err) := ⟨err, rfl⟩

theorem Gives.map {e : Except Fault (Read α s)} (h : Gives meant rest (outcome e)) (f : α → β) :
    Gives (meant.map f) rest (outcome (e.map (·.map f))) := by
  obtain ⟨err, rfl, rfl⟩ | ⟨x, hx, rfl, rfl⟩ := h.read
  · exact gives_error err
  · rfl

end

theorem Agrees.map {α β : Type} {r : Reader α} {f : Value → Option α} (h : Agrees r f) (g : α → β) :
    Agrees (fun s => (r s).map (·.map g)) (fun v => (f v).map g) :=
  fun _ _ _ hrest hs => (h hrest hs).map g

/-! ### Which values begin with a quote or a bracket -/

namespace Value

theorem Begins.text_of_quote {v : Value} (h : v.Begins '"') : ∃ signs, v = text signs := by
  cases v with
  | text signs => exact ⟨signs, rfl⟩
  | _ => exact absurd h (by simp [Begins]; try decide)

theorem Begins.list_of_bracket {v : Value} (h : v.Begins '[') : ∃ b items, v = list b items := by
  cases v with
  | list b items => exact ⟨b, items, rfl⟩
  | _ => exact absurd h (by simp [Begins]; try decide)

theorem Begins.object_of_brace {v : Value} (h : v.Begins '\x7b') :
    ∃ b members, v = object b members := by
  cases v with
  | object b members => exact ⟨b, members, rfl⟩
  | _ => exact absurd h (by simp [Begins]; try decide)

end Value

/-! ### Texts -/

/-- The text that a value is. -/
def Value.text? : Value → Option String
  | text signs => (meaning? signs).map String.ofList
  | _ => none

theorem agrees_text : Agrees text Value.text? := by
  intro v s rest hrest hs
  obtain ⟨c, t, hw, hc⟩ := v.exists_write
  rw [text, run_afterBlanks, hs]
  by_cases hq : c = '"'
  · subst hq
    obtain ⟨signs, rfl⟩ := hc.text_of_quote
    rw [Value.write, inQuotes_append, run]
    simp only [eq_self, if_true, outcome_afterHead]
    exact gives_quoted signs rest
  · have hv : v.text? = none := by cases v <;> first | rfl | exact absurd hc hq
    rw [hv, hw, List.map_cons, List.cons_append, run]
    simp only [Symbol.char.injEq, hq, if_false]
    exact gives_error _

/-! ### Lists -/

/-- The items of a list, if `f` says something of each. -/
def Value.list? {α : Type} (f : Value → Option α) : Value → Option (List α)
  | list _ items => (items.map Padded.item).mapM f
  | _ => none

section
variable {α : Type} {r : Reader α} {f : Value → Option α} {s start rest : List Symbol} {first : Bool}

theorem run_listEnd (rest : List Symbol) : run listEnd (.char ']' :: rest) = .ok ((), rest) := rfl

theorem nextElement_nil (hs : skipBlanks s = skipBlanks (partsFrom .list first [] rest)) :
    ∃ h, nextElement first s = .ok (false, ⟨.char ']' :: rest, h⟩) := by
  rw [skipBlanks_partsFrom_nil] at hs
  obtain ⟨h, hread⟩ := exists_nonblank? hs
  exact ⟨h, by rw [nextElement, hread]; rfl⟩

theorem nextElement_cons {i : Padded Value} {ts : List (List Char)}
    (hs : skipBlanks s = skipBlanks (partsFrom .list first (i.text Value.write :: ts) rest)) :
    ∃ h, nextElement first s = .ok (true, ⟨i.item.write.map .char ++
      (i.after.chars.map .char ++ partsFrom .list false ts rest), h⟩) := by
  obtain ⟨c, t, hw, hc⟩ := i.item.exists_write
  have hne : c ≠ ']' := by rintro rfl; exact hc.not_delimiter (by decide)
  have hskip := skipBlanks_padded i (partsFrom .list false ts rest)
  rw [hw] at hskip ⊢
  cases first with
  | true =>
    rw [partsFrom_first, hskip] at hs
    obtain ⟨h, hread⟩ := exists_nonblank? hs
    exact ⟨h, by rw [nextElement, hread]; simp [hne]⟩
  | false =>
    rw [skipBlanks_partsFrom_next] at hs
    obtain ⟨h, hread⟩ := exists_nonblank? hs
    obtain ⟨h', hread'⟩ := exists_nonblank? hskip
    refine ⟨Nat.le_of_lt (Nat.lt_of_le_of_lt h' h), ?_⟩
    rw [nextElement, hread]
    simp [hread', hne]

theorem mapM_cons_of_some {v : Value} {vs : List Value} {x : α} (h : f v = some x) :
    (v :: vs).mapM f = (vs.mapM f).map (x :: ·) := by
  rw [List.mapM_cons, h]
  cases vs.mapM f <;> rfl

theorem mapM_cons_of_none {v : Value} {vs : List Value} (h : f v = none) :
    (v :: vs).mapM f = none := by
  rw [List.mapM_cons, h]
  rfl

/-- The items of a list are read one by one, each as `f` says. -/
theorem gives_elementsFrom (hr : Agrees r f) (items : List (Padded Value)) (seen : List α)
    (first : Bool) (hs : skipBlanks s =
      skipBlanks (partsFrom .list first (items.map (Padded.text Value.write)) rest))
    (h : s.length ≤ start.length) :
    Gives (((items.map Padded.item).mapM f).map (seen.reverse ++ ·)) rest
      (outcome (elementsFrom r start seen first s h)) := by
  induction items generalizing first seen s with
  | nil =>
    obtain ⟨h₁, hnext⟩ := nextElement_nil hs
    obtain ⟨h₂, hend⟩ := outcome_eq_ok_iff.mp (run_listEnd rest)
    rw [elementsFrom, hnext]
    simp [hend, Gives, Except.map, Read.map, Read.widen, outcome]
  | cons i items ih =>
    obtain ⟨h₁, hnext⟩ := nextElement_cons hs
    rw [elementsFrom, hnext]
    have hrest := (delimited_partsFrom .list (items.map (Padded.text Value.write)) rest).blanks
      i.after
    obtain ⟨e, hf, he⟩ | ⟨x, h₂, hf, hread⟩ := (hr hrest (i.item.skipBlanks_write _)).read
    · rw [List.map_cons, mapM_cons_of_none hf]
      simp only [he]
      exact gives_error e
    · have hnext := ih (x :: seen) false (skipBlanks_blanks i.after _) (by omega)
      rw [List.map_cons, mapM_cons_of_some hf]
      simp only [hread]
      simpa [Function.comp_def] using hnext

theorem agrees_list (hr : Agrees r f) : Agrees (list r) (Value.list? f) := by
  intro v s rest hrest hs
  obtain ⟨c, t, hw, hc⟩ := v.exists_write
  rw [list, run_afterBlanks, hs]
  by_cases hq : c = '['
  · subst hq
    obtain ⟨b, items, rfl⟩ := hc.list_of_bracket
    rw [Value.list_append, run]
    simp only [eq_self, if_true, outcome_afterHead]
    simpa [Value.list?] using gives_elementsFrom hr items [] true
      (skipBlanks_blanks b _) (length_le_self _)
  · have hv : v.list? f = none := by cases v <;> first | rfl | exact absurd hc hq
    rw [hv, hw, List.map_cons, List.cons_append, run]
    simp only [Symbol.char.injEq, hq, if_false]
    exact gives_error _

end

/-! ### Records -/

namespace Record
variable {α : Type} (rec : Record α) (sense : String → Value → Option (α → α))

/-- The names of the members. -/
def names : List String := rec.members.map Member.name

/-- What the members of an object make of a record, those in `given` read before. `sense` tells what
a value makes of the member of that name. -/
def ofMembers? (given : List String) (value : α) : List (Named Value) → Option α
  | [] => if rec.complete ∧ (rec.missing? given).isSome then none else some value
  | m :: ms =>
    match m.name? with
    | none => none
    | some key =>
      if key ∈ rec.names then
        if key ∈ given then none
        else
          match sense key m.value.item with
          | none => none
          | some f => ofMembers? (key :: given) (f value) ms
      else ofMembers? given value ms

/-- What the items of a list make of a record, as its members in their own order. -/
def ofItems? (value : α) : List (Member α) → List Value → Option α
  | [], [] => some value
  | [], _ :: _ => none
  | _ :: _, [] => if rec.complete then none else some value
  | m :: ms, v :: vs =>
    match sense m.name v with
    | none => none
    | some f => ofItems? (f value) ms vs

/-- The record that a value is. -/
def value? : Value → Option α
  | .list _ items => rec.ofItems? sense rec.blank rec.members (items.map Padded.item)
  | .object _ members => rec.ofMembers? sense [] rec.blank members
  | _ => none

variable {rec sense} {start s rest : List Symbol} {first : Bool}

theorem nextMember_nil (hs : skipBlanks s = skipBlanks (partsFrom .object first [] rest)) :
    run (nextMember first) s = .ok (false, rest) := by
  rw [nextMember, run_afterBlanks, hs, skipBlanks_partsFrom_nil]
  rfl

theorem nextMember_cons {m : Named Value} {ts : List (List Char)}
    (hs : skipBlanks s = skipBlanks (partsFrom .object first (m.text Value.write :: ts) rest)) :
    run (nextMember first) s =
      .ok (true, untilQuote m.key.item (m.afterKey (partsFrom .object false ts rest))) := by
  have hskip := skipBlanks_named m (partsFrom .object false ts rest)
  rw [nextMember, run_afterBlanks, hs]
  cases first with
  | true =>
    rw [partsFrom_first, hskip]
    rfl
  | false =>
    obtain ⟨h, hread⟩ := exists_nonblank? hskip
    rw [skipBlanks_partsFrom_next, run]
    simp [hread]

theorem mem_names {m : Member α} (h : m ∈ rec.members) : m.name ∈ rec.names := List.mem_map_of_mem h

theorem find?_eq_some {key : String} {m : Member α}
    (h : rec.members.find? (·.name = key) = some m) : m ∈ rec.members ∧ m.name = key :=
  ⟨List.mem_of_find?_eq_some h, by simpa using List.find?_some h⟩

theorem find?_eq_none_iff {key : String} :
    rec.members.find? (·.name = key) = none ↔ key ∉ rec.names := by
  simp [names]

/-- One member: what is read of the object is right if that of the members after it is. -/
theorem gives_readObject_of_next (hsense : ∀ m ∈ rec.members, Agrees m.read (sense m.name))
    {m : Named Value} {ms : List (Named Value)} {u : List Symbol} (hu : Delimited u)
    (hnext : run (nextMember first) s = .ok (true, untilQuote m.key.item (m.afterKey u)))
    (hms : ∀ given value h, Gives (rec.ofMembers? sense given value ms) rest (outcome
      (rec.readObject start given value false (m.value.after.chars.map .char ++ u) h)))
    (given : List String) (value : α) (h : s.length ≤ start.length) :
    Gives (rec.ofMembers? sense given value (m :: ms)) rest
      (outcome (rec.readObject start given value first s h)) := by
  obtain ⟨h₁, hnext⟩ := outcome_eq_ok_iff.mp hnext
  rw [readObject, hnext, ofMembers?]
  obtain ⟨e, hname, hkey⟩ | ⟨key, h₂, hname, hkey⟩ := (gives_quoted m.key.item (m.afterKey u)).read
  · simp only [Named.name?, hname, hkey]
    exact gives_error e
  obtain ⟨h₃, hcolon⟩ := outcome_eq_ok_iff.mp (run_colon m u)
  have hrest := hu.blanks m.value.after
  have hvalue := skipBlanks_padded m.value u
  simp only [Named.name?, hname, hkey]
  cases hfind : rec.members.find? (·.name = key) with
  | none =>
    obtain ⟨h₄, hskip⟩ := outcome_eq_ok_iff.mp (run_skipValue m.value.item hrest hvalue)
    rw [if_neg (find?_eq_none_iff.mp hfind)]
    simp only [hcolon, Named.afterColon, hskip]
    exact hms _ _ _
  | some member =>
    obtain ⟨hmem, rfl⟩ := find?_eq_some hfind
    rw [if_pos (mem_names hmem)]
    by_cases hgiven : member.name ∈ given
    · simp only [hgiven, if_true, List.contains_eq_mem, decide_true]
      exact gives_error _
    simp only [hgiven, if_false, List.contains_eq_mem, decide_false, hcolon, Bool.false_eq_true]
    obtain ⟨e, hf, he⟩ | ⟨f, h₄, hf, hread⟩ := (hsense member hmem hrest hvalue).read
    · simp only [hf, Named.afterColon, he]
      exact gives_error e
    · simp only [hf, Named.afterColon, hread]
      exact hms _ _ _

/-- The members of an object are read one by one, whatever stands between them. -/
theorem gives_readObject (hsense : ∀ m ∈ rec.members, Agrees m.read (sense m.name))
    (ms : List (Named Value)) (given : List String) (value : α) (first : Bool)
    (hs : skipBlanks s = skipBlanks (partsFrom .object first (ms.map (Named.text Value.write)) rest))
    (h : s.length ≤ start.length) :
    Gives (rec.ofMembers? sense given value ms) rest
      (outcome (rec.readObject start given value first s h)) := by
  induction ms generalizing first given value s with
  | nil =>
    obtain ⟨h₁, hnext⟩ := outcome_eq_ok_iff.mp (nextMember_nil hs)
    rw [readObject, hnext, ofMembers?]
    cases rec.complete <;> cases rec.missing? given <;> first | rfl | exact gives_error _
  | cons m ms ih =>
    exact gives_readObject_of_next hsense (delimited_partsFrom _ _ _) (nextMember_cons hs)
      (fun given value h => ih given value false (skipBlanks_blanks m.value.after _) h) given value h

theorem exists_run_listEnd_error {x : Symbol} {t : List Symbol} (hs : skipBlanks s = x :: t)
    (hx : x ≠ .char ']') : ∃ e, run listEnd s = .error e := by
  rw [listEnd, run_afterBlanks, hs, run]
  simp only [hx, if_false]
  split <;> exact ⟨_, rfl⟩

theorem exists_run_listEnd_error_of_item {i : Padded Value} {ts : List (List Char)}
    (hs : skipBlanks s = skipBlanks (partsFrom .list first (i.text Value.write :: ts) rest)) :
    ∃ e, run listEnd s = .error e := by
  obtain ⟨c, t, hw, hc⟩ := i.item.exists_write
  cases first with
  | true =>
    rw [partsFrom_first, skipBlanks_padded, hw] at hs
    refine exists_run_listEnd_error hs ?_
    rintro ⟨⟩
    exact hc.not_delimiter (by decide)
  | false =>
    rw [skipBlanks_partsFrom_next] at hs
    exact exists_run_listEnd_error hs (by decide)

/-- The items of a list are read as the members in their own order. -/
theorem gives_readList (members : List (Member α))
    (hsense : ∀ m ∈ members, Agrees m.read (sense m.name)) (items : List (Padded Value))
    (given : Nat) (value : α) (hs : skipBlanks s =
      skipBlanks (partsFrom .list (given = 0) (items.map (Padded.text Value.write)) rest))
    (h : s.length ≤ start.length) :
    Gives (rec.ofItems? sense value members (items.map Padded.item)) rest
      (outcome (rec.readList start given value s h members)) := by
  induction members generalizing items given value s with
  | nil =>
    rw [readList]
    cases items with
    | nil =>
      have hend : run listEnd s = .ok ((), rest) := by
        rw [listEnd, run_afterBlanks, hs, List.map_nil, skipBlanks_partsFrom_nil]
        rfl
      obtain ⟨h₁, hread⟩ := outcome_eq_ok_iff.mp hend
      rw [hread]
      rfl
    | cons i items =>
      obtain ⟨e, he⟩ := exists_run_listEnd_error_of_item hs
      rw [outcome_eq_error_iff.mp he]
      exact gives_error e
  | cons m members ih =>
    cases items with
    | nil =>
      obtain ⟨h₁, hnext⟩ := nextElement_nil hs
      obtain ⟨h₂, hend⟩ := outcome_eq_ok_iff.mp (run_listEnd rest)
      rw [readList, hnext]
      cases hcomplete : rec.complete with
      | true => simpa [hcomplete, ofItems?] using gives_error _
      | false => simp [hcomplete, ofItems?, hend, Gives, Except.map, Read.map, Read.widen]
    | cons i items =>
      obtain ⟨h₁, hnext⟩ := nextElement_cons hs
      have hrest := (delimited_partsFrom .list (items.map (Padded.text Value.write)) rest).blanks
        i.after
      rw [readList, hnext, List.map_cons, ofItems?]
      obtain ⟨e, hf, he⟩ | ⟨f, h₂, hf, hread⟩ :=
        (hsense m List.mem_cons_self hrest (i.item.skipBlanks_write _)).read
      · simp only [hf, he]
        exact gives_error e
      · simp only [hf, hread]
        exact ih (fun m' hm' => hsense m' (List.mem_cons_of_mem _ hm')) items (given + 1) _
          (by simpa using skipBlanks_blanks i.after _) _

/-- A record is read as what its value says. -/
theorem agrees_reader (hsense : ∀ m ∈ rec.members, Agrees m.read (sense m.name)) :
    Agrees rec.reader (rec.value? sense) := by
  intro v s rest hrest hs
  obtain ⟨c, t, hw, hc⟩ := v.exists_write
  rw [reader, run_afterBlanks, hs]
  by_cases hl : c = '['
  · subst hl
    obtain ⟨b, items, rfl⟩ := hc.list_of_bracket
    rw [Value.list_append, run]
    simp only [eq_self, if_true, outcome_afterHead]
    exact gives_readList _ hsense items 0 _ (skipBlanks_blanks b _) _
  by_cases ho : c = '\x7b'
  · subst ho
    obtain ⟨b, members, rfl⟩ := hc.object_of_brace
    rw [Value.object_append, run]
    simp only [Symbol.char.injEq, hl, if_false, eq_self, if_true, outcome_afterHead]
    exact gives_readObject hsense members [] _ true (skipBlanks_blanks b _) _
  · have hv : rec.value? sense v = none := by
      cases v <;> first | rfl | exact absurd hc hl | exact absurd hc ho
    rw [hv, hw, List.map_cons, List.cons_append, run]
    simp only [Symbol.char.injEq, hl, ho, if_false]
    exact gives_error _

end Record

/-! ### Whole texts -/

/-- A text that holds one value with blanks around it is read as what the value is. -/
theorem document_eq_ok_iff {α : Type} {r : Reader α} {f : Value → Option α} (hr : Agrees r f)
    (d : Padded Value) {x : α} :
    document r ((d.text Value.write).map .char) = .ok x ↔ f d.item = some x := by
  have hskip := skipBlanks_padded d []
  rw [List.append_nil] at hskip
  rw [document]
  obtain ⟨e, hf, he⟩ | ⟨y, h, hf, hread⟩ := (hr (delimited_nil.blanks d.after) hskip).read
  · simp [hf, he]
  · have hafter : skipBlanks (d.after.chars.map .char ++ []) = [] := skipBlanks_blanks d.after []
    simp only [hf, hread, hafter]
    simp

end Typeahead.Json
