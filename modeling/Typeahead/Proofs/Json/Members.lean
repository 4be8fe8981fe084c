import Mathlib.Data.List.Permutation
import Typeahead.Proofs.Json.Record
import Typeahead.Proofs.Json.Writer

/-!
# What a record makes of the members of an object

Members of other names count for nothing (`Record.ofMembers?_among`). Of those that a record has,
each comes once and has a value that is understood (`Record.called_of_ofMembers?`,
`Record.isSome_sense_of_ofMembers?`), so an object that repeats one makes no record. If not all of
them have to be given, this is enough for a record (`Record.exists_ofMembers?`), and a part of it
that only one member changes is as that member says, or as it was (`Record.part_of_called`,
`Record.part_of_not_called`).
-/

namespace Typeahead.Json

/-! ### Members by name -/

/-- The members called `name`. -/
def called (name : String) (ms : List (Named Value)) : List (Named Value) :=
  ms.filter (·.name? = some name)

/-- The members that have one of the names given. -/
def among (names : List String) (ms : List (Named Value)) : List (Named Value) :=
  ms.filter fun m => m.name?.any (· ∈ names)

/-- The keys of an object all say something. -/
def Legible (ms : List (Named Value)) : Prop := ∀ m ∈ ms, m.name?.isSome

section
variable {name name' : String} {names : List String} {m m' : Named Value} {ms : List (Named Value)}

theorem among_cons_of_name {key : String} (h : m.name? = some key) :
    among names (m :: ms) = if key ∈ names then m :: among names ms else among names ms := by
  by_cases hk : key ∈ names <;> simp [among, h, hk]

theorem called_cons :
    called name (m :: ms) =
      if m.name? = some name then m :: called name ms else called name ms := by
  by_cases hm : m.name? = some name <;> simp [called, hm]

theorem called_among (h : name ∈ names) : called name (among names ms) = called name ms := by
  rw [called, among, List.filter_filter]
  refine List.filter_congr fun m _ => ?_
  by_cases hm : m.name? = some name <;> simp [hm, h]

theorem Legible.among (h : Legible ms) (names : List String) : Legible (among names ms) :=
  fun m hm => h m (List.mem_filter.mp hm).1

theorem among_singleton : among [name] ms = called name ms := by
  refine List.filter_congr fun m _ => ?_
  cases m.name? <;> simp

theorem name?_of_called (h : called name ms = [m]) : m ∈ ms ∧ m.name? = some name := by
  have hm : m ∈ called name ms := h ▸ List.mem_singleton_self m
  simpa [called] using hm

/-- With one member of either name, those of both names are these two in one of the two orders. -/
theorem among_pair (hne : name ≠ name') (h : called name ms = [m]) (h' : called name' ms = [m']) :
    among [name, name'] ms = [m, m'] ∨ among [name, name'] ms = [m', m] := by
  -- what is not called `name` among the two is called `name'`
  have hperm := List.filter_append_perm (fun k : Named Value => k.name? = some name)
    (among [name, name'] ms)
  have hfst : (among [name, name'] ms).filter (·.name? = some name) = [m] :=
    (called_among (by simp)).trans h
  have hsnd : (among [name, name'] ms).filter (fun k => !decide (k.name? = some name)) = [m'] := by
    have hmem : name' ∈ [name, name'] := by simp
    rw [← h', ← called_among hmem, called, among, List.filter_filter, List.filter_filter]
    refine List.filter_congr fun k _ => ?_
    cases hk : k.name? with
    | none => simp
    | some n => by_cases hn : n = name <;> simp [hn, hne]
  rw [hfst, hsnd] at hperm
  exact List.pair_perm.mp hperm

end

namespace Record
variable {α : Type} {rec : Record α} {sense : String → Value → Option (α → α)}

theorem ofMembers?_among {ms : List (Named Value)} (h : Legible ms) (given : List String)
    (value : α) : rec.ofMembers? sense given value (among rec.names ms) =
      rec.ofMembers? sense given value ms := by
  induction ms generalizing given value with
  | nil => rfl
  | cons m ms ih =>
    obtain ⟨key, hkey⟩ := Option.isSome_iff_exists.mp (h m List.mem_cons_self)
    have ih := ih fun m' hm' => h m' (List.mem_cons_of_mem _ hm')
    rw [among_cons_of_name hkey]
    by_cases hk : key ∈ rec.names
    · rw [if_pos hk, ofMembers?, ofMembers?, hkey]
      simp only [hk, if_true, ih]
    · rw [if_neg hk, ih]
      conv => rhs; rw [ofMembers?, hkey]
      simp only [hk, if_false]

/-- A member is given at most once, and not at all if it was before. -/
theorem called_of_ofMembers? {ms : List (Named Value)} {given : List String} {value x : α}
    (h : rec.ofMembers? sense given value ms = some x) {name : String} (hname : name ∈ rec.names) :
    (called name ms).length + (if name ∈ given then 1 else 0) ≤ 1 := by
  fun_induction ofMembers? rec sense given value ms with
  | case2 given => split <;> simp [called]
  | case6 given value m ms key hkey hk hgiven f hf ih =>
    have ih := ih h
    by_cases hn : name = key
    · subst hn
      simp_all [called]
    · have hne : m.name? ≠ some name := by rw [hkey]; simpa using Ne.symm hn
      simpa [called, hne, hn] using ih
  | case7 given value m ms key hkey hk ih =>
    have hne : m.name? ≠ some name := by rintro hn; rw [hkey] at hn; cases hn; exact hk hname
    simpa [called, hne] using ih h
  | _ => cases h

theorem isSome_sense_of_ofMembers? {ms : List (Named Value)} {given : List String} {value x : α}
    (h : rec.ofMembers? sense given value ms = some x) {m : Named Value} (hm : m ∈ ms)
    {name : String} (hm' : m.name? = some name) (hname : name ∈ rec.names) :
    (sense name m.value.item).isSome := by
  fun_induction ofMembers? rec sense given value ms with
  | case2 => cases hm
  | case6 given value m' ms key hkey hk hgiven f hf ih =>
    cases hm with
    | head =>
      cases hkey.symm.trans hm'
      rw [hf]
      rfl
    | tail _ hm => exact ih h hm
  | case7 given value m' ms key hkey hk ih =>
    cases hm with
    | head =>
      cases hkey.symm.trans hm'
      exact absurd hname hk
    | tail _ hm => exact ih h hm
  | _ => cases h

/-- The other way round: members of the record that come once each and are understood make one, if
not all of them have to be given. -/
theorem exists_ofMembers? {ms : List (Named Value)} {given : List String} {value : α}
    (hcomplete : rec.complete = false) (hlegible : Legible ms)
    (hcalled : ∀ name ∈ rec.names,
      (called name ms).length + (if name ∈ given then 1 else 0) ≤ 1)
    (hsense : ∀ m ∈ ms, ∀ name ∈ rec.names, m.name? = some name →
      (sense name m.value.item).isSome) :
    ∃ x, rec.ofMembers? sense given value ms = some x := by
  induction ms generalizing given value with
  | nil => exact ⟨value, by rw [ofMembers?, if_neg (by simp [hcomplete])]⟩
  | cons m ms ih =>
    obtain ⟨key, hkey⟩ := Option.isSome_iff_exists.mp (hlegible m List.mem_cons_self)
    have hlegible := fun m' hm' => hlegible m' (List.mem_cons_of_mem _ hm')
    have hsense' := fun m' hm' => hsense m' (List.mem_cons_of_mem _ hm')
    rw [ofMembers?, hkey]
    by_cases hk : key ∈ rec.names
    · obtain ⟨f, hf⟩ := Option.isSome_iff_exists.mp (hsense m List.mem_cons_self key hk hkey)
      have hgiven : key ∉ given := by
        have := hcalled key hk
        rw [called_cons, if_pos hkey, List.length_cons] at this
        split at this
        · omega
        · assumption
      simp only [hk, hgiven, if_true, if_false, hf]
      refine ih hlegible (fun name hname => ?_) hsense'
      have := hcalled name hname
      rw [called_cons, hkey] at this
      by_cases hn : name = key
      · subst hn; simp_all
      · simpa [hn, Ne.symm hn] using this
    · simp only [hk, if_false]
      refine ih hlegible (fun name hname => ?_) hsense'
      have := hcalled name hname
      have hn : key ≠ name := fun hn => hk (hn ▸ hname)
      simpa [called_cons, hkey, hn] using this

/-- A part of the record that only the member called `name` changes. -/
def Owns {β : Type} (sense : String → Value → Option (α → α)) (name : String) (part : α → β) :
    Prop :=
  ∀ key v f x, key ≠ name → sense key v = some f → part (f x) = part x

section
variable {β : Type} {part : α → β} {name : String} {ms : List (Named Value)} {given : List String}
  {value x : α} {m : Named Value} {f : α → α} {y : β}

theorem part_of_not_called (hpart : Owns sense name part)
    (h : rec.ofMembers? sense given value ms = some x) (hcalled : called name ms = []) :
    part x = part value := by
  fun_induction ofMembers? rec sense given value ms with
  | case2 => cases h; rfl
  | case6 given value m ms key hkey hk hgiven f hf ih =>
    rw [called_cons, hkey] at hcalled
    by_cases hn : key = name
    · simp [hn] at hcalled
    · rw [ih h (by simpa [hn] using hcalled), hpart key _ f value hn hf]
  | case7 given value m ms key hkey hk ih =>
    rw [called_cons, hkey] at hcalled
    by_cases hn : key = name
    · simp [hn] at hcalled
    · exact ih h (by simpa [hn] using hcalled)
  | _ => cases h

theorem part_of_called (hpart : Owns sense name part) (hname : name ∈ rec.names)
    (h : rec.ofMembers? sense given value ms = some x) (hcalled : called name ms = [m])
    (hf : sense name m.value.item = some f) (hy : ∀ x, part (f x) = y) : part x = y := by
  fun_induction ofMembers? rec sense given value ms with
  | case2 => cases hcalled
  | case6 given value m' ms key hkey hk hgiven g hg ih =>
    rw [called_cons, hkey] at hcalled
    by_cases hn : key = name
    · subst hn
      simp only [if_true, List.cons.injEq] at hcalled
      obtain ⟨rfl, hcalled⟩ := hcalled
      obtain rfl : g = f := Option.some.inj (hg.symm.trans hf)
      rw [part_of_not_called hpart h hcalled, hy]
    · exact ih h (by simpa [hn] using hcalled)
  | case7 given value m' ms key hkey hk ih =>
    rw [called_cons, hkey] at hcalled
    have hn : key ≠ name := fun hn => hk (hn ▸ hname)
    exact ih h (by simpa [hn] using hcalled)
  | _ => cases h

end

/-! ### A list as an object -/

/-- A list is read as the object with its items under the names of the members, in their order. -/
theorem ofItems?_eq_ofMembers? {members : List (Member α)} {items : List (Padded Value)}
    {given : List String} {value : α} (hcomplete : rec.complete = false)
    (hlength : items.length ≤ members.length) (hnodup : (members.map Member.name).Nodup)
    (hgiven : ∀ m ∈ members, m.name ∉ given) (hnames : ∀ m ∈ members, m.name ∈ rec.names) :
    rec.ofItems? sense value members (items.map Padded.item) =
      rec.ofMembers? sense given value
        (List.zipWith (fun m i => .tight m.name i.item) members items) := by
  induction members generalizing items given value with
  | nil =>
    cases items with
    | nil => simp [ofItems?, ofMembers?, hcomplete]
    | cons i items => simp at hlength
  | cons m members ih =>
    cases items with
    | nil => simp [ofItems?, ofMembers?, hcomplete]
    | cons i items =>
      simp only [List.map_cons, List.nodup_cons] at hnodup
      rw [List.map_cons, List.zipWith_cons_cons, ofItems?, ofMembers?, Named.name?_tight]
      simp only [hnames m List.mem_cons_self, hgiven m List.mem_cons_self, if_true, if_false]
      have hitem : (Named.tight m.name i.item).value.item = i.item := rfl
      rw [hitem]
      cases sense m.name i.item with
      | none => rfl
      | some f =>
        refine ih (Nat.le_of_succ_le_succ hlength) hnodup.2 (fun m' hm' => ?_)
          fun m' hm' => hnames m' (List.mem_cons_of_mem _ hm')
        -- the member read now does not stand in the way of those behind it
        have hne : m'.name ≠ m.name := fun hne => hnodup.1 (hne ▸ List.mem_map_of_mem hm')
        simpa [hne] using hgiven m' (List.mem_cons_of_mem _ hm')

end Record

end Typeahead.Json
