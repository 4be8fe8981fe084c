import Typeahead.Proofs.Json.Members
import Typeahead.Proofs.Json.Scalar
import Typeahead.Proofs.Json.Writer
import Typeahead.Settings

/-!
# Settings given in a document

The settings are the values of six keys, each of its own type, and each is read and put in apart
from the others: what a document says under one name changes that setting and no other (`owns_get`).
So an object is understood key by key. `Supplies` says which settings its members give; these
replace the defaults (`Supplies.settings?_object`), whether the members come in this order or that
and whatever stands among them. A list is the object with its items under the names of the first
keys (`settings?_list`).
-/

namespace Typeahead.Settings
open Json Text

/-- What can be set. -/
inductive Key where
  | id
  | sourceUrl
  | timeoutMs
  | loadingLabel
  | failedLabel
  | highlightTag
  deriving DecidableEq

namespace Key

/-- All keys, as they follow each other in a list. -/
def all : List Key := [id, sourceUrl, timeoutMs, loadingLabel, failedLabel, highlightTag]

def name : Key → String
  | id => "id"
  | sourceUrl => "source_url"
  | timeoutMs => "timeout_ms"
  | loadingLabel => "loading_label"
  | failedLabel => "failed_label"
  | highlightTag => "highlight_tag"

/-- What a key is set to. -/
abbrev Content : Key → Type
  | id | sourceUrl => Option String
  | timeoutMs => Option UInt64
  | loadingLabel | failedLabel | highlightTag => String

/-- What a value says of the setting. -/
def content? : (k : Key) → Value → Option k.Content
  | id | sourceUrl => Value.optional? Value.text?
  | timeoutMs => Value.optional? Value.natural?
  | loadingLabel | failedLabel | highlightTag => Value.text?

def get : (k : Key) → Settings → k.Content
  | id => Settings.id
  | sourceUrl => Settings.sourceUrl
  | timeoutMs => Settings.timeoutMs
  | loadingLabel => Settings.loadingLabel
  | failedLabel => Settings.failedLabel
  | highlightTag => Settings.highlightTag

def put : (k : Key) → k.Content → Settings → Settings
  | id => fun x s => { s with id := x }
  | sourceUrl => fun x s => { s with sourceUrl := x }
  | timeoutMs => fun x s => { s with timeoutMs := x }
  | loadingLabel => fun x s => { s with loadingLabel := x }
  | failedLabel => fun x s => { s with failedLabel := x }
  | highlightTag => fun x s => { s with highlightTag := x }

def reader : (k : Key) → Reader k.Content
  | id | sourceUrl => Json.optional Json.text
  | timeoutMs => Json.optional Json.natural
  | loadingLabel | failedLabel | highlightTag => Json.text

theorem mem_all (k : Key) : k ∈ all := by cases k <;> decide

theorem name_injective {k k' : Key} (h : k.name = k'.name) : k = k' := by
  revert h
  cases k <;> cases k' <;> decide

theorem get_put (k : Key) (x : k.Content) (s : Settings) : k.get (k.put x s) = x := by
  cases k <;> rfl

theorem get_put_of_ne {k k' : Key} (h : k' ≠ k) (x : k'.Content) (s : Settings) :
    k.get (k'.put x s) = k.get s := by
  cases k <;> cases k' <;> first | rfl | exact absurd rfl h

theorem agrees_reader (k : Key) : Agrees k.reader k.content? := by
  cases k with
  | id | sourceUrl => exact agrees_optional agrees_text
  | timeoutMs => exact agrees_optional agrees_natural
  | loadingLabel | failedLabel | highlightTag => exact agrees_text

end Key

theorem ext_get {s s' : Settings} (h : ∀ k : Key, k.get s = k.get s') : s = s' := by
  cases s
  cases s'
  rw [Settings.mk.injEq]
  exact ⟨h .id, h .sourceUrl, h .timeoutMs, h .loadingLabel, h .failedLabel, h .highlightTag⟩

/-- The settings with those replaced that are given, and no others. -/
def replace (given : (k : Key) → Option k.Content) (s : Settings) : Settings where
  id := (given .id).getD s.id
  sourceUrl := (given .sourceUrl).getD s.sourceUrl
  timeoutMs := (given .timeoutMs).getD s.timeoutMs
  loadingLabel := (given .loadingLabel).getD s.loadingLabel
  failedLabel := (given .failedLabel).getD s.failedLabel
  highlightTag := (given .highlightTag).getD s.highlightTag

theorem get_replace (k : Key) (given : (k : Key) → Option k.Content) (s : Settings) :
    k.get (replace given s) = (given k).getD (k.get s) := by
  cases k <;> rfl

theorem members_record :
    record.members = Key.all.map fun k : Key => .of k.name k.reader k.put := rfl

/-- What a value makes of the setting of that name. -/
def sense (name : String) (v : Value) : Option (Settings → Settings) :=
  (Key.all.find? (·.name = name)).bind fun k => (k.content? v).map k.put

theorem sense_name (k : Key) (v : Value) : sense k.name v = (k.content? v).map k.put := by
  cases k <;> rfl

theorem exists_key {name : String} {v : Value} {f : Settings → Settings}
    (h : sense name v = some f) : ∃ (k : Key) (x : k.Content), k.name = name ∧ f = k.put x := by
  obtain ⟨k, hk, hf⟩ := Option.bind_eq_some_iff.mp h
  obtain ⟨x, -, rfl⟩ := Option.map_eq_some_iff.mp hf
  exact ⟨k, x, by simpa using List.find?_some hk, rfl⟩

/-- The settings that a value is. -/
def settings? (v : Value) : Option Settings := record.value? sense v

theorem agrees_settings : Agrees record.reader settings? := by
  refine Record.agrees_reader fun m hm => ?_
  rw [members_record] at hm
  obtain ⟨k, -, rfl⟩ := List.mem_map.mp hm
  have hsense : sense k.name = fun v => (k.content? v).map k.put := funext (sense_name k)
  exact hsense ▸ k.agrees_reader.map k.put

/-- The text of a value with blanks around it. -/
def document (d : Padded Value) : String := String.ofList (d.text Value.write)

theorem read_eq_ok_iff (d : Padded Value) {s : Settings} :
    read (document d) = .ok s ↔ settings? d.item = some s := by
  rw [read, document, Symbol.ofString, String.toList_ofList]
  exact document_eq_ok_iff agrees_settings d

/-! ### Members of an object -/

/-- The members give just these settings: for each one of that name, with a value that says it, and
for the rest none. Members of other names stand anywhere. -/
structure Supplies (ms : List (Named Value)) (given : (k : Key) → Option k.Content) : Prop where
  legible : Legible ms
  said : ∀ k : Key, List.Forall₂ (fun m x => k.content? m.value.item = some x) (called k.name ms)
    (given k).toList

theorem mem_names_iff {name : String} : name ∈ record.names ↔ ∃ k : Key, k.name = name := by
  have hnames : record.names = Key.all.map Key.name := rfl
  simp [hnames, Key.mem_all]

theorem name_mem_names (k : Key) : k.name ∈ record.names := mem_names_iff.mpr ⟨k, rfl⟩

theorem owns_get (k : Key) : Record.Owns sense k.name k.get := by
  intro name v f s hne hf
  obtain ⟨k', x, rfl, rfl⟩ := exists_key hf
  exact Key.get_put_of_ne (fun hk => hne (congrArg Key.name hk)) x s

namespace Supplies
variable {ms : List (Named Value)} {given : (k : Key) → Option k.Content} (h : Supplies ms given)
include h

theorem called_cases (k : Key) : (called k.name ms = [] ∧ given k = none) ∨
    ∃ m x, called k.name ms = [m] ∧ given k = some x ∧ k.content? m.value.item = some x := by
  have hsaid := h.said k
  cases hg : given k with
  | none =>
    rw [hg] at hsaid
    exact .inl ⟨List.forall₂_nil_right_iff.mp hsaid, rfl⟩
  | some x =>
    rw [hg] at hsaid
    obtain ⟨m, ms', hx, hnil, hcalled⟩ := List.forall₂_cons_right_iff.mp hsaid
    rw [List.forall₂_nil_right_iff.mp hnil] at hcalled
    exact .inr ⟨m, x, hcalled, rfl, hx⟩

theorem length_called_le (k : Key) : (called k.name ms).length ≤ 1 := by
  obtain ⟨hcalled, -⟩ | ⟨m, x, hcalled, -⟩ := h.called_cases k <;> simp [hcalled]

theorem isSome_sense {m : Named Value} (hm : m ∈ ms) {k : Key} (hk : m.name? = some k.name) :
    (sense k.name m.value.item).isSome := by
  have hmem : m ∈ called k.name ms := List.mem_filter.mpr ⟨hm, by simpa using hk⟩
  obtain ⟨hcalled, -⟩ | ⟨m', x, hcalled, -, hx⟩ := h.called_cases k
  · rw [hcalled] at hmem
    cases hmem
  · rw [hcalled, List.mem_singleton] at hmem
    rw [sense_name, hmem, hx]
    rfl

theorem get_of_ofMembers? {s : Settings} (hs : record.ofMembers? sense [] {} ms = some s)
    (k : Key) : k.get s = (given k).getD (k.get {}) := by
  obtain ⟨hcalled, hg⟩ | ⟨m, x, hcalled, hg, hx⟩ := h.called_cases k
  · rw [hg]
    exact Record.part_of_not_called (owns_get k) hs hcalled
  · have hput : sense k.name m.value.item = some (k.put x) := by rw [sense_name, hx]; rfl
    rw [hg]
    exact Record.part_of_called (owns_get k) (name_mem_names k) hs hcalled hput (k.get_put x)

theorem settings?_object (blanks : Blanks) :
    settings? (.object blanks ms) = some (replace given {}) := by
  obtain ⟨s, hs⟩ : ∃ s, record.ofMembers? sense [] {} ms = some s := by
    refine Record.exists_ofMembers? rfl h.legible (fun name hname => ?_)
      fun m hm name hname hm' => ?_
    · obtain ⟨k, rfl⟩ := mem_names_iff.mp hname
      simpa using h.length_called_le k
    · obtain ⟨k, rfl⟩ := mem_names_iff.mp hname
      exact h.isSome_sense hm hm'
  have heq : s = replace given {} :=
    ext_get fun k => (h.get_of_ofMembers? hs k).trans (get_replace k given {}).symm
  exact heq ▸ hs

end Supplies

/-! ### Items of a list -/

/-- The items of a list under the names of the settings, in their order. -/
def underNames (items : List (Padded Value)) : List (Named Value) :=
  List.zipWith (fun k i => .tight k.name i.item) Key.all items

theorem settings?_list {items : List (Padded Value)} (h : items.length ≤ Key.all.length)
    (blanks blanks' : Blanks) :
    settings? (.list blanks items) = settings? (.object blanks' (underNames items)) := by
  have hnodup : (record.members.map Member.name).Nodup := by decide
  have hobject : record.ofItems? sense record.blank record.members (items.map Padded.item) =
      record.ofMembers? sense [] record.blank
        (List.zipWith (fun m i => .tight m.name i.item) record.members items) :=
    Record.ofItems?_eq_ofMembers? rfl h hnodup (fun _ _ => List.not_mem_nil)
      fun _ hm => Record.mem_names hm
  rw [members_record, List.zipWith_map_left] at hobject
  exact hobject

theorem settings?_of_called {ms : List (Named Value)} {k : Key} (h : 1 < (called k.name ms).length)
    (blanks : Blanks) : settings? (.object blanks ms) = none := by
  refine Option.eq_none_iff_forall_ne_some.mpr fun s hs => ?_
  have := Record.called_of_ofMembers? hs (name_mem_names k)
  omega

/-! ### Writing settings -/

/-- A value that says the setting. -/
def Key.write : (k : Key) → k.Content → Value
  | id | sourceUrl => fun x => x.elim .null .ofText
  | timeoutMs => fun x => x.elim .null fun n => .number (.ofNat n.toNat)
  | loadingLabel | failedLabel | highlightTag => .ofText

theorem text?_ofText (s : String) : (Value.ofText s).text? = some s := by
  simp [Value.ofText, Value.text?, meaning?_signsOf]

theorem Key.content?_write (k : Key) (x : k.Content) : k.content? (k.write x) = some x := by
  cases k with
  | id | sourceUrl =>
    cases x with
    | none => rfl
    | some s => exact congrArg (Option.map some) (text?_ofText s)
  | timeoutMs =>
    cases x with
    | none => rfl
    | some n => exact congrArg (Option.map some) (Numeral.natural?_ofNat n)
  | loadingLabel | failedLabel | highlightTag => exact text?_ofText x

/-- A member that says the setting, if it is given. -/
def Key.member? (given : (k : Key) → Option k.Content) (k : Key) : Option (Named Value) :=
  (given k).map fun x => .tight k.name (k.write x)

theorem called_filterMap (given : (k : Key) → Option k.Content) (k : Key) (ks : List Key) :
    called k.name (ks.filterMap (Key.member? given)) =
      (ks.filter (· = k)).filterMap (Key.member? given) := by
  induction ks with
  | nil => rfl
  | cons k' ks ih =>
    rw [List.filterMap_cons]
    by_cases hk : k' = k
    · subst hk
      rw [List.filter_cons_of_pos (by simp), List.filterMap_cons]
      cases hm : Key.member? given k' with
      | none => exact ih
      | some m =>
        obtain ⟨x, -, rfl⟩ := Option.map_eq_some_iff.mp hm
        simpa [called_cons] using ih
    · have hname : k'.name ≠ k.name := fun h => hk (Key.name_injective h)
      rw [List.filter_cons_of_neg (by simpa using hk)]
      cases hm : Key.member? given k' with
      | none => exact ih
      | some m =>
        obtain ⟨x, -, rfl⟩ := Option.map_eq_some_iff.mp hm
        simpa [called_cons, hname] using ih

theorem supplies_filterMap (given : (k : Key) → Option k.Content) :
    Supplies (Key.all.filterMap (Key.member? given)) given where
  legible := by
    intro m hm
    obtain ⟨k, -, hk⟩ := List.mem_filterMap.mp hm
    obtain ⟨x, -, rfl⟩ := Option.map_eq_some_iff.mp hk
    simp
  said k := by
    -- no key stands twice among all of them
    have hone : Key.all.filter (· = k) = [k] := by cases k <;> rfl
    rw [called_filterMap, hone]
    cases hg : given k with
    | none => simp [Key.member?, hg]
    | some x => simp [Key.member?, hg, Named.tight, Padded.tight, k.content?_write]

/-! ### Reading settings -/

/-- Settings given in an object replace the defaults one by one, whatever their order and whatever
stands among them, and every choice of settings can be given. A list stands for the object with its
items as the first settings, and an object that gives a setting twice is refused. -/
theorem read_replaces (before blanks after : Blanks) :
    (∀ given, ∃ ms, Supplies ms given) ∧
    (∀ ms given, Supplies ms given →
      read (document ⟨before, .object blanks ms, after⟩) = .ok (replace given {})) ∧
    (∀ items, items.length ≤ Key.all.length → ∀ s,
      read (document ⟨before, .list blanks items, after⟩) = .ok s ↔
        read (document ⟨before, .object blanks (underNames items), after⟩) = .ok s) ∧
    ∀ ms (k : Key), 1 < (called k.name ms).length →
      ∃ e, read (document ⟨before, .object blanks ms, after⟩) = .error e := by
  refine ⟨fun given => ⟨_, supplies_filterMap given⟩, fun ms given h => ?_, fun items h s => ?_,
    fun ms k h => ?_⟩
  · exact (read_eq_ok_iff _).mpr (h.settings?_object blanks)
  · rw [read_eq_ok_iff, read_eq_ok_iff, settings?_list h blanks blanks]
  · cases hread : read (document ⟨before, .object blanks ms, after⟩) with
    | error e => exact ⟨e, rfl⟩
    | ok s =>
      have hsome := (read_eq_ok_iff _).mp hread
      rw [settings?_of_called h blanks] at hsome
      cases hsome

/-- `"highlight_tag":"em","more":[{"id":true}],"id":null,"timeout_ms":1500` -/
def someMembers : List (Named Value) :=
  [.tight "highlight_tag" (.ofText "em"), .tight "more" (.ofList [.ofMembers [("id", .yes)]]),
    .tight "id" .null, .tight "timeout_ms" (.number (.ofNat 1500))]

def someGiven : (k : Key) → Option k.Content
  | .id => some none
  | .timeoutMs => some (some 1500)
  | .highlightTag => some "em"
  | _ => none

theorem supplies_someMembers : Supplies someMembers someGiven where
  legible := by simp [Legible, someMembers]
  said k := by
    cases k with
    | timeoutMs =>
      have hcalled : called "timeout_ms" someMembers =
          [.tight "timeout_ms" (.number (.ofNat 1500))] := by simp [someMembers, called]
      exact hcalled ▸ .cons (Key.content?_write .timeoutMs (some 1500)) .nil
    | highlightTag =>
      have hcalled : called "highlight_tag" someMembers =
          [.tight "highlight_tag" (.ofText "em")] := by simp [someMembers, called]
      exact hcalled ▸ .cons (text?_ofText "em") .nil
    | id =>
      have hcalled : called "id" someMembers = [.tight "id" .null] := by simp [someMembers, called]
      exact hcalled ▸ .cons rfl .nil
    | _ => simp [someMembers, called, Key.name, someGiven]

/-- `null,"/options"` -/
def someItems : List (Padded Value) := [.tight .null, .tight (.ofText "/options")]

def someItemsGiven : (k : Key) → Option k.Content
  | .id => some none
  | .sourceUrl => some (some "/options")
  | _ => none

theorem supplies_someItems : Supplies (underNames someItems) someItemsGiven :=
  supplies_filterMap someItemsGiven

theorem read_replaces_some : Supplies someMembers someGiven ∧
    read (document ⟨.none, .object .none someMembers, .none⟩) =
      .ok { timeoutMs := some 1500, highlightTag := "em" } ∧
    read (document ⟨.none, .list .none someItems, .none⟩) = .ok { sourceUrl := some "/options" } ∧
    ∃ e, read (document ⟨.none, .object .none (someMembers ++ someMembers), .none⟩) = .error e := by
  obtain ⟨-, hobject, hlist, htwice⟩ := read_replaces .none .none .none
  refine ⟨supplies_someMembers, hobject _ _ supplies_someMembers, ?_, htwice _ .id ?_⟩
  · exact (hlist someItems (by decide) _).mpr (hobject _ _ supplies_someItems)
  · simp [someMembers, called, Key.name]

end Typeahead.Settings
