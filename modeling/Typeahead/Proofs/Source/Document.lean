import Mathlib.Data.List.Forall2
import Typeahead.Proofs.Json.Members
import Typeahead.Proofs.Json.Writer
import Typeahead.Proofs.Text.Utf8
import Typeahead.Source.Document

/-!
# What a document offers

`Offers` says of a value which choices it offers: under `options` a list with an object for each, in
which a label and a value stand among members of other names. Such a document is read as just these
choices, with the other members or without them, and a document that repeats a member is refused
(`readChoices_of_members`).
-/

namespace Typeahead.Source
open Json Text

/-! ### The choices in a tree -/

/-- What a value makes of the label or the value of a choice. -/
def choiceSense (name : String) (v : Value) : Option (Choice → Choice) :=
  if name = "label" then v.text?.map fun t c => { c with label := t }
  else v.text?.map fun t c => { c with value := t }

/-- The choice that a value is. -/
def choice? (v : Value) : Option Choice := choiceRecord.value? choiceSense v

/-- What a value makes of the options of a document. -/
def documentSense (_ : String) (v : Value) : Option (List Choice → List Choice) :=
  (v.list? choice?).map fun cs _ => cs

/-- The choices that a value offers as a document. -/
def choices? (v : Value) : Option (List Choice) := documentRecord.value? documentSense v

theorem agrees_choice : Agrees choiceRecord.reader choice? := by
  refine Record.agrees_reader fun m hm => ?_
  simp only [choiceRecord, List.mem_cons, List.not_mem_nil, or_false] at hm
  rcases hm with rfl | rfl
  · exact agrees_text.map _
  · exact agrees_text.map _

theorem agrees_document : Agrees documentRecord.reader choices? := by
  refine Record.agrees_reader fun m hm => ?_
  simp only [documentRecord, List.mem_cons, List.not_mem_nil, or_false] at hm
  subst hm
  exact (agrees_list agrees_choice).map _

/-- The bytes of a text that holds a value with blanks around it. -/
def bytes (d : Padded Value) : ByteArray := (String.ofList (d.text Value.write)).toUTF8

theorem readChoices_eq_ok_iff (d : Padded Value) {cs : List Choice} :
    readChoices (Symbol.read (bytes d)) = .ok cs ↔ choices? d.item = some cs := by
  rw [bytes, Symbol.read_toUTF8, Symbol.ofString, String.toList_ofList]
  exact document_eq_ok_iff agrees_document d

/-! ### Documents that offer choices -/

/-- The value is an object whose keys all say something, with one member called `name`, which has
the value `w`. -/
def Holds (v : Value) (name : String) (w : Value) : Prop :=
  ∃ blanks ms m, v = .object blanks ms ∧ Legible ms ∧ called name ms = [m] ∧ m.value.item = w

/-- The value is a text that says `s`. -/
def IsText (v : Value) (s : String) : Prop :=
  ∃ signs, v = .text signs ∧ meaning? signs = some s.toList

/-- The value is an object with the label and the value of a choice, and whatever else. -/
structure Entry (v : Value) (c : Choice) : Prop where
  label : ∃ w, Holds v "label" w ∧ IsText w c.label
  value : ∃ w, Holds v "value" w ∧ IsText w c.value

/-- The value is an object with a list of entries for these choices, and whatever else. -/
def Offers (v : Value) (cs : List Choice) : Prop :=
  ∃ blanks items, Holds v "options" (.list blanks items) ∧
    List.Forall₂ (fun i c => Entry i.item c) items cs

theorem holds_ofMembers {ms : List (String × Value)} {m : String × Value}
    (h : ms.filter (·.1 = m.1) = [m]) : Holds (.ofMembers ms) m.1 m.2 := by
  refine ⟨.none, _, .tight m.1 m.2, rfl, ?_, ?_, rfl⟩
  · intro k hk
    obtain ⟨m', -, rfl⟩ := List.mem_map.mp hk
    simp
  · rw [called, List.filter_map, Function.comp_def]
    simp only [Named.name?_tight, Option.some.injEq, h, List.map_singleton]

theorem isText_ofText (s : String) : IsText (.ofText s) s := ⟨_, rfl, meaning?_signsOf s⟩

theorem IsText.text? {v : Value} {s : String} (h : IsText v s) : v.text? = some s := by
  obtain ⟨signs, rfl, hsigns⟩ := h
  simp [Value.text?, hsigns]

theorem Entry.choice? {v : Value} {c : Choice} (h : Entry v c) : choice? v = some c := by
  obtain ⟨⟨w, ⟨blanks, ms, m, rfl, hlegible, hlabel, rfl⟩, hw⟩,
    w', ⟨_, _, m', heq, -, hvalue, rfl⟩, hw'⟩ := h
  cases heq -- the label and the value are members of one object
  have hm := (name?_of_called hlabel).2
  have hm' := (name?_of_called hvalue).2
  rw [Source.choice?, Record.value?, ← Record.ofMembers?_among hlegible]
  rcases among_pair (by decide) hlabel hvalue with h | h <;>
    simp [choiceRecord, Record.names, Member.of, h, Record.ofMembers?, hm, hm', choiceSense,
      hw.text?, hw'.text?, Record.missing?]

theorem mapM_choice?_of_forall₂ {items : List (Padded Value)} {cs : List Choice}
    (h : List.Forall₂ (fun i c => Entry i.item c) items cs) :
    (items.map Padded.item).mapM choice? = some cs := by
  induction h with
  | nil => rfl
  | cons hi _ ih => rw [List.map_cons, mapM_cons_of_some hi.choice?, ih]; rfl

theorem Offers.choices? {v : Value} {cs : List Choice} (h : Offers v cs) : choices? v = some cs := by
  obtain ⟨blanks, items, ⟨_, ms, m, rfl, hlegible, hoptions, hm⟩, hitems⟩ := h
  have hname := (name?_of_called hoptions).2
  have hlist : m.value.item.list? choice? = some cs := by
    rw [hm]
    exact mapM_choice?_of_forall₂ hitems
  rw [Source.choices?, Record.value?, ← Record.ofMembers?_among hlegible]
  simp [documentRecord, Record.names, Member.of, among_singleton, hoptions, Record.ofMembers?,
    hname, documentSense, hlist, Record.missing?]

/-! ### Members that do not count -/

/-- An object without the members of other names than these. -/
def only (names : List String) : Value → Value
  | .object blanks ms => .object blanks (among names ms)
  | v => v

/-- A list of objects without the members that a choice does not have. -/
def bareEntries : Value → Value
  | .list blanks items => .list blanks (items.map (·.map (only ["label", "value"])))
  | v => v

/-- A document without the members that do not count, around its options and in each of them. -/
def bare : Value → Value
  | .object blanks ms =>
    .object blanks ((among ["options"] ms).map (·.map bareEntries))
  | v => v

theorem Holds.only {v w : Value} {name : String} {names : List String} (h : Holds v name w)
    (hname : name ∈ names) : Holds (only names v) name w := by
  obtain ⟨blanks, ms, m, rfl, hlegible, hcalled, hm⟩ := h
  exact ⟨blanks, _, m, rfl, hlegible.among names, (called_among hname).trans hcalled, hm⟩

theorem Entry.only {v : Value} {c : Choice} (h : Entry v c) :
    Entry (only ["label", "value"] v) c where
  label := let ⟨w, hv, hw⟩ := h.label; ⟨w, hv.only (by simp), hw⟩
  value := let ⟨w, hv, hw⟩ := h.value; ⟨w, hv.only (by simp), hw⟩

theorem Offers.bare {v : Value} {cs : List Choice} (h : Offers v cs) : Offers (bare v) cs := by
  obtain ⟨blanks, items, ⟨blanks', ms, m, rfl, hlegible, hcalled, hm⟩, hitems⟩ := h
  obtain ⟨hmem, hname⟩ := name?_of_called hcalled
  refine ⟨blanks, items.map (·.map (Source.only ["label", "value"])), ?_,
    List.forall₂_map_left_iff.mpr (hitems.imp fun _ _ => Entry.only)⟩
  refine ⟨blanks', [m.map bareEntries], m.map bareEntries, ?_, ?_, ?_, ?_⟩
  · rw [Source.bare, among_singleton, hcalled, List.map_singleton]
  · intro k hk
    cases List.mem_singleton.mp hk
    exact hlegible m hmem
  · exact List.filter_cons_of_pos (by simp [hname])
  · rw [Named.map, Padded.map, hm, bareEntries]

/-! ### Members given twice -/

/-- The value is an object with more than one member called `name`. -/
def Repeats (v : Value) (name : String) : Prop :=
  ∃ blanks ms, v = .object blanks ms ∧ 1 < (called name ms).length

/-- A member that counts is given twice, around the options or in one of them. -/
inductive RepeatsMember : Value → Prop
  | options {v : Value} (h : Repeats v "options") : RepeatsMember v
  | entry {blanks blanks' : Blanks} {ms : List (Named Value)} {m : Named Value}
      {items : List (Padded Value)} {i : Padded Value} {name : String} (hm : m ∈ ms)
      (hname : m.name? = some "options") (hlist : m.value.item = .list blanks' items) (hi : i ∈ items)
      (hmember : name ∈ ["label", "value"]) (h : Repeats i.item name) :
      RepeatsMember (.object blanks ms)

theorem Repeats.value?_eq_none {α : Type} {rec : Record α}
    {sense : String → Value → Option (α → α)} {v : Value} {name : String} (h : Repeats v name)
    (hname : name ∈ rec.names) :
    rec.value? sense v = none := by
  obtain ⟨blanks, ms, rfl, hmany⟩ := h
  rw [Record.value?, Option.eq_none_iff_forall_ne_some]
  intro x hx
  have := Record.called_of_ofMembers? hx hname
  omega

theorem mapM_eq_none {α : Type} {f : Value → Option α} {vs : List Value} {v : Value} (hv : v ∈ vs)
    (h : f v = none) : vs.mapM f = none := by
  induction hv with
  | head => exact mapM_cons_of_none h
  | tail w hv ih =>
    cases hw : f w with
    | none => exact mapM_cons_of_none hw
    | some x => rw [mapM_cons_of_some hw, ih]; rfl

theorem RepeatsMember.choices?_eq_none {v : Value} (h : RepeatsMember v) : choices? v = none := by
  cases h with
  | options h => exact h.value?_eq_none (by simp [documentRecord, Record.names, Member.of])
  | @entry blanks blanks' ms m items i name hm hname hlist hi hmember h =>
    have hentry : choice? i.item = none :=
      h.value?_eq_none (by simpa [choiceRecord, Record.names, Member.of] using hmember)
    have hsense : documentSense "options" m.value.item = none := by
      rw [documentSense, hlist, Value.list?, mapM_eq_none (List.mem_map_of_mem hi) hentry]
      rfl
    rw [choices?, Record.value?, Option.eq_none_iff_forall_ne_some]
    intro cs hcs
    have := Record.isSome_sense_of_ofMembers? hcs hm hname
      (by simp [documentRecord, Record.names, Member.of])
    simp [hsense] at this

/-- Members of other names and the order of members do not change the choices that are read, and a
member given twice makes the document an error. -/
theorem readChoices_of_members (d : Padded Value) :
    (∀ cs, Offers d.item cs → readChoices (Symbol.read (bytes d)) = .ok cs ∧
      readChoices (Symbol.read (bytes (d.map bare))) = .ok cs) ∧
    (RepeatsMember d.item → ∃ e, readChoices (Symbol.read (bytes d)) = .error e) := by
  refine ⟨fun cs h => ⟨?_, ?_⟩, fun h => ?_⟩
  · exact (readChoices_eq_ok_iff d).mpr h.choices?
  · exact (readChoices_eq_ok_iff _).mpr h.bare.choices?
  · cases hread : readChoices (Symbol.read (bytes d)) with
    | error e => exact ⟨e, rfl⟩
    | ok cs =>
      have := (readChoices_eq_ok_iff d).mp hread
      rw [h.choices?_eq_none] at this
      cases this

/-- `"\u006cabel":"😀"` -/
def spelledLabel : Named Value :=
  ⟨.tight (.unit ⟨.digit 0 (by decide), .digit 0 (by decide), .digit 6 (by decide),
    .digit 12 (by decide)⟩ :: signsOf "abel"), .tight (.ofText "😀")⟩

theorem name?_spelledLabel : spelledLabel.name? = some "label" := by
  rw [Named.name?, spelledLabel, Padded.tight, meaning?_unit (by decide) (by decide),
    meaning?_signsOf]
  decide

/-- `{"value":"v","\u006cabel":"😀","more":null}` -/
def spelledEntry : Value :=
  .object .none [.tight "value" (.ofText "v"), spelledLabel, .tight "more" .null]

theorem entry_spelledEntry : Entry spelledEntry ⟨"😀", "v"⟩ := by
  have hname := name?_spelledLabel
  have hlegible : Legible [.tight "value" (.ofText "v"), spelledLabel, .tight "more" .null] := by
    simp [Legible, hname]
  have hlabel : Holds spelledEntry "label" (.ofText "😀") :=
    ⟨_, _, spelledLabel, rfl, hlegible, by simp [called, hname], rfl⟩
  have hvalue : Holds spelledEntry "value" (.ofText "v") :=
    ⟨_, _, .tight "value" (.ofText "v"), rfl, hlegible, by simp [called, hname], rfl⟩
  exact ⟨⟨_, hlabel, isText_ofText _⟩, ⟨_, hvalue, isText_ofText _⟩⟩

/-- A line break and `{"]":[-1.5E+3],"options":[{"value":"v","\u006cabel":"😀","more":null}]}`. -/
def spelledDocument : Padded Value where
  before := ⟨['\n'], by simp⟩
  item := .ofMembers
    [("]", .ofList [.number
        { minus := true
          whole := ⟨['1'], by simp, by simp⟩
          fraction := some ⟨['5'], by simp, by simp⟩
          exponent := some ⟨'E', ['+'], ⟨['3'], by simp, by simp⟩, by simp, by simp⟩
          zero := by simp }]),
      ("options", .ofList [spelledEntry])]
  after := .none

theorem offers_spelledDocument : Offers spelledDocument.item [⟨"😀", "v"⟩] :=
  ⟨_, _, holds_ofMembers (m := ("options", _)) rfl, .cons entry_spelledEntry .nil⟩

/-- `{"options":[],"options":[]}` -/
def twiceDocument : Value := .ofMembers [("options", .ofList []), ("options", .ofList [])]

theorem repeatsMember_twiceDocument : RepeatsMember twiceDocument :=
  .options ⟨_, _, rfl, by simp [called]⟩

theorem readChoices_of_members_spelled :
    Offers spelledDocument.item [⟨"😀", "v"⟩] ∧
      readChoices (Symbol.read (bytes spelledDocument)) = .ok [⟨"😀", "v"⟩] ∧
      readChoices (Symbol.read (bytes (spelledDocument.map bare))) = .ok [⟨"😀", "v"⟩] ∧
      RepeatsMember twiceDocument ∧
      ∃ e, readChoices (Symbol.read (bytes (.tight twiceDocument))) = .error e :=
  ⟨offers_spelledDocument, ((readChoices_of_members spelledDocument).1 _ offers_spelledDocument).1,
    ((readChoices_of_members spelledDocument).1 _ offers_spelledDocument).2,
    repeatsMember_twiceDocument,
    (readChoices_of_members (.tight twiceDocument)).2 repeatsMember_twiceDocument⟩

end Typeahead.Source
