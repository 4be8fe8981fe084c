import Typeahead.Json.Skip
import Typeahead.Proofs.Json.Number

/-!
# Passing over values

A value that is not needed is passed over whole, however deep it is (`run_skipValue`). What is
inside a list or an object is passed over part by part: `Passed` says of one part that it leads from
the place for a part to the place after one, and parts with commas between them lead to the closing
bracket (`skipFrom_parts`).
-/

namespace Typeahead.Json
open Text

/-! ### How a value begins -/

/-- The characters that a value may begin with. -/
def Value.Begins : Value → Char → Prop
  | null, c => c = 'n'
  | yes, c => c = 't'
  | no, c => c = 'f'
  | number _, c => c = '-' ∨ c.isDigit
  | text _, c => c = '"'
  | list _ _, c => c = '['
  | object _ _, c => c = '\x7b'

theorem Value.exists_write (v : Value) : ∃ c s, v.write = c :: s ∧ v.Begins c := by
  cases v with
  | null => exact ⟨_, _, by rw [write], rfl⟩
  | yes => exact ⟨_, _, by rw [write], rfl⟩
  | no => exact ⟨_, _, by rw [write], rfl⟩
  | number n =>
    obtain ⟨c, cs, hcs⟩ := List.exists_cons_of_ne_nil n.whole.ne_nil
    rw [write, Numeral.text, Numeral.unsigned, hcs]
    split
    · exact ⟨_, _, rfl, .inl rfl⟩
    · exact ⟨_, _, rfl, .inr (n.whole.digits c (hcs ▸ List.mem_cons_self))⟩
  | text signs => exact ⟨_, _, by rw [write]; rfl, rfl⟩
  | list blanks items => exact ⟨_, _, by rw [write_list]; rfl, rfl⟩
  | object blanks members => exact ⟨_, _, by rw [write_object]; rfl, rfl⟩

/-- No value begins with a blank, a comma or a closing bracket. -/
theorem Value.Begins.not_delimiter {v : Value} {c : Char} (h : v.Begins c) : c ∉ delimiters := by
  cases v with
  | number _ =>
    rcases h with rfl | h
    · decide
    · exact fun hc => not_isDigit_of_mem_delimiters hc h
  | _ => cases h; decide

theorem isBlank_of_not_delimiter {c : Char} (h : c ∉ delimiters) :
    Json.isBlank (.char c) = false :=
  Bool.eq_false_iff.mpr fun hc => h (List.mem_append_left _ (isBlank_char_iff.mp hc))

theorem Value.skipBlanks_write (v : Value) (s : List Symbol) :
    skipBlanks (v.write.map .char ++ s) = v.write.map .char ++ s := by
  obtain ⟨c, t, hv, hc⟩ := v.exists_write
  rw [hv]
  exact skipBlanks_cons (isBlank_of_not_delimiter hc.not_delimiter)

/-! ### Scalars -/

theorem opening?_of_isDigit {c : Char} (h : c.isDigit) : opening? (.char c) = some .digit := by
  rw [opening?]
  · rw [digit?_of_isDigit h]; rfl
  all_goals rintro ⟨⟩; exact absurd h (by decide)

/-- What is read after the first character of a scalar that is no digit. -/
def Opening.tail? : Opening → Option (Reader Unit)
  | null => some (word 'u' ['l', 'l'])
  | yes => some (word 'r' ['u', 'e'])
  | no => some (word 'a' ['l', 's', 'e'])
  | quote => some skipQuoted
  | minus => some skipNumber
  | digit | list | object => none

theorem run_skipScalar_of_tail {x : Symbol} {o : Opening} {r : Reader Unit} {s rest : List Symbol}
    (ho : opening? x = some o) (hr : o.tail? = some r) (hs : run r s = .ok ((), rest)) :
    run skipScalar (x :: s) = .ok (none, rest) := by
  obtain ⟨h, hread⟩ := outcome_eq_ok_iff.mp hs
  cases o <;> cases hr <;> rw [run, skipScalar, ho] <;> simp only [hread] <;> rfl

theorem run_skipScalar_of_digit {c : Char} (hc : c.isDigit) {s rest : List Symbol}
    (hs : run skipNumber (.char c :: s) = .ok ((), rest)) :
    run skipScalar (.char c :: s) = .ok (none, rest) := by
  obtain ⟨h, hread⟩ := outcome_eq_ok_iff.mp hs
  rw [run, skipScalar, opening?_of_isDigit hc]
  simp only [hread]
  rfl

theorem run_skipScalar_number (n : Numeral) {rest : List Symbol} (hrest : Delimited rest) :
    run skipScalar (n.text.map .char ++ rest) = .ok (none, rest) := by
  have hn := run_skipNumber n hrest
  unfold Numeral.text
  split
  · exact run_skipScalar_of_tail (o := .minus) rfl rfl hn
  · obtain ⟨c, cs, hcs⟩ := List.exists_cons_of_ne_nil n.whole.ne_nil
    have hc := n.whole.digits c (hcs ▸ List.mem_cons_self)
    rw [Numeral.unsigned, hcs] at hn ⊢
    exact run_skipScalar_of_digit hc hn

/-- What is neither a list nor an object. -/
def Value.IsScalar : Value → Prop
  | list _ _ | object _ _ => False
  | _ => True

theorem run_skipScalar {v : Value} (hv : v.IsScalar) {rest : List Symbol} (hrest : Delimited rest) :
    run skipScalar (v.write.map .char ++ rest) = .ok (none, rest) := by
  cases v with
  | null =>
    rw [Value.write]
    exact run_skipScalar_of_tail (o := .null) rfl rfl (run_word 'u' ['l', 'l'] rest)
  | yes =>
    rw [Value.write]
    exact run_skipScalar_of_tail (o := .yes) rfl rfl (run_word 'r' ['u', 'e'] rest)
  | no =>
    rw [Value.write]
    exact run_skipScalar_of_tail (o := .no) rfl rfl (run_word 'a' ['l', 's', 'e'] rest)
  | number n =>
    rw [Value.write]
    exact run_skipScalar_number n hrest
  | text signs =>
    rw [Value.write, inQuotes_append]
    exact run_skipScalar_of_tail (o := .quote) rfl rfl (run_skipQuoted signs rest)
  | list blanks items => cases hv
  | object blanks members => cases hv

/-! ### Lists and objects -/

theorem run_skipScalar_bracket (s : List Symbol) :
    run skipScalar (.char '[' :: s) = .ok (some .list, s) := rfl

theorem run_skipScalar_brace (s : List Symbol) :
    run skipScalar (.char '\x7b' :: s) = .ok (some .object, s) := rfl

theorem run_keyQuote (s : List Symbol) : run keyQuote (.char '"' :: s) = .ok ((), s) := rfl

section
variable (f : Frame) (outer : List Frame) {g : Frame} {start s t rest : List Symbol}

/-- Where passing over goes on when everything inside `outer` is closed. -/
def resume (start : List Symbol) (outer : List Frame) (s : List Symbol)
    (h : s.length < start.length) : Except Fault (Read Unit start) :=
  match outer with
  | [] => .ok ⟨(), s, h⟩
  | g :: outer => skipFrom start g outer .next s h

theorem skipFrom_scalar (hs : run skipScalar (skipBlanks s) = .ok (none, t))
    (h : s.length < start.length) :
    ∃ h', skipFrom start f outer .value s h = skipFrom start f outer .next t h' := by
  obtain ⟨ht, hread⟩ := outcome_eq_ok_iff.mp ((run_afterBlanks skipScalar s).trans hs)
  refine ⟨length_lt_trans ht h, ?_⟩
  rw [skipFrom, hread]

theorem skipFrom_open (hs : run skipScalar (skipBlanks s) = .ok (some g, t))
    (h : s.length < start.length) :
    ∃ h', skipFrom start f outer .value s h = skipFrom start g (f :: outer) .first t h' := by
  obtain ⟨ht, hread⟩ := outcome_eq_ok_iff.mp ((run_afterBlanks skipScalar s).trans hs)
  refine ⟨length_lt_trans ht h, ?_⟩
  rw [skipFrom, hread]

theorem skipFrom_key {s₁ s₂ s₃ : List Symbol} (h₁ : run (afterBlanks keyQuote) s = .ok ((), s₁))
    (h₂ : run skipQuoted s₁ = .ok ((), s₂)) (h₃ : run (afterBlanks colon) s₂ = .ok ((), s₃))
    (h : s.length < start.length) :
    ∃ h', skipFrom start f outer .member s h = skipFrom start f outer .value s₃ h' := by
  obtain ⟨l₁, hread₁⟩ := outcome_eq_ok_iff.mp h₁
  obtain ⟨l₂, hread₂⟩ := outcome_eq_ok_iff.mp h₂
  obtain ⟨l₃, hread₃⟩ := outcome_eq_ok_iff.mp h₃
  refine ⟨by omega, ?_⟩
  conv => lhs; rw [skipFrom, hread₁]
  simp only [hread₂, hread₃]

theorem skipFrom_close {place : Place} (hp : place = .first ∨ place = .next)
    (hs : skipBlanks s = .char f.close :: t) (h : s.length < start.length) :
    ∃ h', skipFrom start f outer place s h = resume start outer t h' := by
  obtain ⟨ht, hread⟩ := exists_nonblank? hs
  refine ⟨length_lt_trans ht h, ?_⟩
  rcases hp with rfl | rfl
  all_goals
    rw [skipFrom, hread]
    · cases outer <;> simp [resume]
    · rintro ⟨⟩
    · rintro ⟨⟩

theorem skipFrom_first {x : Symbol} (hs : skipBlanks s = x :: t) (hx : x ≠ .char f.close)
    (h : s.length < start.length) :
    skipFrom start f outer .first s h = skipFrom start f outer f.inside s h := by
  obtain ⟨ht, hread⟩ := exists_nonblank? hs
  rw [skipFrom, hread]
  · simp [hx]
  · rintro ⟨⟩
  · rintro ⟨⟩

theorem skipFrom_comma (hs : skipBlanks s = .char ',' :: t) (h : s.length < start.length) :
    ∃ h', skipFrom start f outer .next s h = skipFrom start f outer f.inside t h' := by
  obtain ⟨ht, hread⟩ := exists_nonblank? hs
  refine ⟨length_lt_trans ht h, ?_⟩
  rw [skipFrom, hread]
  · cases f <;> simp [Frame.close]
  · rintro ⟨⟩
  · rintro ⟨⟩

end

/-- The part `t` of a list or an object leads from the place for a part to the place after one. -/
structure Passed (f : Frame) (t : List Char) : Prop where
  begins : ∀ rest, ∃ x u, skipBlanks (t.map .char ++ rest) = x :: u ∧ x ≠ .char f.close
  leads : ∀ {start s rest : List Symbol} (outer : List Frame) (h : s.length < start.length),
    Delimited rest → skipBlanks s = skipBlanks (t.map .char ++ rest) →
    ∃ s' h', skipBlanks s' = skipBlanks rest ∧
      skipFrom start f outer f.inside s h = skipFrom start f outer .next s' h'

section
variable {f : Frame} {ts : List (List Char)} {start s rest : List Symbol}

/-- What stands inside a list or an object from some part on, and its closing bracket. There is a
comma before every part but the first. -/
def partsFrom (f : Frame) (first : Bool) (ts : List (List Char)) (rest : List Symbol) :
    List Symbol :=
  (if first then commaSeparated ts else ts.flatMap (',' :: ·)).map .char ++ .char f.close :: rest

theorem isBlank_close (f : Frame) : Json.isBlank (.char f.close) = false := by cases f <;> rfl

theorem skipBlanks_partsFrom_nil (f : Frame) (first : Bool) (rest : List Symbol) :
    skipBlanks (partsFrom f first [] rest) = .char f.close :: rest := by
  cases first <;> exact skipBlanks_cons (isBlank_close f)

theorem partsFrom_first (f : Frame) (t : List Char) (ts : List (List Char)) (rest : List Symbol) :
    partsFrom f true (t :: ts) rest = t.map .char ++ partsFrom f false ts rest := by
  simp [partsFrom, commaSeparated_cons]

theorem skipBlanks_partsFrom_next (f : Frame) (t : List Char) (ts : List (List Char))
    (rest : List Symbol) :
    skipBlanks (partsFrom f false (t :: ts) rest) =
      .char ',' :: (t.map .char ++ partsFrom f false ts rest) := by
  have h : partsFrom f false (t :: ts) rest =
      .char ',' :: (t.map .char ++ partsFrom f false ts rest) := by simp [partsFrom]
  rw [h, skipBlanks_cons (by decide)]

theorem delimited_partsFrom (f : Frame) (ts : List (List Char)) (rest : List Symbol) :
    Delimited (partsFrom f false ts rest) := by
  cases ts with
  | nil => cases f <;> exact delimited_cons (by decide) _
  | cons t ts => exact delimited_cons (by decide) _

/-- The part after the place reached is entered, at the start or behind a comma. -/
theorem skipFrom_enter {t : List Char} (ht : Passed f t) (outer : List Frame) {first : Bool}
    (hs : skipBlanks s = skipBlanks (partsFrom f first (t :: ts) rest))
    (h : s.length < start.length) :
    ∃ s' h', skipBlanks s' = skipBlanks (t.map .char ++ partsFrom f false ts rest) ∧
      skipFrom start f outer (if first then .first else .next) s h =
        skipFrom start f outer f.inside s' h' := by
  cases first with
  | false =>
    obtain ⟨h', heq⟩ := skipFrom_comma f outer (hs.trans (skipBlanks_partsFrom_next f t ts rest)) h
    exact ⟨_, h', rfl, heq⟩
  | true =>
    rw [partsFrom_first] at hs
    obtain ⟨x, u, hx, hne⟩ := ht.begins (partsFrom f false ts rest)
    exact ⟨s, h, hs, skipFrom_first f outer (hs.trans hx) hne h⟩

/-- Parts with commas between them lead to the closing bracket. -/
theorem skipFrom_parts (hts : ∀ t ∈ ts, Passed f t) (outer : List Frame) (first : Bool)
    (hs : skipBlanks s = skipBlanks (partsFrom f first ts rest)) (h : s.length < start.length) :
    ∃ h', skipFrom start f outer (if first then .first else .next) s h =
      resume start outer rest h' := by
  induction ts generalizing first s with
  | nil =>
    refine skipFrom_close f outer ?_ (hs.trans (skipBlanks_partsFrom_nil f first rest)) h
    cases first <;> simp
  | cons t ts ih =>
    have ht := hts t List.mem_cons_self
    obtain ⟨s₁, h₁, hs₁, heq₁⟩ := skipFrom_enter ht outer hs h
    obtain ⟨s₂, h₂, hs₂, heq₂⟩ := ht.leads outer h₁ (delimited_partsFrom f ts rest) hs₁
    obtain ⟨h₃, heq₃⟩ := ih (fun u hu => hts u (List.mem_cons_of_mem _ hu)) false hs₂ h₂
    exact ⟨h₃, (heq₁.trans heq₂).trans heq₃⟩

end

/-! ### Values -/

theorem Padded.map_text_append {α : Type} (f : α → List Char) (p : Padded α) (rest : List Symbol) :
    (p.text f).map .char ++ rest =
      p.before.chars.map .char ++ ((f p.item).map .char ++ (p.after.chars.map .char ++ rest)) := by
  simp [Padded.text]

/-- What follows the colon of a member. -/
def Named.afterColon (m : Named Value) (rest : List Symbol) : List Symbol :=
  (m.value.text Value.write).map .char ++ rest

/-- What follows the key of a member. -/
def Named.afterKey (m : Named Value) (rest : List Symbol) : List Symbol :=
  m.key.after.chars.map .char ++ .char ':' :: m.afterColon rest

theorem Named.map_text_append (m : Named Value) (rest : List Symbol) :
    (m.text Value.write).map .char ++ rest =
      m.key.before.chars.map .char ++ .char '"' :: untilQuote m.key.item (m.afterKey rest) := by
  simp [Named.text, Padded.text, inQuotes, untilQuote, afterKey, afterColon]

theorem skipBlanks_padded (p : Padded Value) (rest : List Symbol) :
    skipBlanks ((p.text Value.write).map .char ++ rest) =
      p.item.write.map .char ++ (p.after.chars.map .char ++ rest) := by
  rw [p.map_text_append, skipBlanks_blanks, Value.skipBlanks_write]

theorem skipBlanks_named (m : Named Value) (rest : List Symbol) :
    skipBlanks ((m.text Value.write).map .char ++ rest) =
      .char '"' :: untilQuote m.key.item (m.afterKey rest) := by
  rw [m.map_text_append, skipBlanks_blanks, skipBlanks_cons (by decide)]

theorem run_colon (m : Named Value) (rest : List Symbol) :
    run (afterBlanks colon) (m.afterKey rest) = .ok ((), m.afterColon rest) := by
  rw [run_afterBlanks, Named.afterKey, skipBlanks_blanks, skipBlanks_cons (by decide)]
  rfl

namespace Value

/-- The value leads from the place for a value to the place after it. -/
def Leads (v : Value) : Prop :=
  ∀ ⦃start s rest : List Symbol⦄ (f : Frame) (outer : List Frame) (h : s.length < start.length),
    Delimited rest → skipBlanks s = v.write.map .char ++ rest →
    ∃ h', skipFrom start f outer .value s h = skipFrom start f outer .next rest h'

theorem Leads.passed {i : Padded Value} (hv : i.item.Leads) : Passed .list (i.text write) where
  begins rest := by
    obtain ⟨c, t, hw, hc⟩ := i.item.exists_write
    refine ⟨.char c, _, (skipBlanks_padded i rest).trans (by rw [hw]; rfl), ?_⟩
    rintro ⟨⟩
    exact hc.not_delimiter (by decide)
  leads outer h hrest hs := by
    obtain ⟨h', heq⟩ := hv .list outer h (hrest.blanks i.after) (hs.trans (skipBlanks_padded i _))
    exact ⟨_, h', skipBlanks_blanks _ _, heq⟩

theorem Leads.passed_named {m : Named Value} (hv : m.value.item.Leads) :
    Passed .object (m.text write) where
  begins rest := ⟨_, _, skipBlanks_named m rest, by decide⟩
  leads {start s rest} outer h hrest hs := by
    have hkey : run (afterBlanks keyQuote) s =
        .ok ((), untilQuote m.key.item (m.afterKey rest)) := by
      rw [run_afterBlanks, hs, skipBlanks_named, run_keyQuote]
    obtain ⟨h₁, heq₁⟩ := skipFrom_key .object outer hkey (run_skipQuoted _ _) (run_colon m rest) h
    obtain ⟨h₂, heq₂⟩ := hv .object outer h₁ (hrest.blanks m.value.after)
      (skipBlanks_padded m.value _)
    exact ⟨_, h₂, skipBlanks_blanks _ _, heq₁.trans heq₂⟩

theorem list_append (blanks : Blanks) (items : List (Padded Value)) (rest : List Symbol) :
    (list blanks items).write.map .char ++ rest = .char '[' ::
      (blanks.chars.map .char ++ partsFrom .list true (items.map (Padded.text write)) rest) := by
  simp [write_list, partsFrom, Frame.close]

theorem object_append (blanks : Blanks) (members : List (Named Value)) (rest : List Symbol) :
    (object blanks members).write.map .char ++ rest = .char '\x7b' ::
      (blanks.chars.map .char ++ partsFrom .object true (members.map (Named.text write)) rest) := by
  simp [write_object, partsFrom, Frame.close]

theorem passed_items {items : List (Padded Value)} (h : ∀ i ∈ items, i.item.Leads) :
    ∀ t ∈ items.map (Padded.text write), Passed .list t := by
  intro t ht
  obtain ⟨i, hi, rfl⟩ := List.mem_map.mp ht
  exact (h i hi).passed

theorem passed_members {members : List (Named Value)} (h : ∀ m ∈ members, m.value.item.Leads) :
    ∀ t ∈ members.map (Named.text write), Passed .object t := by
  intro t ht
  obtain ⟨m, hm, rfl⟩ := List.mem_map.mp ht
  exact (h m hm).passed_named

theorem IsScalar.leads {v : Value} (hv : v.IsScalar) : v.Leads := fun _ _ _ f outer h hrest hs =>
  skipFrom_scalar f outer (hs ▸ run_skipScalar hv hrest) h

theorem leads (v : Value) : v.Leads := by
  induction v using Value.induction with
  | null | yes | no | number | text =>
    refine IsScalar.leads ?_
    trivial
  | list blanks items ih =>
    intro start s rest f outer h hrest hs
    rw [list_append] at hs
    obtain ⟨h₁, heq₁⟩ := skipFrom_open f outer (hs ▸ run_skipScalar_bracket _) h
    obtain ⟨h₂, heq₂⟩ := skipFrom_parts (passed_items ih) (f :: outer) true
      (skipBlanks_blanks blanks _) h₁
    exact ⟨h₂, heq₁.trans heq₂⟩
  | object blanks members ih =>
    intro start s rest f outer h hrest hs
    rw [object_append] at hs
    obtain ⟨h₁, heq₁⟩ := skipFrom_open f outer (hs ▸ run_skipScalar_brace _) h
    obtain ⟨h₂, heq₂⟩ := skipFrom_parts (passed_members ih) (f :: outer) true
      (skipBlanks_blanks blanks _) h₁
    exact ⟨h₂, heq₁.trans heq₂⟩

end Value

section
variable {s t rest : List Symbol}

theorem run_skipValue_of_scalar (h : run skipScalar (skipBlanks s) = .ok (none, rest)) :
    run skipValue s = .ok ((), rest) := by
  obtain ⟨h', hread⟩ := outcome_eq_ok_iff.mp ((run_afterBlanks skipScalar s).trans h)
  rw [run, skipValue, hread]
  rfl

theorem run_skipValue_of_open {f : Frame} (h : run skipScalar (skipBlanks s) = .ok (some f, t))
    (ht : ∀ h, ∃ h', skipFrom s f [] .first t h = resume s [] rest h') :
    run skipValue s = .ok ((), rest) := by
  obtain ⟨h', hread⟩ := outcome_eq_ok_iff.mp ((run_afterBlanks skipScalar s).trans h)
  obtain ⟨h'', heq⟩ := ht h'
  rw [run, skipValue, hread]
  exact congrArg outcome heq

end

/-- A value is passed over whole. -/
theorem run_skipValue {s rest : List Symbol} (v : Value) (hrest : Delimited rest)
    (hs : skipBlanks s = v.write.map .char ++ rest) : run skipValue s = .ok ((), rest) := by
  -- the brackets at the outside are met by `skipValue` itself, so this is no case of `leads`
  cases v with
  | null | yes | no | number | text =>
    refine run_skipValue_of_scalar ?_
    rw [hs]
    refine run_skipScalar ?_ hrest
    trivial
  | list blanks items =>
    rw [Value.list_append] at hs
    exact run_skipValue_of_open (hs ▸ run_skipScalar_bracket _) fun h =>
      skipFrom_parts (Value.passed_items fun i _ => i.item.leads) [] true
        (skipBlanks_blanks blanks _) h
  | object blanks members =>
    rw [Value.object_append] at hs
    exact run_skipValue_of_open (hs ▸ run_skipScalar_brace _) fun h =>
      skipFrom_parts (Value.passed_members fun m _ => m.value.item.leads) [] true
        (skipBlanks_blanks blanks _) h

end Typeahead.Json
