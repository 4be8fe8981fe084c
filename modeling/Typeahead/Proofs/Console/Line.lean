import Mathlib.Data.List.TakeWhile
import Typeahead.Proofs.Console.Command
import Typeahead.Proofs.Console.Idle
import Typeahead.Proofs.Text.Pattern

/-!
# The line for a command

Each command has one line to say it: its word, and behind a single space a text or a number if it takes
one. Whoever writes that line, with any blanks before it and any ends of lines behind it, is
understood (`parse_of_spells`); the text comes back as it was, blanks at either end of it included. And
a text is never read out of any other line: what stands behind the one space is all of it
(`spells_of_parse`).
-/

namespace Typeahead.Console
open Text

namespace Command
variable {c : Command} {text t : String} {s w rest : List Char}

/-! ### What a line says -/

/-- The word for a command. -/
def name : Command → String
  | .type _ => "type"
  | .focus => "focus"
  | .blur => "blur"
  | .commit _ => "commit"
  | .pick _ => "pick"
  | .press => "press"
  | .click => "click"
  | .toggle => "toggle"
  | .wait => "wait"
  | .show => "show"
  | .state => "state"
  | .help => "help"
  | .quit => "quit"

/-- What stands behind the word. Rows are counted from one. -/
def argument? : Command → Option String
  | .type text | .commit text => some text
  | .pick position => some (toString (position + 1))
  | _ => none

def line (c : Command) : String :=
  match c.argument? with
  | none => c.name
  | some text => c.name ++ " " ++ text

/-- A line can say it: a text must not end as a line does, and a row needs a number that is
understood. -/
def Sayable : Command → Prop
  | .type text | .commit text => text.toList.getLast?.any isLineEnd = false
  | .pick position => position < largestNumber
  | _ => True

/-- The text is the line for a command, with blanks before it and ends of lines behind it. -/
def Spells (c : Command) (text : String) : Prop :=
  ∃ blanks ends : List Char, text.toList = blanks ++ c.line.toList ++ ends ∧
    (∀ b ∈ blanks, isBlank b = true) ∧ ∀ e ∈ ends, isLineEnd e = true

theorem toList_line_of_none (h : c.argument? = none) : c.line.toList = c.name.toList := by
  simp only [line, h]

theorem toList_line_of_some (h : c.argument? = some t) :
    c.line.toList = c.name.toList ++ ' ' :: t.toList := by
  simp only [line, h, String.toList_append]
  exact List.append_assoc ..

theorem name_ne_nil (c : Command) : c.name.toList ≠ [] := by
  cases c <;> simp only [name] <;> decide

theorem not_isBlank_name (c : Command) : ∀ b ∈ c.name.toList, isBlank b = false := by
  have hseen : c.name.toList.all (!isBlank ·) = true := by cases c <;> simp only [name] <;> rfl
  intro b hb
  simpa using List.all_eq_true.mp hseen b hb

/-! ### Words -/

theorem ne_space_of_not_isBlank {b : Char} (hb : isBlank b = false) : decide (b ≠ ' ') = true := by
  refine decide_eq_true fun heq => ?_
  subst heq
  exact absurd hb (by decide)

theorem words_word (hw : ∀ b ∈ w, isBlank b = false) : words w = (w, []) := by
  have hdrop : w.dropWhile (· ≠ ' ') = [] :=
    List.dropWhile_eq_nil_iff.mpr fun b hb => ne_space_of_not_isBlank (hw b hb)
  simp only [words, trimStart_of_not_isBlank hw, hdrop, trim_of_not_isBlank hw]

theorem words_text (hne : w ≠ []) (hw : ∀ b ∈ w, isBlank b = false) (rest : List Char) :
    words (w ++ ' ' :: rest) = (w, rest) := by
  have hstart : trimStart (w ++ ' ' :: rest) = w ++ ' ' :: rest := by
    obtain ⟨b, w, rfl⟩ := List.exists_cons_of_ne_nil hne
    exact trimStart_cons (hw b List.mem_cons_self) _
  have hspaceless : ∀ b ∈ w, decide (b ≠ ' ') = true :=
    fun b hb => ne_space_of_not_isBlank (hw b hb)
  have hdrop : (w ++ ' ' :: rest).dropWhile (· ≠ ' ') = ' ' :: rest :=
    dropWhile_append_cons hspaceless (by decide) rest
  have htake : (w ++ ' ' :: rest).takeWhile (· ≠ ' ') = w :=
    takeWhile_append_cons hspaceless (by decide) rest
  simp only [words, hstart, hdrop, htake]

/-- Where something is left behind the word, a single space stands between. -/
theorem exists_of_words (h : words s = (w, rest)) (hne : rest ≠ []) :
    ∃ blanks, s = blanks ++ (w ++ ' ' :: rest) ∧ ∀ b ∈ blanks, isBlank b = true := by
  unfold words at h
  dsimp only at h
  split at h
  · obtain ⟨-, rfl⟩ := Prod.mk.inj h
    exact absurd rfl hne
  · rename_i b rest' hdrop
    obtain ⟨rfl, rfl⟩ := Prod.mk.inj h
    have hspace : b = ' ' := by
      have hhead := List.head?_dropWhile_not (fun b : Char => decide (b ≠ ' ')) (trimStart s)
      rw [hdrop] at hhead
      simpa using hhead
    rw [hspace] at hdrop
    refine ⟨s.takeWhile isBlank, ?_, fun b hb => List.all_eq_true.mp List.all_takeWhile b hb⟩
    rw [← hdrop, List.takeWhile_append_dropWhile]
    exact List.takeWhile_append_dropWhile.symm

/-! ### Saying it -/

theorem words_line (c : Command) :
    words c.line.toList = (c.name.toList, (c.argument?.getD "").toList) := by
  cases h : c.argument? with
  | none =>
    rw [toList_line_of_none h, words_word c.not_isBlank_name]
    rfl
  | some t =>
    rw [toList_line_of_some h, words_text c.name_ne_nil c.not_isBlank_name]
    rfl

theorem toList_toString (n : Nat) : (toString n).toList = Nat.toDigits 10 n := by
  rw [Nat.toString_eq_ofList_toDigits]
  exact String.toList_ofList

theorem ofWords_line (hc : c.Sayable) :
    ofWords c.name.toList (c.argument?.getD "").toList = .ok c := by
  cases c with
  | type text => simp only [ofWords, name, argument?, Option.getD_some, String.ofList_toList]
  | commit text => simp only [ofWords, name, argument?, Option.getD_some, String.ofList_toList]
  | pick position =>
    have hfits : ¬ (position + 1 = 0 ∨ largestNumber < position + 1) := by
      change position < largestNumber at hc
      omega
    have hpick := ofWords_pick (position + 1)
    rw [if_neg hfits, ← toList_toString] at hpick
    exact hpick
  | _ => rfl

theorem last_argument (hc : c.Sayable) (h : c.argument? = some t) :
    t.toList.getLast?.any isLineEnd = false := by
  cases c with
  | type text | commit text =>
    obtain rfl := Option.some.inj h
    exact hc
  | pick position =>
    obtain rfl := Option.some.inj h
    rw [toList_toString]
    exact last_of_not_isBlank fun b hb => isBlank_of_isDigit (isDigit_of_mem b hb)
  | _ => cases h

theorem last_line (hc : c.Sayable) : c.line.toList.getLast?.any isLineEnd = false := by
  cases h : c.argument? with
  | none =>
    rw [toList_line_of_none h]
    exact last_of_not_isBlank c.not_isBlank_name
  | some t =>
    rw [toList_line_of_some h, last_append _ (List.cons_ne_nil _ _)]
    by_cases hne : t.toList = []
    · rw [hne]; rfl
    · rw [← List.singleton_append, last_append _ hne]
      exact last_argument hc h

theorem exists_seen_line (c : Command) : ∃ b ∈ c.line.toList, isBlank b = false := by
  obtain ⟨b, w, hw⟩ := List.exists_cons_of_ne_nil c.name_ne_nil
  have hb : b ∈ c.name.toList := hw ▸ List.mem_cons_self
  refine ⟨b, ?_, c.not_isBlank_name b hb⟩
  cases h : c.argument? with
  | none => rw [toList_line_of_none h]; exact hb
  | some t => rw [toList_line_of_some h]; exact List.mem_append_left _ hb

theorem parse_of_spells (hc : c.Sayable) (h : c.Spells text) : parse text = .ok (some c) := by
  obtain ⟨blanks, ends, htext, hblanks, hends⟩ := h
  rw [parse_framed htext hblanks hends (last_line hc) c.exists_seen_line, words_line, ofWords_line hc]
  rfl

/-! ### Reading it -/

theorem parse_of_seen (h : text.toList.all isBlank = false) :
    ∃ s ends, text.toList = s ++ ends ∧ (∀ e ∈ ends, isLineEnd e = true) ∧
      s.getLast?.any isLineEnd = false ∧
      parse text = (ofWords (words s).1 (words s).2).map some := by
  obtain ⟨ends, htext, hends⟩ := exists_dropWhileEnd isLineEnd text.toList
  have hseen : (dropWhileEnd isLineEnd text.toList).all isBlank = false := by
    rw [htext, List.all_append] at h
    have hall : ends.all isBlank = true :=
      List.all_eq_true.mpr fun e he => isBlank_of_isLineEnd (hends e he)
    simpa [hall] using h
  refine ⟨_, ends, htext, hends, last_dropWhileEnd isLineEnd text.toList, ?_⟩
  exact if_neg (by rw [Bool.not_eq_true]; exact hseen)

/-- A command that takes a text has been given it as it stands behind the word. -/
theorem eq_of_ofWords (hc : c = .type t ∨ c = .commit t) (h : ofWords w rest = .ok c) :
    w = c.name.toList ∧ rest = t.toList := by
  have hword : ∀ {name : String}, String.ofList w = name → w = name.toList := by
    rintro name rfl
    exact String.toList_ofList.symm
  unfold ofWords at h
  split at h
  case h_1 hname =>
    obtain rfl := Except.ok.inj h
    rcases hc with hc | hc
    · obtain rfl := Command.type.inj hc
      exact ⟨hword hname, String.toList_ofList.symm⟩
    · cases hc
  case h_4 hname =>
    obtain rfl := Except.ok.inj h
    rcases hc with hc | hc
    · cases hc
    · obtain rfl := Command.commit.inj hc
      exact ⟨hword hname, String.toList_ofList.symm⟩
  case h_5 =>
    split at h
    · rcases hc with rfl | rfl <;> cases h
    · cases h
  all_goals rcases hc with rfl | rfl <;> cases h

theorem spells_of_parse (hc : c = .type t ∨ c = .commit t) (hne : t ≠ "")
    (h : parse text = .ok (some c)) : c.Sayable ∧ c.Spells text := by
  have hargument : c.argument? = some t := by rcases hc with rfl | rfl <;> rfl
  have hseen : text.toList.all isBlank = false := by
    cases hall : text.toList.all isBlank with
    | false => rfl
    | true =>
      rw [parse_of_blank (List.all_eq_true.mp hall)] at h
      cases h
  obtain ⟨s, ends, htext, hends, hlast, hparse⟩ := parse_of_seen hseen
  rw [hparse] at h
  obtain ⟨c', hc', heq⟩ : ∃ c', ofWords (words s).1 (words s).2 = .ok c' ∧ c' = c := by
    cases hwords : ofWords (words s).1 (words s).2 with
    | error e => rw [hwords] at h; cases h
    | ok c' =>
      rw [hwords] at h
      exact ⟨c', rfl, Option.some.inj (Except.ok.inj h)⟩
  rw [heq] at hc'
  obtain ⟨hword, hrest⟩ := eq_of_ofWords hc hc'
  have hrest_ne : t.toList ≠ [] := fun hnil => hne (String.toList_eq_nil_iff.mp hnil)
  have hwords : words s = (c.name.toList, t.toList) := Prod.ext hword hrest
  obtain ⟨blanks, hs, hblanks⟩ := exists_of_words hwords hrest_ne
  have hsayable : t.toList.getLast?.any isLineEnd = false := by
    rw [hs, ← List.append_assoc, List.append_cons, last_append _ hrest_ne] at hlast
    exact hlast
  rw [← toList_line_of_some hargument] at hs
  refine ⟨?_, blanks, ends, by rw [htext, hs], hblanks, hends⟩
  rcases hc with rfl | rfl <;> exact hsayable

theorem parse_eq_none_iff : parse text = .ok none ↔ ∀ b ∈ text.toList, isBlank b = true := by
  refine ⟨fun h => ?_, parse_of_blank⟩
  cases hall : text.toList.all isBlank with
  | true => exact List.all_eq_true.mp hall
  | false =>
    -- what is seen is read as a command or refused
    obtain ⟨s, -, -, -, -, hparse⟩ := parse_of_seen hall
    rw [hparse] at h
    cases hwords : ofWords (words s).1 (words s).2 with
    | error e => rw [hwords] at h; cases h
    | ok c => rw [hwords] at h; cases h

/-- Every command is read back from its line, with blanks before it and ends of lines behind it. Where a
text is read that is not empty, the line says it in this form and in no other. Only lines of blanks ask
for nothing. -/
theorem parse_reads_lines :
    (∀ (c : Command) (text : String), c.Sayable → c.Spells text → parse text = .ok (some c)) ∧
    (∀ (c : Command) (text t : String), (c = .type t ∨ c = .commit t) → t ≠ "" →
      parse text = .ok (some c) → c.Sayable ∧ c.Spells text) ∧
    (∀ text : String, parse text = .ok none ↔ ∀ b ∈ text.toList, isBlank b = true) :=
  ⟨fun _ _ => parse_of_spells, fun _ _ _ => spells_of_parse, fun _ => parse_eq_none_iff⟩

theorem parse_reads_lines_blanks :
    parse "\u0085\n type  a\u00a0 b \r\n\n" = .ok (some (.type " a\u00a0 b ")) ∧
    parse "\u3000pick 18446744073709551615\r" = .ok (some (.pick 18446744073709551614)) ∧
    ((Command.commit " x").Sayable ∧ (Command.commit " x").Spells "  commit  x\r\n") ∧
    parse " \n\u3000" = .ok none := by
  have htype : (Command.type " a\u00a0 b ").Spells "\u0085\n type  a\u00a0 b \r\n\n" :=
    ⟨['\u0085', '\n', ' '], ['\r', '\n', '\n'], by rfl, List.all_eq_true.mp rfl,
      List.all_eq_true.mp rfl⟩
  have hpick : (Command.pick 18446744073709551614).Spells "\u3000pick 18446744073709551615\r" :=
    ⟨['\u3000'], ['\r'], by rfl, List.all_eq_true.mp rfl, List.all_eq_true.mp rfl⟩
  have hfits : 18446744073709551614 < largestNumber := by decide
  have hblank : " \n\u3000".toList.all isBlank = true := by rfl
  exact ⟨parse_reads_lines.1 _ _ rfl htype, parse_reads_lines.1 _ _ hfits hpick,
    parse_reads_lines.2.1 _ _ " x" (.inr rfl) (by decide) rfl,
    (parse_reads_lines.2.2 _).mpr (List.all_eq_true.mp hblank)⟩

end Command
end Typeahead.Console
