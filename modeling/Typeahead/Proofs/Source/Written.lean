import Typeahead.Proofs.Source.Document

/-!
# Documents that are written

The document written for some choices is one that offers them, so it is read as these choices, each
in its place and with every character of its label and value (`readChoices_writeChoices`).
-/

namespace Typeahead.Source
open Json Text

/-- The tree that is written for a choice. -/
def choiceTree (c : Choice) : Value :=
  .ofMembers [("label", .ofText c.label), ("value", .ofText c.value)]

/-- The tree that is written for some choices. -/
def documentTree (cs : List Choice) : Value := .ofMembers [("options", .ofList (cs.map choiceTree))]

theorem write_documentTree (cs : List Choice) :
    String.ofList (documentTree cs).write = writeChoices cs := by
  have hchoice : Value.write ∘ choiceTree = writeChoice := by
    funext c
    simp [choiceTree, writeChoice, Value.write_ofMembers, Value.write_ofText]
  rw [documentTree, Value.write_ofMembers, writeChoices]
  simp [Value.write_ofList, hchoice]

theorem entry_choiceTree (c : Choice) : Entry (choiceTree c) c where
  label := ⟨_, holds_ofMembers (m := ("label", _)) (by simp; rfl), isText_ofText _⟩
  value := ⟨_, holds_ofMembers (m := ("value", _)) (by simp; rfl), isText_ofText _⟩

theorem offers_documentTree (cs : List Choice) : Offers (documentTree cs) cs := by
  refine ⟨_, _, holds_ofMembers (m := ("options", _)) (by simp; rfl), ?_⟩
  rw [List.forall₂_map_left_iff, List.forall₂_map_left_iff]
  exact List.forall₂_same.mpr fun c _ => entry_choiceTree c

theorem readChoices_written (cs : List Choice) :
    readChoices (Symbol.read (writeChoices cs).toUTF8) = .ok cs := by
  have h := (readChoices_eq_ok_iff (.tight (documentTree cs))).mpr (offers_documentTree cs).choices?
  rw [bytes, Padded.text_tight, write_documentTree] at h
  exact h

/-- Choices are read as they were written, and choices that were read from whatever bytes are written
as a document that is read as the same choices and written as the same document. -/
theorem readChoices_writeChoices :
    (∀ cs, readChoices (Symbol.read (writeChoices cs).toUTF8) = .ok cs) ∧
    ∀ b cs, readChoices (Symbol.read b) = .ok cs →
      ∃ cs', readChoices (Symbol.read (writeChoices cs).toUTF8) = .ok cs' ∧ cs' = cs ∧
        writeChoices cs' = writeChoices cs :=
  ⟨readChoices_written, fun _ cs _ => ⟨cs, readChoices_written cs, rfl, rfl⟩⟩

theorem readChoices_writeChoices_spelled :
    readChoices (Symbol.read (bytes spelledDocument)) = .ok [⟨"😀", "v"⟩] ∧
      ∃ cs', readChoices (Symbol.read (writeChoices [⟨"😀", "v"⟩]).toUTF8) = .ok cs' ∧
        cs' = [⟨"😀", "v"⟩] ∧ writeChoices cs' = writeChoices [⟨"😀", "v"⟩] :=
  have h := (readChoices_eq_ok_iff spelledDocument).mpr offers_spelledDocument.choices?
  ⟨h, readChoices_writeChoices.2 _ _ h⟩

end Typeahead.Source
