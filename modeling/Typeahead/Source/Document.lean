import Typeahead.Choice
import Typeahead.Json.Record
import Typeahead.Json.Writer

/-!
# The document a source serves

An object with a list of choices under `options`, each with a `label` and a `value`.
-/

namespace Typeahead.Source
open Json Text

/-- A choice in the document. -/
def choiceRecord : Record Choice where
  title := "struct OptionEntry"
  members :=
    [.of "label" text fun v c => { c with label := v }, .of "value" text fun v c => { c with value := v }]
  blank := .none
  complete := true

/-- The document. -/
def documentRecord : Record (List Choice) where
  title := "struct OptionsResponse"
  members := [.of "options" (list choiceRecord.reader) fun v _ => v]
  blank := []
  complete := true

/-- The choices in a document. -/
def readChoices (s : List Symbol) : Except Json.Error (List Choice) := document documentRecord.reader s

/-- A choice as it is written in a document. -/
def writeChoice (c : Choice) : List Char :=
  writeObject [("label", writeText c.label), ("value", writeText c.value)]

/-- The document that offers the choices given. -/
def writeChoices (choices : List Choice) : String :=
  String.ofList (writeObject [("options", writeList (choices.map writeChoice))])

end Typeahead.Source
