import Typeahead.Field
import Typeahead.Markup.Escape

/-!
# The page

The markup of a field: the select underneath, the input with its toggle, and the menu if it is
open. Labels are markup already; names, values and the text of the input are escaped.
-/

namespace Typeahead
open Markup

/-- A choice in the markup of a select. -/
def Choice.render (c : Choice) (selected : Bool) : String :=
  "<option value=\"" ++ escape c.value ++ "\"" ++ (if selected then " selected=\"selected\"" else "")
    ++ ">" ++ c.label ++ "</option>"

/-- The select, with the choice selected marked. -/
def Select.render (s : Select) : String :=
  "<select name=\"" ++ escape s.name ++ "\"" ++ (if s.hidden then " style=\"display: none\"" else "")
    ++ ">" ++ String.join (s.choices.zipIdx.map fun (c, i) => c.render (s.selected = some i))
    ++ "</select>"

/-- The input and the toggle of a field with the name and text given. -/
def renderWrapper (id text : String) : String :=
  "<span class=\"ui-combobox\" id=\"" ++ escape id ++ "\">"
    ++ "<input class=\"ui-combobox-input\" title=\"\" value=\"" ++ escape text ++ "\"/>"
    ++ "<span class=\"ui-combobox-toggle\" tabindex=\"-1\" title=\"Show all options\">▼</span>"
    ++ "</span>"

/-- A row of the menu. -/
def Suggestion.render (s : Suggestion) : String := "<li><a>" ++ s.label ++ "</a></li>"

/-- The menu. -/
def renderMenu (rows : List Suggestion) : String :=
  "<ul class=\"ui-autocomplete\">" ++ String.join (rows.map Suggestion.render) ++ "</ul>"

namespace Field

def renderWrapper (f : Field) : String := Typeahead.renderWrapper f.id f.text

/-- The whole field; nothing once it is destroyed. -/
def render (f : Field) : String :=
  match f.control with
  | none => ""
  | some control =>
    control.render ++ f.renderWrapper ++ (if f.menuOpen then renderMenu f.suggestions else "")

end Field

end Typeahead
