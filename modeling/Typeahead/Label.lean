import Typeahead.Markup.Reference
import Typeahead.Markup.Tag
import Typeahead.Query

/-!
# Labels

A label is markup. `displayText` is the text it shows: tags removed, then references decoded.
`highlight` puts an element around each occurrence of a term in the label, but never inside a tag
or a reference; the label still shows the same text.
-/

namespace Typeahead
open Text Markup

/-- The text that a label shows. -/
def displayText (label : String) : String := String.ofList (decode (stripTags label.toList))

/-- What highlighting leaves alone: tags, and everything written as a reference. -/
def markup : Pattern := tag.orElse written

/-- The element `name` around `s`. -/
def element (name s : List Char) : List Char :=
  '<' :: name ++ '>' :: s ++ ['<', '/'] ++ name ++ ['>']

/-- The label with the element `name` around each match of `p` between its markup. -/
def emphasize (p : Pattern) (name : List Char) (label : List Char) : List Char :=
  (markup.pieces label).flatMap fun
    | .plain s => p.replace (element name) s
    | .found m => m

/-- The label with the matches of a query in the element `tag`. -/
def Query.mark (q : Query) (tag label : String) : String :=
  match q with
  | .containing p => String.ofList (emphasize p tag.toList label.toList)
  | _ => label

/-- The label with each occurrence of `term` in the element `tag`. -/
def highlight [Engine] (label term tag : String) : String := (Query.ofTerm term).mark tag label

end Typeahead
