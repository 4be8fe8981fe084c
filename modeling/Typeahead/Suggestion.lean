import Typeahead.Choice
import Typeahead.Label

/-!
# Suggestions

The rows of the menu. `suggest` lists the choices that answer a term, in order, each with its
label marked up and the text that choosing it puts into the input. A placeholder is a row that
refers to no choice.
-/

namespace Typeahead

/-- A row of the menu: the markup shown, the text for the input, and the position of the choice it
stands for. -/
structure Suggestion where
  label : String
  value : String
  choice : Option Nat
  deriving DecidableEq, Repr

namespace Suggestion

/-- A row that cannot be picked. -/
def placeholder (label : String) : Suggestion := ⟨label, "", none⟩

def isPlaceholder (s : Suggestion) : Bool := s.choice.isNone

/-- The row for the choice at position `i` under a query, if the choice is not empty and shows what
is asked for. -/
def ofChoice? (q : Query) (tag : String) (c : Choice) (i : Nat) : Option Suggestion :=
  if c.isEmpty then none
  else
    let shown := displayText c.label
    if q.accepts shown then some ⟨q.mark tag c.label, shown, some i⟩ else none

end Suggestion

/-- The rows for the choices that answer `term`, in order, with the matches in the element `tag`. -/
def suggest [Engine] (choices : List Choice) (term tag : String) : List Suggestion :=
  match Query.ofTerm term with
  | .unsearchable => []
  | q => choices.zipIdx.filterMap fun (c, i) => Suggestion.ofChoice? q tag c i

end Typeahead
