import Typeahead.Text.Occurrence

/-!
# Queries

What a term typed by the user asks for. The empty term asks for everything. Any other asks for the
texts in which it occurs, up to case, if there is a pattern to search for it with. The `Engine` that
makes the patterns may refuse a term, as one too large; no search is made for that.
-/

namespace Typeahead
open Text

/-- What makes patterns for terms. Which terms it refuses is up to it. -/
class Engine where
  /-- There is a pattern for the term. -/
  builds : String → Bool

/-- An engine that refuses no term. -/
abbrev Engine.unlimited : Engine := ⟨fun _ => true⟩

/-- What a term asks for. -/
inductive Query where
  | all
  | containing (p : Pattern)
  | unsearchable

namespace Query

def ofTerm [Engine] (term : String) : Query :=
  match term.toList with
  | [] => all
  | c :: t => if Engine.builds term then containing (.term c t) else unsearchable

/-- A text answers the query. -/
def accepts : Query → String → Bool
  | all, _ => true
  | containing p, s => p.occursIn s.toList
  | unsearchable, _ => false

end Query

end Typeahead
