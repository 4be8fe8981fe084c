/-!
# Choices

One entry of a list to choose from: a label, which is markup, and the value it stands for.
-/

namespace Typeahead

/-- A label and the value submitted when it is chosen. -/
structure Choice where
  label : String
  value : String
  deriving DecidableEq, Repr

namespace Choice

/-- The choice of nothing. -/
def none : Choice := ⟨"", ""⟩

/-- Nothing is submitted for it. -/
def isEmpty (c : Choice) : Bool := c.value.isEmpty

end Choice

end Typeahead
