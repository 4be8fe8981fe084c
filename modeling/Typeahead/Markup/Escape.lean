/-!
# Escaping

Text for an attribute or for the page: the five characters that mean something to markup are
written as references, all others as they are.
-/

namespace Typeahead.Markup

/-- One character, escaped where markup would read it. -/
def escapeChar : Char → List Char
  | '&' => "&amp;".toList
  | '<' => "&lt;".toList
  | '>' => "&gt;".toList
  | '"' => "&quot;".toList
  | '\'' => "&#39;".toList
  | c => [c]

/-- The text, escaped character by character. -/
def escape (s : String) : String := String.ofList (s.toList.flatMap escapeChar)

end Typeahead.Markup
