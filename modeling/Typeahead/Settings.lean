import Typeahead.Json.Record
import Typeahead.Text.Blank
import Typeahead.Text.Quoted
import Typeahead.Time.Span
import Typeahead.Web.Url

/-!
# Settings of a field

What a host may choose about a field, with defaults for everything. A highlight tag has to be a
plain element name, so that putting it around a match cannot break the markup.
-/

namespace Typeahead

/-- Choices about a field. -/
structure Settings where
  id : Option String := none
  sourceUrl : Option String := none
  timeoutMs : Option UInt64 := none
  loadingLabel : String := "Loading..."
  failedLabel : String := "Failed to load options"
  highlightTag : String := "strong"
  deriving DecidableEq, Repr

/-- Why settings are refused. -/
inductive Settings.Error where
  | missingSourceUrl
  | invalidSourceUrl (address reason : String)
  | invalidHighlightTag (tag : String)
  deriving DecidableEq, Repr

namespace Settings.Error
open Text

def message : Settings.Error → String
  | missingSourceUrl => "source_url is required"
  | invalidSourceUrl address reason => "invalid source_url " ++ quote address ++ ": " ++ reason
  | invalidHighlightTag tag => "invalid highlight tag " ++ quote tag

end Settings.Error

namespace Settings

/-- Sets the timeout, in whole milliseconds of 64 bits. -/
def withTimeout (s : Settings) (d : Span) : Settings :=
  { s with timeoutMs := some (.ofNat d.milliseconds) }

/-- The timeout as a span. -/
def timeout (s : Settings) : Option Span := s.timeoutMs.map Span.ofMillis

/-- Settings under which a field can be mounted. -/
def check (s : Settings) : Except Settings.Error Unit :=
  if s.highlightTag.isEmpty || !s.highlightTag.toList.all Char.isAlphanum then
    .error (.invalidHighlightTag s.highlightTag)
  else .ok ()

/-- Where the choices come from. Blanks around the address do not count. -/
def address (s : Settings) : Except Settings.Error Web.Url :=
  match (s.sourceUrl.map fun raw => Text.trim raw.toList).getD [] with
  | [] => .error .missingSourceUrl
  | raw => (Web.Url.parse (String.ofList raw)).mapError fun e =>
      .invalidSourceUrl (String.ofList raw) e.message

/-- Settings as a record; what is not given keeps its default. -/
def record : Json.Record Settings where
  title := "struct ComboboxConfig"
  members :=
    [.of "id" (Json.optional Json.text) fun v s => { s with id := v },
      .of "source_url" (Json.optional Json.text) fun v s => { s with sourceUrl := v },
      .of "timeout_ms" (Json.optional Json.natural) fun v s => { s with timeoutMs := v },
      .of "loading_label" Json.text fun v s => { s with loadingLabel := v },
      .of "failed_label" Json.text fun v s => { s with failedLabel := v },
      .of "highlight_tag" Json.text fun v s => { s with highlightTag := v }]
  blank := {}
  complete := false

/-- Settings from a text in JSON. -/
def read (s : String) : Except Json.Error Settings :=
  Json.document record.reader (Text.Symbol.ofString s)

end Settings

end Typeahead
