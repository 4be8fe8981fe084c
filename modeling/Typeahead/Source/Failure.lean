import Typeahead.Time.Span

/-!
# Failures of a source

Why the list of choices did not come.
-/

namespace Typeahead.Source

/-- What went wrong on the way to a server. -/
inductive Trouble where
  /-- The request could not be made up for such an address. -/
  | building
  /-- The server could not be reached, or closed without an answer. -/
  | sending
  /-- The answer broke off. -/
  | reading
  deriving DecidableEq, Repr

namespace Trouble

def message : Trouble → String
  | building => "builder error"
  | sending => "error sending request"
  | reading => "error decoding response body"

end Trouble

/-- Why a source failed. -/
inductive Failure where
  | http (status : Nat) (body : String)
  | network (trouble : Trouble) (address : String)
  | timeout (limit : Span)
  | invalidUrl (reason : String)
  | malformed (reason : String) (body : Option String)
  deriving DecidableEq, Repr

namespace Failure

def message : Failure → String
  | http status body => "HTTP " ++ toString status ++ ": " ++ body
  | network trouble address => "Network error: " ++ trouble.message ++ " for url (" ++ address ++ ")"
  | timeout limit => "Timeout after " ++ limit.text
  | invalidUrl reason => "Invalid URL: " ++ reason
  | malformed reason _ => "Response parse error: " ++ reason

/-- The status of the answer, where it was an error. -/
def status? : Failure → Option Nat
  | http status _ => some status
  | _ => none

/-- The answer came and was not a list of choices. -/
def isMalformed : Failure → Bool
  | malformed .. => true
  | _ => false

/-- The answer that could not be understood. -/
def body? : Failure → Option String
  | malformed _ body => body
  | _ => none

end Failure

end Typeahead.Source
