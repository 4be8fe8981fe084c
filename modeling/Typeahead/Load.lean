/-!
# Loading

How far the fetch of the choices has come.
-/

namespace Typeahead

/-- The fetch is under way, has brought the choices, or has failed for the reason given. -/
inductive Load where
  | loading
  | loaded
  | failed (reason : String)
  deriving DecidableEq, Repr

namespace Load

def isLoading : Load → Bool
  | loading => true
  | _ => false

def isLoaded : Load → Bool
  | loaded => true
  | _ => false

def isFailed (l : Load) : Bool := !l.isLoading && !l.isLoaded

/-- Why the fetch failed, if it did. -/
def reason? : Load → Option String
  | failed reason => some reason
  | _ => none

end Load

end Typeahead
