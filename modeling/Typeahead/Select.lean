import Typeahead.Choice

/-!
# Selects

A named list of choices of which at most one is selected. Lookups by value take the first choice
that has it. `Select.Edit` names the ways to change a select, so that a history is a list of edits.
-/

namespace Typeahead

/-- A single-choice control. -/
structure Select where
  name : String
  choices : List Choice
  selected : Option Nat
  hidden : Bool
  deriving DecidableEq, Repr

/-- The first choice with the value given. -/
def Choice.position? (choices : List Choice) (value : String) : Option Nat :=
  choices.findIdx? (·.value = value)

namespace Select

/-- A visible select without choices. -/
def new (name : String) : Select := ⟨name, [], none, false⟩

/-- Adds choices at the end. -/
def append (s : Select) (choices : List Choice) : Select := { s with choices := s.choices ++ choices }

def position? (s : Select) (value : String) : Option Nat := Choice.position? s.choices value

/-- The choice selected. -/
def choice? (s : Select) : Option Choice := s.selected.bind (s.choices[·]?)

/-- The value submitted: that of the choice selected, or nothing. -/
def value (s : Select) : String := (s.choice?.map Choice.value).getD ""

/-- Selects by position, if there is such a choice. -/
def select? (s : Select) (i : Nat) : Option Select :=
  if i < s.choices.length then some { s with selected := some i } else none

/-- Selects the first choice with the value given, or none. -/
def setValue (s : Select) (value : String) : Select := { s with selected := s.position? value }

/-- Selects the first choice without a value, or none. -/
def clear (s : Select) : Select := s.setValue ""

/-- Offers the empty choice and then `choices`, and selects the first that has the value `keep`,
unless that is empty. -/
def replace (s : Select) (choices : List Choice) (keep : String) : Select :=
  { s with
    choices := .none :: choices
    selected := if keep.isEmpty then none else Choice.position? (.none :: choices) keep }

def hide (s : Select) : Select := { s with hidden := true }

def unhide (s : Select) : Select := { s with hidden := false }

/-- One change to a select. -/
inductive Edit where
  | append (choices : List Choice)
  | select (i : Nat)
  | setValue (value : String)
  | clear
  | replace (choices : List Choice) (keep : String)
  | hide
  | unhide

/-- The select after one change. A position out of range selects nothing new. -/
def edit (s : Select) : Edit → Select
  | .append choices => s.append choices
  | .select i => (s.select? i).getD s
  | .setValue v => s.setValue v
  | .clear => s.clear
  | .replace choices keep => s.replace choices keep
  | .hide => s.hide
  | .unhide => s.unhide

/-- What a change answers, if it answers: whether the choice asked for is there and now selected. -/
def answer (s : Select) : Edit → Option Bool
  | .select i => some (s.select? i).isSome
  | .setValue v => some (s.setValue v).selected.isSome
  | _ => none

end Select

end Typeahead
