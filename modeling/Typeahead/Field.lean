import Typeahead.Load
import Typeahead.Select
import Typeahead.Settings
import Typeahead.Source.Failure
import Typeahead.Stage
import Typeahead.Suggestion

/-!
# The searchable field

A text input over a hidden select. Typing lists the choices that contain the text; picking a row
selects its choice; leaving the input keeps the text only if it is the value of a choice. The
choices come from a source, once, and until then the menu holds a single placeholder.

A `Field` is the whole state, and each thing that can happen to it is a function on states.
`Field.Op` names them, and `Field.act` is one turn of the machine. A destroyed field has given its
select back.
-/

namespace Typeahead

/-- The state of a field. -/
structure Field where
  id : String
  settings : Settings
  /-- The select underneath; none once the field is destroyed. -/
  control : Option Select
  /-- The value of the select when the field was mounted. -/
  initialValue : String
  load : Load := .loading
  text : String
  focused : Bool := false
  /-- Typed since the last pick or commit. -/
  edited : Bool := false
  menuOpen : Bool := false
  /-- The term last searched for. -/
  lastTerm : Option String := none
  /-- The rows found by the last search. -/
  suggestions : List Suggestion := []
  /-- The menu was open when the toggle was pressed. -/
  wasOpen : Bool := false
  /-- Something changed since the host last cleared the mark. -/
  dirty : Bool := true
  focusRequested : Bool := false
  deriving DecidableEq, Repr

namespace Field
variable [Engine]

/-- The value and the shown text of the choice selected, if it has a value. -/
def initially (control : Select) : String × String :=
  match control.choice? with
  | some c => if c.isEmpty then ("", "") else (c.value, displayText c.label)
  | none => ("", "")

/-- The name of the `n`-th field mounted without one. -/
def generatedId (n : Nat) : String := "__combobox_" ++ toString n

/-- Mounts a field on a select and hides the select; `serial` names the field if the settings do
not. -/
def mount (control : Select) (settings : Settings) (serial : Nat) : Field where
  id := settings.id.getD (generatedId serial)
  settings := settings
  control := some control.hide
  initialValue := (initially control).1
  text := (initially control).2

/-! ### What a host can see -/

def isDestroyed (f : Field) : Bool := f.control.isNone

/-- The value that would be submitted. -/
def value (f : Field) : String := (f.control.map Select.value).getD ""

def choice? (f : Field) : Option Choice := f.control.bind Select.choice?

/-- The rows that answer a term at present. -/
def query (f : Field) (term : String) : List Suggestion :=
  match f.control with
  | none => []
  | some control =>
    match f.load with
    | .loading => [.placeholder f.settings.loadingLabel]
    | .failed _ => [.placeholder f.settings.failedLabel]
    | .loaded => suggest control.choices term f.settings.highlightTag

/-! ### What can happen to it -/

/-- Lists the rows for a term; the menu is open if there are any. -/
def search (f : Field) (term : String) : Field :=
  if f.isDestroyed then f
  else
    { f with
      lastTerm := some term
      menuOpen := !(f.query term).isEmpty
      suggestions := f.query term
      dirty := true }

/-- The text was typed. It is searched for unless it was the last term. -/
def input (f : Field) (text : String) : Field :=
  if f.isDestroyed then f
  else
    let f' := { f with text := text, edited := true, dirty := true }
    if f.lastTerm = some text then f' else f'.search text

/-- The input got the focus; its text is searched for. -/
def focus (f : Field) : Field :=
  if f.isDestroyed then f else { f with focused := true }.search f.text

/-- Text is final: it selects the first choice that has it as its value, and else nothing. -/
def commit (f : Field) (text : String) : Field :=
  match f.control with
  | none => f
  | some control =>
    match (control.setValue text).choice? with
    | some c =>
      { f with
        control := some (control.setValue text)
        text := displayText c.label
        edited := false
        dirty := true }
    | none =>
      { f with
        control := some control.clear
        text := ""
        lastTerm := none
        edited := false
        dirty := true }

/-- The input lost the focus; typed text is committed. -/
def blur (f : Field) : Field :=
  let f' := { f with focused := false, menuOpen := false, dirty := true }
  if f.edited then f'.commit f.text else f'

/-- A row was picked: its choice is selected and announced. Nothing happens if it refers to none. -/
def pick? (f : Field) (s : Suggestion) : Option (Field × Selected) := do
  let i ← s.choice
  let control ← f.control
  let control' ← control.select? i
  let c ← control.choices[i]?
  some ({ f with
          control := some control'
          text := s.value
          lastTerm := some s.value
          edited := false
          menuOpen := false
          dirty := true },
        ⟨f.id, i, c⟩)

/-- The row at a position of the menu was picked. -/
def pickAt? (f : Field) (position : Nat) : Option (Field × Selected) :=
  f.suggestions[position]?.bind f.pick?

/-- The toggle was pressed down. -/
def togglePress (f : Field) : Field := { f with wasOpen := f.menuOpen }

/-- The toggle was clicked: the input gets the focus, and a menu that was closed when the toggle was
pressed opens with every choice. -/
def toggleClick (f : Field) : Field :=
  if f.isDestroyed then f
  else
    let f' := { f with focused := true, focusRequested := true }
    if f.wasOpen then { f' with menuOpen := false, dirty := true } else f'.search ""

/-- The load has ended; an open menu is searched anew. -/
def settle (f : Field) (load : Load) : Field :=
  let f' := { f with load := load }
  { if f.menuOpen then f'.search f.text else f' with dirty := true }

/-- The choices came. The value the select had at first stays selected. Only the first list that
comes is taken. -/
def populate (f : Field) (choices : List Choice) : Field :=
  match f.control with
  | none => f
  | some control =>
    if f.load.isLoading then
      { f with control := some (control.replace choices f.initialValue) }.settle .loaded
    else f

/-- The fetch failed. -/
def fail (f : Field) (failure : Source.Failure) : Field :=
  if f.isDestroyed || !f.load.isLoading then f else f.settle (.failed failure.message)

/-- Gives the select back, visible. -/
def destroy (f : Field) : Field := { f with menuOpen := false, suggestions := [], control := none }

/-- Everything that can happen to a field. -/
inductive Op where
  | input (text : String)
  | focus
  | blur
  | commit (text : String)
  | pick (row : Suggestion)
  | pickAt (position : Nat)
  | togglePress
  | toggleClick
  | query (term : String)
  | search (term : String)
  | populate (choices : List Choice)
  | fail (failure : Source.Failure)
  | takeFocusRequest
  | clearDirty
  | destroy
  deriving DecidableEq, Repr

/-- What the host is told. -/
inductive Reply where
  | done
  | flag (b : Bool)
  | rows (rows : List Suggestion)
  | released (control : Select)
  | gone
  deriving DecidableEq, Repr

/-- One turn of the machine. -/
def act (op : Op) (f : Field) : Turn Field Reply :=
  let silent (f' : Field) (reply : Reply) : Turn Field Reply := ⟨f', reply, none, false⟩
  let picked : Option (Field × Selected) → Turn Field Reply
    | some (f', e) => ⟨f', .flag true, some e, false⟩
    | none => silent f (.flag false)
  match op with
  | .input text => silent (f.input text) .done
  | .focus => silent f.focus .done
  | .blur => silent f.blur .done
  | .commit text => silent (f.commit text) .done
  | .pick row => picked (f.pick? row)
  | .pickAt position => picked (f.pickAt? position)
  | .togglePress => silent f.togglePress .done
  | .toggleClick => silent f.toggleClick .done
  | .query term => silent f (.rows (f.query term))
  | .search term => silent (f.search term) (.rows (f.query term))
  | .populate choices => silent (f.populate choices) .done
  | .fail failure => silent (f.fail failure) .done
  | .takeFocusRequest => silent { f with focusRequested := false } (.flag f.focusRequested)
  | .clearDirty => silent { f with dirty := false } .done
  | .destroy => ⟨f.destroy, (f.control.map fun c => .released c.unhide).getD .gone, none, true⟩

end Field

end Typeahead
