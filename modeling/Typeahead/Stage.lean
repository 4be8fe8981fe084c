import Typeahead.Choice

/-!
# Events and their handlers

A field announces one kind of event, that a choice was selected. A handler answers an event with a
`Script`: it may look at the state, perform operations, register further handlers or itself again, and
make notes. The notes are also what handlers remember: a script may read all that has been noted.

A `Stage` is a state with the handlers registered on it. Events go to the handlers registered when
the event occurs, in the order of registration (`Stage.emit`); one registered by a handler waits for
the next event. An operation made by a handler may raise events of its own, which are delivered
before the script goes on. `emit` follows such chains to a given depth and answers `none` beyond.
-/

namespace Typeahead

/-- A choice was selected by a pick: on which field, at which position, and the choice itself. -/
structure Selected where
  field : String
  index : Nat
  choice : Choice
  deriving DecidableEq, Repr

/-- What a handler does, over states `σ`, operations `κ` with replies `ρ`, and notes `ω`. -/
inductive Script (σ κ ρ ω : Type) where
  | done
  | look (next : σ → Script σ κ ρ ω)
  /-- Reads the notes. -/
  | consult (next : List ω → Script σ κ ρ ω)
  | call (op : κ) (next : ρ → Script σ κ ρ ω)
  | listen (handler : Selected → Script σ κ ρ ω) (next : Script σ κ ρ ω)
  /-- Registers the handler that is answering once more. -/
  | again (next : Script σ κ ρ ω)
  | note (entry : ω) (next : Script σ κ ρ ω)
  deriving Inhabited

/-- Answers an event with a script. -/
abbrev Handler (σ κ ρ ω : Type) := Selected → Script σ κ ρ ω

/-- What one operation comes to: the state after it, a reply, perhaps an event, and whether it
dismisses all handlers. -/
structure Turn (σ ρ : Type) where
  state : σ
  reply : ρ
  event : Option Selected
  dismisses : Bool

/-- A state, the handlers registered on it in order, and the notes made so far. -/
structure Stage (σ κ ρ ω : Type) where
  state : σ
  handlers : List (Handler σ κ ρ ω)
  notes : List ω

namespace Stage
variable {σ κ ρ ω : Type}

/-- A state without handlers. -/
def ofState (s : σ) : Stage σ κ ρ ω := ⟨s, [], []⟩

/-- Registers a handler, after those there are. -/
def listen (st : Stage σ κ ρ ω) (h : Handler σ κ ρ ω) : Stage σ κ ρ ω :=
  { st with handlers := st.handlers ++ [h] }

/-- Registers the handler that is answering, if one is. -/
def renew (st : Stage σ κ ρ ω) : Option (Handler σ κ ρ ω) → Stage σ κ ρ ω
  | some h => st.listen h
  | none => st

/-- Forgets all handlers. -/
def dismiss (st : Stage σ κ ρ ω) : Stage σ κ ρ ω := { st with handlers := [] }

def note (st : Stage σ κ ρ ω) (entry : ω) : Stage σ κ ρ ω := { st with notes := st.notes ++ [entry] }

/-- Performs an operation; `deliver` takes its event to the handlers. -/
def perform (act : κ → σ → Turn σ ρ) (deliver : Selected → Stage σ κ ρ ω → Option (Stage σ κ ρ ω))
    (op : κ) (st : Stage σ κ ρ ω) : Option (ρ × Stage σ κ ρ ω) :=
  let turn := act op st.state
  let st' := { st with state := turn.state, handlers := if turn.dismisses then [] else st.handlers }
  match turn.event with
  | none => some (turn.reply, st')
  | some e => (deliver e st').map fun st' => (turn.reply, st')

/-- Follows a script to its end, that of the handler `self` if it is one's. -/
def follow (act : κ → σ → Turn σ ρ) (deliver : Selected → Stage σ κ ρ ω → Option (Stage σ κ ρ ω))
    (self : Option (Handler σ κ ρ ω)) : Script σ κ ρ ω → Stage σ κ ρ ω → Option (Stage σ κ ρ ω)
  | .done, st => some st
  | .look next, st => follow act deliver self (next st.state) st
  | .consult next, st => follow act deliver self (next st.notes) st
  | .call op next, st =>
    match st.perform act deliver op with
    | none => none
    | some (reply, st') => follow act deliver self (next reply) st'
  | .listen h next, st => follow act deliver self next (st.listen h)
  | .again next, st => follow act deliver self next (st.renew self)
  | .note entry next, st => follow act deliver self next (st.note entry)

/-- Calls handlers one after the other. -/
def callAll (act : κ → σ → Turn σ ρ) (deliver : Selected → Stage σ κ ρ ω → Option (Stage σ κ ρ ω))
    (e : Selected) (handlers : List (Handler σ κ ρ ω)) (st : Stage σ κ ρ ω) :
    Option (Stage σ κ ρ ω) :=
  handlers.foldlM (fun st h => follow act deliver (some h) (h e) st) st

/-- Takes an event to the handlers registered now, one after the other; chains of events raised by
handlers are followed to the depth given. -/
def emit (act : κ → σ → Turn σ ρ) : Nat → Selected → Stage σ κ ρ ω → Option (Stage σ κ ρ ω)
  | 0, _, _ => none
  | depth + 1, e, st => callAll act (emit act depth) e st.handlers st

end Stage

/-- Handlers on their own, without a state to act on: all they can do is note, look back and
register. -/
abbrev Registry (ω : Type) := Stage Unit Empty Empty ω

namespace Registry
variable {ω : Type}

def empty : Registry ω := Stage.ofState ()

/-- Takes an event to the handlers registered now. -/
def emit (r : Registry ω) (e : Selected) : Registry ω :=
  (Stage.emit (fun op => op.elim) 1 e r).getD r

/-- The registry as a message shows it. -/
def text (r : Registry ω) : String :=
  "HandlerRegistry \x7b len: " ++ toString r.handlers.length ++ " \x7d"

end Registry

end Typeahead
