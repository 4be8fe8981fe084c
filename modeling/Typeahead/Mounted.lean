import Typeahead.Field
import Typeahead.Source.Client

/-!
# Mounted fields

A field on its stage together with the fetch of its choices. The source may answer before the fetch
goes on; what it answered takes effect when the fetch is next given time.
-/

namespace Typeahead
open Source

/-- Why a field cannot be mounted, or not be destroyed. -/
inductive MountError where
  | settings (e : Settings.Error)
  | source (e : Failure)
  | noRuntime
  | destroyed (id : String)
  deriving DecidableEq, Repr

def MountError.message : MountError → String
  | settings e => "configuration error: " ++ e.message
  | source e => "option source error: " ++ e.message
  | noRuntime => "combobox must be created inside a tokio runtime"
  | destroyed id => "combobox " ++ id ++ " was already destroyed"

/-- The fetch of the choices: under way, answered but not yet taken in, or over. -/
inductive Fetch where
  | waiting
  | answered (outcome : Outcome)
  | over

/-- A field with its handlers and its fetch. -/
structure Mounted (ω : Type) where
  stage : Stage Field Field.Op Field.Reply ω
  fetch : Fetch

namespace Mounted
variable [Engine] {ω : Type}

/-- Mounts a field whose choices come from a source of the host's own; `running` tells that there is
something for the fetch to run on. -/
def create (control : Select) (settings : Settings) (fetch : Fetch) (running : Bool) (serial : Nat) :
    Except MountError (Mounted ω) :=
  match settings.check with
  | .error e => .error (.settings e)
  | .ok () =>
    if running then .ok ⟨.ofState (.mount control settings serial), fetch⟩ else .error .noRuntime

/-- The client for the address in the settings. -/
def client (settings : Settings) : Except MountError Client :=
  match settings.address with
  | .error e => .error (.settings e)
  | .ok url =>
    ({ address := url.text, timeout := settings.timeout } : Builder).build.mapError .source

/-- Mounts a field whose choices come from the address in its settings; `link` tells how the fetch
stands at first. -/
def createFromAddress (control : Select) (settings : Settings) (link : Client → Fetch) (running : Bool)
    (serial : Nat) : Except MountError (Mounted ω) :=
  match client settings with
  | .error e => .error e
  | .ok c => create control settings (link c) running serial

/-- The field itself. -/
def field (m : Mounted ω) : Field := m.stage.state

/-- How deep the picks that handlers make in answer to picks are followed. -/
def depth : Nat := 1000

/-- Performs an operation; none if the handlers keep answering each other without end. -/
def perform (op : Field.Op) (m : Mounted ω) : Option (Field.Reply × Mounted ω) :=
  (m.stage.perform Field.act (Stage.emit Field.act depth) op).map fun (reply, st) =>
    (reply, { m with stage := st })

/-- What a host gets for destroying the field `id`: its select, or the error that the field has been
destroyed before. -/
def givenBack (id : String) : Field.Reply → Except MountError Select
  | .released control => .ok control
  | _ => .error (.destroyed id)

/-- Registers a handler. -/
def listen (h : Handler Field Field.Op Field.Reply ω) (m : Mounted ω) : Mounted ω :=
  { m with stage := m.stage.listen h }

/-- The source answers, if it has not before. -/
def answer (outcome : Outcome) (m : Mounted ω) : Mounted ω :=
  match m.fetch with
  | .waiting => { m with fetch := .answered outcome }
  | _ => m

/-- What a field is told of an outcome. -/
def told : Outcome → Field.Op
  | .ok choices => .populate choices
  | .error failure => .fail failure

/-- Gives the fetch time: an answer takes effect. -/
def run (m : Mounted ω) : Mounted ω :=
  match m.fetch with
  | .answered outcome =>
    ⟨{ m.stage with state := (Field.act (told outcome) m.stage.state).state }, .over⟩
  | _ => m

end Mounted

end Typeahead
