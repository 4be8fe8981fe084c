import Typeahead.Console.Command
import Typeahead.Mounted
import Typeahead.Page

/-!
# Sessions

A session drives one mounted field by lines of text and prints what comes of each. What a line does
is a script on the stage of the field, whose notes are the lines printed; the one handler prints
each choice as it is selected.

A session takes `Event`s: a line of input, or time for the fetch. So the place where the fetch ends
among the lines is part of a session's input.
-/

namespace Typeahead.Console
open Text

/-- The commands, as `help` shows them. -/
def helpText : String :=
  "\n".intercalate
    ["commands:",
      "  type <text>    set the input text (searches when it changed)",
      "  focus | blur   focus or blur the input (blur commits edited text)",
      "  commit <text>  reconcile free text against option values",
      "  pick <n>       pick the n-th suggestion",
      "  press | click  mouse-down / click on the toggle",
      "  toggle         press then click",
      "  wait           wait for the options to load",
      "  show | state   print markup / field state",
      "  quit"]

/-- A number, at least two characters wide. -/
def numbered (n : Nat) : String := (if n < 10 then " " else "") ++ toString n

/-- A row of the menu, with its number if it can be picked. -/
def rowText (s : Suggestion) (n : Nat) : String :=
  if s.isPlaceholder then "   " ++ s.label else numbered n ++ " " ++ s.label

/-- The menu, row by row. -/
def menuText (f : Field) : List String :=
  if f.menuOpen then f.suggestions.zipIdx.map fun (s, i) => rowText s (i + 1) else ["(menu closed)"]

def loadText : Load → String
  | .loading => "loading"
  | .loaded => "loaded"
  | .failed reason => "failed: " ++ reason

def flagText (b : Bool) : String := if b then "true" else "false"

/-- The state of the field in one line. -/
def stateText (f : Field) : String :=
  "text=" ++ quote f.text ++ " value=" ++ quote f.value ++ " open=" ++ flagText f.menuOpen
    ++ " focused=" ++ flagText f.focused ++ " options=" ++ loadText f.load

/-- What is printed when a choice is selected. -/
def selectedText (c : Choice) : String := "selected: " ++ c.value ++ " = " ++ quote c.label

/-- What the field is asked to do, and what is printed in between. -/
abbrev Action := Script Field Field.Op Field.Reply String

/-- Prints lines. -/
def print : List String → Action → Action
  | [], next => next
  | line :: lines, next => .note line (print lines next)

/-- Prints what the field shows. -/
def report (lines : Field → List String) : Action := .look fun f => print (lines f) .done

/-- Prints each choice as it is selected. -/
def announce : Handler Field Field.Op Field.Reply String :=
  fun e => .note (selectedText e.choice) .done

/-- What a command does; waiting and quitting are up to the session. -/
def Command.action : Command → Action
  | .type text => .call (.input text) fun _ => report menuText
  | .focus => .call .focus fun _ => report menuText
  | .blur => .call .blur fun _ => report fun f => [stateText f]
  | .commit text => .call (.commit text) fun _ => report fun f => [stateText f]
  | .pick position =>
    .call (.pickAt position) fun
      | .flag true => .done
      | _ => .note ("nothing to pick at " ++ toString (position + 1)) .done
  | .press => .call .togglePress fun _ => .done
  | .click => .call .toggleClick fun _ => report menuText
  | .toggle => .call .togglePress fun _ => .call .toggleClick fun _ => report menuText
  | .wait => report fun f => stateText f :: menuText f
  | .show => report fun f => [f.render]
  | .state => report fun f => [stateText f]
  | .help => .note helpText .done
  | .quit => .done

/-- Whether a session goes on. -/
inductive Status where
  | reading
  | finished
  /-- A line was not text. -/
  | broken
  /-- Waits for a fetch that never ends. -/
  | stuck
  deriving DecidableEq, Repr

/-- What happens to a session. -/
inductive Event where
  /-- A line of input; none if it is not text. -/
  | line (text : Option String)
  /-- The fetch is given time. -/
  | pause
  deriving DecidableEq, Repr

/-- A field driven by lines. -/
structure Session where
  mounted : Mounted String
  status : Status

namespace Session
variable [Engine]

/-- A session on a field, before the first line. -/
def start (m : Mounted String) : Session :=
  let m := m.listen announce
  ⟨{ m with stage := m.stage.note helpText }, .reading⟩

def field (s : Session) : Field := s.mounted.field

/-- What has been printed. -/
def printed (s : Session) : List String := s.mounted.stage.notes

/-- Follows an action to its end. The announcements make no operations of their own, so there always
is one. -/
def act (s : Session) (a : Action) : Session :=
  match Stage.follow Field.act (Stage.emit Field.act 1) none a s.mounted.stage with
  | some stage => { s with mounted := { s.mounted with stage := stage } }
  | none => s

/-- Gives the fetch time. -/
def pause (s : Session) : Session := { s with mounted := s.mounted.run }

/-- Obeys a command. -/
def obey (s : Session) : Command → Session
  | .quit => { s with status := .finished }
  | .wait =>
    match s.mounted.fetch with
    | .waiting => { s with status := .stuck }
    | _ => s.pause.act Command.wait.action
  | c => s.act c.action

/-- Takes a line of input. -/
def line (s : Session) (text : Option String) : Session :=
  match text with
  | none => { s with status := .broken }
  | some text =>
    match Command.parse text with
    | .ok none => s
    | .ok (some c) => s.obey c
    | .error e => s.act (.note e.message .done)

/-- Takes an event, while the session goes on. -/
def step (s : Session) (e : Event) : Session :=
  match s.status with
  | .reading =>
    match e with
    | .line text => s.line text
    | .pause => s.pause
  | _ => s

/-- Takes events in order. -/
def run (s : Session) (events : List Event) : Session := events.foldl step s

/-- Destroys the field at the end and prints its select. -/
def close (s : Session) : Session :=
  s.act <| .call .destroy fun
    | .released control => .note control.render .done
    | _ => .done

end Session

end Typeahead.Console
