import Typeahead.Text.Blank
import Typeahead.Text.Quoted

/-!
# Commands

One line of input is one thing that happens to the field, or a question about it. The first word says
what; a text follows the word after a single space and is taken as it stands.
-/

namespace Typeahead.Console
open Text

/-- What a line asks for. -/
inductive Command where
  | type (text : String)
  | focus
  | blur
  | commit (text : String)
  /-- Pick the row at a position, counted from zero. -/
  | pick (position : Nat)
  | press
  | click
  /-- Press and click. -/
  | toggle
  | wait
  | «show»
  | state
  | help
  | quit
  deriving DecidableEq, Repr

namespace Command

/-- Why a line is refused. -/
inductive Error where
  | unknown (word : String)
  | badNumber (text : String)
  deriving DecidableEq, Repr

def Error.message : Error → String
  | unknown word => "unknown command " ++ quote word ++ " (try `help`)"
  | badNumber text => "`pick` needs a suggestion number starting at 1, got " ++ quote text

/-- The largest number understood. -/
def largestNumber : Nat := 18446744073709551615

/-- A number in decimal digits, perhaps after a plus sign. -/
def number? (s : List Char) : Option Nat :=
  let digits := match s with | '+' :: ds => ds | ds => ds
  if digits.isEmpty || !digits.all Char.isDigit then none
  else
    let n := digits.foldl (fun n c => 10 * n + (c.toNat - '0'.toNat)) 0
    if n ≤ largestNumber then some n else none

/-- The first word, and what follows the space after it. -/
def words (line : List Char) : List Char × List Char :=
  let s := trimStart line
  match s.dropWhile (· ≠ ' ') with
  | [] => (trim line, [])
  | _ :: rest => (s.takeWhile (· ≠ ' '), rest)

/-- The command with the name and the text given. -/
def ofWords (word rest : List Char) : Except Error Command :=
  match String.ofList word with
  | "type" => .ok (.type (String.ofList rest))
  | "focus" => .ok .focus
  | "blur" => .ok .blur
  | "commit" => .ok (.commit (String.ofList rest))
  | "pick" =>
    match number? (trim rest) with
    | some (n + 1) => .ok (.pick n)
    | _ => .error (.badNumber (String.ofList rest))
  | "press" => .ok .press
  | "click" => .ok .click
  | "toggle" => .ok .toggle
  | "wait" => .ok .wait
  | "show" => .ok .show
  | "state" => .ok .state
  | "help" => .ok .help
  | "?" => .ok .help
  | "quit" => .ok .quit
  | "exit" => .ok .quit
  | other => .error (.unknown other)

/-- Reads a line, with or without its end; a blank one asks for nothing. -/
def parse (line : String) : Except Error (Option Command) :=
  let s := dropWhileEnd (fun c => c = '\r' || c = '\n') line.toList
  if s.all isBlank then .ok none
  else
    let (word, rest) := words s
    (ofWords word rest).map some

end Command

end Typeahead.Console
