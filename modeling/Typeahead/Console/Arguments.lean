import Typeahead.Console.Command
import Typeahead.Settings
import Typeahead.Select

/-!
# Arguments

What the console is told on its command line. An option's value follows it, or is joined to it by
`=`; only `--option` may be given more than once. Arguments are taken in order, and the first that
asks for the version or for help, or cannot be understood, decides.
-/

namespace Typeahead.Console

/-- How much the log tells. -/
inductive LogLevel where
  | off
  | error
  | warn
  | info
  | debug
  | trace
  deriving DecidableEq, Repr

def LogLevel.ofName : String → Option LogLevel
  | "off" => some .off
  | "error" => some .error
  | "warn" => some .warn
  | "info" => some .info
  | "debug" => some .debug
  | "trace" => some .trace
  | _ => none

/-- What the arguments say; none for what is left open. -/
structure Arguments where
  sourceUrl : Option String := none
  config : Option String := none
  /-- First choices of the select, as `value=label`. -/
  options : List String := []
  selected : Option String := none
  name : Option String := none
  timeoutMs : Option UInt64 := none
  logLevel : Option LogLevel := none
  logFile : Option String := none
  deriving DecidableEq, Repr

/-- What a command line asks for. -/
inductive Request where
  | run (a : Arguments)
  | version
  | help
  /-- It cannot be understood. -/
  | misuse
  deriving DecidableEq, Repr

namespace Arguments

/-- A value for an option that has none yet. -/
def once {α : Type} (old : Option α) (new : Option α) : Option (Option α) :=
  if old.isSome || new.isNone then none else some new

/-- A path has at least one character. -/
def pathOf (value : String) : Option String := if value.isEmpty then none else some value

/-- A number of 64 bits. -/
def numberOf (value : String) : Option UInt64 := (Command.number? value.toList).map .ofNat

/-- The arguments with the option named set to the value; none if there is no such option, the value
is none for it, or it was given before. -/
def set (a : Arguments) (option value : String) : Option Arguments :=
  match option with
  | "source-url" => (once a.sourceUrl (some value)).map fun v => { a with sourceUrl := v }
  | "config" => (once a.config (pathOf value)).map fun v => { a with config := v }
  | "option" => some { a with options := a.options ++ [value] }
  | "selected" => (once a.selected (some value)).map fun v => { a with selected := v }
  | "name" => (once a.name (some value)).map fun v => { a with name := v }
  | "timeout-ms" => (once a.timeoutMs (numberOf value)).map fun v => { a with timeoutMs := v }
  | "log-level" => (once a.logLevel (LogLevel.ofName value)).map fun v => { a with logLevel := v }
  | "log-file" => (once a.logFile (pathOf value)).map fun v => { a with logFile := v }
  | _ => none

/-- An option, by its name, with its value if one is joined to it. -/
def option? (argument : String) : Option (String × Option String) :=
  match argument.toList with
  | '-' :: '-' :: s =>
    match s.dropWhile (· ≠ '=') with
    | [] => some (String.ofList s, none)
    | _ :: value => some (String.ofList (s.takeWhile (· ≠ '=')), some (String.ofList value))
  | _ => none

/-- The letter after a single `-`. -/
def letter? (argument : String) : Option Char :=
  match argument.toList with
  | '-' :: c :: _ => if c = '-' then none else some c
  | _ => none

/-- Takes arguments in order; those in `a` were taken before. -/
def take (a : Arguments) : List String → Request
  | [] => .run a
  | argument :: rest =>
    match letter? argument with
    | some 'V' => .version
    | some 'h' => .help
    | some _ => .misuse
    | none =>
      match option? argument with
      | none => .misuse
      | some ("", none) => if rest.isEmpty then .run a else .misuse
      | some ("version", none) => .version
      | some ("help", none) => .help
      | some (name, some value) =>
        match a.set name value with
        | some a => a.take rest
        | none => .misuse
      | some (name, none) =>
        match rest with
        | [] => .misuse
        | value :: rest =>
          if (letter? value).isSome || (option? value).isSome then .misuse
          else
            match a.set name value with
            | some a => a.take rest
            | none => .misuse

/-- Reads a command line. -/
def read (arguments : List String) : Request := take {} arguments

/-! ### What they mean -/

/-- The name of the select. -/
def fieldName (a : Arguments) : String := a.name.getD "value"

/-- Settings from the file, overridden by the arguments. The field is named after its select. -/
def settings (a : Arguments) (file : Settings) : Settings :=
  let s := { file with sourceUrl := a.sourceUrl <|> file.sourceUrl }
  let s :=
    match a.timeoutMs with
    | some ms => s.withTimeout (.ofMillis ms)
    | none => s
  { s with id := s.id <|> some (a.fieldName ++ "-combobox") }

/-- A choice written `value=label`; the value ends at the first `=`. -/
def choice? (raw : String) : Option Choice :=
  let s := raw.toList
  match s.dropWhile (· ≠ '=') with
  | [] => none
  | _ :: label => some ⟨String.ofList label, String.ofList (s.takeWhile (· ≠ '='))⟩

/-- The select underneath, or the first choice that is not written `value=label`. -/
def control (a : Arguments) : Except String Select := do
  let choices ← a.options.mapM fun raw => (choice? raw).elim (.error raw) .ok
  let s := (Select.new a.fieldName).append choices
  return a.selected.elim s s.setValue

end Arguments

end Typeahead.Console
