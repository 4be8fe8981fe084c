import Typeahead.Text.Quoted
import Typeahead.Text.Utf8

/-!
# What is wrong with a JSON text

Problems of the text itself, and problems of what it holds: a value of another type than expected,
a member missing or given twice, an array too short. An error also tells the line and the column
where the problem was seen. While a text is read only what is left of it is at hand, so a reader
reports a `Fault`, which says how many bytes are left, and the place is found from that in the whole
text (`Fault.locate`).
-/

namespace Typeahead.Json
open Text

/-- A value that was not expected. -/
inductive Found where
  | null
  | boolean (b : Bool)
  | integer (n : Int)
  | real (decimal : String)
  | text (s : String)
  | sequence
  | map
  deriving DecidableEq, Repr

def Found.message : Found → String
  | null => "null"
  | boolean b => "boolean `" ++ toString b ++ "`"
  | integer n => "integer `" ++ toString n ++ "`"
  | real decimal => "floating point `" ++ decimal ++ "`"
  | text s => "string " ++ quote s
  | sequence => "sequence"
  | map => "map"

/-- Where the text ended too soon. -/
inductive Unfinished where
  | list
  | object
  | text
  | value
  deriving DecidableEq, Repr

def Unfinished.message : Unfinished → String
  | list => "EOF while parsing a list"
  | object => "EOF while parsing an object"
  | text => "EOF while parsing a string"
  | value => "EOF while parsing a value"

/-- Why a JSON text is refused. -/
inductive Problem where
  | unfinished (what : Unfinished)
  | expectedColon
  | expectedListEnd
  | expectedObjectEnd
  | expectedWord
  | expectedValue
  | invalidEscape
  | invalidNumber
  | numberOutOfRange
  | invalidCharacter
  | controlCharacter
  | keyNotText
  | lonelySurrogate
  | unpairedSurrogate
  | trailingComma
  | trailingCharacters
  | wrongType (found : Found) (expected : String)
  | wrongValue (found : Found) (expected : String)
  | wrongLength (length : Nat) (expected : String)
  | missingMember (name : String)
  | duplicateMember (name : String)
  deriving DecidableEq, Repr

def Problem.message : Problem → String
  | unfinished what => what.message
  | expectedColon => "expected `:`"
  | expectedListEnd => "expected `,` or `]`"
  | expectedObjectEnd => "expected `,` or `\x7d`"
  | expectedWord => "expected ident"
  | expectedValue => "expected value"
  | invalidEscape => "invalid escape"
  | invalidNumber => "invalid number"
  | numberOutOfRange => "number out of range"
  | invalidCharacter => "invalid unicode code point"
  | controlCharacter => "control character (\\u0000-\\u001F) found while parsing a string"
  | keyNotText => "key must be a string"
  | lonelySurrogate => "lone leading surrogate in hex escape"
  | unpairedSurrogate => "unexpected end of hex escape"
  | trailingComma => "trailing comma"
  | trailingCharacters => "trailing characters"
  | wrongType found expected => "invalid type: " ++ found.message ++ ", expected " ++ expected
  | wrongValue found expected => "invalid value: " ++ found.message ++ ", expected " ++ expected
  | wrongLength length expected => "invalid length " ++ toString length ++ ", expected " ++ expected
  | missingMember name => "missing field `" ++ name ++ "`"
  | duplicateMember name => "duplicate field `" ++ name ++ "`"

/-! ### Places -/

/-- Number of bytes of a text. -/
def octets : List Symbol → Nat
  | [] => 0
  | x :: s => x.octets + octets s

/-- A problem, and how many bytes were left when it was seen. -/
structure Fault where
  problem : Problem
  left : Nat
  deriving DecidableEq, Repr

/-- The text ends too soon. -/
def Fault.atEnd (what : Unfinished) : Fault := ⟨.unfinished what, 0⟩

/-- The problem seen when the first `n` bytes of what was left, `s`, were passed too. -/
def Fault.after (problem : Problem) (n : Nat) (s : List Symbol) : Fault :=
  ⟨problem, octets s - n⟩

/-- Line and column that are reached from those given over the first `i` bytes. -/
def advance : (i : Nat) → Nat × Nat → List Symbol → Nat × Nat
  | 0, place, _ => place
  | _, place, [] => place
  | i, (line, column), x :: s =>
    if x = .char '\n' then advance (i - 1) (line + 1, 0) s
    else advance (i - x.octets) (line, column + min i x.octets) s

/-- A problem and where it was seen: lines count from one, and the column is the number of bytes
passed in the line. -/
structure Error where
  problem : Problem
  line : Nat
  column : Nat
  deriving DecidableEq, Repr

def Error.message (e : Error) : String :=
  e.problem.message ++ " at line " ++ toString e.line ++ " column " ++ toString e.column

/-- The fault with its place in the text `s`. -/
def Fault.locate (f : Fault) (s : List Symbol) : Error :=
  let (line, column) := advance (octets s - f.left) (1, 0) s
  ⟨f.problem, line, column⟩

end Typeahead.Json
