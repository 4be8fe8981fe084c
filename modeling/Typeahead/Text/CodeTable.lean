/-!
# Tables over code points

Properties of characters that a standard lists rather than explains are kept as text: ranges of
hexadecimal code points in increasing order, each with what the standard says of it. `CodeTable`
is the read form, a sorted array of disjoint ranges, searched by halving.
-/

namespace Typeahead.Text

/-- Value of a hexadecimal digit of either case. -/
def hexDigit? (c : Char) : Option Nat :=
  if '0' ≤ c ∧ c ≤ '9' then some (c.toNat - '0'.toNat)
  else if 'a' ≤ c ∧ c ≤ 'f' then some (c.toNat - 'a'.toNat + 10)
  else if 'A' ≤ c ∧ c ≤ 'F' then some (c.toNat - 'A'.toNat + 10)
  else none

/-- Number written by hexadecimal digits, most significant first; other characters count nothing. -/
def hexNumber (s : List Char) : Nat :=
  s.foldl (fun n c => match hexDigit? c with | some d => 16 * n + d | none => n) 0

/-- The parts of a text between blanks and ends of lines. -/
def words (s : String) : List String :=
  (s.toList.splitBy fun a b => !a.isWhitespace && !b.isWhitespace).filterMap fun w =>
    if w.all Char.isWhitespace then none else some (String.ofList w)

/-- A run of code points, both ends included, and what holds for it. -/
structure CodeRange (α : Type) where
  first : Nat
  last : Nat
  datum : α

/-- Disjoint runs in increasing order. -/
structure CodeTable (α : Type) where
  rows : Array (CodeRange α)

namespace CodeTable
variable {α : Type}

/-- Halving search among the rows from `lo` on and before `hi`. -/
def search (rows : Array (CodeRange α)) (code lo hi : Nat) : Option (CodeRange α) :=
  if _h : lo < hi then
    let mid := (lo + hi) / 2
    match rows[mid]? with
    | none => none
    | some row =>
      if code < row.first then search rows code lo mid
      else if row.last < code then search rows code (mid + 1) hi
      else some row
  else none
termination_by hi - lo
decreasing_by all_goals omega

/-- The run that holds `code`. -/
def find? (t : CodeTable α) (code : Nat) : Option (CodeRange α) :=
  search t.rows code 0 t.rows.size

/-- Reads `FIRST` or `FIRST-LAST`. -/
def readRange (s : String) : Nat × Nat :=
  match s.splitOn "-" with
  | [a, b] => (hexNumber a.toList, hexNumber b.toList)
  | _ => (hexNumber s.toList, hexNumber s.toList)

/-- Rows apart from each other by blanks, each a range, then `:` and a datum that `read` understands. -/
def ofText (read : String → α) (s : String) : CodeTable α where
  rows := (words s).toArray.map fun row =>
    match row.splitOn ":" with
    | [range, datum] => ⟨(readRange range).1, (readRange range).2, read datum⟩
    | _ => ⟨(readRange row).1, (readRange row).2, read ""⟩

end CodeTable

/-- A set of code points. -/
abbrev CodeSet := CodeTable Unit

namespace CodeSet

/-- Ranges separated by blanks. -/
def ofText (s : String) : CodeSet := CodeTable.ofText (fun _ => ()) s

def contains (t : CodeSet) (c : Char) : Bool := (t.find? c.toNat).isSome

end CodeSet

end Typeahead.Text
