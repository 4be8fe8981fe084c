import Typeahead.Json.Skip

/-!
# Values of a known type

Readers for texts, whole numbers, values that may be `null`, lists, and records. A record is given
as an object, with its members in any order and others ignored, or as a list of its members in their
own order.
-/

namespace Typeahead.Json
open Text

/-- What is said of a value, not the one expected, that begins the text. Its own errors go first. -/
def mismatch (expected : String) : List Symbol → Fault
  | [] => .atEnd .value
  | x :: s =>
    let wrong (found : Found) (rest : List Symbol) : Fault :=
      .after (.wrongType found expected) 0 rest
    let or {α : Type} (r : Except Fault (Read α s)) (found : α → Found) : Fault :=
      match r with
      | .error e => e
      | .ok r => wrong (found r.value) r.rest
    match opening? x with
    | some .null => or (word 'u' ['l', 'l'] s) fun _ => .null
    | some .yes => or (word 'r' ['u', 'e'] s) fun _ => .boolean true
    | some .no => or (word 'a' ['l', 's', 'e'] s) fun _ => .boolean false
    | some .quote => or (quoted s) Found.text
    | some .minus => or (number false s) Number.found
    | some .digit =>
      match number true (x :: s) with
      | .error e => e
      | .ok r => wrong r.value.found r.rest
    -- a list or an object is not read first
    | some .list => wrong .sequence (x :: s)
    | some .object => wrong .map (x :: s)
    | none => .after .expectedValue 1 (x :: s)

/-- A text. -/
def text : Reader String := afterBlanks fun
  | [] => .error (.atEnd .value)
  | x :: s =>
    if x = .char '"' then (quoted s).map .afterHead
    else .error (mismatch "a string" (x :: s))

/-- A whole number of 64 bits. -/
def natural : Reader UInt64 := afterBlanks fun
  | [] => .error (.atEnd .value)
  | x :: s =>
    let check {t : List Symbol} (r : Read Number t) : Except Fault (Read UInt64 t) :=
      match r.value with
      | .natural n => .ok (r.map fun _ => .ofNat n)
      | .negative n => .error (.after (.wrongValue (.integer n) "u64") 0 r.rest)
      | .real d => .error (.after (.wrongType (.real d) "u64") 0 r.rest)
    match opening? x with
    | some .minus => ((number false s).bind check).map .afterHead
    | some .digit => (number true (x :: s)).bind check
    | _ => .error (mismatch "u64" (x :: s))

/-- A value, or `null` for none. -/
def optional {α : Type} (r : Reader α) : Reader (Option α) := afterBlanks fun s =>
  match s with
  | .char 'n' :: s' => (word 'u' ['l', 'l'] s').map fun r => (r.map fun _ => none).afterHead
  | s => (r s).map (·.map some)

/-! ### Lists -/

/-- Whether another element follows, and the text from there on. A comma is expected before every
element but the first. -/
def nextElement (first : Bool) (s : List Symbol) :
    Except Fault (Bool × { r : List Symbol // r.length ≤ s.length }) :=
  match nonblank? s with
  | none => .error (.atEnd .list)
  | some (x, ⟨s', h⟩) =>
    if x = .char ']' then .ok (false, ⟨x :: s', h⟩)
    else if first then .ok (true, ⟨x :: s', h⟩)
    else if x = .char ',' then
      match nonblank? s' with
      | none => .error (.atEnd .value)
      | some (y, ⟨s'', h'⟩) =>
        if y = .char ']' then .error (.after .trailingComma 1 (y :: s''))
        else .ok (true, ⟨y :: s'', Nat.le_of_lt (Nat.lt_of_le_of_lt h' h)⟩)
    else .error (.after .expectedListEnd 1 (x :: s'))

/-- The end of a list that may hold no more. -/
def listEnd : Reader Unit := afterBlanks fun
  | [] => .error (.atEnd .list)
  | x :: s =>
    if x = .char ']' then .ok (.head ())
    else if x = .char ',' then
      let problem :=
        if (skipBlanks s).head? = some (.char ']') then .trailingComma else .trailingCharacters
      .error (.after problem 1 (skipBlanks s))
    else .error (.after .trailingCharacters 1 (x :: s))

/-- The elements up to the end of the list, after those in `seen`, last one first. -/
def elementsFrom {α : Type} (r : Reader α) (start : List Symbol) (seen : List α) (first : Bool)
    (s : List Symbol) (h : s.length ≤ start.length) : Except Fault (Read (List α) start) :=
  match nextElement first s with
  | .error e => .error e
  | .ok (false, ⟨s', hs⟩) =>
    (listEnd s').map fun r => (r.map fun _ => seen.reverse).widen (Nat.le_trans hs h)
  | .ok (true, ⟨s', hs⟩) =>
    match r s' with
    | .error e => .error e
    | .ok ⟨v, s'', hs'⟩ => elementsFrom r start (v :: seen) false s'' (by omega)
termination_by s.length

/-- A list. -/
def list {α : Type} (r : Reader α) : Reader (List α) := afterBlanks fun
  | [] => .error (.atEnd .value)
  | x :: s =>
    if x = .char '[' then
      (elementsFrom r s [] true s (length_le_self s)).map .afterHead
    else .error (mismatch "a sequence" (x :: s))

/-! ### Records -/

/-- A named part of a record: how to read it and put it in. -/
structure Member (α : Type) where
  name : String
  read : Reader (α → α)

/-- A member that is read by `r` and put in by `set`. -/
def Member.of {α β : Type} (name : String) (r : Reader β) (set : β → α → α) : Member α :=
  ⟨name, fun s => (r s).map (·.map set)⟩

/-- A record: what it is called, its members in order, the value before any is read, and whether all
have to be given. -/
structure Record (α : Type) where
  title : String
  members : List (Member α)
  blank : α
  complete : Bool

namespace Record
variable {α : Type} (rec : Record α)

/-- What a list of members has to be. -/
def shape : String :=
  rec.title ++ " with " ++ toString rec.members.length
    ++ (if rec.members.length = 1 then " element" else " elements")

/-- Members in their own order, `given` of them read before. -/
def readList (start : List Symbol) (given : Nat) (value : α) (s : List Symbol)
    (h : s.length ≤ start.length) : List (Member α) → Except Fault (Read α start)
  | [] => (listEnd s).map fun r => (r.map fun _ => value).widen h
  | m :: ms =>
    match nextElement (given = 0) s with
    | .error e => .error e
    | .ok (false, ⟨s', hs⟩) =>
      -- the bracket is passed before this is reported
      if rec.complete then .error (.after (.wrongLength given rec.shape) 1 s')
      else (listEnd s').map fun r => (r.map fun _ => value).widen (Nat.le_trans hs h)
    | .ok (true, ⟨s', hs⟩) =>
      match m.read s' with
      | .error e => .error e
      | .ok ⟨f, s'', hs'⟩ => readList start (given + 1) (f value) s'' (by omega) ms

/-- Whether another member follows, and the text after the quote that opens its key; at the end of
the object, the text after that. -/
def nextMember (first : Bool) : Reader Bool := afterBlanks fun
  | [] => .error (.atEnd .object)
  | x :: s =>
    if x = .char '\x7d' then .ok (.head false)
    else if first then
      if x = .char '"' then .ok (.head true) else .error (.after .keyNotText 1 (x :: s))
    else if x = .char ',' then
      match nonblank? s with
      | none => .error (.atEnd .value)
      | some (y, ⟨s', h⟩) =>
        if y = .char '"' then .ok ⟨true, s', Nat.lt_succ_of_lt h⟩
        else if y = .char '\x7d' then .error (.after .trailingComma 1 (y :: s'))
        else .error (.after .keyNotText 1 (y :: s'))
    else .error (.after .expectedObjectEnd 1 (x :: s))

/-- The first member that is not given. -/
def missing? (given : List String) : Option String :=
  (rec.members.find? fun m => !given.contains m.name).map Member.name

/-- A member given twice, reported in front of `s`. Blanks, and the end of the object if it comes
next, are passed before. -/
def duplicate (name : String) (s : List Symbol) : Fault :=
  let passed := if (skipBlanks s).head? = some (.char '\x7d') then 1 else 0
  .after (.duplicateMember name) passed (skipBlanks s)

/-- Members in any order, those in `given` read before. -/
def readObject (start : List Symbol) (given : List String) (value : α) (first : Bool)
    (s : List Symbol) (h : s.length ≤ start.length) : Except Fault (Read α start) :=
  match nextMember first s with
  | .error e => .error e
  | .ok ⟨false, s', hs⟩ =>
    match rec.complete, rec.missing? given with
    | true, some name => .error (.after (.missingMember name) 0 s')
    | _, _ => .ok ⟨value, s', by omega⟩
  | .ok ⟨true, s₁, h₁⟩ =>
    match quoted s₁ with
    | .error e => .error e
    | .ok ⟨key, s₂, h₂⟩ =>
      match rec.members.find? (·.name = key) with
      | some m =>
        if given.contains key then .error (duplicate key s₂)
        else
          match afterBlanks colon s₂ with
          | .error e => .error e
          | .ok ⟨_, s₃, h₃⟩ =>
            match m.read s₃ with
            | .error e => .error e
            | .ok ⟨f, s₄, h₄⟩ => readObject start (key :: given) (f value) false s₄ (by omega)
      | none =>
        match afterBlanks colon s₂ with
        | .error e => .error e
        | .ok ⟨_, s₃, h₃⟩ =>
          match skipValue s₃ with
          | .error e => .error e
          | .ok ⟨_, s₄, h₄⟩ => readObject start given value false s₄ (by omega)
termination_by s.length

/-- A record, as an object or as a list. -/
def reader : Reader α := afterBlanks fun
  | [] => .error (.atEnd .value)
  | x :: s =>
    if x = .char '[' then
      (rec.readList s 0 rec.blank s (length_le_self s) rec.members).map .afterHead
    else if x = .char '\x7b' then
      (rec.readObject s [] rec.blank true s (length_le_self s)).map .afterHead
    else .error (mismatch rec.title (x :: s))

end Record

/-- A whole text that holds one value. -/
def document {α : Type} (r : Reader α) (s : List Symbol) : Except Error α :=
  match r s with
  | .error e => .error (e.locate s)
  | .ok ⟨v, rest, _⟩ =>
    if (skipBlanks rest).isEmpty then .ok v
    else .error ((Fault.after .trailingCharacters 1 (skipBlanks rest)).locate s)

end Typeahead.Json
