/-!
# Files and folders

As much of a disk as the console needs: it makes the folders on the way to its log, creates the log,
and reads one file of settings. A `Disk` holds what stands at each place, a place being the names
that lead to it from the root.

A path is followed name by name, and every place on the way has to be a folder. An empty name or `.`
stays where it is, and `..` goes back up.
-/

namespace Typeahead.Console

/-- What stands at a place. -/
inductive Node where
  | folder
  | file (content : List UInt8)
  /-- Takes everything and holds nothing. -/
  | sink
  deriving DecidableEq, Repr

/-- Why the disk refuses. -/
inductive DiskError where
  | notFound
  | alreadyThere
  | notFolder
  | isFolder
  /-- Bytes that should be text are none. -/
  | notText
  deriving DecidableEq, Repr

def DiskError.message : DiskError → String
  | notFound => "No such file or directory (os error 2)"
  | alreadyThere => "File exists (os error 17)"
  | notFolder => "Not a directory (os error 20)"
  | isFolder => "Is a directory (os error 21)"
  | notText => "stream did not contain valid UTF-8"

/-- The names on the way to a place. -/
structure Path where
  /-- Starts at the root. -/
  absolute : Bool
  names : List String
  deriving DecidableEq, Repr

namespace Path

def ofString (s : String) : Path :=
  match s.splitOn "/" with
  | "" :: names => ⟨!names.isEmpty, names⟩
  | names => ⟨false, names⟩

/-- The names that lead somewhere else. -/
def steps (p : Path) : List String := p.names.filter fun name => name ≠ "" && name ≠ "."

/-- The path without its last step; the root and the place itself have none. -/
def parent? (p : Path) : Option Path :=
  if p.steps.isEmpty then none else some ⟨p.absolute, p.steps.dropLast⟩

end Path

/-- What stands where. The root is always there. -/
structure Disk where
  /-- The place where relative paths start. -/
  here : List String
  nodes : List (List String × Node)
  deriving DecidableEq, Repr

namespace Disk

def node? (d : Disk) (place : List String) : Option Node :=
  if place.isEmpty then some .folder else d.nodes.lookup place

def put (d : Disk) (place : List String) (node : Node) : Disk :=
  { d with nodes := (place, node) :: d.nodes.filter (·.1 ≠ place) }

/-- Checks that a folder stands at the place. -/
def enter (d : Disk) (place : List String) : Except DiskError (List String) :=
  match d.node? place with
  | some .folder => .ok place
  | some _ => .error .notFolder
  | none => .error .notFound

/-- Goes from one place along the names given; what stands at the end is not looked at. -/
def follow (d : Disk) (place : List String) (names : List String) : Except DiskError (List String) :=
  names.foldlM (fun place name => do
    let place ← d.enter place
    if name = "" ∨ name = "." then return place
    else if name = ".." then return place.dropLast
    else return place ++ [name]) place

/-- The place where a path starts. -/
def start (d : Disk) (p : Path) : List String := if p.absolute then [] else d.here

/-- The place a path leads to. -/
def find (d : Disk) (p : Path) : Except DiskError (List String) := d.follow (d.start p) p.names

/-- The content of a file. -/
def read (d : Disk) (p : Path) : Except DiskError (List UInt8) := do
  match d.node? (← d.find p) with
  | some (.file content) => return content
  | some .sink => return []
  | some .folder => .error .isFolder
  | none => .error .notFound

/-- The place where something new may stand: the last name names it and is no way back. -/
def site (d : Disk) (p : Path) (names : List String) : Except DiskError (Option (List String)) := do
  let folder ← d.enter (← d.follow (d.start p) names.dropLast)
  match names.getLast? with
  | none => return none
  | some name => return if name = "" ∨ name = "." ∨ name = ".." then none else some (folder ++ [name])

/-- The path's names without the empty ones at the end. -/
def bare (names : List String) : List String := (names.reverse.dropWhile (· = "")).reverse

/-- Makes an empty file, or empties the one that is there. -/
def create (d : Disk) (p : Path) : Except DiskError Disk := do
  match ← d.site p (bare p.names) with
  | none => .error .isFolder
  | some place =>
    if p.names.getLast? = some "" then .error .isFolder
    else
      match d.node? place with
      | some .folder => .error .isFolder
      | some .sink => return d
      | _ => return d.put place (.file [])

/-- Makes a folder where nothing stands. -/
def makeFolder (d : Disk) (p : Path) : Except DiskError Disk := do
  match ← d.site p (bare p.names) with
  | none => .error .alreadyThere
  | some place =>
    match d.node? place with
    | some _ => .error .alreadyThere
    | none => return d.put place .folder

/-- A folder stands at the end of the path. -/
def isFolder (d : Disk) (p : Path) : Bool :=
  match d.find p with
  | .ok place => d.node? place = some .folder
  | .error _ => false

/-- Makes a folder unless it is there. -/
def haveFolder (d : Disk) (p : Path) : Except DiskError Disk :=
  match d.makeFolder p with
  | .ok d => .ok d
  | .error e => if d.isFolder p then .ok d else .error e

/-- Makes the folder at the end of the way given backwards, and those on the way that are missing. -/
def makeWay (d : Disk) (absolute : Bool) : List String → Except DiskError Disk
  | [] => .ok d
  | name :: above =>
    let p : Path := ⟨absolute, (name :: above).reverse⟩
    match d.makeFolder p with
    | .error .notFound => do haveFolder (← d.makeWay absolute above) p
    | _ => d.haveFolder p

/-- Makes a folder and those on the way that are missing. -/
def makeFolders (d : Disk) (p : Path) : Except DiskError Disk := d.makeWay p.absolute p.steps.reverse

/-- Paths of the files below a folder, in the order of their characters. -/
def filesBelow (d : Disk) (folder : List String) : List String :=
  (d.nodes.filterMap fun (place, node) =>
    match node with
    | .file _ => if folder.isPrefixOf place then some ("/".intercalate (place.drop folder.length)) else none
    | _ => none).mergeSort fun a b => a ≤ b

end Disk

end Typeahead.Console
