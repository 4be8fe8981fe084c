import Typeahead.Web.Host

/-!
# Addresses on the web

An address has a scheme, perhaps a user, a host and a port, a path, and perhaps a query and a
fragment. `Url.parse` reads one as browsers do: blanks around it and line breaks within do not
count, `\` separates like `/` in the schemes of the web, `.` and `..` in a path are followed, and what
may not stand in a part is percent-encoded. `Url.text` is the one way to write it.
-/

namespace Typeahead.Web

/-- The part of an address that names a server. -/
structure Authority where
  user : String := ""
  password : Option String := none
  host : Host
  port : Option Nat := none
  deriving DecidableEq, Repr

/-- A path of segments, or one that only its scheme understands. -/
inductive Path where
  | segments (parts : List String)
  | plain (s : String)
  deriving DecidableEq, Repr

/-- An absolute address. -/
structure Url where
  scheme : String
  authority : Option Authority
  path : Path
  query : Option String
  fragment : Option String
  deriving DecidableEq, Repr

/-- How a scheme treats its addresses. -/
inductive SchemeKind where
  | web
  | file
  | other
  deriving DecidableEq, Repr

namespace SchemeKind

def of (scheme : String) : SchemeKind :=
  if scheme ∈ ["http", "https", "ws", "wss", "ftp"] then web
  else if scheme = "file" then file
  else other

/-- Web addresses and files. -/
def isSpecial (k : SchemeKind) : Bool := k ≠ other

end SchemeKind

/-- The port that goes without saying. -/
def defaultPort? : String → Option Nat
  | "http" => some 80
  | "https" => some 443
  | "ws" => some 80
  | "wss" => some 443
  | "ftp" => some 21
  | _ => none

namespace Authority

/-- User, host and port. -/
def text (a : Authority) : String :=
  let secret := (a.password.map (":" ++ ·)).getD ""
  let user := if a.user.isEmpty && a.password.isNone then "" else a.user ++ secret ++ "@"
  user ++ a.host.text ++ (a.port.map fun p => ":" ++ toString p).getD ""

end Authority

namespace Path

def text : Path → String
  | segments parts => String.join (parts.map ("/" ++ ·))
  | plain s => s

end Path

namespace Url

/-- A part of an address in the characters meant, where they are characters. -/
def meant? (part : String) : Option String := String.fromUTF8? ⟨(percentDecode part.toList).toArray⟩

/-- The address without user and password, which go to the server in another way. They stay where
they cannot be understood. -/
def withoutUser (u : Url) : Url :=
  match u.authority with
  | some a =>
    match meant? a.user, a.password.bind meant? with
    | none, _ => u
    | some "", none => u
    | _, _ => { u with authority := some { a with user := "", password := none } }
  | none => u

/-- What is asked of the server: path and query. -/
def target (u : Url) : String := u.path.text ++ (u.query.map ("?" ++ ·)).getD ""

/-- The address. A path that begins with an empty segment is kept apart from a host. -/
def text (u : Url) : String :=
  let front :=
    match u.authority, u.path with
    | some a, _ => "//" ++ a.text
    | none, .segments ("" :: _ :: _) => "/."
    | none, _ => ""
  u.scheme ++ ":" ++ front ++ u.target ++ (u.fragment.map ("#" ++ ·)).getD ""

/-! ### Reading the parts -/

/-- The scheme in front, in small letters, and what follows its colon. -/
def scheme? (s : List Char) : Option (String × List Char) :=
  let isPart (c : Char) : Bool := c.isAlphanum || c = '+' || c = '-' || c = '.'
  let scheme := s.takeWhile isPart
  match scheme.head?, s.dropWhile isPart with
  | some c, ':' :: rest =>
    if c.isAlpha then some (String.ofList (scheme.map Char.toLower), rest) else none
  | _, _ => none

/-- Ends the authority. -/
def endsAuthority (kind : SchemeKind) (c : Char) : Bool :=
  c = '/' || c = '?' || c = '#' || (kind.isSpecial && c = '\\')

/-- User and password before the last `@`. -/
def readUser (s : List Char) : String × Option String :=
  let encode (part : List Char) : String := String.ofList (percentEncode userSet part)
  match s.dropWhile (· ≠ ':') with
  | _ :: p :: password => (encode (s.takeWhile (· ≠ ':')), some (encode (p :: password)))
  | _ => (encode (s.takeWhile (· ≠ ':')), none)

/-- What stands before the first colon outside brackets, and the colon with what follows. -/
def cutPort (inside : Bool) : List Char → List Char × List Char
  | [] => ([], [])
  | c :: s =>
    if c = ':' && !inside then ([], c :: s)
    else
      let (host, port) := cutPort (if c = '[' then true else if c = ']' then false else inside) s
      (c :: host, port)

/-- The authority at the front of a text. In every scheme `\` ends a port. -/
def takeAuthority (kind : SchemeKind) (s : List Char) : List Char :=
  let authority := s.takeWhile fun c => !endsAuthority kind c
  let (_, port) := cutPort false (authority.reverse.takeWhile (· ≠ '@')).reverse
  authority.take (authority.length - (port.dropWhile (· ≠ '\\')).length)

/-- A port after its colon; none if it is the default one or left out. -/
def readPort (scheme : String) (s : List Char) : Except Error (Option Nat) :=
  if s.all Char.isDigit then
    let n := s.foldl (fun n c => 10 * n + (c.toNat - '0'.toNat)) 0
    if 65535 < n then .error .invalidPort
    else .ok (if s.isEmpty || defaultPort? scheme = some n then none else some n)
  else .error .invalidPort

/-- The authority of a web address or of an address of an unknown scheme; `more` tells that something
follows it. -/
def readAuthority (scheme : String) (s : List Char) (more : Bool) : Except Error Authority :=
  let kind := SchemeKind.of scheme
  let server := (s.reverse.takeWhile (· ≠ '@')).reverse
  let user := s.take (s.length - server.length - 1)
  let (hostText, portText) := cutPort false server
  if s = ['@'] && more then .error .emptyHost
  else if hostText.isEmpty && (kind.isSpecial || !portText.isEmpty) then .error .emptyHost
  else
    match if kind.isSpecial then Host.domain hostText else Host.opaqueName hostText with
    | .error e => .error e
    | .ok host =>
      match readPort scheme (portText.drop 1) with
      | .error e => .error e
      | .ok port =>
        let (name, password) := readUser user
        if hostText.isEmpty && (!name.isEmpty || password.isSome) then .error .emptyHost
        else .ok ⟨name, password, host, port⟩

/-- A letter and a colon, or a bar in its place: the name of a drive. -/
def isDrive : List Char → Bool
  | [c, d] => c.isAlpha && (d = ':' || d = '|')
  | _ => false

/-- A segment that stays where it is. -/
def isHere (s : List Char) : Bool := String.ofList (s.map Char.toLower) ∈ [".", "%2e"]

/-- A segment that goes up. -/
def isUp (s : List Char) : Bool := String.ofList (s.map Char.toLower) ∈ ["..", ".%2e", "%2e.", "%2e%2e"]

/-- The path without its last segment; a drive stays. -/
def goUp (kind : SchemeKind) (seen : List (List Char)) : List (List Char) :=
  match kind, seen with
  | .file, [[c, ':']] => if c.isAlpha then seen else []
  | _, seen => seen.drop 1

/-- Follows the segments of a path; `seen` holds the path so far, last segment first. -/
def walk (kind : SchemeKind) (seen : List (List Char)) : List (List Char) → List (List Char)
  | [] => seen.reverse
  | s :: rest =>
    if isUp s then
      let seen := goUp kind seen
      walk kind (if rest.isEmpty then [] :: seen else seen) rest
    else if isHere s then walk kind (if rest.isEmpty then [] :: seen else seen) rest
    else
      match kind, seen, isDrive s with
      | .file, [], true => walk kind [[s.headD 'c', ':']] rest
      | _, _, _ => walk kind (percentEncode pathSet s :: seen) rest

/-- The segments of a path, without the separator in front. -/
def readSegments (kind : SchemeKind) (s : List Char) : List (List Char) :=
  walk kind [] (splitAt '/' (s.map fun c => if kind.isSpecial && c = '\\' then '/' else c))

/-- A path that has to be one of segments. A file has no empty segments in front. -/
def readPath (kind : SchemeKind) (s : List Char) : Path :=
  match s with
  | [] => if kind.isSpecial then .segments [""] else .segments []
  | c :: rest =>
    let parts := readSegments kind (if c = '/' || (kind.isSpecial && c = '\\') then rest else s)
    let parts := if kind = .file then parts.dropWhile List.isEmpty else parts
    .segments ((if parts.isEmpty && kind.isSpecial then [[]] else parts).map String.ofList)

/-- Cuts off the fragment and the query. -/
def cutTail (special : Bool) (s : List Char) : List Char × Option String × Option String :=
  let beforeFragment := s.takeWhile (· ≠ '#')
  let fragment :=
    match s.dropWhile (· ≠ '#') with
    | [] => none
    | _ :: f => some (String.ofList (percentEncode fragmentSet f))
  let query :=
    match beforeFragment.dropWhile (· ≠ '?') with
    | [] => none
    | _ :: q => some (String.ofList (percentEncode (querySet special) q))
  (beforeFragment.takeWhile (· ≠ '?'), query, fragment)

/-! ### Reading an address -/

/-- A file: a host other than this machine may stand after two slashes. -/
def readFile (s : List Char) : Except Error (Authority × Path) :=
  let isSlash (c : Char) : Bool := c = '/' || c = '\\'
  match s with
  | a :: b :: rest =>
    if isSlash a && isSlash b then
      let hostText := rest.takeWhile fun c => !isSlash c
      if isDrive hostText then .ok (⟨"", none, .name "", none⟩, readPath .file ('/' :: rest))
      else
        let path := readPath .file (rest.drop hostText.length)
        if hostText.isEmpty then .ok (⟨"", none, .name "", none⟩, path)
        else
          match Host.domain hostText, path with
          | .error e, _ => .error e
          | .ok host, .segments (drive :: _) =>
            if isDrive drive.toList || host = .name "localhost" then
              .ok (⟨"", none, .name "", none⟩, path)
            else .ok (⟨"", none, host, none⟩, path)
          | .ok host, _ => .ok (⟨"", none, host, none⟩, path)
    else .ok (⟨"", none, .name "", none⟩, readPath .file s)
  | _ => .ok (⟨"", none, .name "", none⟩, readPath .file s)

/-- What follows the scheme, without query and fragment; `more` tells that there is one of them. -/
def readBody (scheme : String) (s : List Char) (more : Bool) :
    Except Error (Option Authority × Path) :=
  let withAuthority (s : List Char) : Except Error (Option Authority × Path) :=
    let kind := SchemeKind.of scheme
    let authority := takeAuthority kind s
    let rest := s.drop authority.length
    (readAuthority scheme authority (more || !rest.isEmpty)).map fun a => (some a, readPath kind rest)
  match SchemeKind.of scheme with
  | .web => withAuthority (s.dropWhile fun c => c = '/' || c = '\\')
  | .file => (readFile s).map fun (a, p) => (some a, p)
  | .other =>
    match s with
    | '/' :: '/' :: rest => withAuthority rest
    | '/' :: _ => .ok (none, readPath .other s)
    | _ => .ok (none, .plain (String.ofList (percentEncode (fun _ => false) s)))

/-- Controls and spaces. -/
def isEdge (c : Char) : Bool := c.toNat ≤ 0x20

/-- Reads an absolute address. -/
def parse (s : String) : Except Error Url :=
  let trimmed := ((s.toList.dropWhile isEdge).reverse.dropWhile isEdge).reverse
  match scheme? (trimmed.filter fun c => c ≠ '\t' && c ≠ '\n' && c ≠ '\r') with
  | none => .error .relative
  | some (scheme, rest) =>
    let (body, query, fragment) := cutTail (SchemeKind.of scheme).isSpecial rest
    (readBody scheme body (query.isSome || fragment.isSome)).map fun (authority, path) =>
      ⟨scheme, authority, path, query, fragment⟩

end Url

end Typeahead.Web
