import Typeahead.Source.Document
import Typeahead.Source.Failure
import Typeahead.Web.Url

/-!
# Fetching the choices

A client asks one server for the document, once. It has an `Agent` that speaks to the network for it,
made by the client or given to it. What the network does with the request is a `Transport`; what comes
of it is the list of choices or a failure, or nothing at all when the client is kept waiting and neither
it nor its agent ever loses patience.

Only a complete answer with a status of success is read as a document. An error keeps its body if
that came in full. A wait that ends is a timeout, whoever ended it; a client with a limit of its own
tells it as one, and any other as trouble on the way.
-/

namespace Typeahead.Source

/-- What a request can be waiting for: a connection, an answer, the rest of it. -/
inductive Phase where
  | connecting
  | answering
  | reading
  deriving DecidableEq, Repr

/-- What sends requests, with the longest that it waits in each phase; none where it does not mind. -/
structure Agent where
  connecting : Option Span := none
  answering : Option Span := none
  reading : Option Span := none
  deriving DecidableEq, Repr

def Agent.limit (a : Agent) : Phase → Option Span
  | .connecting => a.connecting
  | .answering => a.answering
  | .reading => a.reading

/-- Asks a server for the choices. -/
structure Client where
  url : Web.Url
  timeout : Option Span
  agent : Agent
  deriving DecidableEq, Repr

/-- What a client is made from. -/
structure Builder where
  address : String
  timeout : Option Span := none
  /-- For an agent that the client makes. -/
  connectTimeout : Option Span := none
  /-- An agent to be used instead. -/
  agent : Option Agent := none

def Builder.build (b : Builder) : Except Failure Client :=
  match Web.Url.parse b.address with
  | .ok url => .ok ⟨url, b.timeout, b.agent.getD { connecting := b.connectTimeout }⟩
  | .error e => .error (.invalidUrl (b.address ++ ": " ++ e.message))

/-- What the network does with a request. -/
inductive Transport where
  /-- A whole answer comes. -/
  | response (status : Nat) (body : ByteArray)
  /-- The answer breaks off before its announced end. -/
  | truncated (status : Nat) (body : ByteArray)
  /-- The answer stops before its announced end, and the connection stays. -/
  | stalled (status : Nat) (body : ByteArray)
  /-- The answer stops before its announced end, and the system lets the connection time out. -/
  | lost (status : Nat) (body : ByteArray)
  /-- The connection closes without an answer. -/
  | closed
  /-- The connection stays without an answer. -/
  | silent
  /-- There is no connection. -/
  | unreachable
  /-- Nobody takes up the connection or refuses it. -/
  | ignored
  /-- The system lets the request time out, before or after the connection is made. -/
  | expired (connected : Bool)

/-- A link to the network. -/
inductive Link where
  | up
  | down

/-- What becomes of a request on a link. -/
def Link.carry : Link → Transport → Transport
  | up, t => t
  | down, _ => .unreachable

/-- How a fetch ends. -/
abbrev Outcome := Except Failure (List Choice)

/-- A status of success. -/
def isSuccess (status : Nat) : Bool := 200 ≤ status && status < 300

/-- The choices in the text of an answer. -/
def readAnswer (body : String) : Outcome :=
  (readChoices (Text.Symbol.ofString body)).mapError fun e =>
    .malformed ("Failed to parse option list: " ++ e.message) (some body)

/-- How the body of an answer ends: as announced, before that with the connection, or before that while
the connection stays or times out. -/
inductive Ending where
  | whole
  | cut
  | held
  | lost
  deriving DecidableEq, Repr

/-- An answer whose status has arrived. -/
structure Answer where
  status : Nat
  body : ByteArray
  ending : Ending

def Answer.text (a : Answer) : String := Text.Utf8.lossy a.body

/-- What makes a request fail. -/
structure Fault where
  trouble : Trouble
  timedOut : Bool

namespace Client

/-- The client as a message shows it. -/
def text (c : Client) : String :=
  let timeout := (c.timeout.map fun d => "Some(" ++ d.text ++ ")").getD "None"
  "OptionSourceClient \x7b url: " ++ Text.quote c.url.text ++ ", timeout: " ++ timeout ++ " \x7d"

/-- The most bytes of an address that a request can carry. -/
def longestAddress : Nat := 65534

/-- Characters that a domain name may hold and a request may not. -/
def isUnfit (c : Char) : Bool := c ∈ ['"', '`', '\x7b', '\x7d']

/-- There is a way to ask servers at such an address. -/
def canAsk (c : Client) : Bool :=
  (c.url.scheme = "http" || c.url.scheme = "https")
    && !(c.url.authority.any fun a => a.host.text.toList.any isUnfit)
    && c.url.withoutUser.text.utf8ByteSize ≤ longestAddress

/-- The request as the server sees it. -/
def request (c : Client) : String := "GET " ++ c.url.target ++ " accept=application/json"

/-- The requests that reach the server. -/
def requests (c : Client) : Transport → List String
  | .unreachable | .ignored | .expired false => []
  | _ => if c.canAsk then [c.request] else []

/-- A wait in the phase comes to an end. -/
def isLimited (c : Client) (p : Phase) : Bool := c.timeout.isSome || (c.agent.limit p).isSome

/-- What comes of a wait in vain; none if it never ends. -/
def wait (c : Client) (p : Phase) (trouble : Trouble) : Option Fault :=
  if c.isLimited p then some ⟨trouble, true⟩ else none

/-- What comes of the request, up to the status of an answer; none if it never ends. -/
def send (c : Client) (t : Transport) : Option (Except Fault Answer) :=
  if !c.canAsk then some (.error ⟨.building, false⟩)
  else
    match t with
    | .response status body => some (.ok ⟨status, body, .whole⟩)
    | .truncated status body => some (.ok ⟨status, body, .cut⟩)
    | .stalled status body => some (.ok ⟨status, body, .held⟩)
    | .lost status body => some (.ok ⟨status, body, .lost⟩)
    | .closed | .unreachable => some (.error ⟨.sending, false⟩)
    | .expired _ => some (.error ⟨.sending, true⟩)
    | .ignored => (c.wait .connecting .sending).map .error
    | .silent => (c.wait .answering .sending).map .error

/-- The text of an answer, or why it does not come in full; none if that never shows. -/
def receive (c : Client) (a : Answer) : Option (Except Fault String) :=
  match a.ending with
  | .whole => some (.ok a.text)
  | .cut => some (.error ⟨.reading, false⟩)
  | .lost => some (.error ⟨.reading, true⟩)
  | .held => (c.wait .reading .reading).map .error

/-- How a client tells what made its request fail. -/
def failure (c : Client) (f : Fault) : Failure :=
  match c.timeout, f.timedOut with
  | some limit, true => .timeout limit
  | _, _ => .network f.trouble c.url.withoutUser.text

/-- What comes of an answer with the text received. -/
def conclude (c : Client) (status : Nat) (received : Except Fault String) : Outcome :=
  if isSuccess status then
    match received with
    | .ok body => readAnswer body
    | .error f => .error (c.failure f)
  else .error (.http status (received.toOption.getD ""))

/-- What comes of a request; none if it never ends. -/
def fetch (c : Client) (t : Transport) : Option Outcome :=
  match c.send t with
  | none => none
  | some (.error f) => some (.error (c.failure f))
  | some (.ok a) => (c.receive a).map (c.conclude a.status)

end Client

end Typeahead.Source
