import Typeahead.Proofs.Source.Document
import Typeahead.Source.Client

/-!
# What comes of a fetch

A fetch can fail before an answer begins, within the answer to a request that succeeded, and within
an answer that is itself an error, and the same fault is told differently in each place. The faults of
the first place are those of `send_eq_error_iff`, the others those of `receive_eq_error_iff`. From
them the lemmas `fetch_eq_…_iff` say of each kind of outcome on which conduct of the network it comes.
-/

namespace Typeahead.Source
open Json Text

namespace Answer

/-- What an error keeps of the body: all or nothing. -/
def message (a : Answer) : String :=
  match a.ending with
  | .whole => a.text
  | .cut | .held | .lost => ""

/-- The choices in the answer, or why it is not a document. -/
def read (a : Answer) : Except Json.Error (List Choice) := readChoices (Symbol.ofString a.text)

/-- A document without broken characters reads the same before it is decoded. -/
theorem read_of_isValidUTF8 {a : Answer} (h : a.body.IsValidUTF8) :
    a.read = readChoices (Symbol.read a.body) := by
  rw [read, text, Symbol.ofString_lossy h]

end Answer

namespace Transport

/-- The answer that begins to arrive. -/
def answer? : Transport → Option Answer
  | response status body => some ⟨status, body, .whole⟩
  | truncated status body => some ⟨status, body, .cut⟩
  | stalled status body => some ⟨status, body, .held⟩
  | lost status body => some ⟨status, body, .lost⟩
  | closed | silent | unreachable | ignored | expired _ => none

/-- The phase in which nothing comes any more. -/
def waitsIn : Transport → Option Phase
  | ignored => some .connecting
  | silent => some .answering
  | stalled _ _ => some .reading
  | _ => none

end Transport

namespace Client

variable {c : Client} {t : Transport} {a : Answer} {f : Fault} {o : Outcome}

/-- The answer that begins to arrive at the client, which has to ask for it. -/
def answer? (c : Client) (t : Transport) : Option Answer := if c.canAsk then t.answer? else none

/-- Time runs out before an answer: the system's, or that of the client or its agent. -/
def TimesOut (c : Client) (t : Transport) : Prop :=
  (∃ connected, t = .expired connected) ∨ t = .ignored ∧ c.isLimited .connecting ∨
    t = .silent ∧ c.isLimited .answering

/-- Time runs out within the answer. -/
def TimesOutWithin (c : Client) (a : Answer) : Prop :=
  a.ending = .lost ∨ a.ending = .held ∧ c.isLimited .reading

/-! ### Requests and answers -/

theorem wait_eq_some_iff {p : Phase} {trouble : Trouble} :
    c.wait p trouble = some f ↔ c.isLimited p ∧ ⟨trouble, true⟩ = f := by
  simp [wait]

theorem wait_eq_none_iff {p : Phase} {trouble : Trouble} :
    c.wait p trouble = none ↔ c.timeout = none ∧ c.agent.limit p = none := by
  simp [wait, isLimited]

theorem send_eq_ok_iff : c.send t = some (.ok a) ↔ c.answer? t = some a := by
  cases hask : c.canAsk <;> cases t <;> simp [send, answer?, Transport.answer?, hask]

theorem send_eq_none_iff : c.send t = none ↔ c.canAsk ∧ c.timeout = none ∧
    (t = .ignored ∧ c.agent.limit .connecting = none ∨
      t = .silent ∧ c.agent.limit .answering = none) := by
  cases hask : c.canAsk <;> cases t <;> simp [send, hask, wait_eq_none_iff]

theorem send_eq_error_iff : c.send t = some (.error f) ↔
    c.canAsk = false ∧ ⟨.building, false⟩ = f ∨
      c.canAsk ∧ ((t = .closed ∨ t = .unreachable) ∧ ⟨.sending, false⟩ = f ∨
        c.TimesOut t ∧ ⟨.sending, true⟩ = f) := by
  cases hask : c.canAsk with
  | false => simp [send, hask]
  | true => cases t <;> simp [send, hask, TimesOut, wait_eq_some_iff]

theorem receive_eq_ok_iff {body : String} :
    c.receive a = some (.ok body) ↔ a.ending = .whole ∧ a.text = body := by
  cases hending : a.ending <;> simp [receive, hending]

theorem receive_eq_error_iff : c.receive a = some (.error f) ↔
    a.ending = .cut ∧ ⟨.reading, false⟩ = f ∨ c.TimesOutWithin a ∧ ⟨.reading, true⟩ = f := by
  cases hending : a.ending <;>
    simp [receive, hending, TimesOutWithin, wait_eq_some_iff]

theorem receive_eq_none_iff : c.receive a = none ↔
    c.timeout = none ∧ a.ending = .held ∧ c.agent.limit .reading = none := by
  cases hending : a.ending <;> simp [receive, hending, wait_eq_none_iff]

/-- An error keeps what has been received. -/
theorem message_of_receive {received : Except Fault String} (h : c.receive a = some received) :
    received.toOption.getD "" = a.message := by
  cases received with
  | ok body =>
    obtain ⟨hending, rfl⟩ := receive_eq_ok_iff.mp h
    simp [Answer.message, hending, Except.toOption]
  | error f =>
    have hending : a.ending ≠ .whole := by
      rcases receive_eq_error_iff.mp h with ⟨hcut, -⟩ | ⟨hlost | ⟨hheld, -⟩, -⟩ <;> simp [*]
    cases hcases : a.ending <;> simp_all [Answer.message, Except.toOption]

/-! ### Faults -/

theorem failure_eq_timeout_iff {limit : Span} :
    c.failure f = .timeout limit ↔ c.timeout = some limit ∧ f.timedOut := by
  unfold failure
  split <;> simp_all

theorem failure_eq_network_iff {trouble : Trouble} {address : String} :
    c.failure f = .network trouble address ↔
      f.trouble = trouble ∧ c.url.withoutUser.text = address ∧ (f.timedOut → c.timeout = none) := by
  unfold failure
  split
  · simp_all
  · rename_i h
    cases htimeout : c.timeout <;> cases htimed : f.timedOut <;> simp_all

/-- A fault is told as a timeout or as trouble on the way. -/
theorem failure_ne {f' : Failure} (htimeout : ∀ limit, f' ≠ .timeout limit)
    (hnetwork : ∀ trouble address, f' ≠ .network trouble address) : c.failure f ≠ f' := by
  unfold failure
  split
  · exact (htimeout _).symm
  · exact (hnetwork _ _).symm

theorem readAnswer_text_eq_ok_iff {choices : List Choice} :
    readAnswer a.text = .ok choices ↔ a.read = .ok choices := by
  rw [readAnswer, Answer.read]
  cases readChoices (Symbol.ofString a.text) <;> simp [Except.mapError]

theorem readAnswer_text_eq_error_iff {f : Failure} : readAnswer a.text = .error f ↔
    ∃ e, a.read = .error e ∧
      f = .malformed ("Failed to parse option list: " ++ e.message) (some a.text) := by
  rw [readAnswer, Answer.read]
  cases readChoices (Symbol.ofString a.text) <;> simp [Except.mapError, eq_comm]

/-! ### Each kind of outcome -/

theorem fetch_eq_some_iff : c.fetch t = some o ↔
    (∃ a received, c.answer? t = some a ∧ c.receive a = some received ∧
      c.conclude a.status received = o) ∨
    ∃ f, c.send t = some (.error f) ∧ .error (c.failure f) = o := by
  unfold fetch
  split
  · rename_i hsend
    simp [← send_eq_ok_iff, hsend]
  · rename_i f hsend
    simp [← send_eq_ok_iff, hsend]
  · rename_i a hsend
    simp [← send_eq_ok_iff, hsend]

theorem conclude_eq_ok_iff {status : Nat} {received : Except Fault String} {choices : List Choice} :
    c.conclude status received = .ok choices ↔
      isSuccess status ∧ ∃ body, received = .ok body ∧ readAnswer body = .ok choices := by
  unfold conclude
  cases received <;> split <;> simp_all

theorem conclude_eq_http_iff {status status' : Nat} {received : Except Fault String} {body : String} :
    c.conclude status received = .error (.http status' body) ↔
      isSuccess status = false ∧ status = status' ∧ received.toOption.getD "" = body := by
  have hread : ∀ text, readAnswer text ≠ .error (.http status' body) := fun text h => by
    unfold readAnswer at h
    cases hchoices : readChoices (Symbol.ofString text) <;> simp [hchoices, Except.mapError] at h
  have hfault : ∀ f, c.failure f ≠ .http status' body := fun f => failure_ne nofun nofun
  unfold conclude
  cases received <;> split <;> simp_all

theorem conclude_eq_malformed_iff {status : Nat} {received : Except Fault String} {reason : String}
    {body? : Option String} : c.conclude status received = .error (.malformed reason body?) ↔
      isSuccess status ∧ ∃ body, received = .ok body ∧
        readAnswer body = .error (.malformed reason body?) := by
  have hfault : ∀ f, c.failure f ≠ .malformed reason body? := fun f => failure_ne nofun nofun
  unfold conclude
  cases received <;> split <;> simp_all

/-- Any other failure comes from a fault within an answer of success. -/
theorem conclude_eq_error_iff {status : Nat} {received : Except Fault String} {f' : Failure}
    (hhttp : ∀ status body, f' ≠ .http status body)
    (hmalformed : ∀ reason body, f' ≠ .malformed reason body) :
    c.conclude status received = .error f' ↔
      isSuccess status ∧ ∃ f, received = .error f ∧ c.failure f = f' := by
  have hread : ∀ text, readAnswer text ≠ .error f' := fun text h => by
    unfold readAnswer at h
    cases hchoices : readChoices (Symbol.ofString text) with
    | ok choices => rw [hchoices] at h; cases h
    | error e => rw [hchoices] at h; exact hmalformed _ _ (Except.error.inj h).symm
  have hstatus : ∀ text, Failure.http status text ≠ f' := fun text => (hhttp status text).symm
  unfold conclude
  cases received <;> split <;> simp_all

theorem fetch_eq_ok_iff {choices : List Choice} : c.fetch t = some (.ok choices) ↔
    ∃ a, c.answer? t = some a ∧ isSuccess a.status ∧ a.ending = .whole ∧ a.read = .ok choices := by
  rw [fetch_eq_some_iff]
  simp only [conclude_eq_ok_iff, reduceCtorEq, and_false, exists_false, or_false]
  constructor
  · rintro ⟨a, _, ha, hreceive, hs, body, rfl, hread⟩
    obtain ⟨hwhole, rfl⟩ := receive_eq_ok_iff.mp hreceive
    exact ⟨a, ha, hs, hwhole, readAnswer_text_eq_ok_iff.mp hread⟩
  · rintro ⟨a, ha, hs, hwhole, hread⟩
    exact ⟨a, _, ha, receive_eq_ok_iff.mpr ⟨hwhole, rfl⟩, hs, _, rfl,
      readAnswer_text_eq_ok_iff.mpr hread⟩

theorem fetch_eq_http_iff {status : Nat} {body : String} :
    c.fetch t = some (.error (.http status body)) ↔
      ∃ a, c.answer? t = some a ∧ isSuccess a.status = false ∧ c.receive a ≠ none ∧
        a.status = status ∧ a.message = body := by
  have hfault : ∀ f, c.failure f ≠ .http status body := fun f => failure_ne nofun nofun
  rw [fetch_eq_some_iff]
  simp only [conclude_eq_http_iff, Except.error.injEq, hfault, and_false, exists_false, or_false]
  constructor
  · rintro ⟨a, received, ha, hreceive, hs, hstatus, hbody⟩
    refine ⟨a, ha, hs, by simp [hreceive], hstatus, ?_⟩
    rw [← message_of_receive hreceive, hbody]
  · rintro ⟨a, ha, hs, hreceive, hstatus, hbody⟩
    obtain ⟨received, hreceived⟩ := Option.ne_none_iff_exists'.mp hreceive
    refine ⟨a, received, ha, hreceived, hs, hstatus, ?_⟩
    rw [message_of_receive hreceived, hbody]

theorem fetch_eq_malformed_iff {reason : String} {body : Option String} :
    c.fetch t = some (.error (.malformed reason body)) ↔
      ∃ a, c.answer? t = some a ∧ isSuccess a.status ∧ a.ending = .whole ∧ ∃ e, a.read = .error e ∧
        reason = "Failed to parse option list: " ++ e.message ∧ body = some a.text := by
  have hfault : ∀ f, c.failure f ≠ .malformed reason body := fun f => failure_ne nofun nofun
  rw [fetch_eq_some_iff]
  simp only [conclude_eq_malformed_iff, Except.error.injEq, hfault, and_false, exists_false, or_false]
  constructor
  · rintro ⟨a, _, ha, hreceive, hs, text, rfl, hread⟩
    obtain ⟨hwhole, rfl⟩ := receive_eq_ok_iff.mp hreceive
    obtain ⟨e, he, hmalformed⟩ := readAnswer_text_eq_error_iff.mp hread
    obtain ⟨rfl, rfl⟩ := Failure.malformed.inj hmalformed
    exact ⟨a, ha, hs, hwhole, e, he, rfl, rfl⟩
  · rintro ⟨a, ha, hs, hwhole, e, he, rfl, rfl⟩
    exact ⟨a, _, ha, receive_eq_ok_iff.mpr ⟨hwhole, rfl⟩, hs, _, rfl,
      readAnswer_text_eq_error_iff.mpr ⟨e, he, rfl⟩⟩

/-- A failure of any other kind is the way in which a fault is told, of the request or of the body of
an answer of success. -/
theorem fetch_eq_error_iff {f' : Failure} (hhttp : ∀ status body, f' ≠ .http status body)
    (hmalformed : ∀ reason body, f' ≠ .malformed reason body) :
    c.fetch t = some (.error f') ↔ ∃ f, c.failure f = f' ∧ (c.send t = some (.error f) ∨
      ∃ a, c.answer? t = some a ∧ isSuccess a.status ∧ c.receive a = some (.error f)) := by
  rw [fetch_eq_some_iff]
  simp only [conclude_eq_error_iff hhttp hmalformed, Except.error.injEq]
  constructor
  · rintro (⟨a, _, ha, hreceive, hs, f, rfl, hf⟩ | ⟨f, hsend, hf⟩)
    · exact ⟨f, hf, .inr ⟨a, ha, hs, hreceive⟩⟩
    · exact ⟨f, hf, .inl hsend⟩
  · rintro ⟨f, hf, hsend | ⟨a, ha, hs, hreceive⟩⟩
    · exact .inr ⟨f, hsend, hf⟩
    · exact .inl ⟨a, _, ha, hreceive, hs, f, rfl, hf⟩

theorem fetch_eq_timeout_iff {limit : Span} : c.fetch t = some (.error (.timeout limit)) ↔
    c.timeout = some limit ∧ (c.canAsk ∧ c.TimesOut t ∨
      ∃ a, c.answer? t = some a ∧ isSuccess a.status ∧ c.TimesOutWithin a) := by
  rw [fetch_eq_error_iff (by simp) (by simp)]
  simp only [failure_eq_timeout_iff, send_eq_error_iff, receive_eq_error_iff]
  constructor
  · rintro ⟨f, ⟨hlimit, hf⟩, (⟨-, rfl⟩ | ⟨hask, ⟨-, rfl⟩ | ⟨hout, rfl⟩⟩) |
      ⟨a, ha, hs, ⟨-, rfl⟩ | ⟨hout, rfl⟩⟩⟩
    · cases hf
    · cases hf
    · exact ⟨hlimit, .inl ⟨hask, hout⟩⟩
    · cases hf
    · exact ⟨hlimit, .inr ⟨a, ha, hs, hout⟩⟩
  · rintro ⟨hlimit, ⟨hask, hout⟩ | ⟨a, ha, hs, hout⟩⟩
    · exact ⟨⟨.sending, true⟩, ⟨hlimit, rfl⟩, .inl (.inr ⟨hask, .inr ⟨hout, rfl⟩⟩)⟩
    · exact ⟨⟨.reading, true⟩, ⟨hlimit, rfl⟩, .inr ⟨a, ha, hs, .inr ⟨hout, rfl⟩⟩⟩

/-- Where the network does what a client tells as this trouble. -/
def Meets (c : Client) (t : Transport) : Trouble → Prop
  | .building => c.canAsk = false
  | .sending => c.canAsk ∧
      ((t = .closed ∨ t = .unreachable) ∨ c.timeout = none ∧ c.TimesOut t)
  | .reading => ∃ a, c.answer? t = some a ∧ isSuccess a.status ∧
      (a.ending = .cut ∨ c.timeout = none ∧ c.TimesOutWithin a)

theorem fetch_eq_network_iff {trouble : Trouble} {address : String} :
    c.fetch t = some (.error (.network trouble address)) ↔
      c.url.withoutUser.text = address ∧ c.Meets t trouble := by
  rw [fetch_eq_error_iff (by simp) (by simp)]
  simp only [failure_eq_network_iff, send_eq_error_iff, receive_eq_error_iff]
  constructor
  · rintro ⟨f, ⟨rfl, haddress, hf⟩, (⟨hask, rfl⟩ | ⟨hask, ⟨hshut, rfl⟩ | ⟨hout, rfl⟩⟩) |
      ⟨a, ha, hs, ⟨hcut, rfl⟩ | ⟨hout, rfl⟩⟩⟩
    · exact ⟨haddress, hask⟩
    · exact ⟨haddress, hask, .inl hshut⟩
    · exact ⟨haddress, hask, .inr ⟨hf rfl, hout⟩⟩
    · exact ⟨haddress, a, ha, hs, .inl hcut⟩
    · exact ⟨haddress, a, ha, hs, .inr ⟨hf rfl, hout⟩⟩
  · rintro ⟨haddress, h⟩
    cases trouble with
    | building => exact ⟨⟨.building, false⟩, ⟨rfl, haddress, nofun⟩, .inl (.inl ⟨h, rfl⟩)⟩
    | sending =>
      obtain ⟨hask, hshut | ⟨hlimit, hout⟩⟩ := h
      · exact ⟨⟨.sending, false⟩, ⟨rfl, haddress, nofun⟩, .inl (.inr ⟨hask, .inl ⟨hshut, rfl⟩⟩)⟩
      · exact ⟨⟨.sending, true⟩, ⟨rfl, haddress, fun _ => hlimit⟩,
          .inl (.inr ⟨hask, .inr ⟨hout, rfl⟩⟩)⟩
    | reading =>
      obtain ⟨a, ha, hs, hcut | ⟨hlimit, hout⟩⟩ := h
      · exact ⟨⟨.reading, false⟩, ⟨rfl, haddress, nofun⟩, .inr ⟨a, ha, hs, .inl ⟨hcut, rfl⟩⟩⟩
      · exact ⟨⟨.reading, true⟩, ⟨rfl, haddress, fun _ => hlimit⟩,
          .inr ⟨a, ha, hs, .inr ⟨hout, rfl⟩⟩⟩

theorem fetch_ne_invalidUrl {reason : String} : c.fetch t ≠ some (.error (.invalidUrl reason)) := by
  rw [ne_eq, fetch_eq_error_iff (by simp) (by simp)]
  rintro ⟨f, hf, -⟩
  exact failure_ne (by simp) (by simp) hf

/-- The client is left waiting in a phase in which neither it nor its agent ever loses patience. -/
def Hangs (c : Client) (t : Transport) : Prop :=
  c.canAsk ∧ c.timeout = none ∧ ∃ p, t.waitsIn = some p ∧ c.agent.limit p = none

theorem fetch_eq_none_iff : c.fetch t = none ↔ c.Hangs t := by
  have hfetch : c.fetch t = none ↔
      c.send t = none ∨ ∃ a, c.answer? t = some a ∧ c.receive a = none := by
    unfold fetch
    split <;> rename_i hsend <;> simp [← send_eq_ok_iff, hsend]
  rw [hfetch, send_eq_none_iff]
  simp only [receive_eq_none_iff]
  cases hask : c.canAsk with
  | false => simp [answer?, Hangs, hask]
  | true => cases t <;> simp [answer?, Transport.answer?, Hangs, Transport.waitsIn, hask]

/-! ### All of them -/

/-- A fetch that ended in `o` tells what became of the answer: choices or one kind of failure, each
exactly where the network did what it stands for. -/
structure Explains (c : Client) (t : Transport) (o : Outcome) : Prop where
  /-- Only a whole answer of success that is a document gives choices, and gives those in it. -/
  ok : ∀ choices, o = .ok choices ↔
    ∃ a, c.answer? t = some a ∧ isSuccess a.status ∧ a.ending = .whole ∧ a.read = .ok choices
  /-- Decoding does not change what a document without broken characters holds. -/
  undistorted : ∀ a, c.answer? t = some a → a.body.IsValidUTF8 →
    a.read = readChoices (Symbol.read a.body)
  status : ∀ status, (∃ f, o = .error f ∧ f.status? = some status) ↔
    ∃ a, c.answer? t = some a ∧ isSuccess a.status = false ∧ a.status = status
  http : ∀ status body a, o = .error (.http status body) → c.answer? t = some a →
    body = if a.ending = .whole then a.text else ""
  malformed : (∃ f, o = .error f ∧ f.isMalformed) ↔
    ∃ a, c.answer? t = some a ∧ isSuccess a.status ∧ a.ending = .whole ∧
      ∀ choices, a.read ≠ .ok choices
  body : ∀ f a, o = .error f → f.isMalformed → c.answer? t = some a → f.body? = some a.text
  /-- An answer of success that breaks off is trouble on the way, whatever has come by then. -/
  network : ∀ trouble address, o = .error (.network trouble address) ↔
    c.url.withoutUser.text = address ∧ c.Meets t trouble
  /-- Time that runs out is told with the limit of the client, even if it was not this that was
  reached. -/
  timeout : ∀ limit, o = .error (.timeout limit) ↔
    c.timeout = some limit ∧ (c.canAsk ∧ c.TimesOut t ∨
      ∃ a, c.answer? t = some a ∧ isSuccess a.status ∧ c.TimesOutWithin a)
  invalidUrl : ∀ reason, o ≠ .error (.invalidUrl reason)

theorem exists_status_iff {status : Nat} : (∃ f, o = .error f ∧ f.status? = some status) ↔
    ∃ body, o = .error (.http status body) := by
  constructor
  · rintro ⟨f, rfl, h⟩
    cases f <;> simp_all [Failure.status?]
  · rintro ⟨body, rfl⟩
    exact ⟨_, rfl, rfl⟩

theorem exists_isMalformed_iff : (∃ f, o = .error f ∧ f.isMalformed) ↔
    ∃ reason body, o = .error (.malformed reason body) := by
  constructor
  · rintro ⟨f, rfl, h⟩
    cases f <;> simp_all [Failure.isMalformed]
  · rintro ⟨reason, body, rfl⟩
    exact ⟨_, rfl, rfl⟩

section
variable (ho : c.fetch t = some o)
include ho

theorem eq_iff_of_fetch {o' : Outcome} : o = o' ↔ c.fetch t = some o' := by
  rw [ho, Option.some.injEq]

theorem receive_ne_none_of_fetch (ha : c.answer? t = some a) : c.receive a ≠ none := by
  intro hnone
  rw [fetch, send_eq_ok_iff.mpr ha] at ho
  simp [hnone] at ho

theorem status_iff_of_fetch {status : Nat} : (∃ f, o = .error f ∧ f.status? = some status) ↔
    ∃ a, c.answer? t = some a ∧ isSuccess a.status = false ∧ a.status = status := by
  rw [exists_status_iff]
  simp only [eq_iff_of_fetch ho, fetch_eq_http_iff]
  constructor
  · rintro ⟨body, a, ha, hs, -, hstatus, -⟩
    exact ⟨a, ha, hs, hstatus⟩
  · rintro ⟨a, ha, hs, hstatus⟩
    exact ⟨a.message, a, ha, hs, receive_ne_none_of_fetch ho ha, hstatus, rfl⟩

theorem body_of_http {status : Nat} {body : String} (h : o = .error (.http status body))
    (ha : c.answer? t = some a) : body = if a.ending = .whole then a.text else "" := by
  obtain ⟨a', ha', -, -, -, rfl⟩ := fetch_eq_http_iff.mp ((eq_iff_of_fetch ho).mp h)
  obtain rfl : a' = a := Option.some.inj (ha'.symm.trans ha)
  rw [Answer.message]
  cases a'.ending <;> rfl

theorem isMalformed_iff_of_fetch : (∃ f, o = .error f ∧ f.isMalformed) ↔
    ∃ a, c.answer? t = some a ∧ isSuccess a.status ∧ a.ending = .whole ∧
      ∀ choices, a.read ≠ .ok choices := by
  rw [exists_isMalformed_iff]
  simp only [eq_iff_of_fetch ho, fetch_eq_malformed_iff]
  constructor
  · rintro ⟨reason, body, a, ha, hs, hwhole, e, he, -, -⟩
    exact ⟨a, ha, hs, hwhole, by simp [he]⟩
  · rintro ⟨a, ha, hs, hwhole, hread⟩
    cases he : a.read with
    | ok choices => exact absurd he (hread choices)
    | error e => exact ⟨_, _, a, ha, hs, hwhole, e, he, rfl, rfl⟩

theorem body_of_isMalformed {f : Failure} (h : o = .error f) (hf : f.isMalformed)
    (ha : c.answer? t = some a) : f.body? = some a.text := by
  obtain ⟨reason, body, hmalformed⟩ := exists_isMalformed_iff.mp ⟨f, h, hf⟩
  obtain ⟨a', ha', -, -, e, -, -, hbody⟩ :=
    fetch_eq_malformed_iff.mp ((eq_iff_of_fetch ho).mp hmalformed)
  obtain rfl : a' = a := Option.some.inj (ha'.symm.trans ha)
  obtain rfl : f = .malformed reason body := Except.error.inj (h.symm.trans hmalformed)
  exact hbody

theorem explains_of_fetch : c.Explains t o where
  ok _ := (eq_iff_of_fetch ho).trans fetch_eq_ok_iff
  undistorted a _ h := a.read_of_isValidUTF8 h
  status _ := status_iff_of_fetch ho
  http _ _ _ h ha := body_of_http ho h ha
  malformed := isMalformed_iff_of_fetch ho
  body _ _ h hf ha := body_of_isMalformed ho h hf ha
  network _ _ := (eq_iff_of_fetch ho).trans fetch_eq_network_iff
  timeout _ := (eq_iff_of_fetch ho).trans fetch_eq_timeout_iff
  invalidUrl _ h := fetch_ne_invalidUrl ((eq_iff_of_fetch ho).mp h)

end

/-- A fetch goes on for ever only where nothing comes and nobody has set a limit to the wait; where it
ends, what it tells is what happened. -/
theorem fetch_explained (c : Client) (t : Transport) :
    (c.fetch t = none ↔ c.Hangs t) ∧ ∀ o, c.fetch t = some o → c.Explains t o :=
  ⟨fetch_eq_none_iff, fun _ => explains_of_fetch⟩

/-- A client of the machine itself, with an agent that waits a tenth of a second for a connection. -/
def localClient (timeout : Option Span) : Client where
  url := ⟨"http", some { host := .name "localhost" }, .segments [""], none, none⟩
  timeout := timeout
  agent := { connecting := some ⟨0, 100000000⟩ }

/-- `{"options":[]}` -/
def noOptions : Padded Value := .tight (.ofMembers [("options", .ofList [])])

theorem offers_noOptions : Offers noOptions.item [] :=
  ⟨_, _, holds_ofMembers (m := ("options", _)) rfl, .nil⟩

/-- What has come is a document, and its breaking off is all that counts. A connection that is not
made in time is a timeout of the ten seconds for the whole, or trouble on the way if there are none. -/
theorem fetch_explained_local :
    let hurried := localClient (some ⟨10, 0⟩)
    let patient := localClient none
    readChoices (Symbol.read (bytes noOptions)) = .ok [] ∧
    hurried.Explains (.truncated 200 (bytes noOptions))
      (.error (.network .reading hurried.url.withoutUser.text)) ∧
    hurried.Explains .ignored (.error (.timeout ⟨10, 0⟩)) ∧
    patient.Explains .ignored (.error (.network .sending patient.url.withoutUser.text)) ∧
    (patient.fetch .silent = none ↔ patient.Hangs .silent) := by
  intro hurried patient
  have hread := (readChoices_eq_ok_iff noOptions).mpr offers_noOptions.choices?
  have hcut : hurried.fetch (.truncated 200 (bytes noOptions)) =
      some (.error (.network .reading hurried.url.withoutUser.text)) := by decide
  have hlate : hurried.fetch .ignored = some (.error (.timeout ⟨10, 0⟩)) := by decide
  have hlost : patient.fetch .ignored =
      some (.error (.network .sending patient.url.withoutUser.text)) := by decide
  exact ⟨hread, (fetch_explained hurried _).2 _ hcut, (fetch_explained hurried _).2 _ hlate,
    (fetch_explained patient _).2 _ hlost, (fetch_explained patient _).1⟩

end Client
end Typeahead.Source
