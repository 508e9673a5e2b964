import Phrasebook.Fault
import Phrasebook.Number
import Phrasebook.Log.Journal
import Phrasebook.Effect

/-!
Remote sources: downloading a catalog over HTTP, retrying what may pass.

The network is an `Exchange`: for each URL, the answers it will give to the requests still to
come, with the count of requests made and the backoff waits asked for. A request for a URL
that has no answer left fails with a runtime fault.

One attempt at a download sends one request and takes one answer (`Outcome.answer`). A
transport failure becomes a fetch fault (see `wrapTransport`). A status of 429 or from 500 up is
a fetch fault too; any other status from 400 up is a plain source fault. Only below 400 is the
body read: a body that is not UTF-8 is a source fault, and a transport failure while reading it
a fetch fault. A status may be any number; one that is no number cannot be compared, and fails
the download at once. Otherwise the body is the catalog text.

A download stops after the first attempt whose number reaches the limit `m`, so it makes at
least one. Only fetch faults are tried again: before attempt `n + 1` it waits
`min (2 ^ (n - 1)) 30` seconds and announces the retry. A download that fails
with a source fault announces the failure.

`resume` runs a download from some attempt on and keeps its failure as its outcome; `fetch`
runs one from the first attempt. Downloads awaited together give way at each request and
before each retry: a `Stage` says where one stands between two waits, and `Stage.step` runs it
to the next wait.

Main statements: `backoff_le` bounds every wait by thirty seconds, and `wrap_timeout` says
that a timeout always reads `request timed out`.
-/

namespace Phrasebook.Source

/-- The fetch fault standing for a transport failure `f` with HTTP status `status`, for a URL
given as any value: the message shows its display, the data holds it as given. -/
def wrapTransportAt (f : Fault) (status : Option Value) (url : Value) : Fault :=
  let detail :=
    if f.isTimeout then "request timed out"
    else if f.message.isEmpty then f.className else f.message
  let data := [("url", url)] ++
    (match status with
      | some .null | none => []
      | some s => [("http_status", s)])
  .source .fetch ("Failed to fetch catalog from " ++ url.display ++ ": " ++ detail) data

def wrapTransport (f : Fault) (status : Option Value) (url : String) : Fault :=
  wrapTransportAt f status (.str url)

/-- One scripted answer to a request. -/
inductive Outcome where
  /-- A response with a status and a body. -/
  | respond (status : Value) (body : String)
  /-- A response with a status whose body is not UTF-8. -/
  | undecodable (status : Value)
  /-- A failure raised by the request, with the HTTP status it carries, if any. -/
  | raise (fault : Fault) (status : Option Value)
  /-- A response with a status whose body, when read, raises a failure, with the HTTP status
  the failure carries, if any. -/
  | interrupted (status : Value) (fault : Fault) (faultStatus : Option Value)
deriving Inhabited

/-- The network: answers still to come per URL, requests made per URL, waits asked for. -/
structure Exchange where
  pending : Table (List Outcome) := Table.empty
  requests : Table Nat := Table.empty
  delays : List Nat := []
deriving Inhabited

/-- What a download sees: the network and the journal. -/
structure Link where
  exchange : Exchange := {}
  journal : Log.Journal := {}
deriving Inhabited

/-- Computations that use the network, write to the journal and may fail. -/
abbrev Net := ExceptT Fault (StateM Link)

/-- Announces an event at a severity. -/
def announce (level : Log.Level) (domain action : String) (fields : List (String × Value)) :
    Net Unit :=
  modify fun l => { l with journal := l.journal.announce level ⟨domain, action, none, fields⟩ }

/-- Sends one request for a URL: counts it and takes its next answer. -/
def request (url : String) : Net (Option Outcome) := do
  let l ← get
  let x := l.exchange
  let n := (x.requests.get? url).getD 0
  let (o, rest) := match (x.pending.get? url).getD [] with
    | [] => (none, [])
    | o :: rest => (some o, rest)
  let pending := if (x.pending.get? url).isSome then x.pending.set url rest else x.pending
  let x' : Exchange := { x with requests := x.requests.set url (n + 1), pending := pending }
  set { l with exchange := x' }
  pure o

/-- Whether a fault comes from the transport: a client failure or a timeout. -/
def fromTransport : Fault → Bool
  | .transport .. | .system .timeout _ => true
  | _ => false

def undecodableFault (url : Value) : Fault :=
  .source .any ("Catalog from " ++ url.display ++ " is not valid UTF-8: 'utf-8' codec can't " ++
    "decode byte 0xff in position 0: invalid start byte") [("url", url)]

/-- The fault of a response status, if it is one: 429 or from 500 up asks for another try, any
other from 400 up is refused. A status that is no number cannot be compared with 500. -/
def statusFault (url : Value) (status : Value) : Option Fault :=
  match status.number? with
  | none => some (Fault.uncomparable ">=" status (.int 500))
  | some x =>
    if x.equals 429 || x.atLeast 500 then
      some (.source .fetch ("Catalog server returned HTTP " ++ status.display ++ " for " ++
        url.display) [("url", url), ("http_status", status)])
    else if x.atLeast 400 then
      some (.source .any ("Catalog request rejected with HTTP " ++ status.display ++ " for " ++
        url.display) [("url", url), ("http_status", status)])
    else none

def unanswered (url : Value) : Fault :=
  .system .runtime (some (.str ("no scripted response for " ++ url.display)))

/-- The fault a raised failure becomes: one of the transport is a fetch fault, any other passes
as it is. -/
def raisedFault (url : Value) (f : Fault) (status : Option Value) : Fault :=
  if fromTransport f then wrapTransportAt f status url else f

/-- What an answer gives a download: the body, or the fault the download fails with. The
status of a response is looked at before its body is read. -/
def Outcome.answer (url : Value) : Outcome → Except Fault String
  | .raise f status => .error (raisedFault url f status)
  | .respond status body =>
    match statusFault url status with
    | some f => .error f
    | none => .ok body
  | .undecodable status => .error ((statusFault url status).getD (undecodableFault url))
  | .interrupted status f fs => .error ((statusFault url status).getD (raisedFault url f fs))

/-- One attempt at a download. Answers are kept by the display of the URL. -/
def attempt (url : Value) : Net String := do
  match ← request url.display with
  | none => throw (unanswered url)
  | some o =>
    match o.answer url with
    | .ok body => pure body
    | .error f => throw f

/-- The wait before attempt `n + 1`, in seconds. -/
def backoff (n : Nat) : Nat := min (Nat.pow 2 (n - 1)) 30

/-- Whether a fault is worth another attempt. -/
def retryable : Fault → Bool
  | .source .fetch .. => true
  | _ => false

/-- The warning that attempt `n` of a download failed with `f` and is to be tried again. -/
def retryEvent (url : Value) (locale : Option String) (n : Nat) (f : Fault) : Log.Event :=
  ⟨"source", "fetch_retry", none,
    [("locale", .ofOption locale), ("url", url), ("attempt", .int n), ("error", .str f.message)]⟩

/-- The link once attempt `n` has failed with `f` and another is to follow: the wait before
attempt `n + 1` is asked for, and the retry announced. -/
def Link.pause (l : Link) (url : Value) (locale : Option String) (n : Nat) (f : Fault) : Link :=
  { exchange := { l.exchange with delays := l.exchange.delays ++ [backoff n] },
    journal := l.journal.announce .warning (retryEvent url locale n f) }

/-- Whether attempt `n` is the last that a limit allows: the limit is at most `n`. A limit that
is no number cannot be compared. -/
def spent (limit : Value) (n : Nat) : Except Fault Bool :=
  match limit.number? with
  | some x => .ok (x.atMost n)
  | none => .error (Fault.uncomparable ">=" (.int n) limit)

/-- The fault a download fails with once attempt `n` has failed with `f`, if it tries no
more: `f` when it is not worth another attempt or `n` is the last attempt `limit` allows, and
the fault of a limit that cannot be compared. -/
def giveUp? (limit : Value) (n : Nat) (f : Fault) : Option Fault :=
  if !retryable f then some f
  else
    match spent limit n with
    | .error e => some e
    | .ok true => some f
    | .ok false => none

/-- Attempts from number `n` on, until one succeeds, fails for good, or is the last that
`limit` allows. The fuel is the number of answers still to come, and one more: each attempt
takes one, and an attempt that finds none left fails for good. -/
def attempts (url : Value) (locale : Option String) (limit : Value) : Nat → Nat → Net String
  | 0, _ => throw (unanswered url)
  | fuel + 1, n =>
    tryCatch (attempt url) fun f =>
      match giveUp? limit n f with
      | some e => throw e
      | none => do
        modify (·.pause url locale n f)
        attempts url locale limit fuel (n + 1)

/-- The link once a download has ended with `r`: a text is announced as a detail, a failure of
the source as an error, and any other failure passes unannounced. -/
def Link.conclude (l : Link) (url : Value) (locale : Option String) :
    Except Fault String → Link
  | .ok text =>
    let e : Log.Event := ⟨"source", "fetch", none,
      [("locale", .ofOption locale), ("url", url), ("chars", .int (Text.length text))]⟩
    { l with journal := l.journal.announce .debug e }
  | .error f =>
    match f with
    | .source .. =>
      let e : Log.Event := ⟨"source", "fetch_failed", none,
        [("locale", .ofOption locale), ("url", url), ("error", .str f.message)]⟩
      { l with journal := l.journal.announce .error e }
    | _ => l

/-- A download from attempt `n` on, run through without giving way: its loop of attempts, and
the announcement of how it ended. What it ends with, a failure too, is its outcome. -/
def resume (url : Value) (locale : Option String) (maxAttempts : Value) (n : Nat) :
    Net (Except Fault String) := do
  let fuel := (((← get).exchange.pending.get? url.display).getD []).length + 1
  let r ← tryCatch (Except.ok <$> attempts url locale maxAttempts fuel n) fun f =>
    pure (.error f)
  modify (·.conclude url locale r)
  pure r

/-- Downloads a catalog text, retrying fetch faults until `maxAttempts` attempts are made. -/
def fetch (url : Value) (locale : Option String) (maxAttempts : Value) : Net String := do
  orFail (← resume url locale maxAttempts 1)

/-! ### A download that gives way

A download waits for the network at each request and for the clock before each retry, and
other tasks may run while it waits. Between two waits it runs in one piece: it sends a request,
or it takes up an answer, and then ends or asks for the wait before its next attempt. -/

/-- Where a download stands between two waits: about to send attempt `n`, holding the answer to
attempt `n`, or ended with its outcome. -/
inductive Stage where
  | send (n : Nat)
  | answered (n : Nat) (r : Except Fault String)
  | ended (r : Except Fault String)
deriving Inhabited

section Stage

variable (url : Value) (locale : Option String) (limit : Value)

/-- Takes up the answer `r` to attempt `n`: the download ends with its outcome, announced, or
pauses after the failure, going on with the next attempt. -/
def settle (n : Nat) : Except Fault String → Net (Except Fault String ⊕ Nat)
  | .ok t => do
    modify (·.conclude url locale (.ok t))
    pure (.inl (.ok t))
  | .error f =>
    match giveUp? limit n f with
    | some e => do
      modify (·.conclude url locale (.error e))
      pure (.inl (.error e))
    | none => do
      modify (·.pause url locale n f)
      pure (.inr (n + 1))

/-- The run of a download from one wait to the next. -/
def Stage.step : Stage → Net Stage
  | .send n => do
    let r ← tryCatch (Except.ok <$> attempt url) fun f => pure (.error f)
    pure (.answered n r)
  | .answered n r => do
    match ← settle url locale limit n r with
    | .inl r => pure (.ended r)
    | .inr m => pure (.send m)
  | .ended r => pure (.ended r)

/-- The rest of a download, run through without giving way, and its outcome. -/
def Stage.finish : Stage → Net (Except Fault String)
  | .send n => resume url locale limit n
  | .answered n r => do
    match ← settle url locale limit n r with
    | .inl r => pure r
    | .inr m => resume url locale limit m
  | .ended r => pure r

end Stage

theorem backoff_le (n : Nat) : backoff n ≤ 30 := Nat.min_le_right _ _

theorem wrap_timeout {f : Fault} (h : f.isTimeout = true) (status : Option Value) (url : String) :
    (wrapTransport f status url).message =
      "Failed to fetch catalog from " ++ url ++ ": " ++ "request timed out" := by
  simp only [wrapTransport, wrapTransportAt, h, if_true, Fault.message_source,
    Value.display_str]

end Phrasebook.Source
