import SampApi.Handler

/-!
# Sessions

Model of `src/api/Session.cpp`. A session owns the socket of one client and starts up to three
asynchronous operations: it reads a request, waits for a deadline, and writes the response. An
operation is `pending` until the network or the timer completes it; from then on its completion
handler is `ready` to be run by `io_service::poll`, with the result that it is told, whatever happens
to the socket in between.

Debug logging is compiled out of a release build and has no place here. The socket functions that are
given an `error_code` to fill do not throw.
-/

namespace SampApi
open Lib

variable {W : Type}

/-! ## Operations -/

/-- An asynchronous operation with results in `ρ`; the result `none` is an error. -/
inductive Op (ρ : Type) where
  | idle
  | pending
  | ready (result : Option ρ)
  | done
  deriving DecidableEq, Repr

namespace Op
variable {ρ : Type}

/-- The completion handler of the operation will still be run. -/
def outstanding : Op ρ → Bool
  | idle => false
  | pending => true
  | ready _ => true
  | done => false

/-- The completion handler of the operation can be run. -/
def isReady : Op ρ → Bool
  | ready _ => true
  | _ => false

/-- The result that the completion handler is run with, if it can be run. -/
def take : Op ρ → Option (Option ρ)
  | ready result => some result
  | _ => none

/-- Completes an operation. -/
def complete (result : Option ρ) : Op ρ → Option (Op ρ)
  | pending => some (ready result)
  | _ => none

/-- Cancels an operation, which does nothing if it is too late. -/
def cancel : Op ρ → Op ρ
  | pending => ready none
  | op => op

@[simp] lemma outstanding_pending : (pending : Op ρ).outstanding = true := rfl

@[simp] lemma outstanding_ready (result : Option ρ) : (ready result).outstanding = true := rfl

@[simp] lemma outstanding_done : (done : Op ρ).outstanding = false := rfl

@[simp] lemma outstanding_cancel (op : Op ρ) : op.cancel.outstanding = op.outstanding := by
  cases op <;> rfl

lemma isReady_iff {op : Op ρ} : op.isReady = true ↔ ∃ result, op = .ready result := by
  cases op <;> simp [isReady]

lemma take_eq_some {op : Op ρ} {result : Option ρ} :
    op.take = some result ↔ op = .ready result := by
  cases op <;> simp [take]

lemma complete_eq_some {op op' : Op ρ} {result : Option ρ} :
    op.complete result = some op' ↔ op = .pending ∧ op' = .ready result := by
  cases op <;> simp [complete, eq_comm]

end Op

/-- A socket: connected to a client, reset by the client, or closed by the plugin. -/
inductive Socket where
  | connected (remote : Str)
  | reset
  | closed
  deriving DecidableEq, Repr

/-- The address of the client (source `tcp::socket::remote_endpoint` without `error_code`). -/
def Socket.remote_endpoint : Socket → Except Exn Str
  | connected remote => .ok remote
  | reset => .error .system_error
  | closed => .error .system_error

/-- The socket has a client. -/
def Socket.isConnected : Socket → Bool
  | connected _ => true
  | reset => false
  | closed => false

lemma Socket.isConnected_iff {s : Socket} : s.isConnected = true ↔ ∃ remote, s = .connected remote := by
  cases s <;> simp [isConnected]

/-- A socket without client has no address to tell. -/
lemma Socket.remote_endpoint_throws {s : Socket} (h : s.isConnected = false) :
    s.remote_endpoint = .error .system_error := by
  cases s with
  | connected remote => cases h
  | reset => rfl
  | closed => rfl

/-! ## The session -/

/-- A session. `unread` counts the bytes that have arrived and were not read. -/
structure Session where
  socket : Socket
  unread : Nat := 0
  request : Request := { method := .other [], target := [] }
  response : Response := {}
  init_time : Int
  read : Op Unit := .idle
  write : Op Unit := .idle
  deadline : Op Unit := .idle
  deriving DecidableEq, Repr

namespace Session

/-- Begins to read a request (source `Session::ReadRequest`). -/
def readRequest (s : Session) : Session := { s with read := .pending }

/-- Begins to wait for the deadline (source `Session::CheckDeadline`). -/
def checkDeadline (s : Session) : Session := { s with deadline := .pending }

/-- Starts the operations of a session (source `Session::Start`). -/
def start (s : Session) : Session := s.readRequest.checkDeadline

/-- Closes the socket, which cancels what is pending on it (source `socket_.close`). -/
def close (s : Session) : Session :=
  { s with socket := .closed, read := s.read.cancel, write := s.write.cancel }

/-- Stops all operations of a session (source `Session::Stop`). -/
def stop (s : Session) : Session := s.close

/-- Begins to write the response (source `Session::Write`); that fails at once if there is no client
    any more. -/
def startWrite (s : Session) : Session :=
  { s with
    response := { s.response with content_length := some s.response.body.length }
    write := if s.socket.isConnected then .pending else .ready none }

/-- Has the response filled by the handler (source `Session::CreateResponse`). -/
def createResponse (env : Env W) (s : Session) : Act W Session := do
  let ip ← Prog.lift s.socket.remote_endpoint
  let response ← Handler.handleRequest env s.request s.response ip s.init_time
  return { s with response }

/-- Answers the request (source `Session::ProcessRequest`). -/
def processRequest (env : Env W) (s : Session) : Act W Session := do
  let s := { s with
    response := { s.response with version := s.request.version, keep_alive := false } }
  let s ←
    match s.request.method with
    | .post => createResponse env s
    | .get => createResponse env s
    | .other _ => pure s -- the response stays empty
  return s.startWrite

/-- The completion handler of the read. -/
def onRead (env : Env W) (s : Session) (result : Option Unit) : Act W Session :=
  match result with
  | some () => processRequest env s
  | none => pure s

/-- The completion handler of the write. -/
def onWrite (s : Session) : Session := { s with deadline := s.deadline.cancel }

/-- The completion handler of the deadline. -/
def onDeadline (s : Session) (result : Option Unit) : Session :=
  match result with
  | some () => s.close
  | none => s

/-! ## Progress of the operations -/

/-- What the parser makes of the bytes that were read. -/
inductive Parsed where
  | more
  | bad
  | complete (request : Request)
  deriving DecidableEq, Repr

/-- What the network and the timer do to a session. -/
inductive Event where
  | received (bytes : Nat)
  | peerReset
  | readFailed
  | written (result : Option Unit)
  | expire
  deriving DecidableEq, Repr

/-- One such event. A client that resets the connection fails what is pending on it; the read fails by
    itself when the client closes its side before the request is complete. -/
def step (s : Session) : Event → Option Session
  | .received n => if s.socket.isConnected then some { s with unread := s.unread + n } else none
  | .peerReset =>
    if s.socket.isConnected then
      some { s with socket := .reset, read := s.read.cancel, write := s.write.cancel }
    else none
  | .readFailed => (s.read.complete none).map fun read => { s with read }
  | .written result => (s.write.complete result).map fun write => { s with write }
  | .expire => (s.deadline.complete (some ())).map fun deadline => { s with deadline }

/-- The read takes some bytes in (an intermediate handler of `http::async_read`). -/
def readSome (s : Session) (n : Nat) (parsed : Parsed) : Option Session :=
  if s.read = .pending ∧ 0 < n ∧ n ≤ s.unread then
    let s := { s with unread := s.unread - n }
    match parsed with
    | .more => some s
    | .bad => some { s with read := .ready none }
    | .complete request => some { s with request, read := .ready (some ()) }
  else none

/-- A handler of the session can be run. -/
def runnable (s : Session) : Bool :=
  s.read.isReady || s.write.isReady || s.deadline.isReady
    || (decide (s.read = .pending) && decide (0 < s.unread))

/-- An operation of the session is outstanding. -/
def outstanding (s : Session) : Bool :=
  s.read.outstanding || s.write.outstanding || s.deadline.outstanding

end Session
end SampApi
