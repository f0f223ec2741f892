import Zetta.Protocol.Frame

/-! The handle an application holds on one stream: its staged writes, its reads and its sends. -/

namespace Zetta

/-- What a future answers when it is polled. -/
inductive Poll (α : Type) where
  | ready (value : α)
  | pending
  deriving DecidableEq, Repr

/-- The kinds of I/O errors a stream reports. -/
inductive IoErrorKind where
  | permissionDenied
  | connectionAborted
  | timedOut
  | other
  deriving DecidableEq, Repr

/-- An I/O error: its kind, its own text, and the error printed after it. -/
structure IoError where
  kind : IoErrorKind
  message : String
  source : Option ZtError
  deriving DecidableEq, Repr

/-- Why a stream or its connection ended. -/
inductive TerminationReason where
  | streamReset (streamId errorCode : Nat)
  | connectionClosed (errorCode : Nat) (reason : Bytes)
  | idleTimeout
  deriving DecidableEq, Repr

namespace TerminationReason

/-- The error that tells an application about the end. -/
def error : TerminationReason → ZtError
  | streamReset streamId errorCode => .streamReset streamId errorCode
  | connectionClosed errorCode reason => .connectionClosedByPeer errorCode reason
  | idleTimeout => .idleTimeout

/-- The same error as the reader and writer interfaces report it. -/
def ioError (self : TerminationReason) : IoError where
  kind := if self.error = .idleTimeout then .timedOut else .connectionAborted
  message := ""
  source := some self.error

end TerminationReason

/-- What became of a request to send a chunk. -/
inductive Reply where
  | accepted
  | refused (error : ZtError)
  /-- The actor went away without an answer. -/
  | dropped
  deriving DecidableEq, Repr

/-- What a reply adds to the chunks the actor accepted. -/
def Reply.takes (self : Reply) (chunk : Bytes) : List Bytes :=
  if self = .accepted then [chunk] else []

/-- The write in progress. -/
inductive WriteState where
  | idle
  /-- The chunk was handed to the actor, which may have answered already. -/
  | sending (chunk : Bytes) (reply : Option Reply)
  /-- The chunk was refused for want of room in a window. -/
  | blocked (chunk : Bytes)
  /-- The chunk was refused by pacing, or the actor's mailbox was full. -/
  | pacing (chunk : Bytes)
  deriving DecidableEq, Repr

/-- The message the actor gets when the application has consumed bytes, or ends the stream. -/
inductive StreamNotice where
  | streamDataRead (bytesRead : Nat)
  | closeStream
  deriving DecidableEq, Repr

/--
A stream handle.

The last fields are the traffic with the actor: what it put into the handle's channel, which of the
requests it has not answered, which chunks it accepted and what it was told.
-/
structure ZtStream where
  streamType : StreamType
  currentReadChunk : Option Bytes
  pendingReadCredit : Nat
  writeBuffer : Bytes
  writeState : WriteState
  /-- The chunks in the channel from the actor, oldest first. -/
  receiver : List Bytes
  /-- The chunks taken from that channel so far. -/
  taken : List Bytes
  /-- Requests the actor has yet to answer, whose answer the handle no longer waits for. -/
  abandoned : List Bytes
  accepted : List Bytes
  notices : List StreamNotice
  deriving DecidableEq, Repr

namespace ZtStream

/-- A handle on which nothing happened. -/
def new (streamType : StreamType) : ZtStream where
  streamType
  currentReadChunk := none
  pendingReadCredit := 0
  writeBuffer := []
  writeState := .idle
  receiver := []
  taken := []
  abandoned := []
  accepted := []
  notices := []

/-- How much one chunk carries: the path MTU without 64 bytes of overhead, and 512 bytes at least. -/
def chunkSize (mtu : Nat) : Nat := max (mtu - 64) 512

/-- The size of a chunk is never zero. -/
theorem chunkSize_pos (mtu : Nat) : 0 < chunkSize mtu := by
  unfold chunkSize
  omega

/-! ### The write side -/

/-- The request whose answer the handle waits for, while there is none. -/
def awaited (self : ZtStream) : List Bytes :=
  match self.writeState with
  | .sending chunk none => [chunk]
  | _ => []

/-- The actor answers the oldest request it has. -/
def serve (self : ZtStream) (reply : Reply) : ZtStream :=
  match self.abandoned, self.writeState with
  -- Nobody waits for this answer: the receiving end was dropped with the write state it was in.
  | chunk :: rest, _ =>
    { self with abandoned := rest, accepted := self.accepted ++ reply.takes chunk }
  | [], .sending chunk none =>
    { self with
      writeState := .sending chunk (some reply)
      accepted := self.accepted ++ reply.takes chunk }
  | [], _ => self

/-- The actor answers several requests. -/
def serveAll (self : ZtStream) (replies : List Reply) : ZtStream := replies.foldl serve self

/-- Hand a chunk to the actor and wait for the answer, and no longer for any earlier one. -/
def dispatch (self : ZtStream) (chunk : Bytes) : ZtStream :=
  { self with
    abandoned := self.abandoned ++ self.awaited
    writeState := .sending chunk none }

/-- Hand the oldest staged bytes to the actor. -/
def dispatchStaged (self : ZtStream) (size : Nat) : ZtStream :=
  { self with writeBuffer := self.writeBuffer.drop size }.dispatch (self.writeBuffer.take size)

/-- What the surroundings do around one pass of a polling loop. -/
structure WriteTurn where
  /-- The answers the actor gives before the pass. -/
  served : List Reply := []
  /-- Whether the notification or the sleep is over. -/
  woken : Bool := false
  /-- Whether the actor's mailbox takes one more message. -/
  room : Bool := false
  deriving DecidableEq, Repr

/-- How one pass over a write in progress ends. -/
inductive Advance where
  | again
  | pending
  | failed (error : IoError)
  deriving DecidableEq, Repr

/-- Send a chunk once more after its wait, if the wait is over. -/
def resend (self : ZtStream) (chunk : Bytes) (turn : WriteTurn) : Advance × ZtStream :=
  if turn.woken then
    if turn.room then (.again, self.dispatch chunk)
    else (.pending, { self with writeState := .pacing chunk })
  else (.pending, self)

/-- Look at the write in progress, and report a failure of it under a text. -/
def look (failure : String) (turn : WriteTurn) (self : ZtStream) : Advance × ZtStream :=
  match self.writeState with
  | .idle => (.again, self)
  | .sending _ none => (.pending, self)
  | .sending _ (some .accepted) => (.again, { self with writeState := .idle })
  | .sending chunk (some (.refused .flowControlBlocked))
  | .sending chunk (some (.refused .congestionWindowFull)) =>
    (.again, { self with writeState := .blocked chunk })
  | .sending chunk (some (.refused (.pacingBlocked _))) =>
    (.again, { self with writeState := .pacing chunk })
  | .sending _ (some (.refused error)) =>
    (.failed ⟨.other, failure, some error⟩, { self with writeState := .idle })
  | .sending _ (some .dropped) =>
    (.failed ⟨.connectionAborted, "Oneshot channel closed", none⟩, { self with writeState := .idle })
  | .blocked chunk => self.resend chunk turn
  | .pacing chunk => self.resend chunk turn

/-- One pass over the write in progress. -/
def advance (failure : String) (turn : WriteTurn) (self : ZtStream) : Advance × ZtStream :=
  (self.serveAll turn.served).look failure turn

/-- Poll the write in progress until there is none. -/
def settle (failure : String) : List WriteTurn → ZtStream → Advance × ZtStream
  | turns, self =>
    if self.writeState = .idle then (.again, self)
    else match turns with
      | [] => (.pending, self)
      | turn :: rest =>
        match advance failure turn self with
        | (.again, next) => settle failure rest next
        | stopped => stopped

/-- The surroundings of one attempt to write. -/
structure WriteHost where
  turns : List WriteTurn := []
  mtu : Nat
  /-- Whether the mailbox has room for the bytes staged earlier. -/
  roomBefore : Bool := false
  /-- The answers the actor gives between the two looks at the mailbox. -/
  between : List Reply := []
  /-- Whether the mailbox has room for the bytes staged now. -/
  roomAfter : Bool := false
  closed : Bool := false
  termination : Option TerminationReason := none
  deriving DecidableEq, Repr

/-- Stage bytes of the caller, handing full chunks to the actor before and after. -/
def stage (buf : Bytes) (host : WriteHost) (self : ZtStream) : Nat × ZtStream :=
  let size := chunkSize host.mtu
  let self := self.serveAll host.between
  let written := min (size - self.writeBuffer.length) buf.length
  let self := { self with writeBuffer := self.writeBuffer ++ buf.take written }
  if size ≤ self.writeBuffer.length ∧ host.roomAfter then (written, self.dispatchStaged size)
  else (written, self)

/-- Write without waiting. -/
def pollWrite (buf : Bytes) (host : WriteHost) (self : ZtStream) :
    Poll (Except IoError Nat) × ZtStream :=
  if self.streamType = .unidirectionalIn then
    (.ready (.error ⟨.permissionDenied, "Cannot write to a unidirectional incoming stream", none⟩),
      self)
  else if host.closed then
    let error := (host.termination.map TerminationReason.ioError).getD
      ⟨.connectionAborted, "Connection closed", none⟩
    (.ready (.error error), self)
  else match settle "Write failed: " host.turns self with
    | (.failed error, self) => (.ready (.error error), self)
    | (.pending, self) => (.pending, self)
    | (.again, self) =>
      if chunkSize host.mtu ≤ self.writeBuffer.length then
        -- Bytes staged earlier go first, and nothing more is accepted while they cannot.
        if host.roomBefore then
          let (written, self) := (self.dispatchStaged (chunkSize host.mtu)).stage buf host
          (.ready (.ok written), self)
        else (.pending, self)
      else
        let (written, self) := self.stage buf host
        (.ready (.ok written), self)

/-- Poll until neither a write in progress nor a staged byte is left. -/
def flush : List WriteTurn → ZtStream → Poll (Except IoError Unit) × ZtStream
  | turns, self =>
    if self.writeState = .idle ∧ self.writeBuffer = [] then (.ready (.ok ()), self)
    else match turns with
      | [] => (.pending, self)
      | turn :: rest =>
        if self.writeState = .idle then
          let self := self.serveAll turn.served
          if turn.room then flush rest (self.dispatchStaged self.writeBuffer.length)
          else (.pending, self)
        else match advance "Flush failed: " turn self with
          | (.again, next) => flush rest next
          | (.pending, next) => (.pending, next)
          | (.failed error, next) => (.ready (.error error), next)

/-- Flush without waiting. -/
def pollFlush (turns : List WriteTurn) (self : ZtStream) : Poll (Except IoError Unit) × ZtStream :=
  if self.streamType = .unidirectionalIn then
    (.ready (.error
      ⟨.permissionDenied, "Cannot write/flush on a unidirectional incoming stream", none⟩), self)
  else flush turns self

/-- Flush, then ask the actor to close the stream. -/
def pollShutdown (turns : List WriteTurn) (room : Bool) (self : ZtStream) :
    Poll (Except IoError Unit) × ZtStream :=
  if self.streamType = .unidirectionalIn then
    (.ready (.error
      ⟨.permissionDenied, "Cannot shutdown/write on a unidirectional incoming stream", none⟩), self)
  else match pollFlush turns self with
    | (.ready (.ok ()), self) =>
      if room then (.ready (.ok ()), { self with notices := self.notices ++ [.closeStream] })
      else (.pending, self)
    | stopped => stopped

/-! ### The read side -/

/-- The surroundings of one attempt to read. -/
structure ReadHost where
  /-- Whether the actor closed its end of the channel. -/
  ended : Bool := false
  termination : Option TerminationReason := none
  /-- Whether the mailbox has room for credit left over from earlier reads. -/
  roomBefore : Bool := false
  /-- Whether the mailbox has room for the credit of this read. -/
  roomAfter : Bool := false
  deriving DecidableEq, Repr

/-- The unread rest of the chunk being read. -/
def unread (self : ZtStream) : Bytes := self.currentReadChunk.getD []

/-- Report consumed bytes to the actor. -/
def notify (self : ZtStream) (bytesRead : Nat) : ZtStream :=
  { self with notices := self.notices ++ [.streamDataRead bytesRead] }

/-- Report the credit not reported yet, if the mailbox has room. -/
def reportCredit (self : ZtStream) (room : Bool) : ZtStream :=
  if room then { self.notify self.pendingReadCredit with pendingReadCredit := 0 } else self

/-- Hand over bytes of the chunk being read, as many as the caller has room for. -/
def consume (self : ZtStream) (capacity : Nat) (room : Bool) : Bytes × ZtStream :=
  let amount := min self.unread.length capacity
  (self.unread.take amount,
    { self with
      currentReadChunk := some (self.unread.drop amount)
      pendingReadCredit := saturatingAdd self.pendingReadCredit amount }.reportCredit room)

/-- Read from the chunk at hand, or from the first chunk in the channel that has a byte. -/
def readLoop (capacity : Nat) (host : ReadHost) :
    List Bytes → ZtStream → Poll (Except IoError Bytes) × ZtStream
  | waiting, self =>
    if 0 < self.unread.length then
      let (bytes, self) := self.consume capacity host.roomAfter
      (.ready (.ok bytes), self)
    else
      let self := { self with currentReadChunk := none }
      match waiting with
      | bytes :: rest =>
        readLoop capacity host rest
          { self with
            currentReadChunk := some bytes
            receiver := rest
            taken := self.taken ++ [bytes] }
      | [] =>
        if host.ended then
          -- The end of the stream is an empty read, unless there is a reason to report.
          match host.termination with
          | some reason => (.ready (.error reason.ioError), self)
          | none => (.ready (.ok []), self)
        else (.pending, self)

/-- Read without waiting, into a buffer with room for so many bytes. -/
def pollRead (capacity : Nat) (host : ReadHost) (self : ZtStream) :
    Poll (Except IoError Bytes) × ZtStream :=
  if self.streamType = .unidirectionalOut then (.ready (.ok []), self)
  else
    let self := if 0 < self.pendingReadCredit then self.reportCredit host.roomBefore else self
    readLoop capacity host self.receiver self

/--
Receive the next chunk, once there is one or the stream ended.

The answer is none while the call has to wait; the chunk at hand is given up even then.
-/
def recvResult (host : ReadHost) (self : ZtStream) :
    Option (Except ZtError (Option Bytes)) × ZtStream :=
  if self.streamType = .unidirectionalOut then (some (.ok none), self)
  else
    let chunk := self.unread
    let self := { self with currentReadChunk := none }
    if 0 < chunk.length then (some (.ok (some chunk)), self.notify chunk.length)
    else match self.receiver with
      | bytes :: rest =>
        (some (.ok (some bytes)),
          { self with receiver := rest, taken := self.taken ++ [bytes] }.notify bytes.length)
      | [] =>
        if host.ended then
          match host.termination with
          | some reason => (some (.error reason.error), self)
          | none => (some (.ok none), self)
        else (none, self)

/-- The actor puts a chunk into the channel. -/
def deliver (self : ZtStream) (chunk : Bytes) : ZtStream :=
  { self with receiver := self.receiver ++ [chunk] }

/-! ### Sending a whole payload -/

/-- What happens to one attempt to have a chunk accepted. -/
structure SendAttempt where
  closed : Bool := false
  termination : Option TerminationReason := none
  /-- Whether the message reaches the actor's mailbox. -/
  delivered : Bool := true
  reply : Reply := .accepted
  /-- Whether the window is reported open before the operation timeout. -/
  notified : Bool := true
  deriving DecidableEq, Repr

/-- An error of a send: an I/O error of its own, or one of the transport. -/
inductive SendError where
  | io (error : IoError)
  | transport (error : ZtError)
  deriving DecidableEq, Repr

/-- What a send does: the requests it issued, the chunks accepted, and how it ended if it did. -/
structure SendTrace where
  requests : List Bytes
  accepted : List Bytes
  result : Option (Except SendError Unit)
  deriving DecidableEq, Repr

/-- A send that ends before any request. -/
def SendTrace.ended (result : Except SendError Unit) : SendTrace := ⟨[], [], some result⟩

/-- A request came before the rest of the send. -/
def SendTrace.after (chunk : Bytes) (reply : Reply) (rest : SendTrace) : SendTrace :=
  { rest with requests := chunk :: rest.requests, accepted := reply.takes chunk ++ rest.accepted }

/--
Try to have a chunk accepted, until it is or the attempts fail, and go on from there.

A send whose attempts run out is still waiting.
-/
def sendChunk (chunk : Bytes) (next : List SendAttempt → SendTrace) : List SendAttempt → SendTrace
  | [] => ⟨[], [], none⟩
  | attempt :: rest =>
    if attempt.closed then
      .ended (.error (.transport ((attempt.termination.map TerminationReason.error).getD .actorFailed)))
    else if !attempt.delivered then .ended (.error (.transport .actorFailed))
    else SendTrace.after chunk attempt.reply
      (match attempt.reply with
      | .accepted => next rest
      | .refused .flowControlBlocked | .refused .congestionWindowFull =>
        if attempt.notified then sendChunk chunk next rest
        else .ended (.error (.transport .timeout))
      | .refused (.pacingBlocked _) => sendChunk chunk next rest
      | .refused error => .ended (.error (.transport error))
      | .dropped => .ended (.error (.transport .actorFailed)))

/-- The windows of a slice, each of a given size but the last. -/
def chunks (size : Nat) (data : Bytes) : List Bytes :=
  (List.range ((data.length + size - 1) / size)).map fun index => (data.drop (index * size)).take size

/-- Have chunks accepted one after the other. -/
def sendChunks : List Bytes → List SendAttempt → SendTrace
  | [], _ => .ended (.ok ())
  | chunk :: rest, attempts => sendChunk chunk (sendChunks rest) attempts

/-- The refusal to write on a stream of the peer's. -/
def writeDenied : SendError :=
  .io ⟨.permissionDenied, "Cannot write to a unidirectional incoming stream", none⟩

/-- Send a copy of a payload. -/
def send (streamType : StreamType) (mtu : Nat) (data : Bytes) (attempts : List SendAttempt) :
    SendTrace :=
  if streamType = .unidirectionalIn then .ended (.error writeDenied)
  else sendChunks (chunks (chunkSize mtu) data) attempts

/-- Split the payload's head off until nothing is left, each time having it accepted. -/
def sendBytesLoop (size : Nat) : Nat → Bytes → List SendAttempt → SendTrace
  | 0, _, _ => .ended (.ok ())
  | rounds + 1, data, attempts =>
    if data = [] then .ended (.ok ())
    else if size < data.length then
      sendChunk (data.take size) (sendBytesLoop size rounds (data.drop size)) attempts
    else sendChunk data (sendBytesLoop size rounds []) attempts

/-- Send a payload without copying it. -/
def sendBytes (streamType : StreamType) (mtu : Nat) (data : Bytes) (attempts : List SendAttempt) :
    SendTrace :=
  if streamType = .unidirectionalIn then .ended (.error writeDenied)
  -- Every round sends a byte at least, so the length of the payload bounds their number.
  else sendBytesLoop (chunkSize mtu) (data.length + 1) data attempts

end ZtStream

end Zetta
