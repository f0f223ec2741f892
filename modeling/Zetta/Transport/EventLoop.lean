import Zetta.Transport.IncomingHandler

/-! The event loop of a connection: messages, timers and the application's use of the channels. -/

namespace Zetta

/-- What the application does with the channels it shares with the actor. -/
inductive AppAction where
  /-- Take the oldest chunk of a stream. -/
  | recvChunk (streamId : Nat)
  /-- Drop the receiving end of a stream. -/
  | dropStream (streamId : Nat)
  /-- Take the oldest stream the peer opened. -/
  | acceptStream
  /-- Drop the connection handle. -/
  | dropHandle
  | recvDatagram
  deriving DecidableEq, Repr

/-- What can happen to an actor: a message, a timer, or a use of a channel. -/
inductive Event where
  | incomingPacket (packet : Packet) (addr : Address)
  | outgoingData (streamId : UInt32) (data : Bytes)
  | getMtu
  | closeStream (streamId : UInt32)
  | resetStream (streamId : UInt32) (errorCode : UInt64)
  | openStream (streamType : StreamType)
  | setHandshakePacket (packet : LongPacket)
  | streamDataRead (streamId : UInt32) (bytesRead : Nat)
  | close
  | closeWithError (errorCode : UInt64) (reason : Bytes)
  | sendDatagram (data : Bytes)
  | getStats
  | delayedAckTimer
  | rtoTimer
  | mtuProbeTimer
  | pacingTimer
  | socketWritable
  | pathValidationTimer
  | idleTimer
  | app (action : AppAction)

namespace ZtConnectionActor

variable {CC : Type} [Hkdf] [HandshakeCrypto] [CongestionController CC]

/-- Send what the pacer allows after an event; a panicked actor does nothing more. -/
def resetPacing : Act CC Unit := do
  let self ← get
  if self.running then do
    let _ ← flushPacingQueue
    pure ()
  else pure ()

/-- Run a handler whose failure is only logged. -/
def logged {α : Type} (handler : Act CC α) : Act CC Unit := do
  let _ ← Program.attempt handler
  pure ()

/-- The application asks for a new stream. -/
def openStream (streamType : StreamType) : Act CC Unit := do
  let self ← get
  if streamType = .unidirectionalIn then
    throw (.invalidPacket "receive-only streams are created by the peer")
  else if self.openedStreams self.localParity ≥ self.peerMaxStreams then do
    logged (sendFrameImmediate (.streamsBlocked (self.peerMaxStreams % u64Size)) self.addr)
    throw (.tooManyStreams self.peerMaxStreams)
  else if self.nextStreamId + 2 ≥ u32Size then throw .connectionIdExhausted
  else
    let stream := StreamState.new streamType self.config.initialStreamWindow
      self.peerInitialStreamWindow self.host.now
    set { (self.note (.created self.nextStreamId)).putStream self.nextStreamId stream with
      nextStreamId := self.nextStreamId + 2 }

/-- Forget a stream the application closed or reset. -/
def removeStream (streamId : Nat) (self : ZtConnectionActor CC) : ZtConnectionActor CC :=
  if self.streams.contains streamId then
    { self.note (.closedLocally streamId) with streams := self.streams.erase streamId }
  else self

/-- The application sends a datagram. -/
def sendDatagram (data : Bytes) : Act CC Unit := do
  let self ← get
  let maxDatagramPayload := min (self.mtu - 64) self.peerMaxDatagramSize
  if data.length > maxDatagramPayload then
    throw (.invalidPacket ("Datagram payload exceeds current path limit (" ++
      toString maxDatagramPayload ++ " bytes)"))
  else if saturatingAdd self.bytesInFlight data.length > CongestionController.cwnd self.cc then
    throw .congestionWindowFull
  else do
    sendDatagramPayload data
    resetPacing

/-- The path challenge is repeated a few times, then given up. -/
def pathValidationTimeout : Act CC Unit := do
  let self ← get
  if self.pathValidationRetries < self.config.maxPathValidationRetries then
    match self.pendingValidationAddr, self.pathValidationToken with
    | some addr, some token => do
      set { self with
        pathValidationRetries := self.pathValidationRetries + 1
        pathValidationSentAt := some self.host.now }
      logged (sendFrameImmediate (.pathChallenge token.val) addr)
    | _, _ => pure ()
  else
    set { self with
      pendingValidationAddr := none
      pathValidationToken := none
      pathValidationSentAt := none
      pathValidationRetries := 0 }

/-- Change the channel of a stream, as long as the actor holds its other end. -/
def updateChannel (streamId : Nat) (change : Channel Bytes → Channel Bytes)
    (self : ZtConnectionActor CC) : ZtConnectionActor CC :=
  match self.streams.find? streamId with
  | none => self
  | some stream => self.putStream streamId { stream with channel := change stream.channel }

/-- The effect of the application's use of a channel. -/
def applyAction (action : AppAction) (self : ZtConnectionActor CC) : ZtConnectionActor CC :=
  match action with
  | .recvChunk streamId => self.updateChannel streamId Channel.recv
  | .dropStream streamId => self.updateChannel streamId Channel.dropReceiver
  | .acceptStream => { self with incomingStreams := self.incomingStreams.recv }
  | .dropHandle => { self with
      incomingStreams := self.incomingStreams.dropReceiver
      datagrams := self.datagrams.dropReceiver }
  | .recvDatagram => { self with datagrams := self.datagrams.recv }

/-- Handle one event; a failure is an answer to the application or is logged. -/
def handleEvent : Event → Act CC Unit
  | .incomingPacket packet addr => do
    logged (processIncomingPacket packet addr)
    resetPacing
  | .outgoingData streamId data => do
    modify fun self => { self with lastActiveStreamId := streamId.toNat }
    logged (processOutgoingData streamId.toNat data)
    resetPacing
  | .getMtu | .getStats => pure ()
  | .closeStream streamId => do
    logged (sendStreamClose streamId.toNat)
    modify (removeStream streamId.toNat)
    resetPacing
  | .resetStream streamId errorCode => do
    logged (ZtConnectionActor.resetStream streamId.toNat errorCode.toNat)
    modify (removeStream streamId.toNat)
    resetPacing
  | .openStream streamType => openStream streamType
  | .setHandshakePacket packet => modify fun self => { self with handshakePacket := some packet }
  | .streamDataRead streamId bytesRead => do
    logged (forwardStreamData streamId.toNat bytesRead)
    -- Acknowledgments carry the receive window, so a reader opens it at once.
    if bytesRead > 0 then do
      modify fun self => { self with pendingAcks := max self.pendingAcks 1 }
      logged flushAcks
    else pure ()
    resetPacing
  | .close => do
    logged initiateClose
    resetPacing
  | .closeWithError errorCode reason => do
    logged (initiateCloseWithError errorCode.toNat reason)
    resetPacing
  | .sendDatagram data => sendDatagram data
  | .delayedAckTimer => logged flushAcks
  | .rtoTimer => do
    match ← Program.attempt handleRetransmits with
    | .error _ => modify fun self => { self with running := false }
    | .ok _ => resetPacing
  | .mtuProbeTimer => logged sendMtuProbe
  | .pacingTimer => resetPacing
  | .socketWritable => do
    let self ← get
    if self.socketBlocked then do
      set { self with socketBlocked := false }
      resetPacing
    else pure ()
  | .pathValidationTimer => pathValidationTimeout
  | .idleTimer => modify fun self => { self with running := false }
  | .app action => modify (applyAction action)

/-- One turn of the event loop; a closed connection only waits for its end. -/
def step (event : Event) (host : Host) (self : ZtConnectionActor CC) : ZtConnectionActor CC :=
  if !self.running then self
  else if self.state = .closed then { self with running := false }
  else (Program.exec (handleEvent event) { self with host := host }).2

/-- What the event loop does before its first turn: a client sends its Initial packet. -/
def start (host : Host) (self : ZtConnectionActor CC) : ZtConnectionActor CC :=
  if self.isClient ∧ self.state = .handshaking then
    (Program.exec (sendInitialPacket none) { self with host := host }).2
  else self

/-- Turns of the event loop, one after the other. -/
def turns (self : ZtConnectionActor CC) (events : List (Event × Host)) : ZtConnectionActor CC :=
  events.foldl (fun self turn => self.step turn.1 turn.2) self

end ZtConnectionActor
end Zetta
