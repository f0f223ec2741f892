import Zetta.Transport.HandshakeHandler

/-! Receiving: packet opening, frames, and moving stream data to the application. -/

namespace Zetta

/-- How many streams opened by the peer can wait for the application. -/
def incomingStreamsCapacity : Nat := 128

/-- How many datagrams can wait for the application. -/
def datagramCapacity : Nat := 1024

/-- Count bytes read, and decide at the end of a reading epoch whether the window should double. -/
def StreamState.considerScaling (self : StreamState) (consumed : Nat) (rtt : Duration)
    (maxStreamWindow : Nat) (now : Instant) : Option Nat × StreamState :=
  if consumed > 0 then
    let self := { self with bytesReadInEpoch := saturatingAdd self.bytesReadInEpoch consumed }
    if self.bytesReadInEpoch ≥ self.windowSize / 2 then
      let newWindow := min (wrappingMul self.windowSize 2) maxStreamWindow
      let scaleUp := now - self.lastWindowUpdate < rtt * 2 ∧ newWindow > self.windowSize
      (if scaleUp then some newWindow else none,
        { self with bytesReadInEpoch := 0, lastWindowUpdate := now })
    else (none, self)
  else (none, self)

namespace ZtConnectionActor

variable {CC : Type} [Hkdf] [HandshakeCrypto]

/-- Store a stream's new state. -/
def putStream (streamId : Nat) (stream : StreamState) (self : ZtConnectionActor CC) :
    ZtConnectionActor CC :=
  { self with streams := self.streams.insert streamId stream }

/-- Account for bytes read, move contiguous data to the application, and close a finished channel. -/
def drainStream (streamId bytesRead : Nat) (stream : StreamState) (self : ZtConnectionActor CC) :
    Nat × Option Nat × ZtConnectionActor CC :=
  let (consumed, stream) := stream.consume bytesRead
  let (chunks, stream) := stream.pumpAll
  let stream := stream.finish
  let (newWindow, stream) := stream.considerScaling consumed self.rtt self.config.maxStreamWindow
    self.host.now
  (consumed, newWindow,
    { self.putStream streamId stream with
      log := self.log ++ [.reported streamId bytesRead] ++ chunks.map (.pushed streamId) })

/-- Grow a stream's receive window, unless the connection's buffers would exceed their limit. -/
def scaleUpStream (streamId newWindow : Nat) (self : ZtConnectionActor CC) :
    ZtConnectionActor CC :=
  match self.streams.find? streamId with
  | none => self
  | some stream =>
    let addedSize := newWindow - stream.windowSize
    if saturatingAdd self.totalAllocatedBufferSize addedSize ≤ self.config.maxConnectionBuffer then
      self.putStream streamId { stream with
        receiveBuffer := stream.receiveBuffer.resize newWindow
        windowSize := newWindow }
    else self

/-- Move received data of a stream to the application, after it read some bytes. -/
def forwardStreamData (streamId bytesRead : Nat) : Act CC Unit := do
  let self ← get
  match self.streams.find? streamId with
  | none => pure ()
  | some stream => do
    let (consumed, newWindow, self) := self.drainStream streamId bytesRead stream
    set self
    modify fun self => newWindow.elim self (scaleUpStream streamId · self)
    let self ← get
    match self.streams.find? streamId with
    | none => pure ()
    | some stream =>
      let maxData := wrappingAdd stream.expectedRxOffset stream.windowSize
      -- The peer hears of a larger window only when it grew by a quarter.
      if consumed > 0 ∧ maxData - stream.lastSentMaxData ≥ stream.windowSize / 4 then do
        modify (putStream streamId { stream with lastSentMaxData := maxData })
        modify (note (.issued (.maxStreamData streamId maxData)))
        retransmitPayload (.maxStreamData streamId maxData) 0
      else pure ()

/-- Start closing the connection and report an error. -/
def closeWith (error : ZtError) : Act CC Unit := do
  let _ ← Program.attempt initiateClose
  throw error

/-- How many streams in the table have ids of a parity. -/
def openedStreams (self : ZtConnectionActor CC) (parity : Nat) : Nat :=
  (self.streams.keys.filter fun id => id % 2 = parity).length

/-- A frame for a stream that is not in the table: the peer opens it. -/
def openPeerStream (id : Nat) (localStreamType : StreamType) : Act CC Unit := do
  let self ← get
  if id % 2 ≠ self.peerParity then closeWith (.invalidPacket "Invalid stream id parity")
  else if self.openedStreams self.peerParity ≥ self.localMaxStreams then
    throw (.tooManyStreams self.localMaxStreams)
  else do
    let stream := StreamState.new localStreamType self.config.initialStreamWindow
      self.peerInitialStreamWindow self.host.now
    if self.incomingStreams.tryReserve incomingStreamsCapacity then
      set { ((self.note (.created id)).note (.surfaced id)).putStream id stream with
        incomingStreams := self.incomingStreams.send id }
    else
      -- The application does not take it, so the stream leaves the table again at once.
      closeWith .io

/-- Count a packet to acknowledge, and acknowledge at once when there are enough. -/
def acknowledge : Act CC Unit := do
  modify fun self => { self with pendingAcks := self.pendingAcks + 1 }
  let self ← get
  if self.pendingAcks ≥ 10 then do
    let _ ← Program.attempt flushAcks
    pure ()
  else pure ()

/-- Data for a stream in the table. -/
def receiveStreamData (id offset : Nat) (data : Bytes) (stream : StreamState) : Act CC Unit := do
  let self ← get
  if stream.receiveBuffer.allocatedSize = 0 ∧
      saturatingAdd self.totalAllocatedBufferSize stream.windowSize >
        self.config.maxConnectionBuffer then
    closeWith (.invalidPacket "Connection receive-buffer limit exceeded")
  else
    match checkedAdd offset data.length with
    | none => throw (.invalidPacket "Stream offset overflow")
    | some endOffset =>
      if stream.finalRxOffset.any fun finalSize => endOffset > finalSize then
        closeWith (.invalidPacket "stream data exceeds declared final size")
      else do
        let readHead := stream.receiveBuffer.readHead
        let stream := { stream with highestRxOffset := max stream.highestRxOffset endOffset }
        set (self.putStream id stream)
        if endOffset ≤ readHead then
          modify fun self => { self with pendingAcks := self.pendingAcks + 1 }
        else if endOffset > saturatingAdd stream.expectedRxOffset stream.windowSize then
          closeWith (.invalidPacket "Stream flow-control limit exceeded")
        else
          -- The part before the read head was received before.
          match stream.receiveBuffer.write (max offset readHead) (data.drop (readHead - offset)) with
          | none => closeWith (.invalidPacket "Stream receive window exceeded")
          | some (added, receiveBuffer) => do
            modify (putStream id { stream with
              receiveBuffer := receiveBuffer
              bufferedBytes := saturatingAdd stream.bufferedBytes added })
            forwardStreamData id 0
            acknowledge

/-- Stream data from the peer. -/
def handleStream (id : Nat) (streamType : StreamType) (offset : Nat) (data : Bytes) :
    Act CC Unit := do
  match streamType.forPeer with
  | none => throw (.invalidPacket "peer sent a receive-only stream type")
  | some localStreamType => do
    let self ← get
    if self.streams.contains id then pure () else openPeerStream id localStreamType
    let self ← get
    match self.streams.find? id with
    | none => pure ()
    | some stream =>
      if stream.streamType ≠ localStreamType then
        closeWith (.invalidPacket "stream type changed during transmission")
      else receiveStreamData id offset data stream

/-- The end of a stream from the peer; a stream not in the table is ignored. -/
def handleStreamClose (id finalSize : Nat) : Act CC Unit := do
  let self ← get
  match self.streams.find? id with
  | none => pure ()
  | some stream =>
    if finalSize < stream.highestRxOffset ∨
        stream.finalRxOffset.any (fun existing => existing ≠ finalSize) then
      closeWith (.invalidPacket "inconsistent stream final size")
    else do
      set (self.putStream id { stream with finalRxOffset := some finalSize })
      forwardStreamData id 0

/-- The peer abandons a stream: its state is removed. -/
def handleResetStream (streamId finalSize : Nat) : Act CC Unit := do
  let self ← get
  match self.streams.find? streamId with
  | none => pure ()
  | some stream =>
    if finalSize < stream.highestRxOffset then
      closeWith (.invalidPacket "reset final size is smaller than received data")
    else
      set { self.note (.resetByPeer streamId) with streams := self.streams.erase streamId }

/-- The peer asks to stop sending on a stream; only the transmit half ends. -/
def handleStopSending (streamId errorCode : Nat) : Act CC Unit := do
  modify fun self =>
    match self.streams.find? streamId with
    | none => self
    | some stream => self.putStream streamId { stream with sendStoppedError := some errorCode }
  resetStream streamId errorCode

/-- A larger limit for one stream. -/
def handleMaxStreamData (id maxData : Nat) (self : ZtConnectionActor CC) : ZtConnectionActor CC :=
  match self.streams.find? id with
  | none => self
  | some stream => self.putStream id { stream with txWindow := maxData - stream.nextTxOffset }

/-- The answer to a path challenge: the connection moves if it is the one expected. -/
def handlePathResponse (data : Bytes) (addr : Address) (self : ZtConnectionActor CC) :
    ZtConnectionActor CC :=
  if some data = self.pathValidationToken.map Subtype.val ∧
      self.pendingValidationAddr = some addr then
    { self with
      addr := addr
      pendingValidationAddr := none
      pathValidationToken := none
      pathValidationSentAt := none
      pathValidationRetries := 0 }
  else self

variable [CongestionController CC]

/-- An acknowledgment from the peer. -/
def handleAckFrame (largestAcked windowSize ackDelay : Nat) (ackRanges : List (Nat × Nat)) :
    Act CC Unit := do
  let self ← get
  if !self.isAckValid largestAcked ackRanges then
    closeWith (.invalidPacket "ACK acknowledges an unsent packet number")
  else do
    let (fastRetransmits, self) := self.handleAck largestAcked windowSize ackDelay ackRanges []
    set self
    retransmitAll fastRetransmits

/-- Handle one frame of an opened packet. -/
def handleFrame (frame : Frame) (addr : Address) : Act CC Unit :=
  match frame with
  | .stream id streamType offset data => handleStream id streamType offset data
  | .ack largestAcked windowSize ackDelay ackRanges =>
    handleAckFrame largestAcked windowSize ackDelay ackRanges
  | .connectionClose | .connectionCloseV2 .. => modify fun self => { self with state := .closed }
  | .streamClose id finalSize => handleStreamClose id finalSize
  | .maxStreamData id maxData => modify (handleMaxStreamData id maxData)
  | .maxData limit =>
    modify fun self => { self with remoteWindow := limit - self.connTxOffset }
  | .datagram data =>
    -- A datagram that finds no room is dropped.
    modify fun self =>
      if self.datagrams.tryReserve datagramCapacity then
        { self with datagrams := self.datagrams.send data }
      else self
  | .maxStreams limit => modify fun self => { self with peerMaxStreams := max self.peerMaxStreams limit }
  | .pathChallenge data => do
    let _ ← Program.attempt (sendFrameImmediate (.pathResponse data) addr)
  | .pathResponse data => modify (handlePathResponse data addr)
  | .ping => acknowledge
  | .resetStream streamId _ finalSize => handleResetStream streamId finalSize
  | .stopSending streamId errorCode => handleStopSending streamId errorCode
  -- Signals that are only logged, and frames that mean nothing after the handshake.
  | .streamsBlocked _ | .dataBlocked _ | .streamDataBlocked .. => pure ()
  | .padding _ | .handshake .. | .cookie _ | .crypto .. | .transportParameters _ => pure ()

/-- Handle the frames of a packet in order; the first error ends the packet. -/
def handleFrames (addr : Address) : List Frame → Act CC Unit
  | [] => pure ()
  | frame :: rest => do
    let self ← get
    let known := frame.streamId?.any self.streams.contains
    handleFrame frame addr
    modify (note (.handled frame known))
    handleFrames addr rest

/-- The keys a protected packet is opened with. -/
inductive KeyChoice where
  | current
  | previous
  | next
  deriving DecidableEq, Repr

/-- Another key phase means the next epoch, or the previous one for an older packet number. -/
def chooseKey (self : ZtConnectionActor CC) (header : PacketHeader) : KeyChoice :=
  let highest := self.replayWindow.highestProcessed.getD 0
  if !header.isLong ∧ header.keyPhase ≠ self.currentKeyPhase then
    if header.packetNumber ≥ highest then .next else .previous
  else .current

/-- Open a payload with the chosen keys; the next epoch's keys are kept when they fit. -/
def openPayload (self : ZtConnectionActor CC) (crypto : CryptoContext) (header : PacketHeader)
    (aad : Bytes) (payload : Sealed) : Except ZtError (Bytes × ZtConnectionActor CC) :=
  match self.chooseKey header with
  | .next =>
    match crypto.trialDecryptAndRotate header.packetNumber aad payload with
    | .error error => .error error
    | .ok (plaintext, rotated) =>
      .ok (plaintext, { self with
        crypto := some rotated
        currentKeyEpoch := self.currentKeyEpoch + 1
        packetsSinceKeyUpdate := 0 })
  | .previous => (crypto.decryptInPlace header.packetNumber aad payload true).map (·, self)
  | .current => (crypto.decryptInPlace header.packetNumber aad payload false).map (·, self)

/-- A packet from a new address is answered with a challenge before the connection moves there. -/
def validatePath (addr : Address) : Act CC Unit := do
  let self ← get
  if self.state = .active ∧ self.addr ≠ addr then
    if self.pendingValidationAddr ≠ some addr then do
      let token : PathToken := ⟨beBytes 8 self.host.token, beBytes_length 8 _⟩
      set { self with
        pendingValidationAddr := some addr
        pathValidationToken := some token
        pathValidationSentAt := some self.host.now
        pathValidationRetries := 0 }
      let _ ← Program.attempt (sendFrameImmediate (.pathChallenge token.val) addr)
    else pure ()
  else if self.state = .handshaking then set { self with addr := addr }
  else pure ()

/-- The first packet a server opens completes its side of the handshake. -/
def activate (self : ZtConnectionActor CC) : ZtConnectionActor CC :=
  if self.state = .handshaking ∧ !self.isClient then { self with state := .active } else self

/-- What follows when a packet was opened: its number is recorded before its frames are handled. -/
def handleOpened (packetNumber : Nat) (frames : List Frame) (addr : Address) : Act CC Unit := do
  validatePath addr
  modify fun self => self.markProcessed packetNumber
  handleFrames addr frames

/-- A packet after the handshake: open it, record its number, handle its frames. -/
def processProtected (header : PacketHeader) (body : Body) (aad : Bytes) (addr : Address) :
    Act CC Unit := do
  let self ← get
  match self.crypto, body with
  | none, _ => throw .unauthorized
  -- Bytes that nobody sealed carry no matching tag.
  | some _, .clear payload =>
    if payload.length < 16 then pure () else throw (.crypto "Decryption failed: aead::Error")
  | some crypto, .encrypted payload =>
    match self.openPayload crypto header aad payload with
    | .error error => throw error
    | .ok (plaintext, opened) => do
      set opened.activate
      handleOpened header.packetNumber (Frame.decodeFrames plaintext).1 addr

/-- Whether packets after the handshake are processed. -/
def acceptsProtected (self : ZtConnectionActor CC) : Bool :=
  self.state = .active ∨ (self.state = .handshaking ∧ !self.isClient)

/-- A packet that is no replay, by its type. -/
def dispatchPacket (header : PacketHeader) (body : Body) (aad : Bytes) (addr : Address) :
    Act CC Unit := do
  let self ← get
  match header.pType with
  | .handshake =>
    if self.state = .handshaking then handleHandshakeResponse header body aad addr else pure ()
  | .retry => if self.state = .handshaking then handleRetryPacket body else pure ()
  | .data | .mtuProbe | .close =>
    if self.acceptsProtected then processProtected header body aad addr else pure ()
  | .initial => pure ()

/-- A header with its packet number recovered from the highest one processed. -/
def recovered (self : ZtConnectionActor CC) (header : PacketHeader) : PacketHeader :=
  { header with
    packetNumber :=
      expandPn header.packetNumber header.pnLen (self.replayWindow.highestProcessed.getD 0) }

/-- Process a packet from the network, with its header as it is on the wire. -/
def processIncomingPacket (packet : Packet) (addr : Address) : Act CC Unit := do
  modify fun self => { self with bytesReceived := self.bytesReceived + packet.size }
  let self ← get
  if !packet.header.isLong ∧ self.crypto.isNone then throw .unauthorized
  else if packet.header.pType = .initial ∧ !self.isClient then
    -- The client did not hear the handshake response yet.
    match self.handshakePacket with
    | none => pure ()
    | some response => do
      let _ ← Program.attempt (sendmsgVectored response.1 0)
  else
    let header := self.recovered packet.header
    if self.isReplay header.packetNumber then pure ()
    else dispatchPacket header packet.body packet.header.encode addr

end ZtConnectionActor
end Zetta
