import Zetta.Protocol.Transcript
import Zetta.Transport.Congestion

/-! Sending: packet protection, the pacing queue, acknowledgments, retransmission and probing. -/

namespace Zetta

/-- The largest payload a UDP datagram carries. -/
def maxUdpPayload : Nat := 65507

/-- The frame that carries a payload; a probe's padding depends on the header's length. -/
def UnackedPayload.frame (headerLen : Nat) : UnackedPayload → Frame
  -- Initial packets are built elsewhere and never reach this function.
  | initial _ => .padding 0
  | stream streamId streamType offset data => .stream streamId streamType offset data
  | mtuProbe targetSize => .padding (targetSize - (headerLen + 16))
  | streamClose streamId finalSize => .streamClose streamId finalSize
  | maxStreamData streamId maxData => .maxStreamData streamId maxData
  | resetStream streamId errorCode finalSize => .resetStream streamId errorCode finalSize
  | close => .connectionClose
  | connectionCloseV2 errorCode reason => .connectionCloseV2 errorCode reason
  | datagram data => .datagram data

namespace ZtConnectionActor

variable {CC : Type}

/-- Write down what happened. -/
def note (effect : Effect) (self : ZtConnectionActor CC) : ZtConnectionActor CC :=
  { self with log := self.log ++ [effect] }

section Protect

variable [Hkdf]

/-- Count a packet, and move to the next key epoch after enough of them. -/
def notePacketSent (self : ZtConnectionActor CC) : ZtConnectionActor CC :=
  if self.state ≠ .active then self
  else
    match self.crypto with
    | none => self
    | some crypto =>
      let count := saturatingAdd self.packetsSinceKeyUpdate 1
      if count ≥ self.config.keyUpdatePacketInterval then
        { self.note (.rotated self.currentKeyEpoch) with
          crypto := some crypto.rotateKeys
          currentKeyEpoch := self.currentKeyEpoch + 1
          packetsSinceKeyUpdate := 0 }
      else { self with packetsSinceKeyUpdate := count }

end Protect

/-- What the socket does with the next packet; it would block once the host has no more answers. -/
def nextSend (self : ZtConnectionActor CC) : SendOutcome × ZtConnectionActor CC :=
  match self.host.sends with
  | [] => (.wouldBlock, self)
  | outcome :: rest => (outcome, { self with host := { self.host with sends := rest } })

/-- Hand a packet to the socket. -/
def sendmsgVectored (packet : Packet) (epoch : Nat) : Act CC Unit := do
  let self ← get
  let totalLen := packet.size
  -- A server does not send more than three times what an unverified client sent.
  if !self.isClient ∧ self.state = .handshaking ∧
      self.bytesSent + totalLen > 3 * max self.bytesReceived 1 then
    pure ()
  else
    let (outcome, self) := self.nextSend
    match outcome with
    | .sent =>
      if totalLen ≤ maxUdpPayload then
        set { self.note (.sent ⟨packet, epoch, self.addr⟩) with bytesSent := self.bytesSent + totalLen }
      else do
        set self
        throw .io
    | .wouldBlock => do
      set { self with socketBlocked := true }
      throw .io
    | .ioError | .cryptoError => do
      set self
      throw .io

/-- The lowest packet number still in flight, or the packet's own. -/
def lowestUnacked (self : ZtConnectionActor CC) (pn : Nat) : Nat :=
  self.unackedPackets.keys.head?.getD pn

/-- The number of bytes a packet number is sent in. -/
def pnLen (self : ZtConnectionActor CC) (pn : Nat) : Nat :=
  (truncatePn pn (self.lowestUnacked pn - 1)).2

/-- The header of a packet after the handshake. -/
def shortHeader (self : ZtConnectionActor CC) (pType : PacketType) (pn : Nat) : PacketHeader where
  pType := pType
  isLong := false
  version := 0
  dcid := self.dcid
  scid := []
  packetNumber := pn
  keyPhase := self.currentKeyPhase
  pnLen := self.pnLen pn

/-- Write down a call of the packet protection. -/
def encrypting (encryption : Encryption) (self : ZtConnectionActor CC) : ZtConnectionActor CC :=
  { self with encryptions := self.encryptions ++ [encryption] }

/-- Seal a payload after a header, which it is bound to. -/
def sealWith (crypto : CryptoContext) (header : PacketHeader) (payload : Bytes) :
    Act CC Packet := do
  modify (encrypting ⟨crypto, header.packetNumber, header.encode, payload⟩)
  let self ← get
  match self.host.sends with
  | .cryptoError :: rest => do
    set { self with host := { self.host with sends := rest } }
    throw (.crypto "Encryption failed: aead::Error")
  | _ =>
    pure ⟨header, .encrypted (crypto.encryptInPlace header.packetNumber header.encode payload)⟩

/-- Header protection samples the payload, so a short one is padded to four bytes with the number. -/
def padShort (pnLen : Nat) (payload : Bytes) : Bytes :=
  let minPayload := 4 - pnLen
  if payload.length < minPayload then
    payload ++ (Frame.padding (minPayload - payload.length)).encode
  else payload

/-- Seal a payload under the connection's keys; the answer tells their epoch as well. -/
def protectPacket (header : PacketHeader) (payload : Bytes) : Act CC (Packet × Nat) := do
  let self ← get
  match self.crypto with
  | none => throw .unauthorized
  | some crypto => do
    let packet ← sealWith crypto header payload
    pure (packet, crypto.epoch)

/-- The receive window left, as the next packets advertise it. -/
def refreshLocalWindow (self : ZtConnectionActor CC) : ZtConnectionActor CC :=
  { self with localWindow := self.config.initialMaxData - self.getTotalBufferedBytes }

/-- Remember a packet until it is acknowledged. -/
def track (pn : Nat) (payload : UnackedPayload) (retries sentBytes : Nat) (isMtuProbe : Bool)
    (self : ZtConnectionActor CC) : ZtConnectionActor CC :=
  { self with
    unackedPackets := self.unackedPackets.insert pn
      ⟨payload, self.host.now, retries, isMtuProbe, sentBytes⟩ }

section Senders

variable [Hkdf]

/-- Remember a packet that went out, and count it. -/
def trackSent (pn : Nat) (payload : UnackedPayload) (retries sentBytes : Nat) (isMtuProbe : Bool)
    (self : ZtConnectionActor CC) : ZtConnectionActor CC :=
  let self := self.track pn payload retries sentBytes isMtuProbe
  notePacketSent { self with bytesInFlight := self.bytesInFlight + sentBytes }

/-- Probe for a larger MTU, halfway between the sizes known to pass and to fail. -/
def sendMtuProbe : Act CC Unit := do
  let self ← get
  if self.state ≠ .active then pure ()
  else if self.mtuMax ≤ self.mtuMin + 10 then pure () -- Converged
  else do
    let targetSize := self.mtuMin + (self.mtuMax - self.mtuMin) / 2
    let pn ← getNextPacketNumber
    modify refreshLocalWindow
    let self ← get
    let header := self.shortHeader .mtuProbe pn
    let frame := Frame.padding (targetSize - (header.encode.length + 16))
    let (packet, epoch) ← protectPacket header frame.encode
    match ← Program.attempt (sendmsgVectored packet epoch) with
    | .error _ => pure ()
    | .ok _ =>
      modify fun self =>
        let self := (self.note (.issued (.mtuProbe targetSize))).track pn (.mtuProbe targetSize) 0
          packet.size true
        let self := { self with
          bytesInFlight := saturatingAdd self.bytesInFlight packet.size
          mtuProbes := self.mtuProbes.insert pn targetSize }
        self.notePacketSent

/-- The acknowledgment of everything received so far. -/
def ackFrame (self : ZtConnectionActor CC) : Frame :=
  let ackDelay := self.largestAckedReceivedAt.elim 0 fun received =>
    (self.host.now - received) / 1000 % u64Size
  .ack (self.ackTracker.highestProcessed.getD 0) (self.localWindow % u32Size) ackDelay
    self.getAckRanges

/-- Send the pending acknowledgments in a packet of their own, which is not tracked. -/
def flushAcks : Act CC Unit := do
  let self ← get
  if self.pendingAcks = 0 then pure ()
  else do
    let pn ← getNextPacketNumber
    modify refreshLocalWindow
    let self ← get
    let header := self.shortHeader .data pn
    let (packet, epoch) ← protectPacket header (padShort header.pnLen self.ackFrame.encode)
    match ← Program.attempt (sendmsgVectored packet epoch) with
    | .error _ => pure ()
    | .ok _ => modify notePacketSent
    modify fun self => { self with pendingAcks := 0 }

end Senders

variable [CongestionController CC]

/-- Accept data from the application and queue it for sending. -/
def processOutgoingData (streamId : Nat) (data : Bytes) : Act CC Unit := do
  let self ← get
  let toSendLen := data.length
  if self.remoteWindow < toSendLen then throw .flowControlBlocked
  else
    match self.streams.find? streamId with
    | none => throw .actorFailed
    | some stream =>
      match stream.sendStoppedError with
      | some errorCode => throw (.streamReset streamId errorCode)
      | none =>
        if stream.streamType = .unidirectionalIn then
          throw (.invalidPacket "cannot send on a receive-only stream")
        else if stream.txWindow < toSendLen then throw .flowControlBlocked
        else if self.bytesInFlight + toSendLen + self.queuedBytes >
            CongestionController.cwnd self.cc then
          throw .congestionWindowFull
        else
          let payload :=
            UnackedPayload.stream streamId stream.streamType stream.nextTxOffset data
          set { self.note (.issued payload) with
            streams := self.streams.insert streamId { stream with
              nextTxOffset := stream.nextTxOffset + toSendLen
              txWindow := stream.txWindow - toSendLen }
            connTxOffset := saturatingAdd self.connTxOffset toSendLen
            remoteWindow := self.remoteWindow - toSendLen
            unpacedQueue := self.unpacedQueue ++ [(payload, 0)]
            queuedBytes := self.queuedBytes + toSendLen }

end ZtConnectionActor

/-- The size a stream is closed with: what was accepted on it, if it is still in the table. -/
def Session.finalSize (self : Session) (streamId : Nat) : Nat :=
  (self.streams.find? streamId).elim 0 StreamState.nextTxOffset

/-- What the scan for expired packets collects. -/
structure Expiry where
  toDrop : List Nat
  toRetransmit : List Nat
  failedProbeTargets : List Nat
  blackholeDetected : Bool
  timedOut : Bool

/-- How long to wait for a packet that was sent again a number of times. -/
def packetRto (rto : Duration) (retries : Nat) : Duration :=
  min (rto * min (2 ^ retries) 64) (seconds 10)

/-- Scan the window in order; a packet sent too often ends the scan. -/
def expireSlots (now : Instant) (rto : Duration) :
    Nat → List (Option UnackedPacket) → Expiry → List (Option UnackedPacket) × Expiry
  | _, [], expiry => ([], expiry)
  | pn, none :: rest, expiry =>
    let (rest, expiry) := expireSlots now rto (pn + 1) rest expiry
    (none :: rest, expiry)
  | pn, some up :: rest, expiry =>
    if now - up.sentAt > packetRto rto up.retries then
      if up.isMtuProbe || up.payload.isDatagram then
        -- Probes and datagrams are dropped and never sent again.
        let targets := match up.payload with
          | .mtuProbe targetSize => [targetSize]
          | _ => []
        let (rest, expiry) := expireSlots now rto (pn + 1) rest { expiry with
          toDrop := expiry.toDrop ++ [pn]
          failedProbeTargets := expiry.failedProbeTargets ++ targets }
        (some up :: rest, expiry)
      else
        let retries := up.retries + 1
        if retries > 10 then
          (some { up with retries := retries } :: rest, { expiry with timedOut := true })
        else
          let (rest, expiry) := expireSlots now rto (pn + 1) rest { expiry with
            toDrop := expiry.toDrop ++ [pn]
            toRetransmit := expiry.toRetransmit ++ [pn]
            blackholeDetected := expiry.blackholeDetected || retries > 3 }
          (some { up with retries := retries, sentAt := now } :: rest, expiry)
    else
      let (rest, expiry) := expireSlots now rto (pn + 1) rest expiry
      (some up :: rest, expiry)

namespace ZtConnectionActor

variable {CC : Type}

section Payloads

variable [Hkdf] [HandshakeCrypto]

/-- The plaintext of an Initial packet: the signed key share, parameters and a cookie, padded. -/
def initialPayload (self : ZtConnectionActor CC) (signingKey : Bytes) (cookie : Option Bytes)
    (headerLen : Nat) : Bytes :=
  let localParameters := TransportParameters.fromConfig self.config
  let transcriptHash := HandshakeCrypto.sha256
    (clientTranscript self.scid self.dcid self.publicKey cookie localParameters)
  let frames := (Frame.handshake self.publicKey self.edPublicKey transcriptHash
      (HandshakeCrypto.sign signingKey transcriptHash) self.config.alpn).encode ++
    (Frame.transportParameters localParameters).encode ++
    cookie.elim [] fun token => (Frame.cookie token).encode
  frames ++ (Frame.padding (1200 - (headerLen + frames.length + 16))).encode

/-- Send an Initial packet, with the cookie of a Retry if there was one. -/
def sendInitialPacketInternal (cookie : Option Bytes) (retries : Nat) : Act CC Unit := do
  let pn ← getNextPacketNumber
  let self ← get
  let header : PacketHeader := ⟨.initial, true, protocolVersion, self.dcid, self.scid, pn, false,
    self.pnLen pn⟩
  modify fun self => { self with cookie := cookie.or self.cookie }
  match self.edSigningKey with
  -- Without a signing key the actor panics.
  | none => do
    modify fun self => { self with running := false }
    throw .actorFailed
  | some signingKey => do
    let crypto := CryptoContext.initial self.dcid true
    let payload := self.initialPayload signingKey cookie header.encode.length
    let sealed := crypto.encryptInPlace pn header.encode payload
    let packet ← sealWith crypto header payload
    modify fun self => { self with handshakePacket := some ⟨⟨header, .encrypted sealed⟩, rfl, rfl⟩ }
    let _ ← Program.attempt (sendmsgVectored packet crypto.epoch)
    modify (trackSent pn (.initial cookie) retries packet.size false)

/-- Send an Initial packet for the first time. -/
def sendInitialPacket (cookie : Option Bytes) : Act CC Unit := do
  modify (note (.issued (.initial cookie)))
  sendInitialPacketInternal cookie 0

/-- Send a payload in a new packet with a short header, and remember it until it is acknowledged. -/
def sendDataPacket (payload : UnackedPayload) (retries : Nat) : Act CC Unit := do
  let pn ← getNextPacketNumber
  let self ← get
  let header := self.shortHeader .data pn
  let frame := payload.frame header.encode.length
  let (packet, epoch) ← protectPacket header (padShort header.pnLen frame.encode)
  sendmsgVectored packet epoch
  modify fun self =>
    let isMtuProbe := match payload with
      | .mtuProbe _ => true
      | _ => false
    trackSent pn payload retries packet.size isMtuProbe { self with
      packetsRetransmitted :=
        if retries > 0 then saturatingAdd self.packetsRetransmitted 1 else self.packetsRetransmitted }

/-- Send a payload in a new packet; the Initial packet is built in its own way. -/
def sendPayloadWithRetries (payload : UnackedPayload) (retries : Nat) : Act CC Unit :=
  match payload with
  | .initial cookie => sendInitialPacketInternal cookie retries
  | payload => sendDataPacket payload retries

/-- Send a payload again; if that fails it goes to the front of the pacing queue. -/
def retransmitPayload (payload : UnackedPayload) (retries : Nat) : Act CC Unit := do
  match ← Program.attempt (sendPayloadWithRetries payload retries) with
  | .ok _ => pure ()
  | .error _ =>
    modify fun self => { self with unpacedQueue := (payload, retries) :: self.unpacedQueue }

/-- Send a payload for the first time, past the pacing queue. -/
def sendPayload (payload : UnackedPayload) : Act CC Unit := do
  modify (note (.issued payload))
  retransmitPayload payload 0

/-- Send a datagram, which is tracked but never retransmitted. -/
def sendDatagramPayload (data : Bytes) : Act CC Unit := sendPayload (.datagram data)

/-- Tell the peer that no more data follows on a stream. -/
def sendStreamClose (streamId : Nat) : Act CC Unit := do
  let self ← get
  sendPayload (.streamClose streamId (self.finalSize streamId))

/-- Tell the peer that a stream is abandoned. -/
def resetStream (streamId errorCode : Nat) : Act CC Unit := do
  let self ← get
  sendPayload (.resetStream streamId errorCode (self.finalSize streamId))

/-- Start closing the connection. -/
def initiateClose : Act CC Unit := do
  modify fun self => { self with state := .closing }
  sendPayload .close

/-- Start closing the connection with an error code and a reason. -/
def initiateCloseWithError (errorCode : Nat) (reason : Bytes) : Act CC Unit := do
  modify fun self => { self with state := .closing }
  sendPayload (.connectionCloseV2 errorCode reason)

/-- Send one frame at once to an address; the packet is neither tracked nor counted. -/
def sendFrameImmediate (frame : Frame) (toAddr : Address) : Act CC Unit := do
  let pn ← getNextPacketNumber
  let self ← get
  let header := self.shortHeader .data pn
  let (packet, epoch) ← protectPacket header (padShort header.pnLen frame.encode)
  let oldAddr := self.addr
  modify fun self => { self with addr := toAddr }
  let result ← Program.attempt (sendmsgVectored packet epoch)
  modify fun self => { self with addr := oldAddr }
  match result with
  | .ok _ => pure ()
  | .error error => throw error

/-- What the pacer says about the payload at the front; it lets it through by default. -/
def nextPace (self : ZtConnectionActor CC) : PaceDecision × ZtConnectionActor CC :=
  match self.host.paces with
  | [] => (.send, self)
  | decision :: rest => (decision, { self with host := { self.host with paces := rest } })

/-- Whether a failed send ends the connection at once. -/
def isFatal : ZtError → Bool
  | .unauthorized | .crypto _ | .packetNumberOverflow => true
  | _ => false

/-- What happens when the payload at the front of the queue could not be sent. -/
def pacedSendFailed (self : ZtConnectionActor CC) (error : ZtError) :
    Option Duration × ZtConnectionActor CC :=
  if self.socketBlocked then (none, self)
  else if isFatal error then (none, { self with state := .closed })
  else
    match self.unpacedQueue with
    | [] => (some (milliseconds 1), self)
    | (payload, retries) :: rest =>
      let self := { self with unpacedQueue := (payload, retries + 1) :: rest }
      if retries + 1 > 10 then (none, { self with state := .closed })
      else (some (milliseconds (2 ^ (retries + 1))), self)

/-- Send from the front of the queue while the pacer allows it. -/
def flushLoop : Nat → Act CC (Option Duration)
  | 0 => pure none
  | fuel + 1 => do
    let self ← get
    match self.unpacedQueue with
    | [] => pure none
    | (payload, retries) :: _ =>
      let (decision, self) := self.nextPace
      set self
      match decision with
      | .wait delay => pure (some delay)
      | .send => do
        match ← Program.attempt (sendPayloadWithRetries payload retries) with
        | .error error => do
          let self ← get
          let (delay, self) := self.pacedSendFailed error
          set self
          pure delay
        | .ok _ => do
          modify fun self => { self with
            unpacedQueue := self.unpacedQueue.tail
            queuedBytes := self.queuedBytes - payload.len }
          flushLoop fuel

/-- Send what the pacer allows; the answer is when to try again. -/
def flushPacingQueue : Act CC (Option Duration) := do
  let self ← get
  if self.socketBlocked then pure none
  -- Every round takes one payload off the queue, so its length bounds the rounds.
  else flushLoop self.unpacedQueue.length

variable [CongestionController CC]

/-- A packet that expired: its bytes leave the flight, and its payload may be sent again. -/
def expiredPacket (toRetransmit : List Nat) (pn : Nat) (up : UnackedPacket)
    (state : List (UnackedPayload × Nat) × ZtConnectionActor CC) :
    List (UnackedPayload × Nat) × ZtConnectionActor CC :=
  let (payloads, self) := state
  let self := { self with bytesInFlight := self.bytesInFlight - up.sentBytes }
  if up.isMtuProbe then (payloads, { self with mtuProbes := self.mtuProbes.erase pn })
  else if toRetransmit.contains pn then (payloads ++ [(up.payload, up.retries)], self)
  else (payloads, self)

/-- Send payloads again, one after the other. -/
def retransmitAll : List (UnackedPayload × Nat) → Act CC Unit
  | [] => pure ()
  | (payload, retries) :: rest => do
    let _ ← Program.attempt (retransmitPayload payload retries)
    retransmitAll rest

/-- What expired probes and repeated losses say about the path MTU. -/
def noteExpiredProbes (expiry : Expiry) (self : ZtConnectionActor CC) : ZtConnectionActor CC :=
  let self := expiry.failedProbeTargets.foldl recordMtuProbeFailure self
  if expiry.blackholeDetected ∧ self.mtu > self.baseMtu then self.recoverMtuBlackhole.2 else self

/-- Take expired packets out of the window and send again those that are reliable. -/
def dropExpired (expiry : Expiry) : Act CC Unit := do
  let self ← get
  let (unacked, payloads, self) := UnackedWindow.drain (expiredPacket expiry.toRetransmit)
    expiry.toDrop self.unackedPackets ([], self)
  set { self with unackedPackets := unacked }
  if payloads.isEmpty then pure ()
  else do
    modify fun self => { self with
      packetsLost := saturatingAdd self.packetsLost payloads.length
      cc := CongestionController.onCongestionEvent self.cc self.rtt self.host.now }
    retransmitAll payloads

/-- Send again what was not acknowledged in time; too many attempts close the connection. -/
def handleRetransmits : Act CC Unit := do
  let self ← get
  let rto := max (self.rtt + self.rttvar * 4) (milliseconds 50)
  let (deque, expiry) := expireSlots self.host.now rto self.unackedPackets.basePn
    self.unackedPackets.deque ⟨[], [], [], false, false⟩
  set { self with unackedPackets := { self.unackedPackets with deque := deque } }
  if expiry.timedOut then do
    let _ ← Program.attempt initiateClose
    throw .timeout
  else do
    modify (noteExpiredProbes expiry)
    dropExpired expiry

end Payloads

end ZtConnectionActor
end Zetta
