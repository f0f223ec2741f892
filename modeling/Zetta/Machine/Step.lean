import Zetta.Proofs.Protocol.Frame
import Zetta.Proofs.State.StreamState
import Zetta.Transport.System

/-! The abstract session machine: what one micro-step of a connection can do. -/

namespace Zetta

/-- What the application asks of a session, as far as a run may restrict it. -/
inductive Request where
  /-- It reports bytes of a stream as read. -/
  | read (id bytes : Nat)
  /-- It writes to a stream. -/
  | write (id : Nat)
  /-- It closes or resets a stream. -/
  | finish (id : Nat)

/-- What surrounds a session: the packets it may hear and the requests it may be given. -/
structure Environment where
  heard : SentRecord → Prop
  allowed : Session → Request → Prop
  /-- Whether the application may open streams and let go of them. -/
  acting : Prop

/-- A frame in a protected packet among those heard from the peer. -/
def HeardFrame (heard : SentRecord → Prop) (frame : Frame) : Prop :=
  ∃ record, heard record ∧ record.packet.header.pType.isProtected = true ∧
    frame ∈ record.packet.frames

/-- Frames a connection sends without keeping them: acknowledgments, path checks and padding. -/
def Frame.IsControl : Frame → Prop
  | padding _ => True
  | ack largestAcked windowSize ackDelay ackRanges =>
    (ack largestAcked windowSize ackDelay ackRanges).Words
  | pathChallenge data | pathResponse data => data.length = 8
  | streamsBlocked limit => limit < u64Size
  | _ => False

/-- A frame that may be sent: one of an issued payload, or a control frame. -/
def Sendable (log : List Effect) (frame : Frame) : Prop :=
  (∃ payload headerLen, .issued payload ∈ log ∧ frame = payload.frame headerLen) ∨ frame.IsControl

/-- A protected packet built from the current state, under the next packet number. -/
structure Built (session : Session) (record : SentRecord) : Prop where
  short : record.packet.header.isLong = false
  kind : record.packet.header.pType.isProtected = true
  number : record.packet.header.packetNumber = session.nextPacketNumber
  phase : record.packet.header.keyPhase = decide (session.currentKeyEpoch % 2 ≠ 0)
  length : 1 ≤ record.packet.header.pnLen ∧ record.packet.header.pnLen ≤ 4
  size : record.packet.size ≤ maxUdpPayload
  /-- The packet carries one frame, perhaps with padding, sealed under the current keys. -/
  content : ∃ crypto frame pad, session.crypto = some crypto ∧ record.epoch = crypto.epoch ∧
    Sendable session.log frame ∧
    record.packet.body = .encrypted (crypto.encryptInPlace record.packet.header.packetNumber
      record.packet.header.encode (frame.encode ++ List.replicate pad 0))

/-- A payload other than stream data that may enter the sender. -/
def Issuable (allowed : Request → Prop) (session : Session) : UnackedPayload → Prop
  | .stream .. | .initial _ => False
  -- The end of a stream is announced at the application's request only.
  | .streamClose id finalSize =>
    id < u32Size ∧ finalSize = session.finalSize id ∧ allowed (.finish id)
  | .resetStream id errorCode finalSize =>
    id < u32Size ∧ errorCode < u64Size ∧ finalSize = session.finalSize id ∧ allowed (.finish id)
  -- The limit granted is the one of a stream in the table.
  | .maxStreamData id limit => id < u32Size ∧ ∃ stream, session.streams.find? id = some stream ∧
    limit = wrappingAdd stream.expectedRxOffset stream.windowSize
  | .connectionCloseV2 errorCode _ => errorCode < u64Size
  | .mtuProbe _ | .close | .datagram _ => True

namespace StreamState

/-- Every position of a piece of data was handed out or is held. -/
def Retained (self : StreamState) (offset length : Nat) : Prop :=
  ∀ position, offset ≤ position → position < offset + length →
    position < self.receiveBuffer.readHead ∨ self.receiveBuffer.Covered position

/-- What can happen to a stream before a forwarding round, and how many bytes were reported read. -/
inductive Prepared (heard : SentRecord → Prop) (id : Nat) (before : StreamState) :
    StreamState → Nat → Prop
  /-- Data from the peer is written at or above the read head. -/
  | wrote {streamType : StreamType} {offset : Nat} {data : Bytes} {added : Nat}
      {receiveBuffer : StreamReceiveBuffer}
      (frame : HeardFrame heard (.stream id streamType offset data))
      (accepted : before.receiveBuffer.write (max offset before.receiveBuffer.readHead)
        (data.drop (before.receiveBuffer.readHead - offset)) = some (added, receiveBuffer)) :
      Prepared heard id before
        (consume { before with
          receiveBuffer := receiveBuffer
          bufferedBytes := saturatingAdd before.bufferedBytes added } 0).2 0
  /-- The peer announced the final size. -/
  | concluded {finalSize : Nat} (frame : HeardFrame heard (.streamClose id finalSize))
      (above : before.highestRxOffset ≤ finalSize)
      (same : ∀ existing, before.finalRxOffset = some existing → existing = finalSize) :
      Prepared heard id before (consume { before with finalRxOffset := some finalSize } 0).2 0
  /-- The application read some bytes. -/
  | consumed (bytesRead : Nat) : Prepared heard id before (before.consume bytesRead).2 bytesRead

/-- Fields that only steer window updates, and the channel as the application uses it. -/
structure Bookkeeping (before after : StreamState) : Prop where
  /-- The application takes chunks and may drop its end, but adds nothing. -/
  sent : after.channel.sent = before.channel.sent
  taken : before.channel.taken ≤ after.channel.taken
  inside : before.channel.taken ≤ before.channel.sent.length →
    after.channel.taken ≤ after.channel.sent.length
  alive : after.channel.receiverAlive = true → before.channel.receiverAlive = true
  rest : after = { before with
    channel := after.channel
    lastSentMaxData := after.lastSentMaxData
    lastWindowUpdate := after.lastWindowUpdate
    bytesReadInEpoch := after.bytesReadInEpoch }

end StreamState

/-- What one micro-step can do to a stream, with the history it leaves. -/
inductive StreamStep (heard : SentRecord → Prop) (id : Nat) (before : StreamState) :
    StreamState → List Effect → Prop
  /-- Data from the application gets the next offsets. -/
  | accept (data : Bytes) (open_ : before.sendStoppedError = none)
      (writable : before.streamType ≠ .unidirectionalIn) (fits : data.length ≤ before.txWindow) :
      StreamStep heard id before
        { before with
          nextTxOffset := before.nextTxOffset + data.length
          txWindow := before.txWindow - data.length }
        [.issued (.stream id before.streamType before.nextTxOffset data)]
  /-- The peer sets the limit on what may be sent. -/
  | limit (maxData : Nat) (frame : HeardFrame heard (.maxStreamData id maxData))
      (fits : maxData < u64Size) :
      StreamStep heard id before { before with txWindow := maxData - before.nextTxOffset } []
  /-- Data from the peer raises the highest offset seen. -/
  | raise {streamType : StreamType} {offset : Nat} {data : Bytes}
      (frame : HeardFrame heard (.stream id streamType offset data)) :
      StreamStep heard id before
        { before with highestRxOffset := max before.highestRxOffset (offset + data.length) } []
  /-- A forwarding round after something happened to the stream. -/
  | forward {base : StreamState} {bytesRead : Nat}
      (prepared : StreamState.Prepared heard id before base bytesRead) :
      StreamStep heard id before base.pumpAll.2.finish
        (.reported id bytesRead :: base.pumpAll.1.map (.pushed id))
  | bookkeeping {after : StreamState} (kept : StreamState.Bookkeeping before after) :
      StreamStep heard id before after []
  /-- The receive window grows. -/
  | grow (newWindow : Nat) (larger : before.windowSize ≤ newWindow) :
      StreamStep heard id before
        { before with
          receiveBuffer := before.receiveBuffer.resize newWindow
          windowSize := newWindow } []

/-- A piece of a stream's data was handed out or is held, in the table's stream. -/
def Session.Holds (self : Session) (id offset length : Nat) : Prop :=
  ∃ stream, self.streams.find? id = some stream ∧ stream.Retained offset length

/-- What a frame that was handled has left behind. -/
def Settled (session : Session) (known : Bool) : Frame → Prop
  | .stream id _ offset data => session.Holds id offset data.length
  | .streamClose id finalSize => known = true →
    ∃ stream, session.streams.find? id = some stream ∧ stream.finalRxOffset = some finalSize
  | _ => True

/-- A stream leaves the table at the application's request, or because the peer reset it. -/
inductive Removal (env : Environment) (id : Nat) (stream : StreamState) : Effect → Prop
  | closed (acts : env.acting) : Removal env id stream (.closedLocally id)
  | reset {errorCode finalSize : Nat}
      (frame : HeardFrame env.heard (.resetStream id errorCode finalSize))
      (above : stream.highestRxOffset ≤ finalSize) : Removal env id stream (.resetByPeer id)

variable [Hkdf]

/--
One micro-step of sending: packets go out or fail to, what is in flight and queued changes, and
the count of packets may move the keys on.
-/
inductive SendStep : Session → Session → Prop
  | skipNumber {session : Session} (fits : session.nextPacketNumber + 1 < u64Size) :
      SendStep session { session with nextPacketNumber := session.nextPacketNumber + 1 }
  | emit {session : Session} (record : SentRecord) (fits : session.nextPacketNumber + 1 < u64Size)
      (built : Built session record) :
      SendStep session
        { session with
          nextPacketNumber := session.nextPacketNumber + 1
          log := session.log ++ [.sent record] }
  | emitLong {session : Session} (record : SentRecord)
      (long : record.packet.header.pType.isHandshake = true) :
      SendStep session { session with log := session.log ++ [.sent record] }
  | setUnacked {session : Session} (window : UnackedWindow)
      (issued : ∀ entry ∈ window.iter, .issued entry.2.payload ∈ session.log) :
      SendStep session { session with unackedPackets := window }
  | setQueue {session : Session} (queue : List (UnackedPayload × Nat))
      (issued : ∀ entry ∈ queue, .issued entry.1 ∈ session.log) :
      SendStep session { session with unpacedQueue := queue }
  | rotate {session : Session} {crypto : CryptoContext} (keys : session.crypto = some crypto) :
      SendStep session
        { session with
          crypto := some crypto.rotateKeys
          currentKeyEpoch := session.currentKeyEpoch + 1
          log := session.log ++ [.rotated session.currentKeyEpoch] }

/-- An effect that sending leaves in the history. -/
inductive Effect.IsSend : Effect → Prop
  | sent (record : SentRecord) : IsSend (.sent record)
  | rotated (epoch : Nat) : IsSend (.rotated epoch)

/-- What sending can change: numbers, keys, and what is in flight or queued. -/
structure SentOnly (before after : Session) : Prop where
  log : ∃ more, after.log = before.log ++ more ∧ ∀ effect ∈ more, effect.IsSend
  rest : after = { before with
    nextPacketNumber := after.nextPacketNumber
    crypto := after.crypto
    currentKeyEpoch := after.currentKeyEpoch
    unackedPackets := after.unackedPackets
    unpacedQueue := after.unpacedQueue
    log := after.log }

/-- A sending step changes no more than that. -/
theorem SendStep.sentOnly {before after : Session} (step : SendStep before after) :
    SentOnly before after := by
  cases step with
  | emit record => exact ⟨⟨[.sent record], rfl, by simpa using .sent record⟩, rfl⟩
  | emitLong record => exact ⟨⟨[.sent record], rfl, by simpa using .sent record⟩, rfl⟩
  | rotate => exact ⟨⟨[.rotated before.currentKeyEpoch], rfl, by simpa using .rotated _⟩, rfl⟩
  | skipNumber | setUnacked | setQueue => exact ⟨⟨[], by simp, by simp⟩, rfl⟩

/-- A sending step that stays in its key epoch moves no keys on. -/
theorem SendStep.rotations {before after : Session} (step : SendStep before after)
    (epoch : after.currentKeyEpoch = before.currentKeyEpoch) : after.rotations = before.rotations := by
  cases step with
  | rotate keys => exact absurd epoch (Nat.succ_ne_self _)
  | emit | emitLong => simp [Session.rotations, Effect.isRotation]
  | skipNumber | setUnacked | setQueue => rfl

/-- A run of sending steps changes no more than one does. -/
theorem SentOnly.of_run {before after : Session} (run : Relation.ReflTransGen SendStep before after) :
    SentOnly before after := by
  induction run with
  | refl => exact ⟨⟨[], by simp, by simp⟩, rfl⟩
  | tail _ step ih =>
    obtain ⟨⟨first, grown, firstSends⟩, kept⟩ := ih
    obtain ⟨⟨second, grownMore, secondSends⟩, keptMore⟩ := step.sentOnly
    refine ⟨⟨first ++ second, ?_, fun effect member => ?_⟩, ?_⟩
    · rw [grownMore, grown, List.append_assoc]
    · exact (List.mem_append.mp member).elim (firstSends effect) (secondSends effect)
    · rw [keptMore, kept]

omit [Hkdf] in
/-- Sending issues no payload. -/
theorem SentOnly.issued {before after : Session} (sent : SentOnly before after)
    {payload : UnackedPayload} (member : .issued payload ∈ after.log) :
    .issued payload ∈ before.log := by
  obtain ⟨more, grown, sends⟩ := sent.log
  rw [grown] at member
  rcases List.mem_append.mp member with old | new
  · exact old
  · cases sends _ new

/--
One micro-step of a session that hears packets from its peer.

Every handler of the actor is a sequence of these, so an invariant of them is one of the actor.
-/
inductive CoreStep (env : Environment) : Session → Session → Prop
  | setState {session : Session} (state : ConnectionState) (later : state ≠ .handshaking) :
      CoreStep env session { session with state := state }
  | send {before after : Session} (step : SendStep before after) : CoreStep env before after
  | issue {session : Session} (payload : UnackedPayload)
      (issuable : Issuable (env.allowed session) session payload) :
      CoreStep env session { session with log := session.log ++ [.issued payload] }
  | follow {session : Session} {crypto : CryptoContext} {record : SentRecord} {payload : Sealed}
      {pn : Nat} {plaintext : Bytes} (keys : session.crypto = some crypto) (arrived : env.heard record)
      (kind : record.packet.header.pType.isProtected = true)
      (body : record.packet.body = .encrypted payload)
      (opened : payload.openWith crypto.nextRxKey crypto.nextRxIv pn record.packet.header.encode =
        some plaintext) :
      CoreStep env session
        { session with
          crypto := some crypto.rotateKeys, currentKeyEpoch := session.currentKeyEpoch + 1 }
  | mark {session : Session} (pn : Nat) (fits : pn < u64Size) :
      CoreStep env session
        { session with
          replayWindow := session.replayWindow.markProcessed pn
          ackTracker := session.ackTracker.markProcessed pn }
  /-- An acknowledgment replaces what is left of the peer's connection window. -/
  | credit {session : Session} {largestAcked windowSize ackDelay : Nat} {ackRanges : List (Nat × Nat)}
      (frame : HeardFrame env.heard (.ack largestAcked windowSize ackDelay ackRanges)) :
      CoreStep env session { session with remoteWindow := windowSize }
  /-- The application opens a stream. -/
  | openLocal {session : Session} (streamType : StreamType) (now : Instant) (acts : env.acting)
      (absent : session.streams.find? session.nextStreamId = none)
      (fits : session.nextStreamId + 2 < u32Size) :
      CoreStep env session
        { session with
          streams := session.streams.insert session.nextStreamId
            (.new streamType session.config.initialStreamWindow session.peerInitialStreamWindow now)
          nextStreamId := session.nextStreamId + 2
          log := session.log ++ [.created session.nextStreamId] }
  /-- A frame for a stream not in the table opens it, and the application is handed it. -/
  | openPeer {session : Session} {id offset : Nat} {sentType : StreamType} {data : Bytes}
      (streamType : StreamType) (now : Instant) (absent : session.streams.find? id = none)
      (fits : id < u32Size) (parity : id % 2 = session.peerParity)
      (frame : HeardFrame env.heard (.stream id sentType offset data)) :
      CoreStep env session
        { session with
          streams := session.streams.insert id
            (.new streamType session.config.initialStreamWindow session.peerInitialStreamWindow now)
          log := session.log ++ [.created id, .surfaced id] }
  | remove {session : Session} {id : Nat} {stream : StreamState} {effect : Effect}
      (found : session.streams.find? id = some stream) (removal : Removal env id stream effect) :
      CoreStep env session
        { session with
          streams := session.streams.erase id, log := session.log ++ [effect] }
  | stream {session : Session} {id : Nat} {before after : StreamState} {effects : List Effect}
      (found : session.streams.find? id = some before)
      (step : StreamStep env.heard id before after effects)
      (reads : ∀ bytes, .reported id bytes ∈ effects → bytes = 0 ∨ env.allowed session (.read id bytes))
      (writes : ∀ payload, .issued payload ∈ effects → env.allowed session (.write id))
      (credit : (effects.flatMap (Effect.accepted id)).length ≤ session.remoteWindow) :
      CoreStep env session
        { session with
          streams := session.streams.insert id after
          -- Data that is accepted uses up the peer's connection window.
          remoteWindow := session.remoteWindow - (effects.flatMap (Effect.accepted id)).length
          log := session.log ++ effects }
  | handled {session : Session} (frame : Frame) (known : Bool) (arrived : HeardFrame env.heard frame)
      (settled : Settled session known frame) :
      CoreStep env session { session with log := session.log ++ [.handled frame known] }

omit [Hkdf] in
/-- Apart from sending, no step moves keys on by the count of packets. -/
theorem StreamStep.rotations {heard : SentRecord → Prop} {id : Nat} {before after : StreamState}
    {effects : List Effect} (step : StreamStep heard id before after effects) :
    effects.countP Effect.isRotation = 0 := by
  cases step with
  | forward prepared =>
    simp [Effect.isRotation, Function.comp_def]
  | accept | limit | raise | bookkeeping | grow => rfl

/-- A step that stays in its key epoch moves no keys on. -/
theorem CoreStep.rotations {env : Environment} {before after : Session}
    (step : CoreStep env before after) (epoch : after.currentKeyEpoch = before.currentKeyEpoch) :
    after.rotations = before.rotations := by
  cases step with
  | send step => exact step.rotations epoch
  | stream found step reads writes credit => simp [Session.rotations, step.rotations]
  | remove found removal => cases removal <;> simp [Session.rotations, Effect.isRotation]
  | issue | openLocal | openPeer | handled => simp [Session.rotations, Effect.isRotation]
  | setState | follow | mark | credit => rfl

/-- No step issues an Initial payload; that belongs to the handshake. -/
theorem CoreStep.initialFree {env : Environment} {before after : Session}
    (step : CoreStep env before after) (free : before.InitialFree) : after.InitialFree := by
  intro cookie member
  cases step with
  | send step => exact free cookie (step.sentOnly.issued member)
  | issue payload issuable =>
    rcases List.mem_append.mp member with old | new
    · exact free cookie old
    · cases List.mem_singleton.mp new
      exact issuable
  | stream found step reads writes credit =>
    rcases List.mem_append.mp member with old | new
    · exact free cookie old
    · cases step <;> simp at new
  | remove found removal =>
    rcases List.mem_append.mp member with old | new
    · exact free cookie old
    · cases removal <;> simp at new
  | openLocal | openPeer | handled =>
    rcases List.mem_append.mp member with old | new
    · exact free cookie old
    · simp at new
  | setState | follow | mark | credit => exact free cookie member

/-- No step forgets anything of the history. -/
theorem CoreStep.log_grows {env : Environment} {before after : Session}
    (step : CoreStep env before after) : before.log <+: after.log := by
  cases step with
  | send step =>
    obtain ⟨more, grown, -⟩ := step.sentOnly.log
    exact ⟨more, grown.symm⟩
  | setState | follow | mark | credit => exact List.prefix_rfl
  | issue | openLocal | openPeer | remove | stream | handled => exact List.prefix_append _ _

/-- What the handshake settles for the whole connection. -/
structure Session.Settles (before after : Session) : Prop where
  config : after.config = before.config
  role : after.isClient = before.isClient
  window : after.peerInitialStreamWindow = before.peerInitialStreamWindow

/-- No step changes it. -/
theorem CoreStep.constants {env : Environment} {before after : Session}
    (step : CoreStep env before after) : before.Settles after := by
  cases step with
  | send step => cases step <;> exact ⟨rfl, rfl, rfl⟩
  | _ => exact ⟨rfl, rfl, rfl⟩

section Surroundings

omit [Hkdf] in
/-- What is heard in narrower surroundings is heard in wider ones. -/
theorem HeardFrame.mono {heard wider : SentRecord → Prop}
    (more : ∀ record, heard record → wider record) {frame : Frame} (arrived : HeardFrame heard frame) :
    HeardFrame wider frame := by
  obtain ⟨record, sent, kind, member⟩ := arrived
  exact ⟨record, more record sent, kind, member⟩

omit [Hkdf] in
/-- A step of a stream stays one in wider surroundings. -/
theorem StreamStep.mono {heard wider : SentRecord → Prop} (more : ∀ record, heard record → wider record)
    {id : Nat} {before after : StreamState} {effects : List Effect}
    (step : StreamStep heard id before after effects) : StreamStep wider id before after effects := by
  cases step with
  | accept data open_ writable fits => exact .accept data open_ writable fits
  | limit maxData frame fits => exact .limit maxData (frame.mono more) fits
  | raise frame => exact .raise (frame.mono more)
  | forward prepared =>
    refine .forward ?_
    cases prepared with
    | wrote frame accepted => exact .wrote (frame.mono more) accepted
    | concluded frame above same => exact .concluded (frame.mono more) above same
    | consumed => exact .consumed _
  | bookkeeping kept => exact .bookkeeping kept
  | grow newWindow larger => exact .grow newWindow larger

/-- A step of the machine stays one in wider surroundings. -/
theorem CoreStep.mono {env wider : Environment} (more : ∀ record, env.heard record → wider.heard record)
    (asked : ∀ session request, env.allowed session request → wider.allowed session request)
    (acts : env.acting → wider.acting) {before after : Session} (step : CoreStep env before after) : CoreStep wider before after := by
  cases step with
  | setState state later => exact .setState state later
  | send step => exact .send step
  | issue payload issuable =>
    refine .issue payload ?_
    cases payload with
    | streamClose id finalSize => exact ⟨issuable.1, issuable.2.1, asked _ _ issuable.2.2⟩
    | resetStream id errorCode finalSize =>
      exact ⟨issuable.1, issuable.2.1, issuable.2.2.1, asked _ _ issuable.2.2.2⟩
    | _ => exact issuable
  | follow keys arrived kind body opened => exact .follow keys (more _ arrived) kind body opened
  | mark pn fits => exact .mark pn fits
  | credit frame => exact .credit (frame.mono more)
  | openLocal streamType now acting absent fits =>
    exact .openLocal streamType now (acts acting) absent fits
  | openPeer streamType now absent fits parity frame =>
    exact .openPeer streamType now absent fits parity (frame.mono more)
  | remove found removal =>
    refine .remove found ?_
    cases removal with
    | closed acting => exact .closed (acts acting)
    | reset frame above => exact .reset (frame.mono more) above
  | stream found step reads writes credit =>
    exact .stream found (step.mono more) (fun bytes member => (reads bytes member).imp id (asked _ _))
      (fun payload member => asked _ _ (writes payload member)) credit
  | handled frame known arrived settled => exact .handled frame known (arrived.mono more) settled

end Surroundings

end Zetta
