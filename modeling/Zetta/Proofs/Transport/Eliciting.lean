import Zetta.Proofs.State.PacketWindow
import Zetta.Proofs.Transport.Receipt
import Zetta.Proofs.Transport.Size
import Zetta.Transport.Sample

/-! Which packets make the receiver acknowledge them. -/

namespace Zetta

/-- Whether a frame acknowledges a packet number. -/
def Frame.Acknowledges (pn : Nat) : Frame → Prop
  | .ack _ _ _ ackRanges => ∃ range ∈ ackRanges, range.1 ≤ pn ∧ pn ≤ range.2
  | _ => False

/-- Whether a packet acknowledges a packet number. -/
def SentRecord.Acknowledges (pn : Nat) (record : SentRecord) : Prop :=
  ∃ frame ∈ record.packet.frames, frame.Acknowledges pn

namespace ZtConnectionActor

open Program

variable {CC : Type}

/--
What is left to do about the acknowledgment of a packet after it was processed: one is pending,
one was sent, or the connection is not active any more.
-/
def Acknowledged (before after : ZtConnectionActor CC) (pn : Nat) : Prop :=
  0 < after.pendingAcks ∨ after.state ≠ .active ∨
    ∃ records record, after.sentRecords = before.sentRecords ++ records ∧ record ∈ records ∧
      record.Acknowledges pn

section Verdict

/-- What a frame comes to, as far as acknowledgments go. -/
inductive AckVerdict where
  /-- The frame is handled or dropped without counting it. -/
  | ignored
  /-- The frame is counted, without a look at how many are pending. -/
  | counted
  /-- The frame is counted, and acknowledgments go out when enough are pending. -/
  | accepted
  | closing
  deriving DecidableEq, Repr

/-- The verdict on data for a stream in the table. -/
def dataVerdict (self : ZtConnectionActor CC) (stream : StreamState) (offset : Nat) (data : Bytes) :
    AckVerdict :=
  let readHead := stream.receiveBuffer.readHead
  if stream.receiveBuffer.allocatedSize = 0 ∧
      saturatingAdd self.totalAllocatedBufferSize stream.windowSize >
        self.config.maxConnectionBuffer then .closing
  else
    match checkedAdd offset data.length with
    | none => .ignored
    | some endOffset =>
      if stream.finalRxOffset.any fun finalSize => endOffset > finalSize then .closing
      else if endOffset ≤ readHead then .counted
      else if endOffset > saturatingAdd stream.expectedRxOffset stream.windowSize then .closing
      else if (stream.receiveBuffer.write (max offset readHead)
        (data.drop (readHead - offset))).isSome then .accepted
      else .closing

/-- The verdict on stream data, which may open the stream. -/
def streamVerdict (self : ZtConnectionActor CC) (id : Nat) (streamType : StreamType) (offset : Nat)
    (data : Bytes) : AckVerdict :=
  match streamType.forPeer with
  | none => .ignored
  | some localStreamType =>
    match self.streams.find? id with
    | some stream =>
      if stream.streamType ≠ localStreamType then .closing else self.dataVerdict stream offset data
    | none =>
      if id % 2 ≠ self.peerParity then .closing
      -- A stream beyond the limit is refused and nobody is told.
      else if self.openedStreams self.peerParity ≥ self.localMaxStreams then .ignored
      else if self.incomingStreams.tryReserve incomingStreamsCapacity then
        let stream := StreamState.new localStreamType self.config.initialStreamWindow
          self.peerInitialStreamWindow self.host.now
        (self.putStream id stream).dataVerdict stream offset data
      else .closing

/-- The verdict on a frame of a tracked payload. -/
def frameVerdict (self : ZtConnectionActor CC) : Frame → AckVerdict
  | .stream id streamType offset data => self.streamVerdict id streamType offset data
  | .streamClose id finalSize =>
    match self.streams.find? id with
    | none => .ignored
    | some stream =>
      if finalSize < stream.highestRxOffset ∨
        stream.finalRxOffset.any (fun existing => existing ≠ finalSize) then .closing
      else .ignored
  | .resetStream id _ finalSize =>
    match self.streams.find? id with
    | none => .ignored
    | some stream => if finalSize < stream.highestRxOffset then .closing else .ignored
  | _ => .ignored

/-- The frames of the payloads a sender keeps until they are acknowledged. -/
def isTrackedFrame : Frame → Bool
  | .stream .. | .streamClose .. | .maxStreamData .. | .resetStream .. | .datagram _ | .padding _ => true
  | _ => false

/-- Whether a packet from an address is answered with a path challenge. -/
def challenges (self : ZtConnectionActor CC) (addr : Address) : Bool :=
  self.addr ≠ addr ∧ self.pendingValidationAddr ≠ some addr

/--
Whether the acknowledgment of a packet gets away or stays pending when it is due at once: the
packet numbers have run out, sealing it fails, or the socket takes it and it lists the number.
-/
def AckDeparts (self : ZtConnectionActor CC) (addr : Address) (pn : Nat) : Prop :=
  -- A path challenge takes a packet number and an answer of the socket first.
  let earlier := if self.challenges addr then 1 else 0
  u64Size ≤ self.nextPacketNumber + earlier + 1 ∨
    (self.host.sends.drop earlier).head? = some .cryptoError ∨
    (self.host.sends.drop earlier).head? = some .sent ∧
      ∃ range ∈ (self.ackTracker.markProcessed pn).getAckRanges, range.1 ≤ pn ∧ pn ≤ range.2

/-- When a packet with a frame of a tracked payload is sure to be acknowledged. -/
def Elicits (self : ZtConnectionActor CC) (addr : Address) (pn : Nat) (frame : Frame) : Prop :=
  match self.frameVerdict frame with
  | .ignored => 0 < self.pendingAcks
  | .counted | .closing => True
  | .accepted => self.pendingAcks + 1 < 10 ∨ self.AckDeparts addr pn

end Verdict

section Quiet

/-- The actor without its streams, its history and what it hands to the application. -/
def bare (self : ZtConnectionActor CC) : ZtConnectionActor CC :=
  { self with streams := .empty, log := [], incomingStreams := .new, datagrams := .new }

/-- Streams and what the application sees may have changed, and nothing was sent. -/
structure Quiet (before after : ZtConnectionActor CC) : Prop where
  bare : after.bare = before.bare
  sent : after.sentRecords = before.sentRecords

namespace Quiet

variable {before middle after : ZtConnectionActor CC}

/-- Standing still is quiet. -/
theorem refl (self : ZtConnectionActor CC) : Quiet self self := ⟨rfl, rfl⟩

/-- One after the other. -/
theorem trans (first : Quiet before middle) (second : Quiet middle after) : Quiet before after :=
  ⟨second.bare.trans first.bare, second.sent.trans first.sent⟩

/-- Nothing about acknowledgments changed. -/
theorem acknowledged_iff (quiet : Quiet before after) (origin : ZtConnectionActor CC) (pn : Nat) :
    Acknowledged origin after pn ↔ Acknowledged origin before pn := by
  have pending := congrArg (fun self => self.pendingAcks) quiet.bare
  have state := congrArg (fun self => self.state) quiet.bare
  change after.pendingAcks = before.pendingAcks at pending
  change after.state = before.state at state
  unfold Acknowledged
  rw [pending, state, quiet.sent]

end Quiet

/-- Writing down what was handled is quiet. -/
theorem note_quiet (self : ZtConnectionActor CC) {effect : Effect} (other : effect.sent? = none) :
    Quiet self (self.note effect) := by
  refine ⟨rfl, ?_⟩
  simp [note, Session.sentRecords, other]

/-- Changing a stream is quiet. -/
theorem putStream_quiet (self : ZtConnectionActor CC) (id : Nat) (stream : StreamState) :
    Quiet self (self.putStream id stream) := ⟨rfl, rfl⟩

/-- Moving data to the application without a read is quiet and cannot fail. -/
theorem forwardStreamData_quiet [Hkdf] [HandshakeCrypto] (self : ZtConnectionActor CC) (id : Nat) :
    (exec (forwardStreamData id 0) self).1 = .ok () ∧
      Quiet self (exec (forwardStreamData id 0) self).2 := by
  unfold forwardStreamData
  rw [exec_bind_get]
  split
  · exact ⟨rfl, .refl self⟩
  · rename_i stream found
    -- Nothing was read, so the window is not reconsidered and the peer hears of no new limit.
    have consumed : stream.consume 0 = (0, stream.consume 0 |>.2) := by
      simp [StreamState.consume]
    have drained : ∃ after, self.drainStream id 0 stream = (0, none, after) ∧ Quiet self after := by
      unfold drainStream
      rw [consumed]
      refine ⟨_, rfl, rfl, ?_⟩
      simp [Session.sentRecords, Effect.sent?, List.filterMap_append]
    obtain ⟨after, same, quiet⟩ := drained
    rw [same]
    dsimp only
    rw [exec_bind_set, exec_bind_modify, exec_bind_get]
    dsimp only [Option.elim]
    split
    · exact ⟨rfl, quiet⟩
    · rw [if_neg (by simp)]
      exact ⟨rfl, quiet⟩

end Quiet

section Closing

variable [Hkdf]

/-- Counting a packet leaves the state of the connection alone. -/
theorem notePacketSent_state (self : ZtConnectionActor CC) :
    self.notePacketSent.state = self.state := by
  unfold notePacketSent
  split
  · rfl
  · split
    · rfl
    · dsimp only
      split <;> rfl

/-- Sending a packet leaves the state of the connection alone. -/
theorem sendDataPacket_state (self : ZtConnectionActor CC) (payload : UnackedPayload)
    (retries : Nat) : (exec (sendDataPacket payload retries) self).2.state = self.state := by
  unfold sendDataPacket
  refine numbered_ends (fun after => after.state = self.state) rfl fun numbered taken => ?_
  have kept : numbered.state = self.state := by rw [taken.session]
  rw [exec_bind_get]
  refine protect_ends (fun after => after.state = self.state) (fun _ _ _ _ => kept)
    fun crypto keys => ?_
  dsimp only
  -- Whether or not the socket takes the packet, only the history changes.
  have sent : ∀ packet epoch encryption,
      (exec (sendmsgVectored packet epoch) (numbered.encrypting encryption)).2.state =
        self.state := by
    intro packet epoch encryption
    rcases (sendmsgVectored_cases packet epoch (numbered.encrypting encryption)).2 with
      same | ⟨-, same⟩
    · exact (congrArg Session.state same).trans kept
    · exact (congrArg Session.state same).trans kept
  refine ends_bind (fun after : ZtConnectionActor CC => after.state = self.state) (sent _ _ _)
    fun _ _ => ?_
  rw [exec_modify]
  exact (notePacketSent_state _).trans (sent _ _ _)

variable [HandshakeCrypto]

/-- Closing the connection fails with the error given and leaves the connection closing. -/
theorem closeWith_state (self : ZtConnectionActor CC) (error : ZtError) :
    (exec (closeWith error) self).1 = .error error ∧
      (exec (closeWith error) self).2.state = .closing := by
  refine ⟨rfl, ?_⟩
  show (exec (initiateClose : Act CC Unit) self).2.state = .closing
  unfold initiateClose sendPayload retransmitPayload
  rw [exec_bind_modify, exec_bind_modify, exec_bind_attempt]
  -- The close goes out in a packet, or waits at the front of the queue.
  split
  · exact sendDataPacket_state _ .close 0
  · exact sendDataPacket_state _ .close 0

end Closing

section Outcome

variable [Hkdf] [HandshakeCrypto]

/-- What a verdict promises about a handler's result. -/
def Outcome (self : ZtConnectionActor CC) (result : Except ZtError Unit × ZtConnectionActor CC) :
    AckVerdict → Prop
  | .ignored => Quiet self result.2
  | .counted => result.1 = .ok () ∧ ∃ middle, Quiet self middle ∧
      result.2 = { middle with pendingAcks := middle.pendingAcks + 1 }
  | .accepted => ∃ middle, Quiet self middle ∧ result = exec acknowledge middle
  | .closing => (∃ error, result.1 = .error error) ∧ result.2.state = .closing

omit [HandshakeCrypto] in
/-- The same after a quiet change. -/
theorem Outcome.after {first second : ZtConnectionActor CC} {verdict : AckVerdict}
    {result : Except ZtError Unit × ZtConnectionActor CC} (outcome : Outcome second result verdict)
    (quiet : Quiet first second) : Outcome first result verdict := by
  cases verdict with
  | ignored => exact quiet.trans outcome
  | counted =>
    obtain ⟨succeeded, middle, later, same⟩ := outcome
    exact ⟨succeeded, middle, quiet.trans later, same⟩
  | accepted =>
    obtain ⟨middle, later, same⟩ := outcome
    exact ⟨middle, quiet.trans later, same⟩
  | closing => exact outcome

/-- Closing the connection is what a closing verdict promises. -/
theorem Outcome.closed (self origin : ZtConnectionActor CC) (error : ZtError) :
    Outcome origin (exec (closeWith error) self) .closing :=
  ⟨⟨error, (closeWith_state self error).1⟩, (closeWith_state self error).2⟩

/-- Data for a stream in the table ends as its verdict says. -/
theorem receiveStreamData_outcome {self : ZtConnectionActor CC} (id offset : Nat) (data : Bytes)
    (stream : StreamState) :
    Outcome self (exec (receiveStreamData id offset data stream) self)
      (self.dataVerdict stream offset data) := by
  unfold receiveStreamData dataVerdict
  rw [exec_bind_get]
  dsimp only
  -- The checks of the handler are those of the verdict, in the same order.
  by_cases full : stream.receiveBuffer.allocatedSize = 0 ∧
      saturatingAdd self.totalAllocatedBufferSize stream.windowSize > self.config.maxConnectionBuffer
  · rw [if_pos full, if_pos full]
    exact .closed _ _ _
  rw [if_neg full, if_neg full]
  cases ends : checkedAdd offset data.length with
  | none => exact Quiet.refl self
  | some endOffset =>
    dsimp only
    by_cases beyond : (stream.finalRxOffset.any fun finalSize => endOffset > finalSize) = true
    · rw [if_pos beyond, if_pos beyond]
      exact .closed _ _ _
    rw [if_neg beyond, if_neg beyond, exec_bind_set]
    by_cases passed : endOffset ≤ stream.receiveBuffer.readHead
    · rw [if_pos passed, if_pos passed]
      exact ⟨rfl, _, putStream_quiet self id _, rfl⟩
    rw [if_neg passed, if_neg passed]
    by_cases limited : endOffset > saturatingAdd stream.expectedRxOffset stream.windowSize
    · rw [if_pos limited, if_pos limited]
      exact .closed _ _ _
    rw [if_neg limited, if_neg limited]
    cases written : stream.receiveBuffer.write (max offset stream.receiveBuffer.readHead)
      (data.drop (stream.receiveBuffer.readHead - offset)) with
    | none => exact .closed _ _ _
    | some answer =>
      dsimp only
      rw [exec_bind_modify]
      -- The data is stored and moved on, then the packet is counted.
      have stored := (putStream_quiet self id { stream with
        highestRxOffset := max stream.highestRxOffset endOffset }).trans (putStream_quiet _ id
          { stream with
            highestRxOffset := max stream.highestRxOffset endOffset
            receiveBuffer := answer.2
            bufferedBytes := saturatingAdd stream.bufferedBytes answer.1 })
      obtain ⟨succeeded, quiet⟩ := forwardStreamData_quiet _ id
      exact ⟨_, stored.trans quiet, exec_bind_ok (Prod.ext succeeded rfl)⟩

/-- Stream data ends as its verdict says, whether or not it opens the stream. -/
theorem handleStream_outcome (self : ZtConnectionActor CC) (id : Nat) (streamType : StreamType)
    (offset : Nat) (data : Bytes) :
    Outcome self (exec (handleStream id streamType offset data) self)
      (self.streamVerdict id streamType offset data) := by
  rw [handleStream_eq]
  unfold streamVerdict
  cases streamType.forPeer with
  | none => exact Quiet.refl self
  | some localStreamType =>
    cases self.streams.find? id with
    | some stream =>
      dsimp only
      split
      · exact .closed _ _ _
      · exact receiveStreamData_outcome id offset data stream
    | none =>
      dsimp only
      split
      · exact .closed _ _ _
      split
      · exact Quiet.refl self
      split
      · -- The new stream is announced to the application, then it takes the data.
        have opened : Quiet self (self.openedPeer id localStreamType) :=
          ⟨rfl, ((note_quiet self rfl).trans (note_quiet _ rfl)).sent⟩
        exact (receiveStreamData_outcome id offset data _).after opened
      · exact .closed _ _ _

variable [CongestionController CC]

/-- A frame of a tracked payload ends as its verdict says. -/
theorem handleFrame_outcome (self : ZtConnectionActor CC) {frame : Frame}
    (tracked : isTrackedFrame frame = true) (addr : Address) :
    Outcome self (exec (handleFrame frame addr) self) (self.frameVerdict frame) := by
  cases frame with
  | stream id streamType offset data => exact handleStream_outcome self id streamType offset data
  | streamClose id finalSize =>
    unfold frameVerdict handleFrame handleStreamClose
    dsimp only
    rw [exec_bind_get]
    cases found : self.streams.find? id with
    | none => exact Quiet.refl self
    | some stream =>
      dsimp only
      split
      · exact .closed _ _ _
      · -- Data that was waiting for the final size moves on.
        rw [exec_bind_set]
        exact (putStream_quiet self id _).trans (forwardStreamData_quiet _ id).2
  | resetStream id errorCode finalSize =>
    unfold frameVerdict handleFrame handleResetStream
    dsimp only
    rw [exec_bind_get]
    cases found : self.streams.find? id with
    | none => exact Quiet.refl self
    | some stream =>
      dsimp only
      split
      · exact .closed _ _ _
      · exact ⟨rfl, (note_quiet self rfl).sent⟩
  | maxStreamData id maxData =>
    show Quiet self (self.handleMaxStreamData id maxData)
    unfold handleMaxStreamData
    split
    · exact .refl self
    · exact putStream_quiet self id _
  | datagram data =>
    show Quiet self (if self.datagrams.tryReserve datagramCapacity = true then
      { self with datagrams := self.datagrams.send data } else self)
    split
    · exact ⟨rfl, rfl⟩
    · exact .refl self
  | padding len => exact Quiet.refl self
  | _ => cases tracked

/-- Padding changes nothing but the history. -/
theorem handleFrames_padding (addr : Address) {frames : List Frame}
    (padding : ∀ frame ∈ frames, frame.isPadding = true) (self : ZtConnectionActor CC) :
    Quiet self (exec (handleFrames addr frames) self).2 := by
  induction frames generalizing self with
  | nil => exact .refl self
  | cons frame rest ih =>
    have first := padding frame List.mem_cons_self
    cases frame with
    | padding len =>
      refine (note_quiet self rfl).trans (ih (fun other member =>
        padding other (List.mem_cons_of_mem _ member)) (self.note (.handled (.padding len) false)))
    | _ => cases first

/-- A packet with one frame and padding leaves the frame's own outcome, up to quiet changes. -/
theorem handleFrames_tracked (self : ZtConnectionActor CC) {frame : Frame} {rest : List Frame}
    (padding : ∀ other ∈ rest, other.isPadding = true) (addr : Address) :
    Quiet (exec (handleFrame frame addr) self).2 (exec (handleFrames addr (frame :: rest)) self).2 := by
  unfold handleFrames
  rw [exec_bind_get, exec_bind]
  cases handled : exec (handleFrame frame addr) self with
  | mk result after =>
    cases result with
    | error error => exact .refl after
    | ok answer =>
      dsimp only
      rw [exec_bind_modify]
      exact (note_quiet after rfl).trans (handleFrames_padding addr padding _)

end Outcome

section Departure

/-- The actor without what sending a control packet changes. -/
def outline (self : ZtConnectionActor CC) : ZtConnectionActor CC :=
  { self with
    nextPacketNumber := 0
    log := []
    addr := 0
    bytesSent := 0
    socketBlocked := false
    pendingValidationAddr := none
    pathValidationToken := none
    pathValidationSentAt := none
    pathValidationRetries := 0
    encryptions := []
    host := { self.host with sends := [] } }

/-- An active connection gives a packet to the socket, which takes it or not. -/
theorem sendmsgVectored_active {self : ZtConnectionActor CC} (active : self.state = .active)
    (packet : Packet) (epoch : Nat) :
    (exec (sendmsgVectored packet epoch) self).2.outline = self.outline ∧
      (exec (sendmsgVectored packet epoch) self).2.nextPacketNumber = self.nextPacketNumber ∧
      (exec (sendmsgVectored packet epoch) self).2.host.sends = self.host.sends.drop 1 ∧
      ((exec (sendmsgVectored packet epoch) self).1 = .ok () ∧
          self.host.sends.head? = some .sent ∧
          (exec (sendmsgVectored packet epoch) self).2.sentRecords =
            self.sentRecords ++ [⟨packet, epoch, self.addr⟩] ∨
        (∃ error, (exec (sendmsgVectored packet epoch) self).1 = .error error) ∧
          (packet.size ≤ maxUdpPayload → self.host.sends.head? ≠ some .sent) ∧
          (exec (sendmsgVectored packet epoch) self).2.sentRecords = self.sentRecords) := by
  have handed := self.sendmsgVectored_handed packet epoch
  generalize exec (sendmsgVectored packet epoch) self = result at handed ⊢
  cases handed with
  | limited state => exact absurd (state.symm.trans active) nofun
  | taken answers =>
    refine ⟨rfl, rfl, by rw [answers]; rfl, .inl ⟨rfl, by rw [answers]; rfl, ?_⟩⟩
    simp [note, Session.sentRecords, Effect.sent?, List.filterMap_append]
  | refused blocked fault =>
    exact ⟨rfl, rfl, rfl, .inr ⟨⟨_, rfl⟩, fun small => fault.resolve_right (not_lt.mpr small), rfl⟩⟩

/-- A sealed packet with one frame and padding carries just that frame. -/
theorem sealedPacket_acknowledges (crypto : CryptoContext) (header : PacketHeader) {frame : Frame}
    (words : frame.Words) (pad epoch : Nat) (destination : Address) (pn : Nat) :
    SentRecord.Acknowledges pn ⟨sealedPacket crypto header (frame.encode ++ List.replicate pad 0),
      epoch, destination⟩ ↔ frame.onWire.Acknowledges pn := by
  have frames : (sealedPacket crypto header (frame.encode ++ List.replicate pad 0)).frames =
      frame.onWire :: if pad = 0 then [] else [.padding pad] := Frame.decodeFrames_encode words pad
  unfold SentRecord.Acknowledges
  rw [frames]
  constructor
  · rintro ⟨found, member, covers⟩
    rcases List.mem_cons.mp member with rfl | rest
    · exact covers
    · -- Padding acknowledges nothing.
      split at rest
      · cases rest
      · rw [List.mem_singleton.mp rest] at covers
        exact covers.elim
  · intro covers
    exact ⟨_, List.mem_cons_self, covers⟩

/-- An acknowledgment always fits a datagram. -/
theorem ackPacket_size {self : ZtConnectionActor CC} (dcid : self.dcid.length ≤ 255)
    (crypto : CryptoContext) (pn : Nat) : (self.ackPacket crypto pn).size ≤ maxUdpPayload := by
  have size := self.ackPacket_size_eq crypto pn
  have number := (self.pnLen_bounds pn).2
  have delay := (putVarint_length_bounds self.ackDelay).2
  simp only [maxUdpPayload]
  omega

/-- Counting a packet sends nothing. -/
theorem notePacketSent_sentRecords [Hkdf] (self : ZtConnectionActor CC) :
    self.notePacketSent.sentRecords = self.sentRecords := by
  unfold notePacketSent
  split
  · rfl
  · split
    · rfl
    · dsimp only
      split
      · exact (note_quiet self rfl).sent
      · rfl

/-- With nothing pending in an active connection, the acknowledgment must have been sent. -/
theorem acknowledged_sent_iff {origin after : ZtConnectionActor CC} {pn : Nat}
    (pending : after.pendingAcks = 0) (active : after.state = .active) {records : List SentRecord}
    (since : after.sentRecords = origin.sentRecords ++ records) :
    Acknowledged origin after pn ↔ ∃ record ∈ records, record.Acknowledges pn := by
  unfold Acknowledged
  rw [pending, active]
  constructor
  · rintro (some | other | ⟨others, record, same, member, covers⟩)
    · omega
    · exact absurd rfl other
    · rw [List.append_cancel_left (same.symm.trans since)] at member
      exact ⟨record, member, covers⟩
  · rintro ⟨record, member, covers⟩
    exact .inr (.inr ⟨records, record, since, member, covers⟩)

/--
Flushing leaves the acknowledgment pending when it gets no number or is not sealed; otherwise it
must be taken by the socket and list the number.
-/
theorem flushAcks_acknowledged_iff [Hkdf] {origin self : ZtConnectionActor CC}
    {crypto : CryptoContext} {pn : Nat} (pending : 0 < self.pendingAcks)
    (active : self.state = .active) (keys : self.crypto = some crypto)
    (dcid : self.dcid.length ≤ 255)
    (fits : ∀ highest, self.ackTracker.highestProcessed = some highest → highest < u64Size)
    {records : List SentRecord} (since : self.sentRecords = origin.sentRecords ++ records)
    (others : ∀ record ∈ records, ¬ record.Acknowledges pn) :
    Acknowledged origin (exec flushAcks self).2 pn ↔
      u64Size ≤ self.nextPacketNumber + 1 ∨ self.host.sends.head? = some .cryptoError ∨
        self.host.sends.head? = some .sent ∧
          ∃ range ∈ self.ackTracker.getAckRanges, range.1 ≤ pn ∧ pn ≤ range.2 := by
  unfold flushAcks
  rw [exec_bind_get, if_neg (by omega)]
  rcases self.getNextPacketNumber_exact with ⟨full, failed⟩ | ⟨room, taken⟩
  · -- Without a number the acknowledgment stays pending.
    rw [exec_bind_error failed]
    exact ⟨fun _ => .inl full, fun _ => .inl pending⟩
  have full := not_le.mpr room
  rw [exec_bind_ok taken, exec_bind_modify, exec_bind_get]
  generalize numbered : refreshLocalWindow
    ({ self with nextPacketNumber := self.nextPacketNumber + 1 } : ZtConnectionActor CC) = ready
  have same : ready.pendingAcks = self.pendingAcks ∧ ready.state = .active ∧
      ready.crypto = some crypto ∧ ready.dcid.length ≤ 255 ∧ ready.ackTracker = self.ackTracker ∧
      ready.host = self.host ∧ ready.sentRecords = self.sentRecords := by
    subst numbered
    exact ⟨rfl, active, keys, dcid, rfl, rfl, rfl⟩
  obtain ⟨kept, open_, keyed, short, tracker, host, sent⟩ := same
  rcases protectPacket_eq keyed (ready.shortHeader .data self.nextPacketNumber)
    (padShort (ready.shortHeader .data self.nextPacketNumber).pnLen ready.ackFrame.encode) with
    ⟨error, rest, refused, failed⟩ | ⟨answers, sealed⟩
  · -- Sealing failed, so the acknowledgment stays pending as well.
    rw [exec_bind_error failed]
    rw [host] at refused
    exact ⟨fun _ => .inr (.inl (by rw [refused]; rfl)), fun _ => .inl (by rw [← kept] at pending; exact pending)⟩
  rw [exec_bind_ok sealed]
  dsimp only
  rw [exec_bind_attempt]
  -- Writing down the call of the packet protection changes nothing the socket looks at.
  generalize noted : ready.encrypting _ = sender
  have plain : sender.state = .active ∧ sender.host = ready.host ∧
      sender.sentRecords = ready.sentRecords := by
    subst noted
    exact ⟨open_, rfl, rfl⟩
  rw [← plain.2.1] at host answers
  rw [← plain.2.2] at sent
  obtain ⟨outline, -, -, answer⟩ := sendmsgVectored_active plain.1
    (sealedPacket crypto (ready.shortHeader .data self.nextPacketNumber)
      (padShort (ready.shortHeader .data self.nextPacketNumber).pnLen ready.ackFrame.encode))
    crypto.epoch
  have later := congrArg (fun self => self.state) outline
  change (exec (sendmsgVectored _ _) sender).2.state = sender.state at later
  rw [plain.1] at later
  -- The packet carries the acknowledgment and nothing else.
  have content : ∀ destination, SentRecord.Acknowledges pn ⟨sealedPacket crypto
      (ready.shortHeader .data self.nextPacketNumber)
      (padShort (ready.shortHeader .data self.nextPacketNumber).pnLen ready.ackFrame.encode),
      crypto.epoch, destination⟩ ↔
      ∃ range ∈ self.ackTracker.getAckRanges, range.1 ≤ pn ∧ pn ≤ range.2 := by
    intro destination
    obtain ⟨pad, padded⟩ := padShort_eq (ready.shortHeader .data self.nextPacketNumber).pnLen
      ready.ackFrame.encode
    have control : ready.ackFrame.IsControl := by
      apply ackFrame_control
      rw [tracker]
      exact fits
    have words : ready.ackFrame.Words := control
    rw [padded, sealedPacket_acknowledges crypto _ words]
    have few : ready.getAckRanges.length ≤ 128 := ready.ackTracker.getAckRanges_length
    simp only [ackFrame, Frame.onWire, Frame.Acknowledges, List.take_of_length_le few]
    rw [getAckRanges, tracker]
  rcases answer with ⟨succeeded, taken, logged⟩ | ⟨⟨error, failed⟩, untaken, logged⟩
  · rw [succeeded]
    dsimp only
    rw [exec_bind_modify, exec_modify]
    -- The packet went out and nothing is pending any more.
    rw [sent, since, List.append_assoc] at logged
    have recorded := (notePacketSent_sentRecords _).trans logged
    refine Iff.trans (acknowledged_sent_iff ?_ ?_ recorded) ?_
    · rfl
    · exact (notePacketSent_state _).trans later
    rw [host] at taken
    constructor
    · rintro ⟨record, member, covers⟩
      rcases List.mem_append.mp member with old | new
      · exact absurd covers (others record old)
      · rw [List.mem_singleton.mp new] at covers
        exact .inr (.inr ⟨taken, (content _).mp covers⟩)
    · rintro (none | refused | ⟨-, covers⟩)
      · exact absurd none full
      · rw [taken] at refused
        cases refused
      · exact ⟨_, List.mem_append_right _ List.mem_cons_self, (content _).mpr covers⟩
  · rw [failed]
    dsimp only
    rw [exec_modify]
    -- The socket refused the packet, and the count was cleared all the same.
    have recorded := logged.trans (sent.trans since)
    refine Iff.trans (acknowledged_sent_iff ?_ ?_ recorded) ?_
    · rfl
    · exact later
    have refused := untaken (ackPacket_size short crypto _)
    rw [host] at refused answers
    constructor
    · rintro ⟨record, member, covers⟩
      exact absurd covers (others record member)
    · rintro (none | broken | ⟨taken, -⟩)
      · exact absurd none full
      · exact absurd broken answers
      · exact absurd taken refused

/--
What sending up to one control packet that acknowledges nothing has changed: a packet number and
an answer of the socket are used up, unless the numbers have run out.
-/
structure Aside (before after : ZtConnectionActor CC) (packets pn : Nat) : Prop where
  outline : after.outline = before.outline
  used : u64Size ≤ before.nextPacketNumber + 1 ∧
      after.nextPacketNumber = before.nextPacketNumber ∨
    after.nextPacketNumber = before.nextPacketNumber + packets ∧
      after.host.sends = before.host.sends.drop packets
  sent : ∃ records, after.sentRecords = before.sentRecords ++ records ∧
    ∀ record ∈ records, ¬ record.Acknowledges pn

/-- Changes that sending does not look at use up nothing. -/
theorem Aside.none {before after : ZtConnectionActor CC} (outline : after.outline = before.outline)
    (number : after.nextPacketNumber = before.nextPacketNumber)
    (sends : after.host.sends = before.host.sends) (log : after.log = before.log) (pn : Nat) :
    Aside before after 0 pn where
  outline := outline
  used := .inr ⟨number, sends⟩
  sent := ⟨[], by simp [Session.sentRecords, log], by simp⟩

/-- One control frame sent from an active connection. -/
theorem sendFrameImmediate_aside [Hkdf] {self : ZtConnectionActor CC} {crypto : CryptoContext}
    (active : self.state = .active) (keys : self.crypto = some crypto) {frame : Frame}
    (words : frame.Words) {pn : Nat} (silent : ¬ frame.onWire.Acknowledges pn) (toAddr : Address) :
    Aside self (exec (sendFrameImmediate frame toAddr) self).2 1 pn := by
  unfold sendFrameImmediate
  rcases self.getNextPacketNumber_exact with ⟨full, failed⟩ | ⟨-, taken⟩
  · rw [exec_bind_error failed]
    exact ⟨rfl, .inl ⟨full, rfl⟩, [], by simp, by simp⟩
  rw [exec_bind_ok taken, exec_bind_get]
  generalize numbered : ({ self with nextPacketNumber := self.nextPacketNumber + 1 } :
    ZtConnectionActor CC) = ready
  have keyed : ready.crypto = some crypto := by subst numbered; exact keys
  rcases protectPacket_eq keyed (ready.shortHeader .data self.nextPacketNumber)
    (padShort (ready.shortHeader .data self.nextPacketNumber).pnLen frame.encode) with
    ⟨error, rest, answers, failed⟩ | ⟨-, sealed⟩
  · -- The host's refusal to seal is an answer used up.
    rw [exec_bind_error failed]
    subst numbered
    have used : rest = self.host.sends.drop 1 := (congrArg (List.drop 1) answers).symm
    exact ⟨rfl, .inr ⟨rfl, used⟩, [], (List.append_nil _).symm, by simp⟩
  rw [exec_bind_ok sealed]
  dsimp only
  rw [exec_bind_modify, exec_bind_attempt, exec_bind_modify]
  obtain ⟨pad, padded⟩ := padShort_eq (ready.shortHeader .data self.nextPacketNumber).pnLen frame.encode
  have quiet := fun destination => (sealedPacket_acknowledges crypto
    (ready.shortHeader .data self.nextPacketNumber) words pad crypto.epoch destination pn).not.mpr silent
  rw [padded]
  generalize sealedPacket crypto (ready.shortHeader .data self.nextPacketNumber) _ = packet at quiet ⊢
  generalize sealing crypto _ _ = encryption
  generalize moved : ({ ready.encrypting encryption with addr := toAddr } : ZtConnectionActor CC) = sender
  have open_ : sender.state = .active := by subst moved numbered; exact active
  have before : sender.sentRecords = self.sentRecords := by subst moved numbered; rfl
  obtain ⟨outline, number, answers, sent⟩ := sendmsgVectored_active open_ packet crypto.epoch
  have logged : ∃ records, (exec (sendmsgVectored packet crypto.epoch) sender).2.sentRecords =
      self.sentRecords ++ records ∧ ∀ record ∈ records, ¬ record.Acknowledges pn := by
    rw [before] at sent
    rcases sent with ⟨-, -, taken⟩ | ⟨-, -, kept⟩
    · exact ⟨_, taken, List.forall_mem_singleton.mpr (quiet _)⟩
    · exact ⟨[], by rw [kept, List.append_nil], by simp⟩
  generalize exec (sendmsgVectored packet crypto.epoch) sender = result at outline number answers logged ⊢
  -- Whatever the socket said, the address is put back.
  have settled : Aside self { result.2 with addr := ready.addr } 1 pn := by
    subst moved numbered
    exact ⟨outline, .inr ⟨number, answers⟩, logged⟩
  obtain ⟨verdict, after⟩ := result
  cases verdict with
  | ok answer => exact settled
  | error error => exact settled

/-- A packet from a new address is answered with a challenge, which acknowledges nothing. -/
theorem validatePath_aside [Hkdf] {self : ZtConnectionActor CC} {crypto : CryptoContext}
    (active : self.state = .active) (keys : self.crypto = some crypto) (addr : Address) (pn : Nat) :
    Aside self (exec (validatePath addr) self).2 (if self.challenges addr then 1 else 0) pn := by
  unfold validatePath
  rw [exec_bind_get]
  by_cases same : self.addr = addr
  · have quiet : self.challenges addr = false := by simp [challenges, same]
    rw [if_neg (by simp [same]), if_neg (by simp [active]), quiet]
    exact .none rfl rfl rfl rfl pn
  · rw [if_pos ⟨active, same⟩]
    by_cases waiting : self.pendingValidationAddr ≠ some addr
    · have challenged : self.challenges addr = true := by simp [challenges, same, waiting]
      rw [if_pos waiting, challenged, exec_bind_set, exec_bind_attempt]
      -- The challenge is sent from the state that remembers it.
      have words : (Frame.pathChallenge (beBytes 8 self.host.token)).Words := beBytes_length 8 _
      have silent : ¬ (Frame.pathChallenge (beBytes 8 self.host.token)).onWire.Acknowledges pn := id
      generalize remembered : ({ self with
        pendingValidationAddr := some addr
        pathValidationToken := some ⟨beBytes 8 self.host.token, beBytes_length 8 _⟩
        pathValidationSentAt := some self.host.now
        pathValidationRetries := 0 } : ZtConnectionActor CC) = challenger
      have open_ : challenger.state = .active := by subst remembered; exact active
      have keyed : challenger.crypto = some crypto := by subst remembered; exact keys
      have sent := sendFrameImmediate_aside open_ keyed words silent addr
      subst remembered
      exact ⟨sent.outline, sent.used, sent.sent⟩
    · have quiet : self.challenges addr = false := by simpa [challenges, same] using waiting
      rw [if_neg waiting, quiet]
      exact .none rfl rfl rfl rfl pn

end Departure

section Receipt

/-- Verdicts depend on the streams, the limits on them and the clock. -/
theorem frameVerdict_congr {left right : ZtConnectionActor CC}
    (streams : left.streams = right.streams) (config : left.config = right.config)
    (role : left.isClient = right.isClient) (limit : left.localMaxStreams = right.localMaxStreams)
    (incoming : left.incomingStreams = right.incomingStreams)
    (window : left.peerInitialStreamWindow = right.peerInitialStreamWindow)
    (now : left.host.now = right.host.now) (frame : Frame) :
    left.frameVerdict frame = right.frameVerdict frame := by
  have data : ∀ (first second : ZtConnectionActor CC), first.streams = second.streams →
      first.config = second.config → ∀ stream offset bytes,
      first.dataVerdict stream offset bytes = second.dataVerdict stream offset bytes := by
    intro first second table settings stream offset bytes
    unfold dataVerdict totalAllocatedBufferSize
    rw [table, settings]
  cases frame with
  | stream id streamType offset bytes =>
    unfold frameVerdict streamVerdict
    dsimp only
    unfold openedStreams Session.peerParity
    rw [streams, config, role, limit, incoming, window, now]
    -- Only the verdict on the data itself is left to compare.
    rw [show left.dataVerdict = right.dataVerdict by
      funext stream offset bytes
      exact data left right streams config stream offset bytes]
    congr 1
    funext localStreamType
    split
    · rfl
    · rw [data (left.putStream id _) (right.putStream id _) (by rw [putStream, putStream, streams])
        config]
  | streamClose id finalSize =>
    unfold frameVerdict
    rw [streams]
  | resetStream id errorCode finalSize =>
    unfold frameVerdict
    rw [streams]
  | _ => rfl

/-- With an acknowledgment due at once, its departure is all that matters. -/
theorem departs_iff {self after : ZtConnectionActor CC} {addr : Address} {pn : Nat}
    (aside : Aside self after (if self.challenges addr then 1 else 0) pn) :
    (u64Size ≤ after.nextPacketNumber + 1 ∨ after.host.sends.head? = some .cryptoError ∨
      after.host.sends.head? = some .sent ∧
        ∃ range ∈ (self.ackTracker.markProcessed pn).getAckRanges, range.1 ≤ pn ∧ pn ≤ range.2) ↔
      self.AckDeparts addr pn := by
  unfold AckDeparts
  rcases aside.used with ⟨full, same⟩ | ⟨number, sends⟩
  · -- Without numbers left neither the challenge nor the acknowledgment is built.
    rw [same]
    exact ⟨fun _ => .inl (by omega), fun _ => .inl full⟩
  · rw [number, sends]

variable [Hkdf] [HandshakeCrypto] [CongestionController CC]

omit [Hkdf] [HandshakeCrypto] [CongestionController CC] in
/-- Marking a number that fits a word keeps the highest one inside a word. -/
theorem markProcessed_fits {window : PacketWindow} {pn : Nat}
    (highest : ∀ top, window.highestProcessed = some top → top < u64Size) (number : pn < u64Size)
    (top : Nat) (seen : (window.markProcessed pn).highestProcessed = some top) : top < u64Size := by
  rw [PacketWindow.markProcessed_highest] at seen
  cases earlier : window.highestProcessed with
  | none =>
    rw [earlier] at seen
    cases seen
    exact number
  | some old =>
    rw [earlier] at seen
    cases seen
    exact max_lt (highest old earlier) number

/-- An opened packet with a frame of a tracked payload is acknowledged under exactly this condition. -/
theorem handleOpened_acknowledged_iff {self : ZtConnectionActor CC} {crypto : CryptoContext}
    {pn : Nat} {frame : Frame} {rest : List Frame} (active : self.state = .active)
    (keys : self.crypto = some crypto) (dcid : self.dcid.length ≤ 255)
    (highest : ∀ top, self.ackTracker.highestProcessed = some top → top < u64Size)
    (number : pn < u64Size) (tracked : isTrackedFrame frame = true)
    (padding : ∀ other ∈ rest, other.isPadding = true) (addr : Address) :
    Acknowledged self (exec (handleOpened pn (frame :: rest) addr) self).2 pn ↔
      self.Elicits addr pn frame := by
  have aside := validatePath_aside active keys addr pn
  unfold handleOpened
  rw [exec_bind_ok (validatePath_ok self addr), exec_bind_modify]
  generalize (exec (validatePath addr) self).2 = checked at aside
  -- What the challenge leaves alone is read off the outline.
  have pending := congrArg (fun actor => actor.pendingAcks) aside.outline
  have state := congrArg (fun actor => actor.state) aside.outline
  have tracker := congrArg (fun actor => actor.ackTracker) aside.outline
  have cids := congrArg (fun actor => actor.dcid) aside.outline
  have secrets := congrArg (fun actor => actor.crypto) aside.outline
  change checked.pendingAcks = self.pendingAcks at pending
  change checked.state = self.state at state
  change checked.ackTracker = self.ackTracker at tracker
  change checked.dcid = self.dcid at cids
  change checked.crypto = self.crypto at secrets
  have verdict : (checked.markProcessed pn).frameVerdict frame = self.frameVerdict frame := by
    apply frameVerdict_congr
    · exact congrArg (fun actor => actor.streams) aside.outline
    · exact congrArg (fun actor => actor.config) aside.outline
    · exact congrArg (fun actor => actor.isClient) aside.outline
    · exact congrArg (fun actor => actor.localMaxStreams) aside.outline
    · exact congrArg (fun actor => actor.incomingStreams) aside.outline
    · exact congrArg (fun actor => actor.peerInitialStreamWindow) aside.outline
    · exact congrArg (fun actor => actor.host.now) aside.outline
  obtain ⟨records, since, others⟩ := aside.sent
  have outcome := handleFrame_outcome (checked.markProcessed pn) tracked addr
  rw [(handleFrames_tracked _ padding addr).acknowledged_iff]
  rw [verdict] at outcome
  unfold Elicits
  generalize exec (handleFrame frame addr) (checked.markProcessed pn) = result at outcome
  cases judged : self.frameVerdict frame with
  | ignored =>
    rw [judged] at outcome
    have quiet : Quiet (checked.markProcessed pn) result.2 := outcome
    rw [quiet.acknowledged_iff]
    dsimp only
    by_cases waiting : 0 < self.pendingAcks
    · exact ⟨fun _ => waiting, fun _ => .inl (by rw [← pending] at waiting; exact waiting)⟩
    · -- Nothing was pending, and only the challenge was sent.
      have none : (checked.markProcessed pn).pendingAcks = 0 := by
        show checked.pendingAcks = 0
        omega
      rw [acknowledged_sent_iff none (state.trans active) since]
      refine ⟨?_, fun some => absurd some waiting⟩
      rintro ⟨record, member, covers⟩
      exact absurd covers (others record member)
  | counted =>
    rw [judged] at outcome
    obtain ⟨-, middle, -, same⟩ := outcome
    rw [same]
    exact ⟨fun _ => trivial, fun _ => .inl (Nat.succ_pos _)⟩
  | closing =>
    rw [judged] at outcome
    refine ⟨fun _ => trivial, fun _ => .inr (.inl ?_)⟩
    rw [outcome.2]
    decide
  | accepted =>
    rw [judged] at outcome
    obtain ⟨middle, quiet, rfl⟩ := outcome
    have same := quiet.bare
    have count : middle.pendingAcks = self.pendingAcks :=
      (congrArg (fun actor => actor.pendingAcks) same).trans pending
    unfold acknowledge
    rw [exec_bind_modify, exec_bind_get]
    dsimp only
    by_cases few : self.pendingAcks + 1 < 10
    · rw [if_neg (by omega)]
      exact ⟨fun _ => .inl few, fun _ => .inl (Nat.succ_pos _)⟩
    rw [if_pos (by omega), exec_bind_attempt]
    -- Ten packets are pending, so the acknowledgment is due at once.
    have sends : middle.host = checked.host := congrArg (fun actor => actor.host) same
    have numbers : middle.nextPacketNumber = checked.nextPacketNumber :=
      congrArg (fun actor => actor.nextPacketNumber) same
    have open_ : middle.state = .active :=
      (congrArg (fun actor => actor.state) same).trans (state.trans active)
    have keyed : middle.crypto = some crypto :=
      (congrArg (fun actor => actor.crypto) same).trans (secrets.trans keys)
    have short : middle.dcid.length ≤ 255 := by
      have kept : middle.dcid = self.dcid := (congrArg (fun actor => actor.dcid) same).trans cids
      rw [kept]
      exact dcid
    have marked : middle.ackTracker = self.ackTracker.markProcessed pn := by
      rw [← tracker]
      exact congrArg (fun actor => actor.ackTracker) same
    have fits : ∀ top, middle.ackTracker.highestProcessed = some top → top < u64Size := by
      rw [marked]
      exact markProcessed_fits highest number
    have flushed : Acknowledged self
        (exec flushAcks { middle with pendingAcks := middle.pendingAcks + 1 }).2 pn ↔ _ :=
      flushAcks_acknowledged_iff (Nat.succ_pos _) open_ keyed short fits (quiet.sent.trans since)
        others
    refine flushed.trans ?_
    dsimp only
    rw [sends, numbers, marked, departs_iff aside]
    exact ⟨.inr, fun departs => departs.resolve_left few⟩

omit [Hkdf] [HandshakeCrypto] [CongestionController CC] in
/-- The bytes received so far play no part in opening a packet. -/
theorem openPayload_received [Hkdf] {self opened : ZtConnectionActor CC} {crypto : CryptoContext}
    {header : PacketHeader} {aad plaintext : Bytes} {payload : Sealed}
    (answered : self.openPayload crypto header aad payload = .ok (plaintext, opened)) (bytes : Nat) :
    openPayload { self with bytesReceived := bytes } crypto header aad payload =
      .ok (plaintext, { opened with bytesReceived := bytes }) := by
  have choice : chooseKey { self with bytesReceived := bytes } header = self.chooseKey header := rfl
  unfold openPayload at answered ⊢
  rw [choice]
  cases chosen : self.chooseKey header with
  | next =>
    rw [chosen] at answered
    dsimp only at answered ⊢
    cases tried : crypto.trialDecryptAndRotate header.packetNumber aad payload with
    | error error =>
      rw [tried] at answered
      cases answered
    | ok answer =>
      rw [tried] at answered
      cases answered
      rfl
  | previous | current =>
    rw [chosen] at answered
    dsimp only at answered ⊢
    cases tried : crypto.decryptInPlace header.packetNumber aad payload _ with
    | error error =>
      rw [tried] at answered
      cases answered
    | ok text =>
      rw [tried] at answered
      cases answered
      rfl

/-- A packet that is no replay and opens is handled from a state that differs in its keys only. -/
theorem processIncomingPacket_opens {self opened : ZtConnectionActor CC} {crypto : CryptoContext}
    {packet : Packet} {payload : Sealed} {plaintext : Bytes} (active : self.state = .active)
    (keys : self.crypto = some crypto) (kind : packet.header.pType.isProtected = true)
    (fresh : self.isReplay (self.recovered packet.header).packetNumber = false)
    (body : packet.body = .encrypted payload)
    (opens : self.openPayload crypto (self.recovered packet.header) packet.header.encode payload =
      .ok (plaintext, opened)) (addr : Address) :
    (exec (processIncomingPacket packet addr) self).2 =
      (exec (handleOpened (self.recovered packet.header).packetNumber
        (Frame.decodeFrames plaintext).1 addr)
        (activate { opened with bytesReceived := self.bytesReceived + packet.size })).2 := by
  unfold processIncomingPacket
  rw [exec_bind_modify, exec_bind_get]
  dsimp only
  have other : packet.header.pType ≠ .initial := by
    intro same
    rw [same] at kind
    cases kind
  rw [if_neg (by simp [keys]), if_neg (by simp [other])]
  show (exec (if self.isReplay (self.recovered packet.header).packetNumber = true then pure () else
    dispatchPacket (self.recovered packet.header) packet.body packet.header.encode addr) _).2 = _
  rw [if_neg (by simp [fresh])]
  unfold dispatchPacket
  rw [exec_bind_get]
  have accepts : acceptsProtected
      { self with bytesReceived := self.bytesReceived + packet.size } = true := by
    simp [acceptsProtected, active]
  have process : (exec (processProtected (self.recovered packet.header) packet.body
      packet.header.encode addr)
      { self with bytesReceived := self.bytesReceived + packet.size }).2 =
      (exec (handleOpened (self.recovered packet.header).packetNumber
        (Frame.decodeFrames plaintext).1 addr)
        (activate { opened with bytesReceived := self.bytesReceived + packet.size })).2 := by
    unfold processProtected
    rw [exec_bind_get]
    dsimp only
    rw [keys, body]
    dsimp only
    rw [openPayload_received opens]
    rfl
  -- The three protected types are processed alike.
  have types : (self.recovered packet.header).pType = packet.header.pType := rfl
  rw [types]
  cases sort : packet.header.pType with
  | data | close | mtuProbe =>
    dsimp only
    rw [if_pos accepts]
    exact process
  | initial | handshake | retry =>
    rw [sort] at kind
    cases kind

/--
The first receipt of a packet with a tracked payload leaves its acknowledgment pending or sent, or
the connection not active, exactly when the payload elicits one.
-/
theorem receipt_acknowledged_iff {self : ZtConnectionActor CC} {crypto : CryptoContext}
    {packet : Packet} {payload : Sealed} {plaintext : Bytes} {frame : Frame} {rest : List Frame}
    (active : self.state = .active) (keys : self.crypto = some crypto)
    (dcid : self.dcid.length ≤ 255)
    (highest : ∀ top, self.ackTracker.highestProcessed = some top → top < u64Size)
    (number : (self.recovered packet.header).packetNumber < u64Size)
    (kind : packet.header.pType.isProtected = true)
    (fresh : self.isReplay (self.recovered packet.header).packetNumber = false)
    (body : packet.body = .encrypted payload)
    (opens : (self.openPayload crypto (self.recovered packet.header) packet.header.encode
      payload).map Prod.fst = .ok plaintext)
    (carried : (Frame.decodeFrames plaintext).1 = frame :: rest)
    (tracked : isTrackedFrame frame = true) (padding : ∀ other ∈ rest, other.isPadding = true)
    (addr : Address) :
    Acknowledged self (exec (processIncomingPacket packet addr) self).2
        (self.recovered packet.header).packetNumber ↔
      self.Elicits addr (self.recovered packet.header).packetNumber frame := by
  obtain ⟨opened, answered⟩ : ∃ opened, self.openPayload crypto (self.recovered packet.header)
      packet.header.encode payload = .ok (plaintext, opened) := by
    cases answer : self.openPayload crypto (self.recovered packet.header) packet.header.encode
      payload with
    | error error =>
      rw [answer] at opens
      cases opens
    | ok pair =>
      rw [answer] at opens
      cases opens
      exact ⟨pair.2, rfl⟩
  rw [processIncomingPacket_opens active keys kind fresh body answered addr, carried]
  obtain ⟨-, how⟩ := openPayload_opens answered
  -- Opening changes the keys, which neither the acknowledgment nor the condition looks at.
  unfold activate
  cases how with
  | current | previous =>
    rw [if_neg (by simp [active])]
    exact @handleOpened_acknowledged_iff CC _ _ _
      { self with bytesReceived := self.bytesReceived + packet.size } crypto _ _ _ active keys dcid
      highest number tracked padding addr
  | next =>
    rw [if_neg (by simp [active])]
    exact @handleOpened_acknowledged_iff CC _ _ _
      { self with
        crypto := some crypto.rotateKeys
        currentKeyEpoch := self.currentKeyEpoch + 1
        packetsSinceKeyUpdate := 0
        bytesReceived := self.bytesReceived + packet.size } crypto.rotateKeys _ _ _ active rfl dcid
      highest number tracked padding addr

end Receipt

section Unanswered

open Sample

/-- A client makes the server active with a datagram, then opens a stream and closes it again. -/
def openAndClose : List Move :=
  [.act .client (.sendDatagram [1]) (hostTaking 1), .deliver .server 0 0 (hostTaking 0),
    .act .client (.openStream .bidirectional) (hostTaking 0), .act .client (.closeStream 2) (hostTaking 1)]

/-- The pair of endpoints when the end of the stream is on its way. -/
def closeInFlight : System RenoController := (Sample.system .default).run openAndClose

/-- The server's actor with a socket that takes packets. -/
def closeReceiver : ZtConnectionActor RenoController :=
  { closeInFlight.server with host := hostTaking 8 }

/-- The server once the end of the stream arrived. -/
def closeReceived : ZtConnectionActor RenoController :=
  match closeInFlight.delivered? .server 1 with
  | none => closeReceiver
  | some record => (exec (processIncomingPacket (System.arriving record) 0) closeReceiver).2

/-- The end of a stream arrives for the first time, is recorded, and is never acknowledged. -/
theorem streamClose_unanswered :
    System.Reachable [] closeInFlight ∧ closeReceiver.state = .active ∧
      (closeInFlight.delivered? .server 1).map (fun record => record.packet.frames) =
        some [.streamClose 2 0] ∧
      closeReceiver.isReplay 1 = false ∧ closeReceived.isReplay 1 = true ∧
      ¬ Acknowledged closeReceiver closeReceived 1 := by
  refine ⟨?_, by decide +kernel, by decide +kernel, by decide +kernel, by decide +kernel, ?_⟩
  · exact (system_connected rfl (by decide)).reachable openAndClose
  · have since : closeReceived.sentRecords = closeReceiver.sentRecords ++ [] := by decide +kernel
    rw [acknowledged_sent_iff (by decide +kernel) (by decide +kernel) since]
    simp

/-- The packet in which a client sends a datagram under the number five. -/
def datagramPacket : Packet :=
  sealedPacket ((CryptoContext.withSecret [] true).applyEpochKeys 0)
    ⟨.data, false, 0, [2], [], 5, false, 1⟩ (Frame.datagram [7]).encode

/-- An active server that owes an acknowledgment already. -/
def owingReceiver : ZtConnectionActor RenoController :=
  { endpoint .default false with state := .active, pendingAcks := 1 }

/-- A datagram that comes while an acknowledgment is pending is acknowledged with it. -/
theorem receipt_acknowledged_owing :
    Acknowledged owingReceiver (exec (processIncomingPacket datagramPacket 0) owingReceiver).2 5 := by
  have opens : (owingReceiver.openPayload ((CryptoContext.withSecret [] false).applyEpochKeys 0)
      (owingReceiver.recovered datagramPacket.header) datagramPacket.header.encode
      (((CryptoContext.withSecret [] true).applyEpochKeys 0).encryptInPlace 5
        datagramPacket.header.encode (Frame.datagram [7]).encode)).map Prod.fst =
      .ok (Frame.datagram [7]).encode := by decide +kernel
  have carried : (Frame.decodeFrames (Frame.datagram [7]).encode).1 = [.datagram [7]] := by
    decide +kernel
  have elicits : owingReceiver.Elicits 0 (owingReceiver.recovered datagramPacket.header).packetNumber
      (.datagram [7]) := Nat.one_pos
  exact (receipt_acknowledged_iff rfl rfl (by decide) (by decide +kernel) (by decide +kernel) rfl
    (by decide +kernel) rfl opens carried rfl (by simp) 0).mpr elicits

end Unanswered

end ZtConnectionActor
end Zetta
