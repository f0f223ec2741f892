import Zetta.Proofs.Transport.Deeds
import Zetta.Proofs.Transport.Flight
import Zetta.Transport.EventLoop

/-! Receiving, timers and commands are sequences of deeds, and so is every turn of the event loop. -/

namespace Zetta

/-- A licence allows what an event can lead to in the state it finds. -/
structure Licence.Covers {CC : Type} (licence : Licence) (event : Event) (actor : ZtConnectionActor CC) :
    Prop where
  probes : event = .mtuProbeTimer → ∀ hand, licence.probes (actor.books hand)
  /-- The MTU falls back only if a packet was sent again often enough. -/
  recovers : event = .rtoTimer →
    (∃ entry ∈ actor.unackedPackets.iter, entry.2.isReliable = true ∧ 3 ≤ entry.2.retries) →
    ∀ hand window, window.contents = actor.unackedPackets.contents →
      licence.recovers { actor.books hand with unackedPackets := window }
  issues : ∀ data, event = .sendDatagram data → data.length ≤ actor.mtu - 64 → ∀ hand,
    licence.issues (actor.books hand) (.datagram data)
  writes : ∀ streamId data, event = .outgoingData streamId data → ∀ hand streamType offset,
    licence.writes (actor.books hand) (.stream streamId.toNat streamType offset data)
  /-- Commands and timers start closing the connection first thing. -/
  closes : ∀ books : Books, books.state = actor.state → licence.closes books
  receives : ∀ packet addr, event = .incomingPacket packet addr → licence.Receives packet
  shuts : ∀ books, licence.shuts books
  opens : ∀ streamType, event = .openStream streamType → ∀ hand, licence.opens (actor.books hand)
  reads : ∀ streamId bytesRead, event = .streamDataRead streamId bytesRead → ∀ hand,
    licence.reads (actor.books hand) streamId.toNat bytesRead

/-- A licence without conditions on what packets bring allows every packet. -/
theorem Licence.receives_any {licence : Licence} (closes : ∀ books, licence.closes books)
    (pushes : ∀ data, licence.pushes data) (names : ∀ id, licence.names id)
    (reports : ∀ pn, licence.reports pn) (outdates : ∀ pn, licence.outdates pn) (packet : Packet) :
    licence.Receives packet where
  closes := .inl closes
  pushes _ data _ := pushes data
  names _ := names _
  acknowledges _ _ _ _ _ := ⟨fun pn _ => reports pn, fun pn _ _ => outdates pn⟩

/-- Everything is allowed. -/
theorem Licence.free_covers {CC : Type} (event : Event) (self : ZtConnectionActor CC) :
    Licence.free.Covers event self where
  probes _ _ := trivial
  recovers _ _ _ _ _ := trivial
  issues _ _ _ _ := trivial
  writes _ _ _ _ _ _ := trivial
  closes _ _ := trivial
  receives packet _ _ := Licence.receives_any (fun _ => trivial) (fun _ => trivial) (fun _ => trivial)
    (fun _ => trivial) (fun _ => trivial) packet
  shuts _ := trivial
  opens _ _ _ := trivial
  reads _ _ _ _ := trivial

namespace ZtConnectionActor

open Program

variable {CC : Type} [Hkdf] {licence : Licence}

/-- Writing down what happened, apart from packets and payloads. -/
theorem notes_does (effects : List Effect) (asides : ∀ effect ∈ effects, effect.isAside = true)
    (self : ZtConnectionActor CC) : Does licence self { self with log := self.log ++ effects } := by
  induction effects generalizing self with
  | nil => exact .of_same fun _ => by rw [List.append_nil]
  | cons effect rest ih =>
    have first : Does licence self (self.note effect) :=
      .single fun _ => .note (asides effect List.mem_cons_self)
    have others := ih (fun other member => asides other (List.mem_cons_of_mem _ member))
      (self.note effect)
    rw [show (self.note effect).log ++ rest = self.log ++ (effect :: rest) from by simp [note]] at others
    exact first.trans others

/-- One program after another, where the first may fail. -/
theorem bind_does {α β : Type} {program : Act CC α} {next : α → Act CC β} {self : ZtConnectionActor CC}
    (first : Does licence self (exec program self).2)
    (rest : ∀ value after, exec program self = (.ok value, after) →
      Does licence after (exec (next value) after).2) :
    Does licence self (exec (program >>= next) self).2 := by
  cases result : exec program self with
  | mk outcome after =>
    rw [result] at first
    cases outcome with
    | error error =>
      rw [exec_bind_error result]
      exact first
    | ok value =>
      rw [exec_bind_ok result]
      exact first.trans (rest value after result)

section Streams

omit [Hkdf] in
/-- Only the last state put into the table counts. -/
theorem putStream_twice (self : ZtConnectionActor CC) (id : Nat) (first second : StreamState) :
    (self.putStream id first).putStream id second = self.putStream id second := by
  unfold putStream
  rw [SortedMap.insert_insert]

/-- Something happens to a stream in the table. -/
theorem tend_does {self : ZtConnectionActor CC} {id : Nat} {stream : StreamState} (op : StreamOp)
    (found : self.streams.find? id = some stream)
    (affords : ∀ hand, op.Affords (self.books hand) id stream)
    (may : ∀ hand, op.reads = 0 ∨ licence.reads (self.books hand) id op.reads) :
    Does licence self (self.putStream id (op.apply stream)) :=
  .single fun hand => .table (.tended op found (affords hand) (may hand))

section Forwarding

omit [Hkdf]

/-- What the connection adds to a report of the application. -/
def reading (self : ZtConnectionActor CC) (streamId bytesRead : Nat) (stream : StreamState) : Reading :=
  let bare : Reading := ⟨bytesRead, self.rtt, self.host.now, self.config.maxStreamWindow, false⟩
  { bare with
    room := (stream.considered bare).1.any fun newWindow =>
      saturatingAdd (self.putStream streamId (stream.considered bare).2).totalAllocatedBufferSize
        (newWindow - (stream.considered bare).2.windowSize) ≤ self.config.maxConnectionBuffer }

/-- The connection after a report, before credit is granted to the peer. -/
def forwarded (self : ZtConnectionActor CC) (streamId bytesRead : Nat) (stream : StreamState) :
    ZtConnectionActor CC :=
  { self.putStream streamId (stream.forward (self.reading streamId bytesRead stream)) with
    log := self.log ++ [.reported streamId bytesRead] ++
      (stream.handOver bytesRead).1.map (.pushed streamId) }

/-- Draining a stream leaves it as it was considered for a larger window. -/
theorem drainStream_eq (self : ZtConnectionActor CC) (streamId bytesRead : Nat) (stream : StreamState) :
    self.drainStream streamId bytesRead stream =
      ((stream.consume bytesRead).1,
        (stream.considered (self.reading streamId bytesRead stream)).1,
        { self.putStream streamId (stream.considered (self.reading streamId bytesRead stream)).2 with
          log := self.log ++ [.reported streamId bytesRead] ++
            (stream.handOver bytesRead).1.map (.pushed streamId) }) := rfl

/-- A stream's window grows if the connection has room for it. -/
theorem scaleUpStream_eq {self : ZtConnectionActor CC} {streamId : Nat} {stream : StreamState}
    (found : self.streams.find? streamId = some stream) (newWindow : Nat) :
    self.scaleUpStream streamId newWindow =
      if saturatingAdd self.totalAllocatedBufferSize (newWindow - stream.windowSize) ≤
          self.config.maxConnectionBuffer then
        self.putStream streamId { stream with
          receiveBuffer := stream.receiveBuffer.resize newWindow
          windowSize := newWindow }
      else self := by
  unfold scaleUpStream
  rw [found]

/-- After a stream was drained, a larger window leaves it ready for credit to be granted. -/
theorem scaleUp_eq (self : ZtConnectionActor CC) (streamId bytesRead : Nat) (stream : StreamState) :
    (self.drainStream streamId bytesRead stream).2.1.elim
        (self.drainStream streamId bytesRead stream).2.2
        (scaleUpStream streamId · (self.drainStream streamId bytesRead stream).2.2) =
      { self.putStream streamId (stream.ready (self.reading streamId bytesRead stream)) with
        log := self.log ++ [.reported streamId bytesRead] ++
          (stream.handOver bytesRead).1.map (.pushed streamId) } := by
  rw [drainStream_eq]
  dsimp only
  have room : (self.reading streamId bytesRead stream).room =
      (stream.considered (self.reading streamId bytesRead stream)).1.any fun newWindow =>
        saturatingAdd (self.putStream streamId
            (stream.considered (self.reading streamId bytesRead stream)).2).totalAllocatedBufferSize
          (newWindow - (stream.considered (self.reading streamId bytesRead stream)).2.windowSize) ≤
            self.config.maxConnectionBuffer := rfl
  unfold StreamState.ready StreamState.widen
  generalize (stream.considered (self.reading streamId bytesRead stream)) = considered at room ⊢
  obtain ⟨asked, drained⟩ := considered
  cases asked with
  | none => rfl
  | some newWindow =>
    dsimp only [Option.elim, Option.any] at room ⊢
    rw [scaleUpStream_eq (SortedMap.find?_insert_self ..)]
    -- Whether the window grows was decided on the same table.
    split
    · rename_i fits
      have granted : (self.reading streamId bytesRead stream).room = true :=
        room.trans (decide_eq_true fits)
      rw [if_pos granted]
      unfold putStream
      rw [SortedMap.insert_insert]
    · rename_i full
      have refused : (self.reading streamId bytesRead stream).room = false :=
        room.trans (decide_eq_false full)
      rw [refused, if_neg nofun]

variable [Hkdf] [HandshakeCrypto]

/-- Moving received data on is one operation on the stream, and credit is granted as it says. -/
theorem forwardStreamData_eq {self : ZtConnectionActor CC} {streamId : Nat} {stream : StreamState}
    (found : self.streams.find? streamId = some stream) (bytesRead : Nat) :
    exec (forwardStreamData streamId bytesRead) self =
      match stream.granted (self.reading streamId bytesRead stream) with
      | none => (.ok (), self.forwarded streamId bytesRead stream)
      | some maxData =>
        exec (sendPayload (.maxStreamData streamId maxData))
          (self.forwarded streamId bytesRead stream) := by
  unfold forwardStreamData
  rw [exec_bind_get, found]
  dsimp only
  rw [exec_bind_set, exec_bind_modify, exec_bind_get, scaleUp_eq]
  have stored : ({ self.putStream streamId (stream.ready (self.reading streamId bytesRead stream)) with
      log := self.log ++ [.reported streamId bytesRead] ++
        (stream.handOver bytesRead).1.map (.pushed streamId) } : ZtConnectionActor CC).streams.find?
          streamId = some (stream.ready (self.reading streamId bytesRead stream)) :=
    SortedMap.find?_insert_self ..
  rw [stored]
  dsimp only
  unfold forwarded StreamState.forward
  have grant : stream.granted (self.reading streamId bytesRead stream) =
      if (self.drainStream streamId bytesRead stream).1 > 0 ∧
          wrappingAdd (stream.ready (self.reading streamId bytesRead stream)).expectedRxOffset
              (stream.ready (self.reading streamId bytesRead stream)).windowSize -
            (stream.ready (self.reading streamId bytesRead stream)).lastSentMaxData ≥
              (stream.ready (self.reading streamId bytesRead stream)).windowSize / 4 then
        some (wrappingAdd (stream.ready (self.reading streamId bytesRead stream)).expectedRxOffset
          (stream.ready (self.reading streamId bytesRead stream)).windowSize)
      else none := rfl
  rw [grant]
  split
  · -- The grant is noted in the stream and issued to the peer.
    dsimp only [Option.elim]
    rw [exec_bind_modify]
    unfold putStream sendPayload
    dsimp only
    rw [SortedMap.insert_insert]
  · rfl

omit [Hkdf] [HandshakeCrypto] in
/-- A window grows only where there is room for it. -/
theorem reading_affords (self : ZtConnectionActor CC) (streamId bytesRead : Nat) (stream : StreamState)
    (hand : List (UnackedPayload × Nat)) : (StreamOp.forward
      (self.reading streamId bytesRead stream)).Affords (self.books hand) streamId stream := by
  refine .forward _ rfl fun granted newWindow asked => ?_
  have room : (stream.considered (self.reading streamId bytesRead stream)).1.any (fun newWindow =>
      saturatingAdd (self.putStream streamId
          (stream.considered (self.reading streamId bytesRead stream)).2).totalAllocatedBufferSize
        (newWindow - (stream.considered (self.reading streamId bytesRead stream)).2.windowSize) ≤
          self.config.maxConnectionBuffer) = true := granted
  rw [asked] at room
  exact of_decide_eq_true room

/-- Moving received data on, and telling the peer of a larger window. -/
theorem forwardStreamData_does (self : ZtConnectionActor CC) (streamId bytesRead : Nat)
    (may : ∀ hand, bytesRead = 0 ∨ licence.reads (self.books hand) streamId bytesRead) :
    Does licence self (exec (forwardStreamData streamId bytesRead) self).2 := by
  cases found : self.streams.find? streamId with
  | none =>
    unfold forwardStreamData
    rw [exec_bind_get, found]
    exact .refl self
  | some stream =>
    rw [forwardStreamData_eq found]
    have tended : Does licence self _ :=
      tend_does (.forward (self.reading streamId bytesRead stream)) found
        (self.reading_affords streamId bytesRead stream) may
    have asides : ∀ effect ∈ [.reported streamId bytesRead] ++
        (stream.handOver bytesRead).1.map (Effect.pushed streamId), effect.isAside = true := by
      intro effect member
      rcases List.mem_append.mp member with first | pushed
      · rw [List.mem_singleton.mp first]
        rfl
      · obtain ⟨chunk, -, rfl⟩ := List.mem_map.mp pushed
        rfl
    have noted : Does licence self (self.forwarded streamId bytesRead stream) := by
      refine tended.trans ?_
      unfold forwarded
      rw [List.append_assoc]
      exact notes_does _ asides _
    split
    · exact noted
    · exact noted.trans (sendControl_does _ rfl rfl rfl)

end Forwarding

section Peers

variable [HandshakeCrypto]

/-- Closing over an error of the peer. -/
theorem closeWith_does (self : ZtConnectionActor CC) (error : ZtError)
    (closes : ∀ books, licence.closes books) :
    Does licence self (exec (closeWith error) self).2 := by
  unfold closeWith
  rw [exec_bind_attempt]
  exact self.initiateClose_does fun _ => closes _

omit [HandshakeCrypto] in
/-- Opening a stream for the peer. -/
theorem openedPeer_does {self : ZtConnectionActor CC} {id : Nat}
    (absent : self.streams.find? id = none) (parity : id % 2 = self.peerParity)
    (room : self.openedStreams self.peerParity < self.localMaxStreams)
    (localStreamType : StreamType) : Does licence self (self.openedPeer id localStreamType) := by
  have opened : Does licence self
      ((self.note (.created id)).putStream id (self.peerStream localStreamType)) :=
    .single fun _ => .openPeer _ _ _ parity absent room
  have surfaced : Does licence
      ((self.note (.created id)).putStream id (self.peerStream localStreamType))
      (((self.note (.created id)).note (.surfaced id)).putStream id
        (self.peerStream localStreamType)) := .single fun _ => .note rfl
  exact opened.trans (surfaced.trans (.of_same fun _ => rfl))

omit [HandshakeCrypto] in
/-- Counting a packet to acknowledge. -/
theorem acknowledge_does (self : ZtConnectionActor CC) :
    Does licence self (exec acknowledge self).2 := by
  unfold acknowledge
  rw [exec_bind_modify, exec_bind_get]
  have counted : Does licence self { self with pendingAcks := self.pendingAcks + 1 } :=
    .of_same fun _ => rfl
  refine counted.trans ?_
  split
  · rw [exec_bind_attempt]
    exact flushAcks_does _
  · exact .refl _

/-- Data for a stream in the table. -/
theorem receiveStreamData_does {self : ZtConnectionActor CC} {id : Nat} {stream : StreamState}
    (found : self.streams.find? id = some stream) (offset : Nat) (data : Bytes)
    (closes : ∀ books, licence.closes books) :
    Does licence self (exec (receiveStreamData id offset data stream) self).2 := by
  unfold receiveStreamData
  rw [exec_bind_get]
  split
  · exact self.closeWith_does _ closes
  rename_i budget
  -- Whatever comes of the data, the stream ends up as the operation leaves it.
  have received : Does licence self (self.putStream id (stream.receive offset data)) :=
    tend_does (.receive offset data) found (fun _ =>
      .receive offset data fun blank => not_lt.mp fun excess => budget ⟨blank, excess⟩)
      fun _ => .inl rfl
  unfold StreamState.receive at received
  split
  · exact .refl self
  rename_i endOffset fits
  rw [fits] at received
  dsimp only at received
  split
  · exact self.closeWith_does _ closes
  rename_i final
  rw [if_neg final] at received
  dsimp only
  rw [exec_bind_set]
  split
  · rename_i old
    rw [if_pos old] at received
    exact received.trans (.of_same fun _ => rfl)
  rename_i fresh
  rw [if_neg fresh] at received
  split
  · rename_i excess
    rw [if_pos excess] at received
    exact received.trans (closeWith_does _ _ closes)
  rename_i credit
  rw [if_neg credit] at received
  split
  · rename_i refused
    rw [refused] at received
    exact received.trans (closeWith_does _ _ closes)
  · rename_i added receiveBuffer stored
    rw [stored] at received
    rw [exec_bind_modify]
    dsimp only at received ⊢
    rw [putStream_twice]
    exact received.trans (bind_does (forwardStreamData_does _ id 0 fun _ => .inl rfl) fun _ after _ => after.acknowledge_does)

/-- Stream data from the peer. -/
theorem handleStream_does (self : ZtConnectionActor CC) (id : Nat) (streamType : StreamType)
    (offset : Nat) (data : Bytes) (closes : ∀ books, licence.closes books) :
    Does licence self (exec (handleStream id streamType offset data) self).2 := by
  rw [handleStream_eq]
  split
  · exact .refl self
  rename_i localStreamType _
  split
  · rename_i absent
    split
    · exact self.closeWith_does _ closes
    rename_i parity
    split
    · exact .refl self
    rename_i room
    split
    · refine (openedPeer_does absent (not_not.mp parity) (not_le.mp room) localStreamType).trans ?_
      exact receiveStreamData_does (SortedMap.find?_insert_self _ _ _) offset data closes
    · exact self.closeWith_does _ closes
  · rename_i stream found
    split
    · exact self.closeWith_does _ closes
    · exact receiveStreamData_does found offset data closes

/-- The end of a stream. -/
theorem handleStreamClose_does (self : ZtConnectionActor CC) (id finalSize : Nat)
    (closes : ∀ books, licence.closes books) :
    Does licence self (exec (handleStreamClose id finalSize) self).2 := by
  unfold handleStreamClose
  rw [exec_bind_get]
  split
  · exact .refl self
  · rename_i stream found
    split
    · exact self.closeWith_does _ closes
    · rename_i consistent
      rw [exec_bind_set]
      have noted : Does licence self (self.putStream id (stream.finalise finalSize)) :=
        tend_does (.finalise finalSize) found (fun _ => .finalise finalSize) fun _ => .inl rfl
      unfold StreamState.finalise at noted
      rw [if_neg consistent] at noted
      exact noted.trans (forwardStreamData_does _ id 0 fun _ => .inl rfl)

/-- A stream the peer abandons. -/
theorem handleResetStream_does (self : ZtConnectionActor CC) (streamId finalSize : Nat)
    (closes : ∀ books, licence.closes books) :
    Does licence self (exec (handleResetStream streamId finalSize) self).2 := by
  unfold handleResetStream
  rw [exec_bind_get]
  split
  · exact .refl self
  · split
    · exact self.closeWith_does _ closes
    · have noted : Does licence self (self.note (.resetByPeer streamId)) := .single fun _ => .note rfl
      exact noted.trans (.single fun _ => .table (.dropped streamId))

/-- A stream the peer wants no more data on. -/
theorem handleStopSending_does (self : ZtConnectionActor CC) (streamId errorCode : Nat) :
    Does licence self (exec (handleStopSending streamId errorCode) self).2 := by
  unfold handleStopSending resetStream
  rw [exec_bind_modify, exec_bind_get]
  refine Does.trans ?_ (sendControl_does _ rfl rfl rfl)
  split
  · exact .refl self
  · rename_i stream found
    exact tend_does (.stop errorCode) found (fun _ => .stop errorCode) fun _ => .inl rfl

omit [HandshakeCrypto] in
/-- A larger limit for one stream. -/
theorem handleMaxStreamData_does (self : ZtConnectionActor CC) (id maxData : Nat) :
    Does licence self (self.handleMaxStreamData id maxData) := by
  unfold handleMaxStreamData
  split
  · exact .refl self
  · rename_i stream found
    exact tend_does (.extend maxData) found (fun _ => .extend maxData) fun _ => .inl rfl

omit [HandshakeCrypto] in
/-- The answer to a path challenge. -/
theorem handlePathResponse_does (self : ZtConnectionActor CC) (data : Bytes) (addr : Address) :
    Does licence self (self.handlePathResponse data addr) := by
  unfold handlePathResponse
  split <;> exact .of_same fun _ => rfl

end Peers

end Streams

section Frames

variable [HandshakeCrypto] [CongestionController CC]

omit [HandshakeCrypto] in
/-- The packets an acknowledgment takes out of the window. -/
theorem handleAck_does (self : ZtConnectionActor CC) (largest window delay : Nat)
    (ranges : List (Nat × Nat)) (acks : licence.Acknowledges largest ranges)
    (hand : List (UnackedPayload × Nat)) :
    Deed licence (self.books hand) ((self.handleAck largest window delay ranges []).2.books
      ((self.handleAck largest window delay ranges []).1 ++ hand)) := by
  obtain ⟨reported, outdated, lost, parts, ⟨outcomes, known, learned⟩, flight, again, told, old, probes,
    failures⟩ := self.handleAck_sweeps largest window delay ranges
  have rest := handleAck_essence self.cc self largest window delay ranges []
  generalize self.handleAck largest window delay ranges [] = acked
    at parts learned flight again probes failures rest
  obtain ⟨payloads, after⟩ := acked
  dsimp only at parts learned flight again probes failures rest ⊢
  -- The accounts are known, and everything else is as it was.
  have books : after.books (payloads ++ hand) = { self.books hand with
      unackedPackets := after.unackedPackets
      bytesInFlight := self.bytesInFlight - Books.bytesOf ((reported ++ outdated) ++ lost)
      search := after.search
      mtuProbes := (reported ++ lost).foldl Books.forget self.mtuProbes
      probeFailures := lost.foldl Books.recordLoss self.mtuProbeFailures
      hand := payloads ++ hand } := by
    rw [← flight, ← probes, ← failures]
    have kept := congrArg (fun actor : ZtConnectionActor CC => ({ actor.books (payloads ++ hand) with
      bytesInFlight := after.bytesInFlight
      search := after.search
      mtuProbes := after.mtuProbes
      probeFailures := after.mtuProbeFailures } : Books)) rest
    exact kept
  have fates : (self.books hand).Fates licence ((reported ++ outdated) ++ lost)
      ((reported ++ lost).foldl Books.forget self.mtuProbes)
      (lost.foldl Books.recordLoss self.mtuProbeFailures) :=
    .mk (fun entry left => acks.reports _ (told entry left))
      fun entry left => acks.outdates _ (old entry left).1 (old entry left).2
  rw [books]
  refine .settle parts.split parts.extent known (.inl learned) (fun entry member => ?_) fates
  obtain ⟨packet, left, reliable, carried⟩ := again entry member
  have both := Bool.and_eq_true_iff.mp reliable
  exact ⟨packet, left, by simpa using both.1, by simpa using both.2, carried⟩

/-- An acknowledgment from the peer. -/
theorem handleAckFrame_does (self : ZtConnectionActor CC) (largest window delay : Nat)
    (ranges : List (Nat × Nat)) (acks : licence.Acknowledges largest ranges)
    (closes : ∀ books, licence.closes books) :
    Does licence self (exec (handleAckFrame largest window delay ranges) self).2 := by
  unfold handleAckFrame
  rw [exec_bind_get]
  split
  · exact self.closeWith_does _ closes
  · intro hand
    have settled : Deed licence (self.books hand) _ :=
      self.handleAck_does largest window delay ranges acks hand
    dsimp only
    rw [exec_bind_set]
    exact .head settled (retransmitAll_does _ _ hand)

/-- One frame, which may start closing the connection or close it. -/
theorem handleFrame_does (self : ZtConnectionActor CC) {frame : Frame} (addr : Address)
    (closes : frame.mayClose = true → ∀ books, licence.closes books)
    (shuts : frame.isClose = true → ∀ books, licence.shuts books)
    (pushes : ∀ data, frame = .datagram data → licence.pushes data)
    (acks : ∀ largest window delay ranges, frame = .ack largest window delay ranges →
      licence.Acknowledges largest ranges) :
    Does licence self (exec (handleFrame frame addr) self).2 := by
  unfold handleFrame
  cases frame with
  | stream id streamType offset data => exact self.handleStream_does id streamType offset data (closes rfl)
  | ack largest window delay ranges =>
    exact self.handleAckFrame_does largest window delay ranges (acks _ _ _ _ rfl) (closes rfl)
  | connectionClose => exact .single fun _ => .phase (.closed (shuts rfl _))
  | connectionCloseV2 errorCode reason => exact .single fun _ => .phase (.closed (shuts rfl _))
  | streamClose id finalSize => exact self.handleStreamClose_does id finalSize (closes rfl)
  | maxStreamData id maxData => exact self.handleMaxStreamData_does id maxData
  | maxData limit => exact .of_same fun _ => rfl
  | datagram data =>
    dsimp only
    rw [exec_modify]
    split
    · exact .single fun _ => .push (pushes data rfl)
    · exact .refl self
  | maxStreams limit => exact .single fun _ => .grant (le_max_left _ _)
  | pathChallenge data =>
    dsimp only
    rw [exec_bind_attempt]
    exact self.sendFrameImmediate_does rfl addr
  | pathResponse data => exact self.handlePathResponse_does data addr
  | ping => exact self.acknowledge_does
  | resetStream streamId errorCode finalSize => exact self.handleResetStream_does streamId finalSize (closes rfl)
  | stopSending streamId errorCode => exact self.handleStopSending_does streamId errorCode
  | streamsBlocked | dataBlocked | streamDataBlocked | padding | handshake | cookie | crypto
  | transportParameters => exact .refl self

/-- The frames of a packet, one after the other. -/
theorem handleFrames_does (addr : Address) (frames : List Frame) (self : ZtConnectionActor CC)
    (closes : (∃ frame ∈ frames, frame.mayClose = true) → ∀ books, licence.closes books)
    (shuts : (∃ frame ∈ frames, frame.isClose = true) → ∀ books, licence.shuts books)
    (pushes : ∀ data, .datagram data ∈ frames → licence.pushes data)
    (acks : ∀ largest window delay ranges, .ack largest window delay ranges ∈ frames →
      licence.Acknowledges largest ranges) :
    Does licence self (exec (handleFrames addr frames) self).2 := by
  induction frames generalizing self with
  | nil => exact .refl self
  | cons frame rest ih =>
    unfold handleFrames
    rw [exec_bind_get]
    have first : Does licence self (exec (handleFrame frame addr) self).2 :=
      self.handleFrame_does addr (fun may => closes ⟨frame, List.mem_cons_self, may⟩)
        (fun shut => shuts ⟨frame, List.mem_cons_self, shut⟩)
        (fun data same => pushes data (same ▸ List.mem_cons_self))
        fun largest window delay ranges same =>
          acks largest window delay ranges (same ▸ List.mem_cons_self)
    refine bind_does first fun _ after _ => ?_
    rw [exec_bind_modify]
    -- The frame is written down before the next one is handled.
    have noted : ∀ known, Does licence after (after.note (.handled frame known)) :=
      fun known => .single fun _ => .note rfl
    refine (noted _).trans (ih _ (fun may => closes ?_) (fun shut => shuts ?_)
      (fun data member => pushes data (List.mem_cons_of_mem _ member))
      fun _ _ _ _ member => acks _ _ _ _ (List.mem_cons_of_mem _ member))
    · obtain ⟨other, member, may⟩ := may
      exact ⟨other, List.mem_cons_of_mem _ member, may⟩
    · obtain ⟨other, member, shut⟩ := shut
      exact ⟨other, List.mem_cons_of_mem _ member, shut⟩

/-- A connection that is closed has no frames to come that may start closing it. -/
def Settled (self : ZtConnectionActor CC) (frames : List Frame) : Prop :=
  self.state = .closed → ∀ frame ∈ frames, frame.mayClose = false

/-- Frames in order, of which none starts closing a connection that another has closed. -/
theorem handleFrames_orderly (addr : Address) (frames later : List Frame) (self : ZtConnectionActor CC)
    (orderly : Frame.Orderly (frames ++ later)) (settled : self.Settled (frames ++ later))
    (closes : ∀ books : Books, books.state ≠ .closed → licence.closes books)
    (shuts : ∀ books, licence.shuts books)
    (pushes : ∀ data, .datagram data ∈ frames → licence.pushes data)
    (acks : ∀ largest window delay ranges, .ack largest window delay ranges ∈ frames →
      licence.Acknowledges largest ranges) :
    Does licence self (exec (handleFrames addr frames) self).2 ∧
      (exec (handleFrames addr frames) self).2.Settled later := by
  induction frames generalizing self with
  | nil => exact ⟨.refl self, settled⟩
  | cons frame rest ih =>
    obtain ⟨after, others⟩ := List.pairwise_cons.mp orderly
    have here : ∀ data, frame = .datagram data → licence.pushes data :=
      fun data same => pushes data (same ▸ List.mem_cons_self)
    have told : ∀ largest window delay ranges, frame = .ack largest window delay ranges →
        licence.Acknowledges largest ranges :=
      fun largest window delay ranges same =>
          acks largest window delay ranges (same ▸ List.mem_cons_self)
    unfold handleFrames
    rw [exec_bind_get]
    -- Either way the next frame finds the connection open, or has no reason to close it.
    have first : Does licence self (exec (handleFrame frame addr) self).2 ∧
        (exec (handleFrame frame addr) self).2.Settled (rest ++ later) := by
      by_cases shutting : frame.isClose = true
      · refine ⟨self.handleFrame_does addr (fun may => ?_) (fun _ => shuts) here told,
          fun _ other member => after other member shutting⟩
        rw [Frame.mayClose_of_isClose shutting] at may
        cases may
      by_cases closed : self.state = .closed
      · refine ⟨self.handleFrame_does addr (fun may => ?_) (fun shut => absurd shut shutting) here told,
          fun _ other member => settled closed other (List.mem_cons_of_mem _ member)⟩
        rw [settled closed frame List.mem_cons_self] at may
        cases may
      · have does : Does licence.narrowed self (exec (handleFrame frame addr) self).2 :=
          self.handleFrame_does addr (fun _ _ => trivial) (fun shut => absurd shut shutting) here
            fun _ _ _ _ same => ⟨(told _ _ _ _ same).reports, (told _ _ _ _ same).outdates⟩
        obtain ⟨does, still⟩ := does.narrow closed closes
        exact ⟨does, fun shut => absurd shut still⟩
    obtain ⟨does, next⟩ := first
    rw [exec_bind]
    cases ended : exec (handleFrame frame addr) self with
    | mk outcome reached =>
      rw [ended] at does next
      cases outcome with
      | error error =>
        -- The packet ends here.
        exact ⟨does, fun closed other member => next closed other (List.mem_append_right _ member)⟩
      | ok value =>
        dsimp only
        rw [exec_bind_modify]
        have noted : ∀ known, Does licence reached (reached.note (.handled frame known)) :=
          fun known => .single fun _ => .note rfl
        obtain ⟨handled, last⟩ := ih (reached.note (.handled frame
          (frame.streamId?.any self.streams.contains))) others next
          (fun data member => pushes data (List.mem_cons_of_mem _ member))
          fun _ _ _ _ member => acks _ _ _ _ (List.mem_cons_of_mem _ member)
        exact ⟨does.trans ((noted _).trans handled), last⟩

end Frames

section Packets

/-- A packet from a new address. -/
theorem validatePath_does (self : ZtConnectionActor CC) (addr : Address) :
    Does licence self (exec (validatePath addr) self).2 := by
  unfold validatePath
  rw [exec_bind_get]
  split
  · split
    · dsimp only
      rw [exec_bind_set, exec_bind_attempt]
      refine Does.trans (.of_same fun _ => ?_) (sendFrameImmediate_does _ rfl addr)
      rfl
    · exact .refl self
  · split
    · exact .of_same fun _ => rfl
    · exact .refl self

/-- The first packet a server opens. -/
theorem activate_does (self : ZtConnectionActor CC) : Does licence self self.activate := by
  unfold activate
  split
  · rename_i entered
    have server : self.isClient = false := by simpa using entered.2
    exact .single fun _ => .phase (.activated entered.1 server)
  · exact .refl self

/-- Opening a packet may move on to the next keys. -/
theorem openPayload_does {self opened : ZtConnectionActor CC} {crypto : CryptoContext}
    {header : PacketHeader} {aad plaintext : Bytes} {payload : Sealed}
    (keys : self.crypto = some crypto) (accepts : self.acceptsProtected = true)
    (succeeded : self.openPayload crypto header aad payload = .ok (plaintext, opened)) :
    Does licence self opened := by
  have accepts : self.state = .active ∨ self.isClient = false := by
    rcases of_decide_eq_true accepts with active | ⟨-, server⟩
    · exact .inl active
    · exact .inr (by simpa using server)
  rcases openPayload_cases succeeded with rfl | rfl
  · exact .refl _
  · exact .single fun _ => .follow keys accepts

/-- The number is recorded after the path was looked at. -/
theorem readied_does (self : ZtConnectionActor CC) (packetNumber : Nat) (addr : Address) :
    Does licence self ((exec (validatePath addr) self).2.markProcessed packetNumber) :=
  (self.validatePath_does addr).trans (.of_same fun _ => rfl)

/-- A packet is opened only while connected, so its frames find the connection open. -/
theorem opened_readied {self opened : ZtConnectionActor CC} {crypto : CryptoContext}
    {header : PacketHeader} {aad plaintext : Bytes} {payload : Sealed}
    (keys : self.crypto = some crypto) (accepts : self.acceptsProtected = true)
    (succeeded : self.openPayload crypto header aad payload = .ok (plaintext, opened))
    (number : Nat) (addr : Address) :
    (∀ licence : Licence, Does licence self
      ((exec (validatePath addr) opened.activate).2.markProcessed number)) ∧
      ((exec (validatePath addr) opened.activate).2.markProcessed number).state ≠ .closed := by
  have readied : ∀ licence : Licence, Does licence self
      ((exec (validatePath addr) opened.activate).2.markProcessed number) :=
    fun _ => (openPayload_does keys accepts succeeded).trans
      (opened.activate_does.trans (readied_does _ number addr))
  have open_ : self.state ≠ .closed := by
    rcases of_decide_eq_true accepts with active | ⟨entering, -⟩
    · exact active ▸ nofun
    · exact entering ▸ nofun
  exact ⟨readied, ((readied Licence.free.narrowed).narrow open_ fun _ _ => trivial).2⟩

variable [HandshakeCrypto]

/-- The server's response. -/
theorem handleHandshakeResponse_does (self : ZtConnectionActor CC) (header : PacketHeader)
    (body : Body) (aad : Bytes) (addr : Address) (state : self.state = .handshaking)
    (names : licence.names header.scid) :
    Does licence self (exec (handleHandshakeResponse header body aad addr) self).2 := by
  unfold handleHandshakeResponse
  rw [exec_bind_get]
  -- Every check comes before the first assignment.
  split
  · exact .refl self
  split
  · split <;> exact .refl self
  split
  · exact .refl self
  split
  · exact .refl self
  split
  · exact .refl self
  · rename_i secret held
    exact .single fun _ => .complete _ _ state held names

variable [CongestionController CC]

/-- A packet after the handshake. -/
theorem processProtected_does (self : ZtConnectionActor CC) (header : PacketHeader) (body : Body)
    (aad : Bytes) (addr : Address) (accepts : self.acceptsProtected = true)
    (kind : header.pType.isProtected = true) (receives : licence.Receives ⟨header, body⟩)
    (shuts : ∀ books, licence.shuts books) :
    Does licence self (exec (processProtected header body aad addr) self).2 := by
  unfold processProtected
  rw [exec_bind_get]
  split
  · exact .refl self
  · split <;> exact .refl self
  · rename_i crypto payload keys
    split
    · exact .refl self
    · rename_i plaintext opened succeeded
      rw [exec_bind_set, handleOpened_eq]
      obtain ⟨readied, still⟩ := opened_readied keys accepts succeeded header.packetNumber addr
      refine (readied licence).trans ?_
      -- What a packet opens to is what was sealed.
      obtain ⟨text, -⟩ := openPayload_opens succeeded
      rw [text]
      have pushes : ∀ data, .datagram data ∈ (Frame.decodeFrames payload.plaintext).1 →
          licence.pushes data := receives.pushes kind
      have acks : ∀ largest window delay ranges, .ack largest window delay ranges ∈
          (Frame.decodeFrames payload.plaintext).1 → licence.Acknowledges largest ranges :=
        receives.acknowledges
      rcases receives.closes with always | ⟨orderly, closes⟩
      · exact handleFrames_does addr _ _ (fun _ => always) (fun _ => shuts) pushes acks
      · have frames : Frame.Orderly ((Frame.decodeFrames payload.plaintext).1 ++ []) := by
          rw [List.append_nil]
          exact orderly
        exact (handleFrames_orderly addr _ [] _ frames (fun closed => absurd closed still) closes
          shuts pushes acks).1

/-- A packet that is no replay. -/
theorem dispatchPacket_does (self : ZtConnectionActor CC) (header : PacketHeader) (body : Body)
    (aad : Bytes) (addr : Address) (receives : licence.Receives ⟨header, body⟩)
    (shuts : ∀ books, licence.shuts books) :
    Does licence self (exec (dispatchPacket header body aad addr) self).2 := by
  unfold dispatchPacket
  rw [exec_bind_get]
  split
  · rename_i type
    split
    · exact self.handleHandshakeResponse_does header body aad addr ‹_› (receives.names type)
    · exact .refl self
  · split
    · exact self.sendInitialPacket_does _
    · exact .refl self
  iterate 3
    · rename_i type
      split
      · exact self.processProtected_does header body aad addr ‹_› (by rw [type]; rfl) receives shuts
      · exact .refl self
  · exact .refl self

/-- A packet from the network. -/
theorem processIncomingPacket_does (self : ZtConnectionActor CC) (packet : Packet) (addr : Address)
    (receives : licence.Receives packet) (shuts : ∀ books, licence.shuts books) :
    Does licence self (exec (processIncomingPacket packet addr) self).2 := by
  unfold processIncomingPacket
  rw [exec_bind_modify, exec_bind_get]
  have counted : Does licence self { self with bytesReceived := self.bytesReceived + packet.size } :=
    .single fun _ => .count packet.size
  refine counted.trans ?_
  generalize { self with bytesReceived := self.bytesReceived + packet.size } = heard
  split
  · exact .refl _
  split
  · split
    · exact .refl _
    · -- The response kept for the client goes out once more.
      rename_i response _
      rw [exec_bind_attempt]
      exact .single fun hand => .postLong response.2.1 (sendmsgVectored_offers response.1 0 _ hand)
  · dsimp only
    split
    · exact .refl _
    · exact dispatchPacket_does _ _ _ _ addr ⟨receives.closes, receives.pushes, receives.names,
        receives.acknowledges⟩ shuts

end Packets

section Timers

variable [HandshakeCrypto] [CongestionController CC]

omit [HandshakeCrypto] [CongestionController CC] in
/-- The scan for expired packets counts their attempts. -/
theorem rescan_does (self : ZtConnectionActor CC) (now : Instant) (rto : Duration) (expiry : Expiry) :
    Does licence self { self with unackedPackets := { self.unackedPackets with
      deque := (expireSlots now rto self.unackedPackets.basePn self.unackedPackets.deque expiry).1 } } := by
  obtain ⟨length, contents⟩ := expireSlots_contents now rto self.unackedPackets.deque
    self.unackedPackets.basePn self.unackedPackets.len expiry
  refine .single fun hand => .rescan ?_ contents
  exact congrArg (self.unackedPackets.basePn + ·) length

/-- Expired packets leave the window, and reliable payloads are sent again. -/
theorem dropExpired_does {self : ZtConnectionActor CC} {expiry : Expiry}
    {doomed : List (Nat × UnackedPacket)} (listed : doomed.Sublist self.unackedPackets.iter)
    (drop : expiry.toDrop = doomed.map Prod.fst)
    (again : expiry.toRetransmit = (doomed.filter fun entry => entry.2.isReliable).map Prod.fst)
    (failed : expiry.failedProbeTargets = Books.lostTargets doomed)
    (recovers : expiry.blackholeDetected = true → ∀ hand, licence.recovers (self.books hand)) :
    Does licence self (exec (dropExpired expiry) (noteExpiredProbes expiry self)).2 := by
  obtain ⟨flight, learned⟩ := noteExpiredProbes_search expiry self
  obtain ⟨waiting, counted⟩ := noteExpiredProbes_probes expiry self
  have noted := noteExpiredProbes_essence expiry self self.cc
  generalize noteExpiredProbes expiry self = found at flight learned waiting counted noted
  have window : found.unackedPackets = self.unackedPackets := by
    have same := congrArg (fun actor : ZtConnectionActor CC => actor.unackedPackets) noted
    exact same
  have kept := found.drain_expired_essence expiry.toRetransmit expiry.toDrop self.cc
  rw [← window] at listed
  obtain ⟨rest, payloads, after, drained, parts, search, bytes, probes, failures, reliable⟩ :=
    drain_expired_sweeps listed drop again
  unfold dropExpired
  rw [exec_bind_get, drained]
  rw [drained] at kept
  dsimp only at kept ⊢
  rw [exec_bind_set]
  intro hand
  -- The window, the flight and the search are known, and everything else is as it was.
  have books : ({ after with unackedPackets := rest } : ZtConnectionActor CC).books (payloads ++ hand) =
      { self.books hand with
        unackedPackets := rest
        bytesInFlight := self.bytesInFlight - Books.bytesOf doomed
        search := found.search
        mtuProbes := doomed.foldl Books.forget self.mtuProbes
        probeFailures := doomed.foldl Books.recordLoss self.mtuProbeFailures
        hand := payloads ++ hand } := by
    rw [← flight, ← bytes, ← search, ← waiting, ← probes, Books.recordLoss_foldl, ← failed, ← counted,
      ← failures]
    have same := congrArg (fun actor : ZtConnectionActor CC => ({ actor.books (payloads ++ hand) with
      unackedPackets := rest
      bytesInFlight := after.bytesInFlight
      search := after.search
      mtuProbes := after.mtuProbes
      probeFailures := after.mtuProbeFailures } : Books)) (kept.trans noted)
    exact same
  have settled : Deed licence (self.books hand)
      (({ after with unackedPackets := rest } : ZtConnectionActor CC).books (payloads ++ hand)) := by
    rw [books]
    rw [window] at parts
    have told : ((expiry.failedProbeTargets.map ProbeOutcome.failed).map ProbeOutcome.target).Sublist
        (Books.probeTargets doomed) := by
      simpa [List.map_map, Function.comp_def, ProbeOutcome.target, failed] using
        Books.lostTargets_sublist doomed
    -- Nothing is acknowledged here, so every probe among them failed.
    have fates : (self.books hand).Fates licence (([] ++ []) ++ doomed)
        (([] ++ doomed).foldl Books.forget self.mtuProbes)
        (doomed.foldl Books.recordLoss self.mtuProbeFailures) := .mk nofun nofun
    refine .settle parts.split parts.extent told ?_ (fun entry member => ?_) fates
    · rcases learned with plain | ⟨hole, above, fell⟩
      · exact .inl plain
      · exact .inr ⟨recovers hole hand, above, fell⟩
    · obtain ⟨packet, left, fine, carried⟩ := reliable entry member
      have both := Bool.and_eq_true_iff.mp fine
      exact ⟨packet, left, by simpa using both.1, by simpa using both.2, carried⟩
  refine .head settled ?_
  split
  · rename_i none
    have blank : payloads = [] := by simpa using none
    rw [blank]
    exact .refl
  · rw [exec_bind_modify]
    refine Relation.ReflTransGen.trans ?_ (retransmitAll_does payloads _ hand)
    exact .refl

/-- The retransmission timer. -/
theorem handleRetransmits_does (self : ZtConnectionActor CC)
    (closes : ∀ books : Books, books.state = self.state → licence.closes books)
    (recovers : (∃ entry ∈ self.unackedPackets.iter, entry.2.isReliable = true ∧ 3 ≤ entry.2.retries) →
      ∀ hand window, window.contents = self.unackedPackets.contents →
        licence.recovers { self.books hand with unackedPackets := window }) :
    Does licence self (exec handleRetransmits self).2 := by
  unfold handleRetransmits
  rw [exec_bind_get]
  dsimp only
  generalize max (self.rtt + self.rttvar * 4) (milliseconds 50) = rto
  have scanned : Does licence self _ := self.rescan_does self.host.now rto ⟨[], [], [], false, false⟩
  obtain ⟨-, contents⟩ := expireSlots_contents self.host.now rto self.unackedPackets.deque
    self.unackedPackets.basePn self.unackedPackets.len ⟨[], [], [], false, false⟩
  obtain ⟨doomed, listed, drop, again, failed⟩ := expireSlots_doomed self.host.now rto
    self.unackedPackets.deque self.unackedPackets.basePn ⟨[], [], [], false, false⟩
  have hole := expireSlots_blackhole self.host.now rto self.unackedPackets.deque
    self.unackedPackets.basePn ⟨[], [], [], false, false⟩
  generalize expireSlots self.host.now rto self.unackedPackets.basePn self.unackedPackets.deque
    ⟨[], [], [], false, false⟩ = scan at scanned contents listed drop again failed hole
  obtain ⟨deque, expiry⟩ := scan
  dsimp only at scanned contents listed drop again failed hole ⊢
  rw [exec_bind_set]
  refine scanned.trans ?_
  split
  · -- Too many attempts: the connection starts closing.
    rw [exec_bind_attempt]
    exact initiateClose_does _ fun _ => closes _ rfl
  · rw [exec_bind_modify]
    rw [List.nil_append] at drop again failed
    refine dropExpired_does listed drop again failed fun detected hand => ?_
    rcases hole detected with impossible | often
    · cases impossible
    · exact recovers often hand _ contents

end Timers

section Events

variable [HandshakeCrypto]

/-- Sending what the pacer allows after an event. -/
theorem resetPacing_does (self : ZtConnectionActor CC) (shuts : ∀ books, licence.shuts books) :
    Does licence self (exec resetPacing self).2 := by
  unfold resetPacing
  rw [exec_bind_get]
  split
  · exact bind_does (self.flushPacingQueue_does shuts) fun _ after _ => .refl after
  · exact .refl self

omit [HandshakeCrypto] in
/-- A handler whose failure is only logged. -/
theorem logged_does {α : Type} {handler : Act CC α} {self : ZtConnectionActor CC}
    (does : Does licence self (exec handler self).2) :
    Does licence self (exec (logged handler) self).2 := by
  unfold logged
  rw [exec_bind_attempt]
  exact does

omit [HandshakeCrypto] in
/-- Such a handler never fails, so what follows it always runs. -/
theorem logged_bind_does {α β : Type} {handler : Act CC α} {next : PUnit → Act CC β}
    {self : ZtConnectionActor CC} (does : Does licence self (exec handler self).2)
    (rest : ∀ after, Does licence after (exec (next ()) after).2) :
    Does licence self (exec (logged handler >>= next) self).2 := by
  rw [exec_bind_logged]
  exact does.trans (rest _)

omit [HandshakeCrypto] in
/-- The application opens a stream. -/
theorem openStream_does (self : ZtConnectionActor CC) (streamType : StreamType)
    (opens : ∀ hand, licence.opens (self.books hand)) :
    Does licence self (exec (openStream streamType) self).2 := by
  unfold openStream
  rw [exec_bind_get]
  split
  · exact .refl self
  rename_i sendable
  split
  · exact logged_bind_does (self.sendFrameImmediate_does rfl _) fun after => .refl after
  rename_i room
  split
  · exact .refl self
  · rename_i fits
    exact .single fun hand => .openLocal _ _ (opens hand) sendable (not_le.mp room) (not_le.mp fits)

omit [HandshakeCrypto] in
/-- The application's stream leaves the table. -/
theorem removeStream_does (self : ZtConnectionActor CC) (streamId : Nat) :
    Does licence self (self.removeStream streamId) := by
  unfold removeStream
  split
  · have noted : Does licence self (self.note (.closedLocally streamId)) := .single fun _ => .note rfl
    exact noted.trans (.single fun _ => .table (.dropped streamId))
  · exact .refl self

omit [HandshakeCrypto] in
/-- The path challenge is repeated or given up. -/
theorem pathValidationTimeout_does (self : ZtConnectionActor CC) :
    Does licence self (exec pathValidationTimeout self).2 := by
  unfold pathValidationTimeout
  rw [exec_bind_get]
  split
  · split
    · rw [exec_bind_set]
      refine Does.trans (.of_same fun _ => ?_) (logged_does (sendFrameImmediate_does _ rfl _))
      rfl
    · exact .refl self
  · exact .of_same fun _ => rfl

omit [HandshakeCrypto] in
/-- The application uses its end of a stream's channel. -/
theorem updateChannel_does (self : ZtConnectionActor CC) (streamId : Nat)
    {change : Channel Bytes → Channel Bytes} (op : StreamOp)
    (same : ∀ stream, op.apply stream = { stream with channel := change stream.channel })
    (affords : ∀ hand stream, op.Affords (self.books hand) streamId stream) (silent : op.reads = 0) :
    Does licence self (self.updateChannel streamId change) := by
  unfold updateChannel
  split
  · exact .refl self
  · rename_i stream found
    rw [← same stream]
    exact tend_does op found (fun hand => affords hand stream) fun _ => .inl silent

omit [HandshakeCrypto] in
/-- The application uses a channel. -/
theorem applyAction_does (self : ZtConnectionActor CC) (action : AppAction) :
    Does licence self (self.applyAction action) := by
  unfold applyAction
  cases action with
  | recvChunk streamId =>
    exact self.updateChannel_does streamId .recv (fun _ => rfl) (fun _ _ => .recv) rfl
  | dropStream streamId =>
    exact self.updateChannel_does streamId .dropReceiver (fun _ => rfl) (fun _ _ => .dropReceiver) rfl
  | acceptStream => exact .of_same fun _ => rfl
  | dropHandle =>
    have dropped : Does licence self { self with datagrams := self.datagrams.dropReceiver } :=
      .single fun _ => .take rfl
    exact dropped.trans (.of_same fun _ => rfl)
  | recvDatagram =>
    have same : self.datagrams.recv.sent = self.datagrams.sent := by
      unfold Channel.recv
      split <;> rfl
    exact .single fun _ => .take same

variable [CongestionController CC]

omit [HandshakeCrypto] in
/-- Data from the application is refused, or queued. -/
theorem processOutgoingData_does (self : ZtConnectionActor CC) (streamId : Nat) (data : Bytes)
    (writes : ∀ hand streamType offset,
      licence.writes (self.books hand) (.stream streamId streamType offset data)) :
    Does licence self (exec (processOutgoingData streamId data) self).2 := by
  rcases self.processOutgoingData_cases streamId data with
    ⟨error, refused⟩ | ⟨stream, found, -, sendable, -, -, accepted⟩
  · rw [refused]
    exact .refl self
  · rw [accepted]
    have wrote : Does licence self { self.acceptData streamId stream data with
        streams := self.streams } :=
      .single fun hand => .write (writes hand stream.streamType stream.nextTxOffset) found rfl sendable
    have moved : Does licence { self.acceptData streamId stream data with streams := self.streams }
        (putStream streamId { stream with
          nextTxOffset := stream.nextTxOffset + data.length
          txWindow := stream.txWindow - data.length }
            { self.acceptData streamId stream data with streams := self.streams }) :=
      tend_does (.send data.length) found (fun _ => .send data.length) fun _ => .inl rfl
    exact wrote.trans moved

/-- A datagram from the application is refused, or issued. -/
theorem sendDatagram_does (self : ZtConnectionActor CC) (data : Bytes)
    (issues : data.length ≤ self.mtu - 64 → ∀ hand,
      licence.issues (self.books hand) (.datagram data))
    (shuts : ∀ books, licence.shuts books) :
    Does licence self (exec (sendDatagram data) self).2 := by
  unfold sendDatagram
  rw [exec_bind_get]
  dsimp only
  split
  · exact .refl self
  rename_i fits
  split
  · exact .refl self
  · have small : data.length ≤ self.mtu - 64 := le_trans (not_lt.mp fits) (min_le_left _ _)
    refine bind_does ?_ fun _ after _ => after.resetPacing_does shuts
    exact self.sendPayload_does (fun hand => .inr (issues small hand)) small rfl rfl

end Events

section Turns

variable [HandshakeCrypto] [CongestionController CC]

/-- Every turn of a run meets a condition on the state it finds. -/
def Throughout (condition : ZtConnectionActor CC → Event → Host → Prop) :
    ZtConnectionActor CC → List (Event × Host) → Prop
  | _, [] => True
  | self, turn :: rest =>
    condition self turn.1 turn.2 ∧ Throughout condition (self.step turn.1 turn.2) rest

/-- One event. -/
theorem handleEvent_does {self : ZtConnectionActor CC} {event : Event}
    (covers : licence.Covers event self) : Does licence self (exec (handleEvent event) self).2 := by
  have closes : ∀ hand, licence.closes (self.books hand) := fun _ => covers.closes _ rfl
  have paces : ∀ after : ZtConnectionActor CC, Does licence after (exec resetPacing after).2 :=
    fun after => after.resetPacing_does covers.shuts
  unfold handleEvent
  cases event with
  | incomingPacket packet addr =>
    exact logged_bind_does
      (self.processIncomingPacket_does packet addr (covers.receives packet addr rfl) covers.shuts) paces
  | outgoingData streamId data =>
    dsimp only
    rw [exec_bind_modify]
    have active : Does licence self { self with lastActiveStreamId := streamId.toNat } :=
      .of_same fun _ => rfl
    exact active.trans (logged_bind_does
      (processOutgoingData_does _ _ data (covers.writes streamId data rfl)) paces)
  | getMtu | getStats => exact .refl self
  | closeStream streamId =>
    refine logged_bind_does ?_ fun after => ?_
    · unfold sendStreamClose
      rw [exec_bind_get]
      exact self.sendControl_does rfl rfl rfl
    · rw [exec_bind_modify]
      exact (after.removeStream_does streamId.toNat).trans (paces _)
  | resetStream streamId errorCode =>
    refine logged_bind_does ?_ fun after => ?_
    · unfold ZtConnectionActor.resetStream
      rw [exec_bind_get]
      exact self.sendControl_does rfl rfl rfl
    · rw [exec_bind_modify]
      exact (after.removeStream_does streamId.toNat).trans (paces _)
  | openStream streamType => exact self.openStream_does streamType (covers.opens streamType rfl)
  | setHandshakePacket packet => exact .of_same fun _ => rfl
  | streamDataRead streamId bytesRead =>
    have may : ∀ hand, bytesRead = 0 ∨ licence.reads (self.books hand) streamId.toNat bytesRead :=
      fun hand => .inr (covers.reads streamId bytesRead rfl hand)
    refine logged_bind_does (self.forwardStreamData_does streamId.toNat bytesRead may) fun after => ?_
    dsimp only
    split
    · rw [exec_bind_modify]
      have counted : Does licence after { after with pendingAcks := max after.pendingAcks 1 } :=
        .of_same fun _ => rfl
      exact counted.trans (logged_bind_does (flushAcks_does _) paces)
    · exact paces after
  | close => exact logged_bind_does (self.initiateClose_does closes) paces
  | closeWithError errorCode reason =>
    exact logged_bind_does (self.initiateCloseWithError_does _ reason closes) paces
  | sendDatagram data => exact self.sendDatagram_does data (covers.issues data rfl) covers.shuts
  | delayedAckTimer => exact logged_does self.flushAcks_does
  | rtoTimer =>
    dsimp only
    rw [exec_bind_attempt]
    refine (self.handleRetransmits_does covers.closes (covers.recovers rfl)).trans ?_
    generalize exec handleRetransmits self = result
    obtain ⟨outcome, after⟩ := result
    cases outcome with
    | error error => exact .of_same fun _ => rfl
    | ok done => exact paces after
  | mtuProbeTimer => exact logged_does (self.sendMtuProbe_does (covers.probes rfl))
  | pacingTimer => exact paces self
  | socketWritable =>
    dsimp only
    rw [exec_bind_get]
    split
    · rw [exec_bind_set]
      have woken : Does licence self { self with socketBlocked := false } := .of_same fun _ => rfl
      exact woken.trans (paces _)
    · exact .refl self
  | pathValidationTimer => exact self.pathValidationTimeout_does
  | idleTimer => exact .of_same fun _ => rfl
  | app action => exact self.applyAction_does action

/-- One turn: the connection is over, or the event is handled with the turn's host. -/
theorem step_does {self : ZtConnectionActor CC} {event : Event} {host : Host}
    (covers : licence.Covers event { self with host := host }) :
    (∀ hand, (self.step event host).books hand = self.books hand) ∨
      self.state ≠ .closed ∧ Does licence { self with host := host } (self.step event host) := by
  unfold step
  split
  · exact .inl fun _ => rfl
  split
  · exact .inl fun _ => rfl
  · rename_i running
    exact .inr ⟨running, handleEvent_does covers⟩

omit [CongestionController CC] in
/-- Before the first turn a client sends its Initial packet. -/
theorem start_does (self : ZtConnectionActor CC) (host : Host) :
    (∀ hand, (self.start host).books hand = self.books hand) ∨
      Does licence { self with host := host } (self.start host) := by
  unfold start
  split
  · exact .inr (sendInitialPacket_does _ none)
  · exact .inl fun _ => rfl

/--
What one turn preserves, any number of turns preserve that each meet its condition, and what each turn
does then holds of all of them.
-/
theorem turns_throughout {condition result : ZtConnectionActor CC → Event → Host → Prop}
    {property : ZtConnectionActor CC → Prop}
    (step : ∀ self event host, condition self event host → property self →
      property (self.step event host) ∧ result self event host)
    {self : ZtConnectionActor CC} {events : List (Event × Host)}
    (throughout : Throughout condition self events) (holds : property self) :
    property (self.turns events) ∧ Throughout result self events := by
  -- The induction is on the turns left.
  induction events generalizing self with
  | nil => exact ⟨holds, trivial⟩
  | cons turn rest ih =>
    obtain ⟨next, here⟩ := step self turn.1 turn.2 throughout.1 holds
    obtain ⟨last, later⟩ := ih throughout.2 next
    exact ⟨last, here, later⟩

/-- What one turn preserves, any number of turns preserve that each meet its condition. -/
theorem turns_invariant {condition : ZtConnectionActor CC → Event → Host → Prop}
    {property : ZtConnectionActor CC → Prop}
    (step : ∀ self event host, condition self event host → property self →
      property (self.step event host))
    {self : ZtConnectionActor CC} {events : List (Event × Host)}
    (throughout : Throughout condition self events) (holds : property self) :
    property (self.turns events) := by
  have both : ∀ self event host, condition self event host → property self →
      property (self.step event host) ∧ True :=
    fun self event host met holds => ⟨step self event host met holds, trivial⟩
  exact (turns_throughout both throughout holds).1

end Turns

end ZtConnectionActor

/-- A property of the books that no deed breaks, and that does not depend on the socket's answers. -/
structure Books.Keeps [Hkdf] (licence : Licence) (property : Books → Prop) : Prop where
  deed : ∀ {before after : Books}, Deed licence before after → property before → property after
  host : ∀ (books : Books) (sends : List SendOutcome), property books →
    property { books with sends := sends }

namespace Books.Keeps

variable [Hkdf] {CC : Type} {licence : Licence} {property : Books → Prop}

/-- Nor does a sequence of deeds break it. -/
theorem run {before after : Books} (keeps : Books.Keeps licence property)
    (deeds : Relation.ReflTransGen (Deed licence) before after) (holds : property before) :
    property after := by
  induction deeds with
  | refl => exact holds
  | tail _ deed ih => exact keeps.deed deed ih

/-- Nor does a handler that runs with a new host. -/
theorem does {self after : ZtConnectionActor CC} {host : Host} (keeps : Books.Keeps licence property)
    (does : Does licence { self with host := host } after) (holds : property (self.books [])) :
    property (after.books []) :=
  keeps.run (does []) (keeps.host _ host.sends holds)

variable [HandshakeCrypto]

/-- Nor does one turn. -/
theorem step [CongestionController CC] {self : ZtConnectionActor CC} {event : Event} {host : Host}
    (keeps : Books.Keeps licence property)
    (covers : licence.Covers event { self with host := host }) (holds : property (self.books [])) :
    property ((self.step event host).books []) := by
  rcases ZtConnectionActor.step_does covers with same | ⟨-, does⟩
  · rw [same]
    exact holds
  · exact keeps.does does holds

/-- Nor does the start of an actor. -/
theorem start {self : ZtConnectionActor CC} {host : Host} (keeps : Books.Keeps licence property)
    (holds : property (self.books [])) : property ((self.start host).books []) := by
  rcases self.start_does host with same | does
  · rw [same]
    exact holds
  · exact keeps.does does holds

/-- Nor do any number of turns, if everything may happen in them. -/
theorem turns [CongestionController CC] {self : ZtConnectionActor CC}
    (keeps : Books.Keeps Licence.free property) (events : List (Event × Host))
    (holds : property (self.books [])) : property ((self.turns events).books []) := by
  induction events generalizing self with
  | nil => exact holds
  | cons turn rest ih => exact ih (keeps.step (Licence.free_covers _ _) holds)

end Books.Keeps
end Zetta
