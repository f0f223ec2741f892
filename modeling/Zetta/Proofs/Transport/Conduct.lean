import Zetta.Proofs.Transport.Receipt
import Zetta.Proofs.Transport.Steady

/-! What receiving leaves alone, and what a whole turn of the event loop can do to the path. -/

namespace Zetta

/-- The token a host makes up for a path challenge. -/
def Host.challenge (host : Host) : PathToken := ⟨beBytes 8 host.token, beBytes_length 8 _⟩

namespace ZtConnectionActor

open Program

variable {CC : Type} [Hkdf] [HandshakeCrypto] {before middle after : ZtConnectionActor CC}

section Streams

/-- Storing a stream's state. -/
theorem putStream_steady (self : ZtConnectionActor CC) (streamId : Nat) (stream : StreamState) :
    Steady self (self.putStream streamId stream) := .of_quiet rfl rfl rfl

/-- Draining a stream writes down what was read and handed out. -/
theorem drainStream_steady (self : ZtConnectionActor CC) (streamId bytesRead : Nat)
    (stream : StreamState) : Steady self (self.drainStream streamId bytesRead stream).2.2 := by
  unfold drainStream
  refine .of_same rfl (.inl rfl) (.of_append (List.append_assoc _ _ _) fun record member => ?_)
  -- Neither the report nor the chunks are packets.
  simp only [List.mem_append, List.mem_map] at member
  rcases member with new | ⟨chunk, -, new⟩
  · cases List.mem_singleton.mp new
  · cases new

/-- Growing a window. -/
theorem scaleUpStream_steady (self : ZtConnectionActor CC) (streamId newWindow : Nat) :
    Steady self (self.scaleUpStream streamId newWindow) := by
  unfold scaleUpStream
  split
  · exact .refl self
  · dsimp only
    split
    · exact putStream_steady self _ _
    · exact .refl self

/-- Moving data to the application, and telling the peer of a larger window. -/
theorem forwardStreamData_steady (self : ZtConnectionActor CC) (streamId bytesRead : Nat) :
    Steady self (exec (forwardStreamData streamId bytesRead) self).2 := by
  unfold forwardStreamData
  rw [exec_bind_get]
  split
  · exact .refl self
  · rename_i stream found
    dsimp only
    rw [exec_bind_set, exec_bind_modify, exec_bind_get]
    refine (drainStream_steady self streamId bytesRead stream).trans ?_
    generalize self.drainStream streamId bytesRead stream = drained
    have scaled : Steady drained.2.2
        (drained.2.1.elim drained.2.2 (scaleUpStream streamId · drained.2.2)) := by
      cases drained.2.1 with
      | none => exact .refl _
      | some newWindow => exact scaleUpStream_steady _ _ _
    refine scaled.trans ?_
    generalize drained.2.1.elim drained.2.2 (scaleUpStream streamId · drained.2.2) = ready
    split
    · exact .refl ready
    · rename_i current held
      split
      · -- The new limit is noted, issued and sent.
        refine keeps_bind_modify (putStream_steady ready streamId _) ?_
        refine keeps_bind_modify (Steady.note _ (.issued (.maxStreamData _ _)) nofun) ?_
        exact retransmitPayload_steady _ _ 0
      · exact .refl ready

/-- Starting to close the connection because of an error. -/
theorem closeWith_steady (self : ZtConnectionActor CC) (error : ZtError) :
    Steady self (exec (closeWith error) self).2 := by
  unfold closeWith
  exact keeps_bind_attempt (initiateClose_steady self) fun _ closing => .refl closing

/-- Counting a packet to acknowledge. -/
theorem acknowledge_steady (self : ZtConnectionActor CC) :
    Steady self (exec acknowledge self).2 := by
  unfold acknowledge
  refine keeps_bind_modify (.of_quiet rfl rfl rfl) ?_
  rw [exec_bind_get]
  split
  · exact keeps_bind_attempt (flushAcks_steady _) fun _ sent => .refl sent
  · exact .refl _

/-- Data for a stream in the table. -/
theorem receiveStreamData_steady (self : ZtConnectionActor CC) (id offset : Nat) (data : Bytes)
    (stream : StreamState) : Steady self (exec (receiveStreamData id offset data stream) self).2 := by
  unfold receiveStreamData
  rw [exec_bind_get]
  split
  · exact closeWith_steady self _
  · split
    · exact .refl self
    · split
      · exact closeWith_steady self _
      · dsimp only
        refine keeps_bind_set (putStream_steady self id _) ?_
        split
        · exact .of_quiet rfl rfl rfl
        · split
          · exact closeWith_steady _ _
          · split
            · exact closeWith_steady _ _
            · refine keeps_bind_modify (putStream_steady _ id _) ?_
              exact keeps_bind (forwardStreamData_steady _ id 0) fun _ sent => acknowledge_steady sent

/-- Stream data from the peer. -/
theorem handleStream_steady (self : ZtConnectionActor CC) (id : Nat) (streamType : StreamType)
    (offset : Nat) (data : Bytes) :
    Steady self (exec (handleStream id streamType offset data) self).2 := by
  rw [handleStream_eq]
  split
  · exact .refl self
  split
  · split
    · exact closeWith_steady self _
    split
    · exact .refl self
    split
    · refine Steady.trans ?_ (receiveStreamData_steady _ id offset data _)
      refine (Steady.note self (.created id) nofun).trans ?_
      exact (Steady.note _ (.surfaced id) nofun).trans (.of_quiet rfl rfl rfl)
    · exact closeWith_steady self _
  · split
    · exact closeWith_steady self _
    · exact receiveStreamData_steady self id offset data _

/-- The end of a stream. -/
theorem handleStreamClose_steady (self : ZtConnectionActor CC) (id finalSize : Nat) :
    Steady self (exec (handleStreamClose id finalSize) self).2 := by
  unfold handleStreamClose
  rw [exec_bind_get]
  split
  · exact .refl self
  · split
    · exact closeWith_steady self _
    · exact keeps_bind_set (putStream_steady self id _) (forwardStreamData_steady _ id 0)

/-- An abandoned stream. -/
theorem handleResetStream_steady (self : ZtConnectionActor CC) (streamId finalSize : Nat) :
    Steady self (exec (handleResetStream streamId finalSize) self).2 := by
  unfold handleResetStream
  rw [exec_bind_get]
  split
  · exact .refl self
  · split
    · exact closeWith_steady self _
    · exact (Steady.note self (.resetByPeer streamId) nofun).trans (.of_quiet rfl rfl rfl)

/-- A stream the peer does not want to hear on. -/
theorem handleStopSending_steady (self : ZtConnectionActor CC) (streamId errorCode : Nat) :
    Steady self (exec (handleStopSending streamId errorCode) self).2 := by
  unfold handleStopSending resetStream
  rw [exec_bind_modify, exec_bind_get]
  refine Steady.trans ?_ (sendPayload_steady _ _)
  split
  · exact .refl self
  · exact putStream_steady self _ _

/-- A larger limit for a stream. -/
theorem handleMaxStreamData_steady (self : ZtConnectionActor CC) (id maxData : Nat) :
    Steady self (self.handleMaxStreamData id maxData) := by
  unfold handleMaxStreamData
  split
  · exact .refl self
  · exact putStream_steady self _ _

variable [CongestionController CC]

/-- An acknowledgment. -/
theorem handleAckFrame_steady (self : ZtConnectionActor CC) (largestAcked windowSize ackDelay : Nat)
    (ackRanges : List (Nat × Nat)) :
    Steady self (exec (handleAckFrame largestAcked windowSize ackDelay ackRanges) self).2 := by
  unfold handleAckFrame
  rw [exec_bind_get]
  split
  · exact closeWith_steady self _
  · have same := handleAck_essence self.cc self largestAcked windowSize ackDelay ackRanges []
    generalize self.handleAck largestAcked windowSize ackDelay ackRanges [] = handled at same ⊢
    dsimp only
    rw [exec_bind_set]
    -- Besides the accounts, the window of packets in flight and the peer's credit change.
    have settled : Steady self handled.2 := by
      have standing := congrArg ZtConnectionActor.standing same
      have state := congrArg (fun actor : ZtConnectionActor CC => actor.state) same
      have log := congrArg (fun actor : ZtConnectionActor CC => actor.log) same
      exact .of_quiet standing state log
    exact settled.trans (retransmitAll_steady _ _)

end Streams

section Frames

/-- Changes of the path or of the stream limits, with everything else left alone. -/
theorem Follows.of_standing (identity : after.identity = before.identity)
    (response : after.handshakePacket = before.handshakePacket) (crypto : after.crypto = before.crypto)
    (number : after.nextPacketNumber = before.nextPacketNumber)
    (encryptions : after.encryptions = before.encryptions) (state : after.state = before.state)
    (log : after.log = before.log) : Follows before after := by
  -- None of this reads the path or the limits.
  refine ⟨⟨fun ordered => ?_, fun derived => ?_, fun settled => state ▸ settled⟩, identity,
    .of_eq log, .inl response, fun _ inactive => state ▸ inactive⟩
  · exact ⟨encryptions ▸ ordered.increasing, by rw [encryptions, number]; exact ordered.below,
      number ▸ ordered.fits⟩
  · exact ⟨crypto ▸ derived.current, encryptions ▸ derived.used⟩

/-- What the frames of a packet from an address do to an actor. -/
structure Answers (frames : List Frame) (addr : Address) (before after : ZtConnectionActor CC) : Prop
    extends Follows before after where
  limits : (∀ limit, .maxStreams limit ∉ frames) → after.streamLimits = before.streamLimits
  /-- The path changes only by the answer to the challenge that is waited for. -/
  path : after.pathState = before.pathState ∨
    ∃ token : PathToken, .pathResponse token.val ∈ frames ∧
      before.pathValidationToken = some token ∧ before.pendingValidationAddr = some addr ∧
      after.pathState = .validated addr

/-- Handlers that leave limits and path alone answer nothing. -/
theorem Steady.answers (steady : Steady before after) (frames : List Frame) (addr : Address) :
    Answers frames addr before after :=
  ⟨steady.toFollows, fun _ => steady.limits, .inl steady.path⟩

/-- One frame after the others. -/
theorem Answers.cons {frame : Frame} {rest : List Frame} {addr : Address}
    (first : Answers [frame] addr before middle) (second : Answers rest addr middle after) :
    Answers (frame :: rest) addr before after := by
  refine ⟨first.toFollows.trans second.toFollows, fun silent => ?_, ?_⟩
  · have later := second.limits fun limit member => silent limit (List.mem_cons_of_mem _ member)
    refine later.trans (first.limits fun limit member => ?_)
    rw [List.mem_singleton] at member
    exact silent limit (member ▸ List.mem_cons_self)
  · rcases first.path with same | ⟨token, member, expected, pending, moved⟩
    · -- The first frame left the path alone, so the rest found it as it was.
      rcases second.path with stays | ⟨token, member, expected, pending, moved⟩
      · exact .inl (stays.trans same)
      · have tokens : middle.pathValidationToken = before.pathValidationToken :=
          congrArg PathState.pathValidationToken same
        have addrs : middle.pendingValidationAddr = before.pendingValidationAddr :=
          congrArg PathState.pendingValidationAddr same
        exact .inr ⟨token, List.mem_cons_of_mem _ member, tokens ▸ expected, addrs ▸ pending, moved⟩
    · -- The first frame moved the connection, after which no answer is waited for.
      rw [List.mem_singleton] at member
      refine .inr ⟨token, member ▸ List.mem_cons_self, expected, pending, ?_⟩
      rcases second.path with stays | ⟨other, -, awaited, -, -⟩
      · exact stays.trans moved
      · have settled : middle.pathValidationToken = none :=
          congrArg PathState.pathValidationToken moved
        rw [settled] at awaited
        cases awaited

omit [Hkdf] [HandshakeCrypto] in
/-- The answer to a challenge moves the connection if it is the one waited for. -/
theorem handlePathResponse_cases (self : ZtConnectionActor CC) (data : Bytes) (addr : Address) :
    self.handlePathResponse data addr = self ∨
      ∃ token : PathToken, token.val = data ∧ self.pathValidationToken = some token ∧
        self.pendingValidationAddr = some addr ∧
        self.handlePathResponse data addr = { self with
          addr := addr
          pendingValidationAddr := none
          pathValidationToken := none
          pathValidationSentAt := none
          pathValidationRetries := 0 } := by
  unfold handlePathResponse
  split
  · rename_i expected
    obtain ⟨matching, pending⟩ := expected
    cases held : self.pathValidationToken with
    | none =>
      rw [held] at matching
      cases matching
    | some token =>
      rw [held] at matching
      exact .inr ⟨token, (Option.some.inj matching).symm, rfl, pending, rfl⟩
  · exact .inl rfl

variable [CongestionController CC]

/-- One frame is handled. -/
theorem handleFrame_answers (self : ZtConnectionActor CC) (frame : Frame) (addr : Address) :
    Answers [frame] addr self (exec (handleFrame frame addr) self).2 := by
  have steady : ∀ {after : ZtConnectionActor CC}, Steady self after →
      Answers [frame] addr self after := fun steady => steady.answers _ _
  unfold handleFrame
  split
  · exact steady (handleStream_steady self _ _ _ _)
  · exact steady (handleAckFrame_steady self _ _ _ _)
  · exact steady (.of_settled rfl nofun nofun rfl)
  · exact steady (.of_settled rfl nofun nofun rfl)
  · exact steady (handleStreamClose_steady self _ _)
  · exact steady (handleMaxStreamData_steady self _ _)
  · exact steady (.of_quiet rfl rfl rfl)
  · rw [exec_modify]
    split
    · exact steady (.of_quiet rfl rfl rfl)
    · exact steady (.refl self)
  · -- A larger limit on streams is the one frame that changes the limits.
    rename_i limit
    refine ⟨.of_standing rfl rfl rfl rfl rfl rfl rfl, fun silent => ?_, .inl rfl⟩
    exact absurd List.mem_cons_self (silent limit)
  · exact steady (keeps_bind_attempt (sendFrameImmediate_steady self _ addr) fun _ sent => .refl sent)
  · -- The answer to a challenge is the one frame that changes the path.
    rename_i data
    rw [exec_modify]
    rcases self.handlePathResponse_cases data addr with same | ⟨token, rfl, expected, pending, moved⟩
    · rw [same]
      exact steady (.refl self)
    · rw [moved]
      exact ⟨.of_standing rfl rfl rfl rfl rfl rfl rfl, fun _ => rfl,
        .inr ⟨token, List.mem_cons_self, expected, pending, rfl⟩⟩
  · exact steady (acknowledge_steady self)
  · exact steady (handleResetStream_steady self _ _)
  · exact steady (handleStopSending_steady self _ _)
  all_goals exact steady (.refl self)

/-- The frames of a packet are handled in order, up to the first error. -/
theorem handleFrames_answers (frames : List Frame) (addr : Address) (self : ZtConnectionActor CC) :
    Answers frames addr self (exec (handleFrames addr frames) self).2 := by
  -- The induction is on the frames left.
  induction frames generalizing self with
  | nil => exact (Steady.refl self).answers _ _
  | cons frame rest ih =>
    have first := handleFrame_answers self frame addr
    unfold handleFrames
    rw [exec_bind_get]
    dsimp only
    refine ends_bind (Answers (frame :: rest) addr self) ?_ fun _ _ => ?_
    · -- An error ends the packet.
      exact first.cons ((Steady.refl _).answers _ _)
    · rw [exec_bind_modify]
      generalize (exec (handleFrame frame addr) self).2 = handled at first ⊢
      have noted : Steady handled (handled.note (.handled frame
          (frame.streamId?.any self.streams.contains))) :=
        .note _ _ fun _ same => by cases same
      have kept : Answers [frame] addr self (handled.note (.handled frame
          (frame.streamId?.any self.streams.contains))) := by
        refine ⟨first.toFollows.trans noted.toFollows, fun silent => noted.limits.trans
          (first.limits silent), ?_⟩
        rw [noted.path]
        exact first.path
      exact kept.cons (ih _)

end Frames

section Packets

omit [Hkdf] [HandshakeCrypto] in
/-- Which keys a packet is opened with depends on the epoch and the numbers seen. -/
theorem chooseKey_congr (replay : after.replayWindow = before.replayWindow)
    (epoch : after.currentKeyEpoch = before.currentKeyEpoch) (header : PacketHeader) :
    after.chooseKey header = before.chooseKey header := by
  unfold chooseKey currentKeyPhase
  rw [replay, epoch]

/-- The frames of a packet, if it opens under the keys chosen for it. -/
def openedFrames (self : ZtConnectionActor CC) (packet : Packet) : Option (List Frame) :=
  match self.crypto, packet.body with
  | some crypto, .encrypted payload =>
    match self.openPayload crypto (self.recovered packet.header) packet.header.encode payload with
    | .ok (plaintext, _) => some (Frame.decodeFrames plaintext).1
    | .error _ => none
  | _, _ => none

omit [HandshakeCrypto] in
/-- The answer of the cryptography does not depend on the rest of the actor. -/
theorem openPayload_congr (replay : after.replayWindow = before.replayWindow)
    (epoch : after.currentKeyEpoch = before.currentKeyEpoch) (crypto : CryptoContext)
    (header : PacketHeader) (aad : Bytes) (payload : Sealed) :
    (after.openPayload crypto header aad payload).map Prod.fst =
      (before.openPayload crypto header aad payload).map Prod.fst := by
  unfold openPayload
  rw [chooseKey_congr replay epoch]
  cases before.chooseKey header with
  | next =>
    dsimp only
    cases crypto.trialDecryptAndRotate header.packetNumber aad payload <;> rfl
  | previous | current =>
    dsimp only
    cases crypto.decryptInPlace header.packetNumber aad payload _ <;> rfl

omit [HandshakeCrypto] in
/-- Neither the host nor the count of bytes matters for opening a packet. -/
theorem openedFrames_congr (crypto : after.crypto = before.crypto)
    (replay : after.replayWindow = before.replayWindow)
    (epoch : after.currentKeyEpoch = before.currentKeyEpoch) (packet : Packet) :
    after.openedFrames packet = before.openedFrames packet := by
  unfold openedFrames
  have header : after.recovered packet.header = before.recovered packet.header := by
    unfold recovered
    rw [replay]
  rw [crypto, header]
  split
  · rename_i keys payload held body
    have same := openPayload_congr replay epoch keys (before.recovered packet.header)
      packet.header.encode payload
    revert same
    cases after.openPayload keys (before.recovered packet.header) packet.header.encode payload <;>
      cases before.openPayload keys (before.recovered packet.header) packet.header.encode payload <;>
      simp [Except.map]
    intro same
    rw [same]
  · rfl

omit [HandshakeCrypto] in
/-- The host has no part in opening a packet. -/
theorem openedFrames_hosted (self : ZtConnectionActor CC) (host : Host) (packet : Packet) :
    ({ self with host := host } : ZtConnectionActor CC).openedFrames packet =
      self.openedFrames packet := by
  apply openedFrames_congr <;> rfl

omit [HandshakeCrypto] in
/-- Opening a packet leaves the actor as it is, or moves the keys on by one epoch. -/
theorem openPayload_cases {self opened : ZtConnectionActor CC} {crypto : CryptoContext}
    {header : PacketHeader} {aad plaintext : Bytes} {payload : Sealed}
    (succeeded : self.openPayload crypto header aad payload = .ok (plaintext, opened)) :
    opened = self ∨ opened = { self with
      crypto := some crypto.rotateKeys
      currentKeyEpoch := self.currentKeyEpoch + 1
      packetsSinceKeyUpdate := 0 } := by
  have kept : ∀ answer : Except ZtError Bytes,
      answer.map (·, self) = .ok (plaintext, opened) → opened = self := by
    intro answer mapped
    cases answer with
    | error error => cases mapped
    | ok text =>
      cases mapped
      rfl
  unfold openPayload at succeeded
  split at succeeded
  · -- The trial with the next keys commits to them when it succeeds.
    unfold CryptoContext.trialDecryptAndRotate at succeeded
    split at succeeded
    · cases succeeded
    · rename_i tried
      split at tried <;> cases tried
      cases succeeded
      exact .inr rfl
  · exact .inl (kept _ succeeded)
  · exact .inl (kept _ succeeded)

/-- The keys it may move on to are derived ones. -/
theorem openPayload_steady {self opened : ZtConnectionActor CC} {crypto : CryptoContext}
    {header : PacketHeader} {aad plaintext : Bytes} {payload : Sealed}
    (succeeded : self.openPayload crypto header aad payload = .ok (plaintext, opened)) :
    Steady self opened := by
  rcases openPayload_cases succeeded with rfl | rfl
  · exact .refl opened
  · refine ⟨⟨⟨fun ordered => ⟨ordered.increasing, ordered.below, ordered.fits⟩, ?_, id⟩, rfl,
      .of_eq rfl, .inl rfl, fun _ => id⟩, rfl, rfl⟩
    intro derived
    refine ⟨fun keys held => ?_, derived.used⟩
    cases held
    exact CryptoContext.applyEpochKeys_derived _ _

/-- Completing the handshake leaves it. -/
theorem activate_steady (self : ZtConnectionActor CC) : Steady self self.activate := by
  unfold activate
  split
  · rename_i server
    -- This is the server's way to become active.
    refine .of_settled rfl nofun (fun client => ?_) rfl
    simp [client] at server
  · exact .refl self

/-- The path while an address waits for the answer to its first challenge. -/
def challenged (self : ZtConnectionActor CC) (addr : Address) : PathState :=
  ⟨self.addr, some addr, some self.host.challenge, some self.host.now, 0⟩

/-- A packet from another address starts a validation of it, unless that is under way. -/
theorem validatePath_cases (self : ZtConnectionActor CC) (active : self.state = .active)
    (addr : Address) :
    Steady self (exec (validatePath addr) self).2 ∧
        (self.addr = addr ∨ self.pendingValidationAddr = some addr) ∨
      self.addr ≠ addr ∧ self.pendingValidationAddr ≠ some addr ∧
        Follows self (exec (validatePath addr) self).2 ∧
        (exec (validatePath addr) self).2.streamLimits = self.streamLimits ∧
        (exec (validatePath addr) self).2.pathState = self.challenged addr := by
  unfold validatePath
  rw [exec_bind_get]
  by_cases known : self.addr = addr
  · -- The address in use needs no validation.
    rw [if_neg (fun elsewhere => elsewhere.2 known), if_neg (by rw [active]; decide)]
    exact .inl ⟨.refl self, .inl known⟩
  · rw [if_pos ⟨active, known⟩]
    by_cases pending : self.pendingValidationAddr = some addr
    · rw [if_neg (not_not_intro pending)]
      exact .inl ⟨.refl self, .inr pending⟩
    · rw [if_pos pending]
      dsimp only
      rw [exec_bind_set, exec_bind_attempt]
      -- The challenge goes out after the path is noted, and leaves it alone.
      generalize noted : ({ self with
        pendingValidationAddr := some addr
        pathValidationToken := some ⟨beBytes 8 self.host.token, beBytes_length 8 _⟩
        pathValidationSentAt := some self.host.now
        pathValidationRetries := 0 } : ZtConnectionActor CC) = waiting
      have started : Follows self waiting := by
        rw [← noted]
        exact .of_standing rfl rfl rfl rfl rfl rfl rfl
      have limits : waiting.streamLimits = self.streamLimits := by rw [← noted]; rfl
      have path : waiting.pathState = self.challenged addr := by rw [← noted]; rfl
      have sent := sendFrameImmediate_steady waiting
        (.pathChallenge (beBytes 8 self.host.token)) addr
      exact .inr ⟨known, pending, started.trans sent.toFollows, sent.limits.trans limits,
        sent.path.trans path⟩

/-- A validation of an address is under way and waits for a token, or is started by this packet. -/
def Awaits (self : ZtConnectionActor CC) (addr : Address) (token : PathToken) : Prop :=
  self.pendingValidationAddr = some addr ∧ self.pathValidationToken = some token ∨
    self.addr ≠ addr ∧ self.pendingValidationAddr ≠ some addr ∧ token = self.host.challenge

/-- What an opened packet from an address does to an actor. -/
structure Arrives (frames : List Frame) (addr : Address) (before after : ZtConnectionActor CC) : Prop
    extends Follows before after where
  /-- Opening a packet completes the handshake of a server. -/
  left : after.state ≠ .handshaking
  limits : (∀ limit, .maxStreams limit ∉ frames) → after.streamLimits = before.streamLimits
  path : after.pathState = before.pathState ∨
    before.addr ≠ addr ∧ before.pendingValidationAddr ≠ some addr ∧
        after.pathState = before.challenged addr ∨
      ∃ token : PathToken, .pathResponse token.val ∈ frames ∧ before.Awaits addr token ∧
        after.pathState = .validated addr

variable [CongestionController CC]

/-- The path is checked, the number recorded, and the frames handled. -/
theorem handleOpened_arrives (self : ZtConnectionActor CC) (active : self.state = .active)
    (packetNumber : Nat) (frames : List Frame) (addr : Address) :
    Arrives frames addr self (exec (handleOpened packetNumber frames addr) self).2 := by
  unfold handleOpened
  -- Recording the number leaves everything here alone, and then the frames are answered.
  have rest : ∀ checked : ZtConnectionActor CC, Answers frames addr checked
      (exec (do modify fun self => self.markProcessed packetNumber; handleFrames addr frames)
        checked).2 := by
    intro checked
    rw [exec_bind_modify]
    have marked : Steady checked (checked.markProcessed packetNumber) := .of_quiet rfl rfl rfl
    have answered := handleFrames_answers frames addr (checked.markProcessed packetNumber)
    exact ⟨marked.toFollows.trans answered.toFollows, answered.limits, answered.path⟩
  have checks := self.validatePath_cases active addr
  -- Validation never fails, so the frames are always reached.
  obtain ⟨answer, succeeded⟩ : ∃ answer, exec (validatePath addr) self =
      (.ok answer, (exec (validatePath addr) self).2) := by
    unfold validatePath
    rw [exec_bind_get]
    split
    · split
      · exact ⟨(), rfl⟩
      · exact ⟨(), rfl⟩
    · split
      · exact ⟨(), rfl⟩
      · exact ⟨(), rfl⟩
  rw [exec_bind_ok succeeded]
  have answered := rest (exec (validatePath addr) self).2
  generalize (exec (validatePath addr) self).2 = checked at checks answered
  have settled : self.state ≠ .handshaking := by rw [active]; decide
  rcases checks with ⟨steady, known⟩ | ⟨elsewhere, fresh, follows, limits, path⟩
  · have both := steady.toFollows.trans answered.toFollows
    refine ⟨both, both.settled settled,
      fun silent => (answered.limits silent).trans steady.limits, ?_⟩
    rcases answered.path with same | ⟨token, member, expected, pending, moved⟩
    · exact .inl (same.trans steady.path)
    · -- The answer was waited for before the packet came.
      have tokens : checked.pathValidationToken = self.pathValidationToken :=
        congrArg PathState.pathValidationToken steady.path
      have addrs : checked.pendingValidationAddr = self.pendingValidationAddr :=
        congrArg PathState.pendingValidationAddr steady.path
      exact .inr (.inr ⟨token, member, .inl ⟨addrs ▸ pending, tokens ▸ expected⟩, moved⟩)
  · have both := follows.trans answered.toFollows
    refine ⟨both, both.settled settled,
      fun silent => (answered.limits silent).trans limits, ?_⟩
    rcases answered.path with same | ⟨token, member, expected, pending, moved⟩
    · exact .inr (.inl ⟨elsewhere, fresh, same.trans path⟩)
    · -- The packet itself carries the token made up for it.
      have tokens : checked.pathValidationToken = some self.host.challenge :=
        congrArg PathState.pathValidationToken path
      rw [tokens] at expected
      cases expected
      exact .inr (.inr ⟨_, member, .inr ⟨elsewhere, fresh, rfl⟩, moved⟩)

/-- A response passes every check of a client and completes its handshake. -/
structure Completes (client : ZtConnectionActor CC) (packet : Packet) (addr : Address)
    (completed : ZtConnectionActor CC) : Prop where
  state : client.state = .handshaking
  kind : packet.header.pType = .handshake
  version : packet.header.version = protocolVersion
  checked : ∃ payload handshake parameters secret, packet.body = .encrypted payload ∧
    readHandshakeResponse (client.recovered packet.header) packet.header.encode payload =
      .ok (handshake, parameters) ∧
    client.checkHandshakeResponse (client.recovered packet.header) handshake parameters = .ok () ∧
    client.ephemeralSecret = some secret ∧
    completed = client.completeHandshake (client.recovered packet.header) addr secret handshake parameters

/-- What becomes of a packet from the network. -/
inductive Processed (packet : Packet) (addr : Address) (self after : ZtConnectionActor CC) : Prop
  | steady (steady : Steady self after)
  | opened {frames : List Frame} (opens : self.openedFrames packet = some frames)
      (arrives : Arrives frames addr self after) (kind : packet.header.pType.isProtected = true)
  | completed (completes : Completes self packet addr after)
  /-- A server answers a repeated Initial with the response it keeps. -/
  | resent {response : LongPacket} (kind : packet.header.pType = .initial)
      (server : self.isClient = false) (kept : self.handshakePacket = some response)
      (answered : after = (exec (sendmsgVectored response.1 0) self).2)

omit [CongestionController CC] in
/-- A response is refused without a change, or completes the handshake. -/
theorem handleHandshakeResponse_cases (self : ZtConnectionActor CC) (packet : Packet)
    (addr : Address) (state : self.state = .handshaking) (kind : packet.header.pType = .handshake) :
    (exec (handleHandshakeResponse (self.recovered packet.header) packet.body packet.header.encode
        addr) self).2 = self ∨
      Completes self packet addr (exec (handleHandshakeResponse (self.recovered packet.header)
        packet.body packet.header.encode addr) self).2 := by
  unfold handleHandshakeResponse
  rw [exec_bind_get]
  -- Every check comes before the first assignment.
  split
  · exact .inl rfl
  · rename_i version
    split
    · split <;> exact .inl rfl
    · rename_i payload body
      split
      · exact .inl rfl
      · rename_i handshake parameters read
        split
        · exact .inl rfl
        · rename_i checked
          split
          · exact .inl rfl
          · rename_i secret held
            exact .inr ⟨state, kind, not_not.mp version, payload, handshake, parameters, secret, body,
              read, checked, held, rfl⟩

/-- A packet after the handshake is left alone, or opened and handled. -/
theorem processProtected_processed (self : ZtConnectionActor CC) (packet : Packet) (addr : Address)
    (kind : packet.header.pType.isProtected = true) (accepts : self.acceptsProtected = true) :
    Processed packet addr self (exec (processProtected (self.recovered packet.header) packet.body
      packet.header.encode addr) self).2 := by
  unfold processProtected
  rw [exec_bind_get]
  split
  · exact .steady (.refl self)
  · split <;> exact .steady (.refl self)
  · rename_i crypto payload held body
    split
    · exact .steady (.refl self)
    · rename_i plaintext opened succeeded
      rw [exec_bind_set]
      have opens : self.openedFrames packet = some (Frame.decodeFrames plaintext).1 := by
        unfold openedFrames
        rw [held, body]
        dsimp only
        rw [succeeded]
      have first : Steady self opened.activate :=
        (openPayload_steady succeeded).trans (activate_steady opened)
      obtain ⟨state, host⟩ : opened.state = self.state ∧ opened.activate.host = self.host := by
        unfold activate
        rcases openPayload_cases succeeded with rfl | rfl
        · split <;> exact ⟨rfl, rfl⟩
        · split <;> exact ⟨rfl, rfl⟩
      have role : opened.isClient = self.isClient :=
        congrArg Identity.isClient (openPayload_steady succeeded).identity
      -- Whoever accepts such packets is active once one was opened.
      have active : opened.activate.state = .active := by
        unfold activate
        unfold acceptsProtected at accepts
        rw [state, role]
        split
        · rfl
        · rename_i inactive
          rw [state]
          rcases of_decide_eq_true accepts with active | server
          · exact active
          · exact absurd server inactive
      have arrives := handleOpened_arrives opened.activate active
        (self.recovered packet.header).packetNumber (Frame.decodeFrames plaintext).1 addr
      refine .opened opens ⟨first.toFollows.trans arrives.toFollows, arrives.left,
        fun silent => (arrives.limits silent).trans first.limits, ?_⟩ kind
      have addrs : opened.activate.addr = self.addr := congrArg PathState.addr first.path
      have pendings : opened.activate.pendingValidationAddr = self.pendingValidationAddr :=
        congrArg PathState.pendingValidationAddr first.path
      have tokens : opened.activate.pathValidationToken = self.pathValidationToken :=
        congrArg PathState.pathValidationToken first.path
      have path := arrives.path
      unfold challenged Awaits at path ⊢
      rw [addrs, pendings, tokens, host, first.path] at path
      exact path

/-- Every packet has its bytes counted first. -/
theorem processIncomingPacket_processed (self : ZtConnectionActor CC) (packet : Packet)
    (addr : Address) : Processed packet addr (self.counted packet)
      (exec (processIncomingPacket packet addr) self).2 := by
  unfold processIncomingPacket
  rw [exec_bind_modify]
  show Processed packet addr (self.counted packet) (exec (get >>= _) (self.counted packet)).2
  generalize self.counted packet = self
  rw [exec_bind_get]
  split
  · exact .steady (.refl self)
  · split
    · -- A server answers an Initial with the response it keeps.
      rename_i repeated
      split
      · exact .steady (.refl self)
      · rename_i response kept
        exact .resent repeated.1 (by simpa using repeated.2) kept rfl
    · dsimp only
      split
      · exact .steady (.refl self)
      · unfold dispatchPacket
        rw [exec_bind_get]
        split
        · rename_i kind
          split
          · rename_i state
            rcases self.handleHandshakeResponse_cases packet addr state kind with same | completes
            · rw [same]
              exact .steady (.refl self)
            · exact .completed completes
          · exact .steady (.refl self)
        · split
          · -- A Retry starts the handshake again with its cookie.
            unfold handleRetryPacket sendInitialPacket
            refine .steady (keeps_bind_modify (Steady.note _ (.issued (.initial _)) nofun) ?_)
            exact sendInitialPacketInternal_steady _ _ 0
          · exact .steady (.refl self)
        all_goals first
          | split
            · rename_i sort accepts
              have sorted : packet.header.pType = _ := sort
              exact self.processProtected_processed packet addr (by rw [sorted]; rfl) accepts
            · exact .steady (.refl self)
          | exact .steady (.refl self)

omit [Hkdf] [HandshakeCrypto] [CongestionController CC] in
/-- Repeating a response changes nothing that only the handlers about it change. -/
theorem resent_standing (self : ZtConnectionActor CC) (packet response : Packet) :
    (exec (sendmsgVectored response 0) (self.counted packet)).2.standing = self.standing :=
  ((self.counted packet).sendmsgVectored_sends response 0).1

end Packets

section Events

/-- What an event does to an actor. -/
inductive Conducts (event : Event) (self after : ZtConnectionActor CC) : Prop
  | steady (steady : Steady self after)
  | arrives {packet : Packet} {addr : Address} {frames : List Frame}
      (packets : event = .incomingPacket packet addr) (opens : self.openedFrames packet = some frames)
      (arrives : Arrives frames addr self after) (kind : packet.header.pType.isProtected = true)
  | completes {packet : Packet} {addr : Address} {completed : ZtConnectionActor CC}
      (packets : event = .incomingPacket packet addr)
      (completes : Completes (self.counted packet) packet addr completed)
      (rest : Steady completed after)
  | resends {packet : Packet} {addr : Address} {response : LongPacket}
      (packets : event = .incomingPacket packet addr) (kind : packet.header.pType = .initial)
      (server : self.isClient = false) (kept : self.handshakePacket = some response)
      (rest : Steady (exec (sendmsgVectored response.1 0) (self.counted packet)).2 after)
  | opensStream {streamType : StreamType} {stream : StreamState}
      (asks : event = .openStream streamType)
      (admitted : self.openedStreams self.localParity < self.peerMaxStreams)
      (opened : after = { (self.note (.created self.nextStreamId)).putStream self.nextStreamId stream
        with nextStreamId := self.nextStreamId + 2 })
  | adopts {response : LongPacket} (sets : event = .setHandshakePacket response)
      (adopted : after = { self with handshakePacket := some response })
  | repeats {addr : Address} {token : PathToken} (timer : event = .pathValidationTimer)
      (left : self.pathValidationRetries < self.config.maxPathValidationRetries)
      (pending : self.pendingValidationAddr = some addr)
      (expected : self.pathValidationToken = some token)
      (again : Steady { self with
        pathValidationRetries := self.pathValidationRetries + 1
        pathValidationSentAt := some self.host.now } after)
  | abandons (timer : event = .pathValidationTimer)
      (spent : self.config.maxPathValidationRetries ≤ self.pathValidationRetries)
      (abandoned : after = { self with
        pendingValidationAddr := none
        pathValidationToken := none
        pathValidationSentAt := none
        pathValidationRetries := 0 })

/-- Sending what the pacer allows after an event. -/
theorem resetPacing_steady (self : ZtConnectionActor CC) :
    Steady self (exec resetPacing self).2 := by
  unfold resetPacing
  rw [exec_bind_get]
  split
  · exact keeps_bind (flushPacingQueue_steady self) fun _ sent => .refl sent
  · exact .refl self

/-- A handler whose failure is only logged, and the pacer after it. -/
theorem paced_steady {α : Type} {self : ZtConnectionActor CC} {handler : Act CC α}
    (handled : Steady self (exec handler self).2) :
    Steady self (exec (do logged handler; resetPacing) self).2 := by
  rw [exec_bind_logged]
  exact handled.trans (resetPacing_steady _)

/-- The pacer after a packet was processed. -/
theorem Processed.paced {packet : Packet} {addr : Address} {self processed : ZtConnectionActor CC}
    (known : Processed packet addr (self.counted packet) processed) :
    Conducts (.incomingPacket packet addr) self (exec resetPacing processed).2 := by
  have counted : Steady self (self.counted packet) := .of_quiet rfl rfl rfl
  have paced := resetPacing_steady processed
  cases known with
  | steady steady => exact .steady (counted.trans (steady.trans paced))
  | opened opens arrives kind =>
    have same : self.openedFrames packet = (self.counted packet).openedFrames packet := by
      apply openedFrames_congr <;> rfl
    refine .arrives rfl (same.trans opens)
      ⟨counted.toFollows.trans (arrives.toFollows.trans paced.toFollows),
        paced.settled arrives.left,
        fun silent => paced.limits.trans (arrives.limits silent), ?_⟩ kind
    rw [paced.path]
    exact arrives.path
  | completed completes => exact .completes rfl completes paced
  | resent kind server kept answered => exact .resends rfl kind server kept (answered ▸ paced)

/-- The application asks for a stream. -/
theorem openStream_conducts (self : ZtConnectionActor CC) (streamType : StreamType) :
    Conducts (.openStream streamType) self (exec (openStream streamType) self).2 := by
  unfold openStream
  rw [exec_bind_get]
  split
  · exact .steady (.refl self)
  · split
    · -- The peer hears that the limit is reached.
      rw [exec_bind_logged]
      exact .steady (sendFrameImmediate_steady self _ _)
    · rename_i admitted
      split
      · exact .steady (.refl self)
      · exact .opensStream rfl (not_le.mp admitted) rfl

/-- The path challenge is repeated or given up. -/
theorem pathValidationTimeout_conducts (self : ZtConnectionActor CC) :
    Conducts .pathValidationTimer self (exec pathValidationTimeout self).2 := by
  unfold pathValidationTimeout
  rw [exec_bind_get]
  split
  · rename_i left
    split
    · rename_i addr token pending expected
      rw [exec_bind_set]
      refine .repeats rfl left pending expected ?_
      exact keeps_bind_attempt (sendFrameImmediate_steady _ _ addr) fun _ sent => .refl sent
    · exact .steady (.refl self)
  · rename_i spent
    exact .abandons rfl (not_lt.mp spent) rfl

/-- Forgetting a stream. -/
theorem removeStream_steady (self : ZtConnectionActor CC) (streamId : Nat) :
    Steady self (self.removeStream streamId) := by
  unfold removeStream
  split
  · exact (Steady.note self (.closedLocally streamId) nofun).trans (.of_quiet rfl rfl rfl)
  · exact .refl self

/-- The application's use of a channel. -/
theorem applyAction_steady (self : ZtConnectionActor CC) (action : AppAction) :
    Steady self (self.applyAction action) := by
  have updated : ∀ streamId change, Steady self (self.updateChannel streamId change) := by
    intro streamId change
    unfold updateChannel
    split
    · exact .refl self
    · exact putStream_steady self _ _
  cases action with
  | recvChunk streamId => exact updated streamId _
  | dropStream streamId => exact updated streamId _
  | acceptStream | dropHandle | recvDatagram => exact .of_quiet rfl rfl rfl

/-- A stream is closed or reset: the peer is told, and the stream forgotten. -/
theorem endStream_steady {α : Type} (self : ZtConnectionActor CC) {handler : Act CC α}
    (told : Steady self (exec handler self).2) (streamId : Nat) :
    Steady self (exec (do logged handler; modify (removeStream streamId); resetPacing) self).2 := by
  rw [exec_bind_logged, exec_bind_modify]
  exact told.trans ((removeStream_steady _ streamId).trans (resetPacing_steady _))

variable [CongestionController CC]

/-- The application sends a datagram. -/
theorem sendDatagram_steady (self : ZtConnectionActor CC) (data : Bytes) :
    Steady self (exec (sendDatagram data) self).2 := by
  unfold sendDatagram
  rw [exec_bind_get]
  dsimp only
  split
  · exact .refl self
  · split
    · exact .refl self
    · exact keeps_bind (sendPayload_steady self _) fun _ sent => resetPacing_steady sent

/-- The application read from a stream. -/
theorem streamDataRead_steady (self : ZtConnectionActor CC) (streamId : UInt32) (bytesRead : Nat) :
    Steady self (exec (handleEvent (.streamDataRead streamId bytesRead)) self).2 := by
  unfold handleEvent
  rw [exec_bind_logged]
  refine (forwardStreamData_steady self streamId.toNat bytesRead).trans ?_
  generalize (exec (forwardStreamData streamId.toNat bytesRead) self).2 = forwarded
  split
  · -- The larger window goes out with an acknowledgment.
    refine keeps_bind_modify (.of_quiet rfl rfl rfl) ?_
    exact paced_steady (flushAcks_steady _)
  · exact resetPacing_steady forwarded

/-- Every event conducts the actor in one of these ways. -/
theorem handleEvent_conducts (self : ZtConnectionActor CC) (event : Event) :
    Conducts event self (exec (handleEvent event) self).2 := by
  cases event with
  | incomingPacket packet addr =>
    unfold handleEvent
    rw [exec_bind_logged]
    exact (self.processIncomingPacket_processed packet addr).paced
  | outgoingData streamId data =>
    refine .steady (keeps_bind_modify (.of_quiet rfl rfl rfl) ?_)
    exact paced_steady (processOutgoingData_steady _ _ _)
  | getMtu | getStats => exact .steady (.refl self)
  | closeStream streamId =>
    refine .steady (endStream_steady self ?_ streamId.toNat)
    unfold sendStreamClose
    rw [exec_bind_get]
    exact sendPayload_steady self _
  | resetStream streamId errorCode =>
    refine .steady (endStream_steady self ?_ streamId.toNat)
    unfold ZtConnectionActor.resetStream
    rw [exec_bind_get]
    exact sendPayload_steady self _
  | openStream streamType => exact self.openStream_conducts streamType
  | setHandshakePacket response => exact .adopts rfl rfl
  | streamDataRead streamId bytesRead => exact .steady (self.streamDataRead_steady streamId bytesRead)
  | close => exact .steady (paced_steady (initiateClose_steady self))
  | closeWithError errorCode reason =>
    exact .steady (paced_steady (initiateCloseWithError_steady self _ _))
  | sendDatagram data => exact .steady (self.sendDatagram_steady data)
  | delayedAckTimer => exact .steady (flushAcks_steady self)
  | rtoTimer =>
    unfold handleEvent
    refine .steady (keeps_bind_attempt (handleRetransmits_steady self) fun _ sent => ?_)
    split
    · exact .of_quiet rfl rfl rfl
    · exact resetPacing_steady sent
  | mtuProbeTimer => exact .steady (sendMtuProbe_steady self)
  | pacingTimer => exact .steady (resetPacing_steady self)
  | socketWritable =>
    unfold handleEvent
    rw [exec_bind_get]
    split
    · exact .steady (keeps_bind_set (.of_quiet rfl rfl rfl) (resetPacing_steady _))
    · exact .steady (.refl self)
  | pathValidationTimer => exact self.pathValidationTimeout_conducts
  | idleTimer => exact .steady (.of_quiet rfl rfl rfl)
  | app action => exact .steady (self.applyAction_steady action)

omit [CongestionController CC] in
/--
Apart from the handshake, an event leaves an actor who it is.

During the handshake it also leaves the address alone.
-/
theorem Conducts.follows {event : Event} {self after : ZtConnectionActor CC}
    (conducts : Conducts event self after) :
    (Follows self after ∧ (after.state = .handshaking → after.addr = self.addr)) ∨
      (∃ packet addr completed, event = .incomingPacket packet addr ∧
        Completes (self.counted packet) packet addr completed ∧ Steady completed after) ∨
      (∃ packet addr response, event = .incomingPacket packet addr ∧
        packet.header.pType = .initial ∧ self.isClient = false ∧
        self.handshakePacket = some response ∧
        Steady (exec (sendmsgVectored response.1 0) (self.counted packet)).2 after) ∨
      ∃ response, event = .setHandshakePacket response := by
  cases conducts with
  | steady steady => exact .inl ⟨steady.toFollows, fun _ => congrArg PathState.addr steady.path⟩
  | arrives packets opens arrives =>
    exact .inl ⟨arrives.toFollows, fun handshaking => absurd handshaking arrives.left⟩
  | completes packets completes rest => exact .inr (.inl ⟨_, _, _, packets, completes, rest⟩)
  | resends packets kind server kept rest =>
    exact .inr (.inr (.inl ⟨_, _, _, packets, kind, server, kept, rest⟩))
  | opensStream asks admitted opened =>
    -- A stream is no part of who an actor is.
    left
    rw [opened]
    refine ⟨⟨⟨fun ordered => ⟨ordered.increasing, ordered.below, ordered.fits⟩,
      fun derived => ⟨derived.current, derived.used⟩, id⟩, rfl, ?_, .inl rfl, fun _ => id⟩,
      fun _ => rfl⟩
    exact .of_append rfl fun record member => nomatch List.mem_singleton.mp member
  | adopts sets adopted => exact .inr (.inr (.inr ⟨_, sets⟩))
  | repeats timer left pending expected again =>
    have noted : Follows self { self with
        pathValidationRetries := self.pathValidationRetries + 1
        pathValidationSentAt := some self.host.now } := .of_standing rfl rfl rfl rfl rfl rfl rfl
    exact .inl ⟨noted.trans again.toFollows, fun _ => congrArg PathState.addr again.path⟩
  | abandons timer spent abandoned =>
    rw [abandoned]
    exact .inl ⟨.of_standing rfl rfl rfl rfl rfl rfl rfl, fun _ => rfl⟩

/-- So does a turn of the event loop, which a closed connection takes no part in. -/
theorem step_conducts (self : ZtConnectionActor CC) (event : Event) (host : Host) :
    Steady self (self.step event host) ∨
      Conducts event { self with host := host } (self.step event host) := by
  unfold step
  split
  · exact .inl (.refl self)
  · split
    · exact .inl (.of_quiet rfl rfl rfl)
    · exact .inr (handleEvent_conducts _ event)

omit [CongestionController CC] in
/-- What a client sends before its first turn is its Initial. -/
theorem start_steady (self : ZtConnectionActor CC) (host : Host) : Steady self (self.start host) := by
  unfold start
  split
  · have hosted : Steady self { self with host := host } := .of_quiet rfl rfl rfl
    unfold sendInitialPacket
    refine hosted.trans (keeps_bind_modify (Steady.note _ (.issued (.initial none)) nofun) ?_)
    exact sendInitialPacketInternal_steady _ _ 0
  · exact .refl self

/-- A client becomes active in no other way than by completing its handshake. -/
theorem completes_of_active {self : ZtConnectionActor CC} {event : Event} {host : Host}
    (client : self.isClient = true) (inactive : self.state ≠ .active)
    (active : (self.step event host).state = .active) :
    ∃ packet addr, event = .incomingPacket packet addr ∧
      Completes ({ self with host := host }.counted packet) packet addr
        (exec (processIncomingPacket packet addr) { self with host := host }).2 := by
  have follows : ∀ {after : ZtConnectionActor CC}, Follows { self with host := host } after →
      after.state ≠ .active := fun kept => kept.entered client inactive
  rcases self.step_conducts event host with steady | conducts
  · exact absurd active (steady.entered client inactive)
  cases conducts with
  | steady steady => exact absurd active (follows steady.toFollows)
  | arrives packets opens arrives => exact absurd active (follows arrives.toFollows)
  | resends packets kind server kept rest =>
    rw [show self.isClient = false from server] at client
    cases client
  | opensStream asks admitted opened =>
    rw [opened] at active
    exact absurd active inactive
  | adopts sets adopted =>
    rw [adopted] at active
    exact absurd active inactive
  | repeats timer left pending expected again =>
    have noted : Follows { self with host := host } { self with
        host := host
        pathValidationRetries := self.pathValidationRetries + 1
        pathValidationSentAt := some host.now } := .of_standing rfl rfl rfl rfl rfl rfl rfl
    exact absurd active (follows (noted.trans again.toFollows))
  | abandons timer spent abandoned =>
    rw [abandoned] at active
    exact absurd active inactive
  | completes packets completes rest =>
    rename_i packet addr completed
    refine ⟨packet, addr, packets, ?_⟩
    subst packets
    unfold step at active
    split at active
    · exact absurd active inactive
    split at active
    · exact absurd active inactive
    -- The pacer makes nobody active, so the packet did, and only a response does that.
    unfold handleEvent at active
    rw [exec_bind_logged] at active
    have paced := resetPacing_steady
      (exec (processIncomingPacket packet addr) { self with host := host }).2
    have counted : Steady { self with host := host } ({ self with host := host }.counted packet) :=
      .of_quiet rfl rfl rfl
    have processed := processIncomingPacket_processed { self with host := host } packet addr
    generalize (exec (processIncomingPacket packet addr) { self with host := host }).2 = after
      at processed paced active ⊢
    cases processed with
    | steady steady =>
      exact absurd active (follows ((counted.trans steady).trans paced).toFollows)
    | opened opens arrives =>
      exact absurd active
        (follows ((counted.toFollows.trans arrives.toFollows).trans paced.toFollows))
    | completed completed => exact completed
    | resent kind server kept answered =>
      rw [show self.isClient = false from server] at client
      cases client

end Events

end ZtConnectionActor
end Zetta
