import Zetta.Proofs.Transport.IncomingHandler

/-! Every turn of the event loop follows the machine. -/

namespace Zetta

namespace StreamState

/-- The application's use of a channel is accounting as long as it adds nothing. -/
theorem bookkeeping_recv (stream : StreamState) :
    Bookkeeping stream { stream with channel := stream.channel.recv } := by
  unfold Channel.recv
  split
  · rename_i more
    exact ⟨rfl, Nat.le_succ _, fun _ => more, fun alive => alive, rfl⟩
  · exact ⟨rfl, le_rfl, fun inside => inside, fun alive => alive, rfl⟩

/-- So is dropping its end. -/
theorem bookkeeping_dropReceiver (stream : StreamState) :
    Bookkeeping stream { stream with channel := stream.channel.dropReceiver } :=
  ⟨rfl, le_rfl, fun inside => inside, nofun, rfl⟩

end StreamState

namespace ZtConnectionActor

open Program

variable {CC : Type} [Hkdf] {env : Environment}

/-- A stream leaves the table at the application's request, if it is there. -/
theorem removeStream_moves (self : ZtConnectionActor CC) (acts : env.acting) (streamId : Nat) :
    Moves env self (self.removeStream streamId) := by
  unfold removeStream
  split
  · rename_i known
    obtain ⟨stream, found⟩ : ∃ stream, self.streams.find? streamId = some stream := by
      simpa [SortedMap.contains, Option.isSome_iff_exists] using known
    exact .single (.remove found (.closed acts)) rfl
  · exact .refl self

/-- Using the channel of a stream is a step of that stream. -/
theorem updateChannel_moves (self : ZtConnectionActor CC) (streamId : Nat)
    {change : Channel Bytes → Channel Bytes}
    (kept : ∀ stream : StreamState,
      stream.Bookkeeping { stream with channel := change stream.channel }) :
    Moves env self (self.updateChannel streamId change) := by
  unfold updateChannel
  split
  · exact .refl self
  · rename_i stream found
    exact .stream found (.bookkeeping (kept stream))

/-- Whatever the application does with its channels is a step. -/
theorem applyAction_moves (self : ZtConnectionActor CC) (action : AppAction) :
    Moves env self (self.applyAction action) := by
  cases action with
  | recvChunk streamId => exact self.updateChannel_moves streamId StreamState.bookkeeping_recv
  | dropStream streamId =>
    exact self.updateChannel_moves streamId StreamState.bookkeeping_dropReceiver
  -- Accepted streams and datagrams are not part of the session.
  | acceptStream | dropHandle | recvDatagram => exact .of_same rfl rfl

/-- The path challenge is sent again, or given up. -/
theorem pathValidationTimeout_moves (self : ZtConnectionActor CC) :
    Moves env self (exec pathValidationTimeout self).2 := by
  unfold pathValidationTimeout
  rw [exec_bind_get]
  split
  · split
    · rename_i addr token pending challenge
      rw [exec_bind_set]
      refine Moves.trans ?_ (.of_sends (sendFrameImmediate_sends _ ?_ addr))
      · exact .of_same rfl rfl
      · exact token.2
    · exact .refl self
  · exact .of_same rfl rfl

/-- A new stream of the application takes the next id, which is not in the table. -/
theorem openStream_moves {self : ZtConnectionActor CC} (sound : self.Sound) (acts : env.acting)
    (streamType : StreamType) : Moves env self (exec (openStream streamType) self).2 := by
  unfold openStream
  rw [exec_bind_get]
  split
  · exact .refl self
  · split
    · -- The peer's limit is reached, and the peer is told so.
      have blocked : (Frame.streamsBlocked (self.peerMaxStreams % u64Size)).IsControl :=
        Nat.mod_lt _ (by decide)
      exact .of_sends (sendFrameImmediate_sends self blocked self.addr)
    · split
      · exact .refl self
      · rename_i room
        exact .single (.openLocal streamType self.host.now acts sound.names.fresh (not_le.mp room)) rfl

omit [Hkdf] in
/-- A logged handler hands over the state it ended in. -/
theorem exec_bind_logged {α β : Type} (handler : Act CC α) (next : Unit → Act CC β)
    (self : ZtConnectionActor CC) :
    exec (logged handler >>= next) self = exec (next ()) (exec handler self).2 := rfl

variable [HandshakeCrypto]

/-- Sending what the pacer allows is a sequence of steps. -/
theorem resetPacing_moves {self : ZtConnectionActor CC} (sound : self.Sound) :
    Moves env self (exec resetPacing self).2 := by
  unfold resetPacing
  rw [exec_bind_get]
  split
  · refine ends_bind (Moves env self) (flushPacingQueue_moves sound) fun _ _ => ?_
    exact flushPacingQueue_moves sound
  · exact .refl self

/-- A handler whose failure is logged, and what the pacer allows afterwards. -/
theorem Moves.paced {origin self : ZtConnectionActor CC} (moves : Moves env origin self)
    (sound : origin.Sound) : Moves env origin (exec resetPacing self).2 :=
  moves.trans (resetPacing_moves (moves.sound sound))

/-- The application reads from a stream, if it is still in the table. -/
theorem forwardRead_moves {self : ZtConnectionActor CC} (sound : self.Sound) {id bytesRead : Nat}
    (reads : bytesRead = 0 ∨ env.allowed self.toSession (.read id bytesRead)) :
    Moves env self (exec (forwardStreamData id bytesRead) self).2 := by
  cases found : self.streams.find? id with
  | none =>
    unfold forwardStreamData
    rw [exec_bind_get, found]
    exact .refl self
  | some stream =>
    have same : self.toSession =
        { self.toSession with streams := self.streams.insert id stream } := by
      rw [SortedMap.insert_of_find found]
    have prepared : StreamState.Prepared env.heard id stream (stream.consume bytesRead).2 bytesRead :=
      .consumed bytesRead
    exact (forwardStreamData_keeps sound found same rfl prepared reads).moves

variable [CongestionController CC]

/-- A datagram is issued and sent, if it fits. -/
theorem sendDatagram_moves {self : ZtConnectionActor CC} (sound : self.Sound) (data : Bytes) :
    Moves env self (exec (sendDatagram data) self).2 := by
  unfold sendDatagram
  rw [exec_bind_get]
  dsimp only
  split
  · exact .refl self
  · split
    · exact .refl self
    · have sent : Moves env self (exec (sendDatagramPayload data) self).2 :=
        sendPayload_moves sound trivial
      exact ends_bind (Moves env self) sent fun _ _ => sent.paced sound

/-- What the application asks for in an event is allowed by the environment. -/
def Permitted (env : Environment) (self : ZtConnectionActor CC) : Event → Prop
  | .streamDataRead streamId bytesRead =>
    bytesRead = 0 ∨ env.allowed self.toSession (.read streamId.toNat bytesRead)
  -- A write to a stream that is not in the table is refused anyway.
  | .outgoingData streamId _ =>
    self.streams.contains streamId.toNat = true → env.allowed self.toSession (.write streamId.toNat)
  | .closeStream streamId | .resetStream streamId _ =>
    env.allowed self.toSession (.finish streamId.toNat)
  | _ => True

/-- Everything that happens at the endpoint itself follows the machine. -/
theorem handleEvent_moves {self : ZtConnectionActor CC} (sound : self.Sound) {event : Event}
    (isLocal : event.isLocal = true) (acts : env.acting) (asked : Permitted env self event) :
    Moves env self (exec (handleEvent event) self).2 := by
  cases event with
  | incomingPacket packet addr => cases isLocal
  | setHandshakePacket packet => cases isLocal
  | outgoingData streamId data =>
    -- The stream written to last is remembered outside the session.
    have noted : Moves env self { self with lastActiveStreamId := streamId.toNat } :=
      .of_same rfl rfl
    have accepted := noted.trans
      (processOutgoingData_moves (noted.sound sound) streamId.toNat data asked)
    exact accepted.paced sound
  | getMtu | getStats => exact .refl self
  | closeStream streamId =>
    have announced : Moves env self (exec (sendStreamClose streamId.toNat) self).2 :=
      sendStreamClose_moves sound streamId.toNat_lt asked
    exact (announced.trans (removeStream_moves _ acts streamId.toNat)).paced sound
  | resetStream streamId errorCode =>
    have announced : Moves env self
        (exec (ZtConnectionActor.resetStream streamId.toNat errorCode.toNat) self).2 :=
      resetStream_moves sound streamId.toNat_lt errorCode.toNat_lt asked
    exact (announced.trans (removeStream_moves _ acts streamId.toNat)).paced sound
  | openStream streamType => exact openStream_moves sound acts streamType
  | streamDataRead streamId bytesRead =>
    have read := forwardRead_moves sound asked
    -- A reader that made progress opens the window at once.
    simp only [handleEvent]
    split
    · have counted : Moves env self { (exec (forwardStreamData streamId.toNat bytesRead) self).2 with
          pendingAcks := max (exec (forwardStreamData streamId.toNat bytesRead) self).2.pendingAcks 1 } :=
        read.trans (.of_same rfl rfl)
      exact (counted.trans (.of_sends (flushAcks_sends (counted.sound sound)))).paced sound
    · exact read.paced sound
  | close => exact (initiateClose_moves sound).paced sound
  | closeWithError errorCode reason =>
    exact (initiateCloseWithError_moves sound errorCode.toNat_lt reason).paced sound
  | sendDatagram data => exact sendDatagram_moves sound data
  | delayedAckTimer => exact .of_sends (flushAcks_sends sound)
  | rtoTimer =>
    have resent := (handleRetransmits_moves sound : Moves env self _)
    simp only [handleEvent]
    rw [exec_bind_attempt]
    -- A failure ends the event loop, which is outside the session.
    split
    · exact resent.trans (.of_same rfl rfl)
    · exact resent.paced sound
  | mtuProbeTimer => exact sendMtuProbe_moves sound
  | pacingTimer => exact resetPacing_moves sound
  | socketWritable =>
    simp only [handleEvent]
    rw [exec_bind_get]
    split
    · have unblocked : Moves env self { self with socketBlocked := false } := .of_same rfl rfl
      exact unblocked.paced sound
    · exact .refl self
  | pathValidationTimer => exact self.pathValidationTimeout_moves
  | idleTimer => exact .of_same rfl rfl
  | app action => exact self.applyAction_moves action

/-- An event the environment provides: something local, or a packet of the peer. -/
inductive Happens (env : Environment) (self : ZtConnectionActor CC) : Event → Prop
  | act {event : Event} (isLocal : event.isLocal = true) (acts : env.acting)
      (asked : Permitted env self event) : Happens env self event
  | deliver {record : SentRecord} (arrived : env.heard record) (addr : Address) :
      Happens env self (.incomingPacket (System.arriving record) addr)

/--
What one turn of the event loop did: steps of the machine, and key updates within what the packets
counted before and the packets the socket took pay for.
-/
structure Turn (env : Environment) (host : Host) (before after : ZtConnectionActor CC) : Prop where
  run : Relation.ReflTransGen (CoreStep env) before.toSession after.toSession
  interval : after.config.keyUpdatePacketInterval = before.config.keyUpdatePacketInterval
  spend : before.InitialFree →
    after.packetsSinceKeyUpdate + after.config.keyUpdatePacketInterval * after.rotations ≤
      before.packetsSinceKeyUpdate + host.sends.count .sent +
        before.config.keyUpdatePacketInterval * before.rotations

/-- Every turn of the event loop follows the machine. -/
theorem step_turn {self : ZtConnectionActor CC} (sound : self.Sound) (peer : env.Conforming)
    {event : Event} (happens : Happens env self event) (host : Host) :
    Turn env host self (self.step event host) := by
  unfold step
  split
  · exact ⟨.refl, rfl, fun _ => by omega⟩
  · split
    · exact ⟨.refl, rfl, fun _ => by simp only [Session.rotations]; omega⟩
    · -- The event is handled with the host's new answers at hand.
      have moves : Moves env { self with host := host }
          (exec (handleEvent event) { self with host := host }).2 := by
        have ready : Session.Sound ({ self with host := host } : ZtConnectionActor CC).toSession :=
          sound
        cases happens with
        | act isLocal acts asked => exact handleEvent_moves ready isLocal acts asked
        | deliver arrived addr =>
          have processed := processIncomingPacket_moves ready peer arrived addr
          exact processed.paced ready
      refine ⟨moves.1, moves.2.1, fun free => ?_⟩
      have within := moves.2.2 free
      simp only [ZtConnectionActor.spend] at within
      omega

end ZtConnectionActor
end Zetta
