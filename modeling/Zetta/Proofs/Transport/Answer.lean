import Zetta.Proofs.Transport.Eliciting

/-! The answer to stream data as a function of the state it meets. -/

namespace Zetta
namespace ZtConnectionActor

open Program

section Answer

variable {CC : Type}

/-- The answer to data for a stream in the table. -/
def dataAnswer (self : ZtConnectionActor CC) (stream : StreamState) (offset : Nat) (data : Bytes) :
    Except ZtError Unit :=
  let readHead := stream.receiveBuffer.readHead
  if stream.receiveBuffer.allocatedSize = 0 ∧
      saturatingAdd self.totalAllocatedBufferSize stream.windowSize >
        self.config.maxConnectionBuffer then
    .error (.invalidPacket "Connection receive-buffer limit exceeded")
  else
    match checkedAdd offset data.length with
    | none => .error (.invalidPacket "Stream offset overflow")
    | some endOffset =>
      if stream.finalRxOffset.any fun finalSize => endOffset > finalSize then
        .error (.invalidPacket "stream data exceeds declared final size")
      else if endOffset ≤ readHead then .ok ()
      else if endOffset > saturatingAdd stream.expectedRxOffset stream.windowSize then
        .error (.invalidPacket "Stream flow-control limit exceeded")
      else if (stream.receiveBuffer.write (max offset readHead)
        (data.drop (readHead - offset))).isSome then .ok ()
      else .error (.invalidPacket "Stream receive window exceeded")

/-- The answer to stream data, which may open the stream. -/
def streamAnswer (self : ZtConnectionActor CC) (id : Nat) (streamType : StreamType) (offset : Nat)
    (data : Bytes) : Except ZtError Unit :=
  match streamType.forPeer with
  | none => .error (.invalidPacket "peer sent a receive-only stream type")
  | some localStreamType =>
    match self.streams.find? id with
    | some stream =>
      if stream.streamType ≠ localStreamType then
        .error (.invalidPacket "stream type changed during transmission")
      else self.dataAnswer stream offset data
    | none =>
      if id % 2 ≠ self.peerParity then .error (.invalidPacket "Invalid stream id parity")
      else if self.openedStreams self.peerParity ≥ self.localMaxStreams then
        .error (.tooManyStreams self.localMaxStreams)
      else if self.incomingStreams.tryReserve incomingStreamsCapacity then
        let stream := StreamState.new localStreamType self.config.initialStreamWindow
          self.peerInitialStreamWindow self.host.now
        (self.putStream id stream).dataAnswer stream offset data
      else .error .io

variable [Hkdf] [HandshakeCrypto]

omit [HandshakeCrypto] in
/-- Counting a packet to acknowledge never fails. -/
theorem acknowledge_ok (self : ZtConnectionActor CC) : (exec acknowledge self).1 = .ok () := by
  unfold acknowledge
  rw [exec_bind_modify, exec_bind_get]
  split <;> rfl

/-- Data for a stream in the table is answered so. -/
theorem receiveStreamData_answer (self : ZtConnectionActor CC) (id offset : Nat) (data : Bytes)
    (stream : StreamState) :
    (exec (receiveStreamData id offset data stream) self).1 = self.dataAnswer stream offset data := by
  -- The checks of the handler are those of the answer, in the same order.
  unfold receiveStreamData dataAnswer
  rw [exec_bind_get]
  dsimp only
  split
  · exact (closeWith_state self _).1
  · cases ends : checkedAdd offset data.length with
    | none => rfl
    | some endOffset =>
      dsimp only
      split
      · exact (closeWith_state self _).1
      · rw [exec_bind_set]
        split
        · rfl
        · split
          · exact (closeWith_state _ _).1
          · split
            · rename_i refused
              rw [refused]
              exact (closeWith_state _ _).1
            · -- Data that was stored is moved on and acknowledged without an error.
              rename_i added receiveBuffer accepted
              rw [accepted, exec_bind_modify,
                exec_bind_ok (Prod.ext (forwardStreamData_quiet _ id).1 rfl)]
              exact acknowledge_ok _

/-- So is stream data that may open its stream. -/
theorem handleStream_answer (self : ZtConnectionActor CC) (id : Nat) (streamType : StreamType)
    (offset : Nat) (data : Bytes) :
    (exec (handleStream id streamType offset data) self).1 =
      self.streamAnswer id streamType offset data := by
  rw [handleStream_eq]
  unfold streamAnswer
  cases streamType.forPeer with
  | none => rfl
  | some localStreamType =>
    cases self.streams.find? id with
    | some stream =>
      dsimp only
      split
      · exact (closeWith_state self _).1
      · exact receiveStreamData_answer self id offset data stream
    | none =>
      dsimp only
      split
      · exact (closeWith_state self _).1
      split
      · rfl
      split
      · exact receiveStreamData_answer _ id offset data _
      · exact (closeWith_state self _).1

end Answer

end ZtConnectionActor
end Zetta
