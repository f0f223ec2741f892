import Mathlib.Algebra.Group.Action.Defs
import Mathlib.Algebra.Order.BigOperators.Group.List
import Mathlib.Algebra.Order.Ring.Nat
import Zetta.Proofs.Transport.Answer
import Zetta.Proofs.Transport.Memory

/-! When a connection refuses data because its receive buffers would take too much memory. -/

namespace Zetta
namespace ZtConnectionActor

open Books

variable {CC : Type}

/-- The error of a connection without room for another receive buffer. -/
def bufferLimitExceeded : ZtError := .invalidPacket "Connection receive-buffer limit exceeded"

/-- The windows of the streams whose buffers were allocated, by the first data that came for them. -/
def reservedWindows (self : ZtConnectionActor CC) : Nat :=
  self.streams.total fun stream => if stream.memory = 0 then 0 else stream.windowSize

/-- The stream that data is written to: one in the table, or one the peer may open with it. -/
def addressed? (self : ZtConnectionActor CC) (id : Nat) (streamType : StreamType) :
    Option StreamState :=
  streamType.forPeer.bind fun localStreamType =>
    match self.streams.find? id with
    | some stream => if stream.streamType = localStreamType then some stream else none
    | none =>
      if id % 2 ≠ self.peerParity ∨ self.openedStreams self.peerParity ≥ self.localMaxStreams then none
      else if self.incomingStreams.tryReserve incomingStreamsCapacity then
        some (self.peerStream localStreamType)
      else none

/-- A buffer for a stream is there, or fits beside the windows of the streams that have one. -/
def HasRoom (self : ZtConnectionActor CC) (stream : StreamState) : Prop :=
  stream.memory ≠ 0 ∨
    saturatingAdd self.reservedWindows stream.windowSize ≤ self.config.maxConnectionBuffer

/-- Data for a stream is refused for want of memory if its buffer does not fit beside the others. -/
theorem dataAnswer_limit_iff (self : ZtConnectionActor CC) (stream : StreamState) (offset : Nat)
    (data : Bytes) : self.dataAnswer stream offset data = .error bufferLimitExceeded ↔
      stream.memory = 0 ∧ self.config.maxConnectionBuffer <
        saturatingAdd self.totalAllocatedBufferSize stream.windowSize := by
  unfold dataAnswer
  dsimp only
  split
  · rename_i full
    exact iff_of_true rfl full
  · rename_i room
    refine iff_of_false (fun same => ?_) room
    -- The other errors have other texts.
    have texts := fun text (same : (Except.error (ZtError.invalidPacket text) : Except ZtError Unit) =
      .error bufferLimitExceeded) => ZtError.invalidPacket.inj (Except.error.inj same)
    split at same
    · exact absurd (texts _ same) (by decide)
    · split at same
      · exact absurd (texts _ same) (by decide)
      · split at same
        · cases same
        · split at same
          · exact absurd (texts _ same) (by decide)
          · split at same
            · cases same
            · exact absurd (texts _ same) (by decide)

/-- A new stream takes no memory before its first data. -/
theorem putStream_allocated {self : ZtConnectionActor CC} {id : Nat} {stream : StreamState}
    (absent : self.streams.find? id = none) (empty : stream.memory = 0) :
    (self.putStream id stream).totalAllocatedBufferSize = self.totalAllocatedBufferSize := by
  have sums := SortedMap.total_insert StreamState.memory self.streams id stream
  rw [absent, empty] at sums
  have before := (self.books []).allocated_eq
  have after := ((self.putStream id stream).books []).allocated_eq
  exact after.trans ((congrArg (min · (u64Size - 1)) sums).trans before.symm)

/-- Stream data is refused for want of memory if the stream it is written to has no room. -/
theorem streamAnswer_limit_iff (self : ZtConnectionActor CC) (id : Nat) (streamType : StreamType)
    (offset : Nat) (data : Bytes) :
    self.streamAnswer id streamType offset data = .error bufferLimitExceeded ↔
      ∃ stream, self.addressed? id streamType = some stream ∧ stream.memory = 0 ∧
        self.config.maxConnectionBuffer <
          saturatingAdd self.totalAllocatedBufferSize stream.windowSize := by
  unfold streamAnswer addressed?
  cases streamType.forPeer with
  | none => simp [bufferLimitExceeded]
  | some localStreamType =>
    dsimp only [Option.bind_some]
    cases found : self.streams.find? id with
    | some stream =>
      by_cases kind : stream.streamType = localStreamType
      · simp [kind, dataAnswer_limit_iff]
      · simp [kind, bufferLimitExceeded]
    | none =>
      dsimp only
      by_cases parity : id % 2 = self.peerParity
      · by_cases full : self.openedStreams self.peerParity ≥ self.localMaxStreams
        · simp [parity, full, bufferLimitExceeded]
        · cases self.incomingStreams.tryReserve incomingStreamsCapacity with
          | false => simp [parity, full, bufferLimitExceeded]
          | true =>
            -- The new stream takes no memory before its first data.
            have config : ∀ stream, (self.putStream id stream).config = self.config := fun _ => rfl
            have empty : (self.peerStream localStreamType).memory = 0 := rfl
            have same := putStream_allocated found empty
            unfold peerStream at same ⊢
            simp [parity, full, dataAnswer_limit_iff, same, config]
      · simp [parity, bufferLimitExceeded]

/-- A buffer that was allocated has the size of its stream's window. -/
theorem reservedWindows_eq {self : ZtConnectionActor CC} (capped : (self.books []).Capped) :
    self.reservedWindows = self.streams.total StreamState.memory := by
  refine congrArg List.sum (List.map_congr_left fun stream stored => ?_)
  obtain ⟨entry, member, rfl⟩ := List.mem_map.mp stored
  have bounded := capped.streams entry.1 entry.2 ((SortedMap.find?_eq_some_iff _ _ _).mpr member)
  rcases bounded.memory_eq with none | full
  · rw [if_pos none, none]
  · split
    · rename_i none
      exact none.symm
    · exact full.symm

/-- A stream that data is written to has a window within the limit. -/
theorem addressed_window {self : ZtConnectionActor CC} (capped : (self.books []).Capped)
    (valid : self.config.validate = .ok ()) {id : Nat} {streamType : StreamType} {stream : StreamState}
    (found : self.addressed? id streamType = some stream) :
    stream.windowSize ≤ self.config.maxStreamWindow := by
  obtain ⟨localStreamType, -, found⟩ := Option.bind_eq_some_iff.mp found
  split at found
  · rename_i held
    split at found <;> cases found
    exact (capped.streams id _ held).window
  · split at found
    · cases found
    · split at found <;> cases found
      exact ZtConfig.window_le valid

variable [CongestionController CC] [Hkdf] [HandshakeCrypto]

/--
In every state of a run, whatever the peer sends, stream data is refused for want of memory exactly if
its stream has no buffer yet and its window does not fit beside those of the streams that have one.
With room for one window more than there are streams, none is refused.
-/
theorem bufferLimitExceeded_iff [EndpointCrypto] {actor : ZtConnectionActor CC}
    (created : Created actor) (valid : actor.config.validate = .ok ()) (host : Host)
    (events : List (Event × Host)) (turn : Host) {self : ZtConnectionActor CC}
    (reached : Does Licence.free { (actor.start host).turns events with host := turn } self)
    (id : Nat) (streamType : StreamType) (offset : Nat) (data : Bytes) :
    ((Program.exec (handleStream id streamType offset data) self).1 = .error bufferLimitExceeded ↔
      ∃ stream, self.addressed? id streamType = some stream ∧ ¬ self.HasRoom stream) ∧
    ((self.streams.keys.length + 1) * actor.config.maxStreamWindow ≤ actor.config.maxConnectionBuffer →
      ∀ stream, self.addressed? id streamType = some stream → self.HasRoom stream) := by
  obtain ⟨config, capped⟩ := created.capped valid host events turn reached
  rw [← config] at valid ⊢
  have windows := reservedWindows_eq capped
  have allocated := (self.books []).allocated_eq
  change self.totalAllocatedBufferSize = min (self.streams.total StreamState.memory) _ at allocated
  constructor
  · rw [handleStream_answer, streamAnswer_limit_iff]
    refine exists_congr fun stream => and_congr_right fun _ => ?_
    -- Adding up with saturation is adding up, cut off at the end of the machine word.
    unfold HasRoom saturatingAdd
    rw [windows, allocated]
    omega
  · -- Each of the streams takes no more than the largest window.
    intro room stream found
    have window := addressed_window capped valid found
    have most : self.reservedWindows ≤ self.streams.keys.length * self.config.maxStreamWindow := by
      have sum := List.sum_le_card_nsmul (self.streams.values.map fun stream =>
        if stream.memory = 0 then 0 else stream.windowSize) self.config.maxStreamWindow
      rw [List.length_map, smul_eq_mul, SortedMap.values, List.length_map] at sum
      rw [SortedMap.keys, List.length_map]
      refine sum fun size member => ?_
      simp only [List.mem_map, exists_exists_and_eq_and] at member
      obtain ⟨entry, stored, rfl⟩ := member
      split
      · exact Nat.zero_le _
      · exact (capped.streams entry.1 entry.2 ((SortedMap.find?_eq_some_iff _ _ _).mpr stored)).window
    refine .inr ((min_le_left _ _).trans ?_)
    rw [Nat.add_mul, Nat.one_mul] at room
    omega

end ZtConnectionActor

namespace Meeting

/-- A valid configuration that offers two streams and has memory for one window. -/
def tightConfig : ZtConfig :=
  { ZtConfig.default with
    maxConcurrentStreams := 2
    initialStreamWindow := 8
    maxStreamWindow := 8
    initialMaxData := 10
    maxConnectionBuffer := 15 }

/-- The actor of a server so configured. -/
def tightServer : ZtConnectionActor RenoController :=
  acceptance.actor { identity with config := tightConfig, valid := by decide }

/-- One byte for the first of the streams. -/
def firstByte : List (Event × Host) :=
  [(.incomingPacket (message 2 [.stream 0 .bidirectional 0 [1]]) 5, hostTaking 3)]

end Meeting

open Meeting in
/-- One byte for the second stream is refused, although both streams and bytes are within what was offered. -/
theorem second_stream_refused :
    tightConfig.validate = .ok () ∧ 2 ≤ (TransportParameters.fromConfig tightConfig).maxStreams ∧
      1 + 1 ≤ (TransportParameters.fromConfig tightConfig).initialMaxData ∧
      1 ≤ (TransportParameters.fromConfig tightConfig).initialStreamWindow ∧
      (Program.exec (ZtConnectionActor.handleStream 2 .bidirectional 0 [2])
        ((tightServer.start (hostTaking 0)).turns firstByte)).1 =
          .error ZtConnectionActor.bufferLimitExceeded := by
  decide +kernel

open Meeting in
/-- A server with memory for more windows takes the byte. -/
theorem second_stream_taken :
    (Program.exec (ZtConnectionActor.handleStream 2 .bidirectional 0 [2])
      ((narrowServer.start (hostTaking 0)).turns firstByte)).1 ≠
        .error ZtConnectionActor.bufferLimitExceeded := by
  have created : ZtConnectionActor.Created narrowServer := .server _ acceptance
  have valid : narrowServer.config.validate = .ok () := by decide
  have few : (((narrowServer.start (hostTaking 0)).turns firstByte).streams.keys.length + 1) *
      narrowServer.config.maxStreamWindow ≤ narrowServer.config.maxConnectionBuffer := by decide +kernel
  -- The state reached is kept abstract, so that it is not evaluated here.
  generalize reached : (narrowServer.start (hostTaking 0)).turns firstByte = self at few
  have does : Does Licence.free { (narrowServer.start (hostTaking 0)).turns firstByte with
      host := self.host } self := by
    rw [reached]
    exact Does.refl self
  obtain ⟨refused, room⟩ := ZtConnectionActor.bufferLimitExceeded_iff created valid (hostTaking 0)
    firstByte self.host does 2 .bidirectional 0 [2]
  intro same
  obtain ⟨stream, found, full⟩ := refused.mp same
  exact full (room few stream found)

end Zetta
