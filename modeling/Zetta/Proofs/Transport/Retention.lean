import Zetta.Proofs.Transport.Receipt
import Zetta.Transport.Sample

/-! Whether the data of an acknowledged packet is retained. -/

namespace Zetta

/-- A byte of a stream was handed out or is held. -/
def Session.HasByte (self : Session) (id position : Nat) : Prop :=
  ∃ stream, self.streams.find? id = some stream ∧
    (position < stream.receiveBuffer.readHead ∨ stream.receiveBuffer.Covered position)

/-- Every byte of stream data among some frames is retained, but for streams closed before. -/
def Session.Retains (self : Session) (frames : List Frame) (closedBefore : Nat → Prop) : Prop :=
  ∀ id streamType offset data position, .stream id streamType offset data ∈ frames →
    offset ≤ position → position < offset + data.length → self.HasByte id position ∨ closedBefore id

/-- Frames without stream data have nothing to retain. -/
theorem Session.retains_padding (self : Session) {frames : List Frame}
    (padding : ∀ frame ∈ frames, frame.isPadding = true) (closedBefore : Nat → Prop) :
    self.Retains frames closedBefore := by
  intro id streamType offset data position member
  cases padding _ member

namespace ZtConnectionActor

open Program

variable {CC : Type}

/-- The streams the application closed so far. -/
def ClosedLocally (self : ZtConnectionActor CC) (id : Nat) : Prop := .closedLocally id ∈ self.log

/-- No data among some frames is for a stream that finds the table full. -/
def TakesAll (self : ZtConnectionActor CC) (frames : List Frame) : Prop :=
  ∀ id streamType offset data, .stream id streamType offset data ∈ frames → data ≠ [] →
    ¬ self.Refuses id ∨ self.ClosedLocally id

/-- What the first frame carries is all that has to be retained. -/
theorem retains_single {session : Session} {frame : Frame} {rest : List Frame}
    (padding : ∀ other ∈ rest, other.isPadding = true) {closedBefore : Nat → Prop} :
    session.Retains (frame :: rest) closedBefore ↔ session.Retains [frame] closedBefore := by
  constructor
  · intro retains id streamType offset data position member
    exact retains id streamType offset data position (by simp [List.mem_singleton.mp member])
  · intro retains id streamType offset data position member
    rcases List.mem_cons.mp member with rfl | later
    · exact retains id streamType offset data position List.mem_cons_self
    · cases padding _ later

/-- A stream that is refused leaves none of its data behind. -/
theorem Refuses.missing {self after : ZtConnectionActor CC} {id : Nat} (refuses : self.Refuses id)
    (streams : after.streams = self.streams) (position : Nat) : ¬ after.HasByte id position := by
  rintro ⟨stream, found, -⟩
  rw [streams, refuses.1] at found
  cases found

/-- Whether a stream is refused depends on the table and the limits only. -/
theorem Ready.refuses_iff {self ready : ZtConnectionActor CC} {number : Nat}
    (set : Ready self number ready) (id : Nat) : ready.Refuses id ↔ self.Refuses id := by
  unfold Refuses openedStreams Session.peerParity
  rw [set.streams, set.maxStreams, set.role]

variable [Hkdf] [HandshakeCrypto] [CongestionController CC] {env : Environment}

/-- A single frame of an opened packet is retained exactly when its stream is not refused. -/
theorem handleFrame_retains_iff {self ready : ZtConnectionActor CC} {number : Nat}
    (set : Ready self number ready) (sound : ready.Sound) {frame : Frame}
    (arrived : HeardFrame env.heard frame) (conforming : frame.Conforming) (addr : Address)
    (open_ : (exec (handleFrame frame addr) ready).2.state ≠ .closing) :
    (exec (handleFrame frame addr) ready).2.Retains [frame] self.ClosedLocally ↔
      self.TakesAll [frame] := by
  cases frame with
  | stream id streamType offset data =>
    obtain ⟨small, fits, sendable⟩ := conforming
    by_cases refuses : ready.Refuses id
    · -- The data is dropped, and the table stays as it was.
      obtain ⟨error, refused⟩ := handleStream_refused refuses sendable offset data
      have same : (exec (handleFrame (.stream id streamType offset data) addr) ready).2 = ready :=
        congrArg Prod.snd refused
      rw [same]
      have before := (set.refuses_iff id).mp refuses
      constructor
      · intro retains other otherType otherOffset otherData member some
        cases List.mem_singleton.mp member
        have first := retains id streamType offset data offset List.mem_cons_self le_rfl
          (Nat.lt_add_of_pos_right (List.length_pos_of_ne_nil some))
        exact .inr (first.resolve_left (refuses.missing rfl offset))
      · intro takes other otherType otherOffset otherData position member lower upper
        cases List.mem_singleton.mp member
        have some : data ≠ [] := by
          rintro rfl
          simp only [List.length_nil] at upper
          omega
        exact .inr ((takes id streamType offset data List.mem_cons_self some).resolve_left
          fun accepted => accepted before)
    · -- Otherwise it is held, since the connection is not closing.
      have accepted := fun before => refuses ((set.refuses_iff id).mpr before)
      cases handleStream_received sound refuses small sendable arrived fits with
      | kept moves held =>
        obtain ⟨stream, found, retained⟩ := held
        constructor
        · intro _ other otherType otherOffset otherData member _
          cases List.mem_singleton.mp member
          exact .inl accepted
        · intro _ other otherType otherOffset otherData position member lower upper
          cases List.mem_singleton.mp member
          exact .inl ⟨stream, found, retained position lower upper⟩
      | closing closing => exact absurd closing.state open_
  | _ =>
    -- No other frame carries stream data.
    constructor
    · intro _ id streamType offset data member
      cases List.mem_singleton.mp member
    · intro _ id streamType offset data position member
      cases List.mem_singleton.mp member

/-- The same for a packet with one frame and padding. -/
theorem handleFrames_retains_iff {self ready : ZtConnectionActor CC} {packet : Packet} {number : Nat}
    (set : Ready self number ready) (sound : ready.Sound) (plain : packet.IsPlain)
    (arrived : ∀ frame ∈ packet.frames, HeardFrame env.heard frame ∧ frame.Conforming)
    (addr : Address) (open_ : (exec (handleFrames addr packet.frames) ready).2.state ≠ .closing) :
    (exec (handleFrames addr packet.frames) ready).2.Retains packet.frames self.ClosedLocally ↔
      self.TakesAll packet.frames := by
  rcases plain with blank | ⟨frame, rest, frames, padding⟩
  · -- Padding has nothing to retain and nothing to refuse.
    refine ⟨fun _ id streamType offset data member => ?_, fun _ => Session.retains_padding _ blank _⟩
    cases blank _ member
  · rw [frames] at arrived open_ ⊢
    obtain ⟨more, same, -⟩ := handleFrames_single ready frame padding addr
    rw [same] at open_ ⊢
    -- The trace in the history changes neither the streams nor the state.
    obtain ⟨heard, conforming⟩ := arrived frame List.mem_cons_self
    have single := handleFrame_retains_iff set sound heard conforming addr open_
    refine (retains_single padding).trans (single.trans ?_)
    constructor
    · intro takes id streamType offset data member some
      rcases List.mem_cons.mp member with rfl | later
      · exact takes id streamType offset data List.mem_cons_self some
      · cases padding _ later
    · intro takes id streamType offset data member some
      exact takes id streamType offset data (by simp [List.mem_singleton.mp member]) some

end ZtConnectionActor

namespace System

open Program ZtConnectionActor

section Retained

variable {CC : Type} [Hkdf] [HandshakeCrypto] [CongestionController CC]

/--
When a delivered packet ends up recorded for acknowledgment on a connection that is not closing,
its stream data is retained exactly if it was retained before, should the packet be a replay, and
otherwise if none of it is for a stream that the table has no room for.
-/
theorem acknowledged_retained_iff {master : Bytes} {system : System CC}
    (reached : Reachable master system) {side : Side} {index : Nat} {record : SentRecord}
    (found : system.delivered? side index = some record)
    (kind : record.packet.header.pType.isProtected = true) (addr : Address) (host : Host)
    (recorded : (system.processed side host record addr).ackTracker.Marked
      ((system.receiver side host).numberOf (arriving record)))
    (notClosing : (system.processed side host record addr).state ≠ .closing) :
    (system.processed side host record addr).Retains record.packet.frames
        (system.receiver side host).ClosedLocally ↔
      ((system.receiver side host).ackTracker.Marked
          ((system.receiver side host).numberOf (arriving record)) ∧
        (system.receiver side host).Retains record.packet.frames
          (system.receiver side host).ClosedLocally) ∨
      (¬ (system.receiver side host).ackTracker.Marked
          ((system.receiver side host).numberOf (arriving record)) ∧
        (system.receiver side host).TakesAll record.packet.frames) := by
  have sound : (system.receiver side host).Sound := reached.sound side
  obtain ⟨plain, arrived⟩ := reached.arrived found kind
  unfold processed at recorded notClosing ⊢
  rcases delivered_cases found kind addr host with drops | ⟨ready, handles⟩
  · -- A packet that is dropped leaves the tracker and the streams as they were.
    rw [drops.after] at recorded ⊢
    exact ⟨fun retains => .inl ⟨recorded, retains⟩, fun before =>
      before.elim (fun replay => replay.2) fun fresh => absurd recorded fresh.1⟩
  · -- A packet that is opened is no replay, so its number was not recorded before.
    have fresh : ¬ (system.receiver side host).ackTracker.Marked
        ((system.receiver side host).numberOf (arriving record)) := by
      intro marked
      have replay := (ReplayWindow.isReplay_iff (system.receiver side host).replayWindow _).mpr
        (.inl (sound.windows.symm ▸ marked))
      exact absurd (replay.symm.trans handles.fresh) (by decide)
    rw [handles.result] at notClosing ⊢
    have same := handleFrames_retains_iff handles.set (handles.moves.sound sound) plain arrived addr
      notClosing
    exact same.trans ⟨fun takes => .inr ⟨fresh, takes⟩, fun before =>
      before.elim (fun replay => absurd replay.1 fresh) fun taken => taken.2⟩

end Retained

section Refused

open Sample

/-- The client uses its only stream, closes it and opens another one; the server kept the first. -/
def reopening : List Move :=
  [.act .client (.openStream .bidirectional) (hostTaking 0),
    .act .client (.outgoingData 2 [1]) (hostTaking 1), .deliver .server 0 0 (hostTaking 0),
    .act .client (.closeStream 2) (hostTaking 1),
    .act .client (.openStream .bidirectional) (hostTaking 0),
    .act .client (.outgoingData 4 [7]) (hostTaking 1)]

/-- The pair of endpoints when the data of the second stream is on its way. -/
def reopened : System RenoController := (Sample.system (config 1 1000)).run reopening

/-- The run is one of a connected pair. -/
theorem reopened_reachable : Reachable [] reopened := by
  have connected : (Sample.system (config 1 1000)).Connected [] :=
    @system_connected (config 1 1000) rfl (by decide)
  exact connected.reachable reopening

/-- What a delivery shows: the packet, whether it is recorded, and what became of a stream. -/
structure Outcome where
  pType : PacketType
  frames : List Frame
  number : Nat
  highest : Option Nat
  marked : Bool
  state : ConnectionState
  held : Bool
  closed : Bool
  deriving DecidableEq

/-- What the delivery of one of the client's packets to the server shows about a stream. -/
def outcome (index id : Nat) : Option Outcome :=
  (reopened.delivered? .server index).map fun record =>
    let before := reopened.receiver .server (hostTaking 0)
    let after := reopened.processed .server (hostTaking 0) record 0
    ⟨record.packet.header.pType, record.packet.frames, before.numberOf (arriving record),
      after.ackTracker.highestProcessed, Bitmask.bit after.ackTracker.bitmask 0, after.state,
      (after.streams.find? id).isSome, decide (.closedLocally id ∈ before.log)⟩

/-- Data of a stream beyond the limit is recorded for acknowledgment and thrown away. -/
theorem refused_data_acknowledged :
    Reachable [] reopened ∧ ∃ record, reopened.delivered? .server 2 = some record ∧
      record.packet.frames = [.stream 4 .bidirectional 0 [7]] ∧
      (reopened.processed .server (hostTaking 0) record 0).ackTracker.Marked
        ((reopened.receiver .server (hostTaking 0)).numberOf (arriving record)) ∧
      (reopened.processed .server (hostTaking 0) record 0).state = .active ∧
      ¬ (reopened.processed .server (hostTaking 0) record 0).Retains record.packet.frames
        (reopened.receiver .server (hostTaking 0)).ClosedLocally := by
  have facts : outcome 2 4 = some ⟨.data, [.stream 4 .bidirectional 0 [7]], 2, some 2, true, .active,
      false, false⟩ := by decide +kernel
  obtain ⟨record, found, same⟩ := Option.map_eq_some_iff.mp facts
  simp only [Outcome.mk.injEq] at same
  obtain ⟨-, frames, number, highest, bit, state, absent, open_⟩ := same
  refine ⟨reopened_reachable, record, found, frames, ?_, state, fun retains => ?_⟩
  · rw [number]
    exact ⟨2, highest, le_rfl, by decide, bit⟩
  · -- The one byte is neither held nor of a stream the server's application closed.
    rw [frames] at retains
    rcases retains 4 .bidirectional 0 [7] 0 List.mem_cons_self le_rfl (by decide) with
      ⟨stream, held, -⟩ | closed
    · rw [held] at absent
      cases absent
    · exact of_decide_eq_false open_ closed

/-- The first stream's data is retained, and stays so when its packet is repeated. -/
theorem first_data_retained :
    ∃ record, reopened.delivered? .server 0 = some record ∧
      (reopened.processed .server (hostTaking 0) record 0).Retains record.packet.frames
        (reopened.receiver .server (hostTaking 0)).ClosedLocally := by
  have facts : outcome 0 2 = some ⟨.data, [.stream 2 .bidirectional 0 [1]], 0, some 0, true, .active,
      true, false⟩ := by decide +kernel
  have held : ((reopened.receiver .server (hostTaking 0)).streams.find? 2).map
      (fun stream => stream.receiveBuffer.readHead) = some 1 := by decide +kernel
  have seen : (reopened.receiver .server (hostTaking 0)).ackTracker.highestProcessed = some 0 ∧
      Bitmask.bit (reopened.receiver .server (hostTaking 0)).ackTracker.bitmask 0 = true := by
    decide +kernel
  obtain ⟨record, found, same⟩ := Option.map_eq_some_iff.mp facts
  simp only [Outcome.mk.injEq] at same
  obtain ⟨type, frames, number, highest, bit, state, -, -⟩ := same
  refine ⟨record, found, ?_⟩
  have recorded : (reopened.processed .server (hostTaking 0) record 0).ackTracker.Marked
      ((reopened.receiver .server (hostTaking 0)).numberOf (arriving record)) := by
    rw [number]
    exact ⟨0, highest, le_rfl, by decide, bit⟩
  refine (acknowledged_retained_iff reopened_reachable found (by rw [type]; rfl) 0 (hostTaking 0)
    recorded (by rw [state]; decide)).mpr (.inl ⟨?_, ?_⟩)
  · rw [number]
    exact ⟨0, seen.1, le_rfl, by decide, seen.2⟩
  · -- The byte was handed out when the packet came first.
    obtain ⟨stream, stored, head⟩ := Option.map_eq_some_iff.mp held
    intro id streamType offset data position member lower upper
    rw [frames] at member
    cases List.mem_singleton.mp member
    refine .inl ⟨stream, stored, .inl ?_⟩
    rw [head]
    exact upper

end Refused

end System

end Zetta
