import Zetta.Machine.Delivery
import Zetta.Proofs.Transport.Retention

/-! When data that arrives late for a stream is harmless, and how often a stream is surfaced. -/

namespace Zetta

/-- A stream was in the table once and is no longer. -/
def Session.Departed (session : Session) (id : Nat) : Prop :=
  .created id ∈ session.log ∧ session.streams.find? id = none

section Steps

variable [Hkdf] {env : Environment} {before after : Session} {id : Nat}

/-- Whenever a stream is handed to the application it was just opened. -/
theorem CoreStep.surfaced (step : CoreStep env before after) (id : Nat) :
    after.surfacedCount id + before.createdCount id ≤
      before.surfacedCount id + after.createdCount id := by
  -- It is enough to look at what the step adds to the history.
  have grows : ∀ more, after.log = before.log ++ more →
      more.count (.surfaced id) ≤ more.count (.created id) →
      after.surfacedCount id + before.createdCount id ≤
        before.surfacedCount id + after.createdCount id := by
    intro more log fewer
    simp only [Session.surfacedCount, Session.createdCount, log, List.count_append]
    omega
  cases step with
  | send step =>
    obtain ⟨more, log, sends⟩ := step.sentOnly.log
    refine grows more log (le_of_eq_of_le (List.count_eq_zero.mpr fun member => ?_) (Nat.zero_le _))
    cases sends _ member
  | setState | follow | mark | credit => exact grows [] (by simp) le_rfl
  | issue | handled => exact grows _ rfl (by simp)
  | openLocal streamType now acts absent fits => exact grows _ rfl (by simp)
  | openPeer streamType now absent fits parity frame =>
    refine grows _ rfl ?_
    simp [List.count_cons]
  | remove found removal =>
    refine grows _ rfl ?_
    cases removal <;> simp
  | stream found step reads writes credit =>
    refine grows _ rfl (le_of_eq_of_le (List.count_eq_zero.mpr fun member => ?_) (Nat.zero_le _))
    cases step with
    | accept | limit | raise | bookkeeping | grow => simp at member
    | forward prepared => simp at member

/-- While nothing is heard, a stream is opened by the application only, under a new id. -/
theorem CoreStep.once_acting {allowed : Session → Request → Prop}
    (step : CoreStep ⟨fun _ => False, allowed, True⟩ before after) (sound : before.Sound)
    (once : before.createdCount id ≤ 1) : after.createdCount id ≤ 1 := by
  cases step.change id with
  | untouched more log quiet same => exact (history_quiet log quiet).2.2.trans_le once
  | opened streamType now more log quiet absent stored cause =>
    rcases cause with ⟨-, next⟩ | ⟨sentType, offset, data, record, impossible, -⟩
    · -- Every id of the application that was used is below the next one.
      have unused : before.createdCount id = 0 := by
        apply List.count_eq_zero.mpr
        intro member
        have below := sound.names.created id member (next ▸ sound.names.parity)
        omega
      rw [(history_opened log quiet).2.2, unused]
    · exact impossible.elim
  | removed more log quiet absent cause => exact (history_quiet log quiet).2.2.trans_le once
  | stepped stream next effects log found stored step reads writes =>
    rw [createdCount_stepped log step]
    exact once

/-- While nothing is heard and the application does not act, no stream is opened. -/
theorem CoreStep.unopened {allowed : Session → Request → Prop}
    (step : CoreStep ⟨fun _ => False, allowed, False⟩ before after) (id : Nat) :
    after.createdCount id = before.createdCount id := by
  cases step.change id with
  | untouched more log quiet same => exact (history_quiet log quiet).2.2
  | opened streamType now more log quiet absent stored cause =>
    rcases cause with ⟨acts, -⟩ | ⟨sentType, offset, data, record, impossible, -⟩
    · exact acts.elim
    · exact impossible.elim
  | removed more log quiet absent cause => exact (history_quiet log quiet).2.2
  | stepped stream next effects log found stored step reads writes =>
    exact createdCount_stepped log step

/-- The stream was opened at most once, and is in the table if a packet brings data for it. -/
structure Session.Present (session : Session) (record : SentRecord) (id : Nat) : Prop where
  once : session.createdCount id ≤ 1
  known : record.packet.header.pType.isProtected = true → ∀ streamType offset data,
    .stream id streamType offset data ∈ record.packet.frames →
    .created id ∈ session.log → session.streams.find? id ≠ none

/-- Handling one packet keeps it so, since a packet with data resets no stream. -/
theorem CoreStep.present {allowed : Session → Request → Prop} {record : SentRecord}
    (plain : record.packet.header.pType.isProtected = true → record.packet.IsPlain)
    (step : CoreStep ⟨(some record = some ·), allowed, False⟩ before after)
    (present : before.Present record id) : after.Present record id := by
  cases step.change id with
  | untouched more log quiet same =>
    refine ⟨(history_quiet log quiet).2.2.trans_le present.once, ?_⟩
    intro kind streamType offset data frame member
    rw [same]
    apply present.known kind streamType offset data frame
    rw [log] at member
    rcases List.mem_append.mp member with old | new
    · exact old
    · exact absurd rfl (quiet _ new).uncreated
  | opened streamType now more log quiet absent stored cause =>
    rcases cause with ⟨acts, -⟩ | ⟨sentType, offset, data, other, same, kind, frame⟩
    · exact acts.elim
    · -- The packet brings data for the stream, so it would be in the table had it been opened.
      cases same
      have unused : before.createdCount id = 0 :=
        List.count_eq_zero.mpr fun member => present.known kind sentType offset data frame member absent
      refine ⟨?_, fun _ _ _ _ _ _ => by simp [stored]⟩
      rw [(history_opened log quiet).2.2, unused]
  | removed more log quiet absent cause =>
    refine ⟨(history_quiet log quiet).2.2.trans_le present.once, ?_⟩
    intro _ streamType offset data frame
    rcases cause with acts | ⟨errorCode, finalSize, other, same, kind, reset⟩
    · exact acts.elim
    · -- One packet would carry two frames other than padding.
      cases same
      rcases plain kind with blank | ⟨first, rest, frames, padding⟩
      · cases blank _ frame
      · rw [frames] at frame reset
        rcases List.mem_cons.mp frame with rfl | later
        · rcases List.mem_cons.mp reset with same | later
          · cases same
          · cases padding _ later
        · cases padding _ later
  | stepped stream next effects log found stored step reads writes =>
    refine ⟨(createdCount_stepped log step).trans_le present.once, fun _ _ _ _ _ _ => ?_⟩
    simp [stored]

end Steps

namespace ZtConnectionActor

open Program

variable {CC : Type} [Hkdf]

omit [Hkdf] in
/-- Sending and noting what was handled neither opens nor surfaces a stream. -/
theorem counts_aside {before after : Session} {more : List Effect}
    (log : after.log = before.log ++ more)
    (aside : ∀ effect ∈ more, effect.IsSend ∨ ∃ frame known, effect = .handled frame known) (id : Nat) :
    after.surfacedCount id = before.surfacedCount id ∧
      after.createdCount id = before.createdCount id := by
  have none : more.count (.surfaced id) = 0 ∧ more.count (.created id) = 0 := by
    constructor
    · apply List.count_eq_zero.mpr
      intro member
      rcases aside _ member with send | ⟨frame, known, same⟩
      · cases send
      · cases same
    · apply List.count_eq_zero.mpr
      intro member
      rcases aside _ member with send | ⟨frame, known, same⟩
      · cases send
      · cases same
  simp only [Session.surfacedCount, Session.createdCount, log, List.count_append, none, Nat.add_zero,
    and_self]

variable [HandshakeCrypto] {env : Environment}

/-- Data for a stream not in the table surfaces it once more, unless the connection closes. -/
theorem handleStream_surfaces {self : ZtConnectionActor CC} (sound : self.Sound) {id offset : Nat}
    {streamType : StreamType} {data : Bytes} (absent : self.streams.find? id = none)
    (accepted : ¬ self.Refuses id) (small : id < u32Size)
    (sendable : streamType ≠ .unidirectionalIn)
    (arrived : HeardFrame env.heard (.stream id streamType offset data))
    (fits : offset + data.length < u64Size) :
    (exec (handleStream id streamType offset data) self).2.state = .closing ∨
      self.surfacedCount id < (exec (handleStream id streamType offset data) self).2.surfacedCount id := by
  rw [handleStream_eq, absent]
  split
  · rename_i foreign
    cases streamType <;> simp_all [StreamType.forPeer]
  rename_i localStreamType _
  dsimp only
  split
  · exact .inl (closeWith_closing (Moves.refl self : Moves env self self) sound _).state
  rename_i parity
  rw [if_neg fun full => accepted ⟨absent, not_not.mp parity, full⟩]
  split
  · -- The stream was handed to the application, and what follows does not undo it.
    right
    have moves := openedPeer_moves absent small (not_not.mp parity) arrived localStreamType
    have received := receiveStreamData_received (moves.sound sound)
      (SortedMap.find?_insert_self _ _ _) arrived fits
    have later := received.moves.log_grows.sublist.count_le (.surfaced id)
    have surfaced : (self.openedPeer id localStreamType).surfacedCount id = self.surfacedCount id + 1 := by
      simp [Session.surfacedCount, openedPeer, putStream, note]
    simp only [Session.surfacedCount] at later surfaced ⊢
    omega
  · exact .inl (closeWith_closing (Moves.refl self : Moves env self self) sound _).state

variable [CongestionController CC]

/-- A packet with data for a stream not in the table is refused, or surfaces the stream. -/
theorem handleFrames_absent {self ready : ZtConnectionActor CC} {packet : Packet} {number : Nat}
    (set : Ready self number ready) (sound : ready.Sound) (plain : packet.IsPlain)
    (arrived : ∀ frame ∈ packet.frames, HeardFrame env.heard frame ∧ frame.Conforming)
    (addr : Address) {id offset : Nat} {streamType : StreamType} {data : Bytes}
    (late : .stream id streamType offset data ∈ packet.frames)
    (absent : self.streams.find? id = none) :
    (self.Refuses id →
        (exec (handleFrames addr packet.frames) ready).2.state = .active ∧
        (exec (handleFrames addr packet.frames) ready).2.surfacedCount id = self.surfacedCount id ∧
        (exec (handleFrames addr packet.frames) ready).2.createdCount id = self.createdCount id) ∧
      (¬ self.Refuses id →
        (exec (handleFrames addr packet.frames) ready).2.state = .closing ∨
        self.surfacedCount id < (exec (handleFrames addr packet.frames) ready).2.surfacedCount id) := by
  -- The packet carries one frame, which is the data.
  obtain ⟨rest, frames, padding⟩ := plain.alone late rfl
  obtain ⟨heard, small, inside, sendable⟩ := arrived _ late
  obtain ⟨more, handled, notes⟩ := handleFrames_single ready
    (.stream id streamType offset data) padding addr
  rw [frames, handled]
  -- Up to here the history grew by packets sent, afterwards by a note.
  obtain ⟨sends, grown, sent⟩ := set.log
  have before := counts_aside grown (fun effect member => .inl (sent effect member)) id
  have noted : ∀ after : ZtConnectionActor CC,
      (after.recording more).surfacedCount id = after.surfacedCount id ∧
        (after.recording more).createdCount id = after.createdCount id :=
    fun after => counts_aside rfl (fun effect member => .inr (notes effect member)) id
  rw [(noted _).1, (noted _).2]
  constructor
  · intro refuses
    obtain ⟨error, refused⟩ :=
      handleStream_refused ((set.refuses_iff id).mpr refuses) sendable offset data
    have same : (exec (handleFrame (.stream id streamType offset data) addr) ready).2 = ready :=
      congrArg Prod.snd refused
    rw [same]
    exact ⟨set.state, before⟩
  · intro accepted
    have surfaces := handleStream_surfaces sound (set.streams ▸ absent)
      (fun refuses => accepted ((set.refuses_iff id).mp refuses)) small sendable heard inside
    rw [before.1] at surfaces
    exact surfaces

end ZtConnectionActor

namespace System

open Program ZtConnectionActor

section Late

variable {CC : Type} [Hkdf] [HandshakeCrypto] [CongestionController CC] {master : Bytes}
  {condition : System CC → Move → Prop} {system : System CC}

/-- Late data leaves everything as it is when it is ignored or refused, and does harm otherwise. -/
theorem ReachableWhile.departed (reached : ReachableWhile master condition system) {side : Side}
    {index : Nat} {record : SentRecord} (found : system.delivered? side index = some record)
    (kind : record.packet.header.pType.isProtected = true) (addr : Address) (host : Host)
    {id offset : Nat} {streamType : StreamType} {data : Bytes}
    (late : .stream id streamType offset data ∈ record.packet.frames)
    (departed : (system.receiver side host).Departed id) :
    ((system.receiver side host).getsThrough (arriving record) = false ∨
          (system.receiver side host).Refuses id →
        ((system.processed side host record addr).state = .closing →
          (system.receiver side host).state = .closing) ∧
        (system.processed side host record addr).surfacedCount id =
          (system.receiver side host).surfacedCount id ∧
        (system.processed side host record addr).createdCount id =
          (system.receiver side host).createdCount id) ∧
      (¬ ((system.receiver side host).getsThrough (arriving record) = false ∨
          (system.receiver side host).Refuses id) →
        (system.receiver side host).state ≠ .closing ∧
        ((system.processed side host record addr).state = .closing ∨
          (system.receiver side host).surfacedCount id <
            (system.processed side host record addr).surfacedCount id)) := by
  have sound : (system.receiver side host).Sound := reached.sound side
  obtain ⟨plain, arrived⟩ := reached.arrived found kind
  unfold processed
  rcases delivered_cases found kind addr host with drops | ⟨ready, handles⟩
  · -- A packet that is dropped is counted, and nothing else happens.
    rw [drops.after]
    exact ⟨fun _ => ⟨fun closing => closing, rfl, rfl⟩,
      fun harmful => absurd (.inl drops.ignored) harmful⟩
  · rw [handles.result]
    obtain ⟨refused, surfaced⟩ := handleFrames_absent handles.set (handles.moves.sound sound) plain
      arrived addr late departed.2
    constructor
    · rintro (ignored | refuses)
      · exact absurd (ignored.symm.trans handles.through) (by decide)
      · obtain ⟨active, counts⟩ := refused refuses
        exact ⟨fun closing => absurd (active.symm.trans closing) (by decide), counts⟩
    · intro harmful
      refine ⟨fun closing => ?_, surfaced fun refuses => harmful (.inr refuses)⟩
      -- A closing connection accepts no packet.
      have accepts := handles.accepts
      simp [acceptsProtected, closing] at accepts

/-- Data for a stream that has left the table does not get through, or finds the table full. -/
def Harmless (system : System CC) : Move → Prop
  | .act .. => True
  | .deliver side index _ host => ∀ record, system.delivered? side index = some record →
    record.packet.header.pType.isProtected = true →
    ∀ id streamType offset data, .stream id streamType offset data ∈ record.packet.frames →
      (system.receiver side host).Departed id →
      (system.receiver side host).getsThrough (arriving record) = false ∨
        (system.receiver side host).Refuses id

/-- After the packet is processed the rest of the turn opens no stream. -/
theorem step_deliver_created {before : System CC} (sound : ∀ side, (before.actor side).Sound)
    {side : Side} {index : Nat} {record : SentRecord} (addr : Address) (host : Host)
    (found : before.delivered? side index = some record) (id : Nat) :
    ((before.step (.deliver side index addr host)).actor side).createdCount id =
        (before.actor side).createdCount id ∨
      ((before.step (.deliver side index addr host)).actor side).createdCount id =
        (before.processed side host record addr).createdCount id := by
  have taken : (before.step (.deliver side index addr host)).actor side =
      (before.actor side).step (.incomingPacket (arriving record) addr) host := by
    dsimp only [step]
    rw [found]
    exact actor_setActor _ _ _
  rw [taken]
  unfold ZtConnectionActor.step
  split
  · exact .inl rfl
  · split
    · exact .inl rfl
    · right
      have sent : ((before.actor side.peer).environment fun _ _ => True).heard record :=
        Session.mem_sentRecords.mp (List.mem_of_getElem? found)
      have processed : Moves ((before.actor side.peer).environment fun _ _ => True)
          (before.receiver side host) (before.processed side host record addr) := by
        apply processIncomingPacket_moves
        · exact sound side
        · exact (sound side.peer).environment _
        · exact sent
      have paced : Moves ⟨fun _ => False, fun _ _ => False, False⟩
          (before.processed side host record addr)
          (exec resetPacing (before.processed side host record addr)).2 :=
        resetPacing_moves (processed.sound (sound side))
      show (exec resetPacing (before.processed side host record addr)).2.createdCount id = _
      exact @Program.invariant_run Session _ (fun session => session.createdCount id =
        (before.processed side host record addr).createdCount id) (fun first second kept step =>
          (step.unopened id).trans kept) _ _ rfl paced.1

/-- In every run without harmful late data each stream is opened at most once on each side. -/
theorem ReachableWhile.once (reached : ReachableWhile master Harmless system) (side : Side)
    (id : Nat) : (system.actor side).createdCount id ≤ 1 := by
  induction reached generalizing side with
  | start connected =>
    have none : _ ∉ _ := (connected.fresh side).uncreated id
    exact (List.count_eq_zero.mpr none).trans_le (Nat.zero_le 1)
  | @step before move reached met ih =>
    obtain ⟨turn, still⟩ := step_turn reached.sound (before.permits_all move)
    rcases side.eq_or_eq_peer move.side with rfl | rfl
    · have sound := reached.sound move.side
      cases move with
      | act side event host =>
        -- Only the application opens streams in this turn.
        exact (@Program.invariant_run Session _ (fun session =>
          session.Sound ∧ session.createdCount id ≤ 1) (fun _ _ holds step =>
            ⟨step.sound holds.1, step.once_acting holds.1 holds.2⟩) _ _ ⟨sound, ih side⟩ turn.run).2
      | deliver side index addr host =>
        cases found : before.delivered? side index with
        | none =>
          have same : before.step (.deliver side index addr host) = before := by
            dsimp only [System.step]
            rw [found]
          rw [same]
          exact ih side
        | some record =>
          by_cases harmful : record.packet.header.pType.isProtected = true ∧
              ∃ streamType offset data, .stream id streamType offset data ∈ record.packet.frames ∧
                (before.receiver side host).Departed id
          · -- The packet brings late data for this stream, which leaves the count alone.
            obtain ⟨kind, streamType, offset, data, late, departed⟩ := harmful
            have kept := ((reached.departed found kind addr host late departed).1
              (met record found kind id streamType offset data late departed)).2.2
            rcases step_deliver_created reached.sound addr host found id with same | same
            · exact same.trans_le (ih side)
            · exact (same.trans kept).trans_le (ih side)
          · -- Otherwise the stream is in the table if the packet brings data for it.
            have sent : .sent record ∈ (before.actor side.peer).log :=
              Session.mem_sentRecords.mp (List.mem_of_getElem? found)
            have present : (before.actor side).Present record id :=
              ⟨ih side, fun kind streamType offset data late created absent =>
                harmful ⟨kind, streamType, offset, data, late, created, absent⟩⟩
            have run := turn.run
            simp only [around, found] at run
            exact (@Program.invariant_run Session _ (·.Present record id) (fun _ _ holds step =>
              step.present (reached.plain side.peer record sent) holds) _ _ present run).once
    · rw [still]
      exact ih move.side.peer

/-- A stream is handed to the application no more often than it was opened. -/
theorem ReachableWhile.surfaced_le (reached : ReachableWhile master condition system) (side : Side)
    (id : Nat) : (system.actor side).surfacedCount id ≤ (system.actor side).createdCount id := by
  refine @ReachableWhile.invariant CC _ _ _ master condition system _
    (fun self _ => self.surfacedCount id ≤ self.createdCount id)
    (fun system move _ => system.permits_all move) ?_ ?_ ?_ reached side
  · -- The handshake surfaces nothing.
    intro start connected side
    refine (List.count_eq_zero.mpr fun member => ?_).trans_le (Nat.zero_le _)
    rcases (connected.fresh side).log _ member with ⟨cookie, same⟩ | ⟨record, same, -⟩ <;> cases same
  · intro before after peer _ _ fewer step
    have grown := step.surfaced id
    omega
  · exact fun _ _ fewer _ => fewer

/--
Data that arrives for a stream after it left the table moves the connection to closing or hands the
stream to the application once more, unless its packet does not get through or the table is full;
and in a run where all late data is of that kind no stream is surfaced twice.
-/
theorem late_data_harmless_iff (reached : ReachableWhile master condition system) :
    (∀ side index record, system.delivered? side index = some record →
      record.packet.header.pType.isProtected = true → ∀ addr host id streamType offset data,
      .stream id streamType offset data ∈ record.packet.frames →
      (system.receiver side host).Departed id →
      ((((system.processed side host record addr).state = .closing →
            (system.receiver side host).state = .closing) ∧
          (system.processed side host record addr).surfacedCount id =
            (system.receiver side host).surfacedCount id) ↔
        (system.receiver side host).getsThrough (arriving record) = false ∨
          (system.receiver side host).Refuses id)) ∧
      ((∀ before move, condition before move → before.Harmless move) → ∀ side id,
        (system.actor side).surfacedCount id ≤ 1) := by
  constructor
  · intro side index record found kind addr host id streamType offset data late departed
    obtain ⟨harmless, harmful⟩ := reached.departed found kind addr host late departed
    constructor
    · intro unharmed
      -- Were it neither ignored nor refused, one of the two would have happened.
      by_contra neither
      obtain ⟨open_, closing | surfaced⟩ := harmful neither
      · exact open_ (unharmed.1 closing)
      · omega
    · intro aside
      exact ⟨(harmless aside).1, (harmless aside).2.1⟩
  · intro unharmed side id
    exact (reached.surfaced_le side id).trans ((reached.mono unharmed).once side id)

end Late

section Sample

open Sample

/-- The server closes the client's stream while the client is still writing to it. -/
def writingOn : List Move :=
  [.act .client (.openStream .bidirectional) (hostTaking 0),
    .act .client (.outgoingData 2 [1]) (hostTaking 1), .deliver .server 0 0 (hostTaking 0),
    .act .server (.closeStream 2) (hostTaking 0),
    .act .client (.outgoingData 2 [2]) (hostTaking 1), .deliver .server 1 0 (hostTaking 0)]

/-- The server closes a stream of its own while the client is writing to it. -/
def answering : List Move :=
  [.act .client (.openStream .bidirectional) (hostTaking 0),
    .act .client (.outgoingData 2 [1]) (hostTaking 1), .deliver .server 0 0 (hostTaking 0),
    .act .server (.openStream .bidirectional) (hostTaking 0),
    .act .server (.outgoingData 1 [7]) (hostTaking 1), .deliver .client 0 0 (hostTaking 0),
    .act .client (.outgoingData 1 [8]) (hostTaking 1),
    .act .server (.closeStream 1) (hostTaking 0), .deliver .server 1 0 (hostTaking 0)]

/-- Late data surfaces a stream of the peer a second time, and on the server's own stream closes. -/
theorem late_data_harmful :
    Reachable [] ((Sample.system (config 2 16)).run writingOn) ∧
      (((Sample.system (config 2 16)).run writingOn).actor .server).surfacedCount 2 = 2 ∧
      Reachable [] ((Sample.system (config 2 16)).run answering) ∧
      (((Sample.system (config 2 16)).run answering).actor .server).state = .closing := by
  have connected := @system_connected (config 2 16) rfl (by decide)
  exact ⟨connected.reachable writingOn, by decide +kernel, connected.reachable answering,
    by decide +kernel⟩

/-- The pair of endpoints when the server has closed the client's stream. -/
def closedByServer : System RenoController := (Sample.system (config 2 16)).run (writingOn.take 4)

/-- The first packet comes once more: it is a replay, and the stream stays surfaced once. -/
theorem repeated_data_harmless :
    ∃ record, closedByServer.delivered? .server 0 = some record ∧
      (closedByServer.receiver .server (hostTaking 0)).Departed 2 ∧
      ((closedByServer.processed .server (hostTaking 0) record 0).state = .closing →
        (closedByServer.receiver .server (hostTaking 0)).state = .closing) ∧
      (closedByServer.actor .server).surfacedCount 2 ≤ 1 := by
  have connected := @system_connected (config 2 16) rfl (by decide)
  -- The one delivery so far found no stream that was opened before.
  have reached : ReachableWhile [] Harmless closedByServer := by
    refine connected.reachableWhile ⟨trivial, trivial, ?_, trivial, trivial⟩
    intro record _ _ id streamType offset data _ departed
    have empty : ((((Sample.system (config 2 16)).step
        (.act .client (.openStream .bidirectional) (hostTaking 0))).step
        (.act .client (.outgoingData 2 [1]) (hostTaking 1))).receiver .server (hostTaking 0)).log =
      [] := by decide +kernel
    have created := departed.1
    rw [empty] at created
    cases created
  have facts : (closedByServer.delivered? .server 0).map (fun record =>
      (record.packet.header.pType, record.packet.frames,
        (closedByServer.receiver .server (hostTaking 0)).getsThrough (arriving record))) =
      some (.data, [.stream 2 .bidirectional 0 [1]], false) := by decide +kernel
  have departed : (closedByServer.receiver .server (hostTaking 0)).Departed 2 := by
    have away : ((closedByServer.receiver .server (hostTaking 0)).streams.find? 2).isNone = true := by
      decide +kernel
    exact ⟨by decide +kernel, by simpa using away⟩
  obtain ⟨record, found, same⟩ := Option.map_eq_some_iff.mp facts
  simp only [Prod.mk.injEq] at same
  obtain ⟨type, frames, ignored⟩ := same
  obtain ⟨late, once⟩ := late_data_harmless_iff reached
  have unharmed := (late .server 0 record found (by rw [type]; rfl) 0 (hostTaking 0) 2 .bidirectional
    0 [1] (by rw [frames]; exact List.mem_cons_self) departed).mpr (.inl ignored)
  exact ⟨record, found, departed, unharmed.1, once (fun _ _ met => met) .server 2⟩

end Sample

end System

end Zetta
