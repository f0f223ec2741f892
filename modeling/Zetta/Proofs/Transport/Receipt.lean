import Zetta.Proofs.Transport.System

/-! What the receipt of a packet after the handshake comes to. -/

namespace Zetta

/-- A packet carries one frame and perhaps padding after it, or nothing but padding. -/
def Packet.IsPlain (packet : Packet) : Prop :=
  (∀ frame ∈ packet.frames, frame.isPadding = true) ∨
    ∃ frame rest, packet.frames = frame :: rest ∧ ∀ other ∈ rest, other.isPadding = true

/-- What a plain packet carries besides padding stands alone, before the padding. -/
theorem Packet.IsPlain.alone {packet : Packet} (plain : packet.IsPlain) {frame : Frame}
    (member : frame ∈ packet.frames) (content : frame.isPadding = false) :
    ∃ rest, packet.frames = frame :: rest ∧ ∀ other ∈ rest, other.isPadding = true := by
  rcases plain with blank | ⟨first, rest, frames, padding⟩
  · exact absurd ((blank _ member).symm.trans content) (by decide)
  · rw [frames] at member
    rcases List.mem_cons.mp member with rfl | later
    · exact ⟨rest, frames, padding⟩
    · exact absurd ((padding _ later).symm.trans content) (by decide)

/-- A packet built after the handshake is plain. -/
theorem Built.plain {session : Session} {record : SentRecord} (built : Built session record)
    (issued : ∀ payload, .issued payload ∈ session.log → payload.Words) :
    record.packet.IsPlain := by
  obtain ⟨crypto, source, pad, -, -, sendable, body⟩ := built.content
  have size := built.size
  simp only [Packet.size, body, Body.bytes, CryptoContext.encryptInPlace, List.length_append] at size
  have frames : record.packet.frames =
      (Frame.decodeFrames (source.encode ++ List.replicate pad 0)).1 := by
    simp only [Packet.frames, body, CryptoContext.encryptInPlace]
  unfold Packet.IsPlain
  rw [frames]
  rcases sendable.words issued (by omega) with ⟨len, rfl⟩ | words
  · -- Padding after padding is padding.
    refine .inl fun frame member => ?_
    rw [Frame.encode, ← List.replicate_add] at member
    obtain ⟨found, rfl⟩ := Frame.decodeFrames_padding _ member
    rfl
  · refine .inr ⟨source.onWire, _, Frame.decodeFrames_encode words pad, fun other member => ?_⟩
    split at member
    · cases member
    · rw [List.mem_singleton.mp member]
      rfl

/-- All protected packets sent so far are plain. -/
def Session.Plain (self : Session) : Prop :=
  ∀ record, .sent record ∈ self.log → record.packet.header.pType.isProtected = true →
    record.packet.IsPlain

/-- A history that grows by no packet stays plain. -/
theorem Session.Plain.grow {before after : Session} (plain : before.Plain) {more : List Effect}
    (log : after.log = before.log ++ more) (silent : ∀ record, .sent record ∉ more) : after.Plain := by
  intro record member kind
  rw [log] at member
  rcases List.mem_append.mp member with old | new
  · exact plain record old kind
  · exact absurd new (silent record)

section Steps

variable [Hkdf]

/-- A sending step sends plain packets only. -/
theorem SendStep.plain {before after : Session} (step : SendStep before after)
    (sound : before.Sound) (plain : before.Plain) : after.Plain := by
  cases step with
  | emit record fits built =>
    intro other member kind
    rcases List.mem_append.mp member with old | new
    · exact plain other old kind
    · cases List.mem_singleton.mp new
      exact built.plain sound.log.issued
  | emitLong record long =>
    intro other member kind
    rcases List.mem_append.mp member with old | new
    · exact plain other old kind
    · -- A packet of the handshake is not protected.
      cases List.mem_singleton.mp new
      cases type : record.packet.header.pType <;>
        simp [type, PacketType.isProtected, PacketType.isHandshake] at kind long
  | rotate keys => exact plain.grow rfl (by simp)
  | skipNumber | setUnacked | setQueue => exact plain

/-- No other step sends anything. -/
theorem CoreStep.plain {env : Environment} {before after : Session}
    (step : CoreStep env before after) (sound : before.Sound) (plain : before.Plain) :
    after.Plain := by
  cases step with
  | send step => exact step.plain sound plain
  | stream found step reads writes credit => exact plain.grow rfl step.silent
  | remove found removal => exact plain.grow rfl (by cases removal <;> simp)
  | issue | openLocal | openPeer | handled => exact plain.grow rfl (by simp)
  | setState | follow | mark | credit => exact plain

end Steps

namespace System

variable {CC : Type} [Hkdf] [HandshakeCrypto] [CongestionController CC] {master : Bytes}
  {condition : System CC → Move → Prop} {system : System CC}

/-- Both sides send plain packets in every run. -/
theorem ReachableWhile.plain (reached : ReachableWhile master condition system) (side : Side) :
    (system.actor side).Plain := by
  refine @ReachableWhile.invariant CC _ _ _ master condition system _ (fun self _ => self.Plain)
    (fun system move _ => system.permits_all move) ?_ ?_ ?_ reached side
  · -- The handshake sent long packets only.
    intro start connected side record member kind
    rcases (connected.fresh side).log _ member with ⟨cookie, same⟩ | ⟨other, same, long⟩
    · cases same
    · cases same
      cases type : record.packet.header.pType <;>
        simp [type, PacketType.isProtected, PacketType.isHandshake] at kind long
  · exact fun sound _ plain step => step.plain sound plain
  · exact fun _ _ plain _ => plain

end System

namespace ZtConnectionActor

open Program

variable {CC : Type} [Hkdf]

/-- The actor once the bytes of a packet are counted. -/
def counted (self : ZtConnectionActor CC) (packet : Packet) : ZtConnectionActor CC :=
  { self with bytesReceived := self.bytesReceived + packet.size }

/-- The number a packet has for its receiver. -/
def numberOf (self : ZtConnectionActor CC) (packet : Packet) : Nat :=
  (self.recovered packet.header).packetNumber

/-- The actor once a packet was opened, which may have moved the keys on. -/
def opened? (self : ZtConnectionActor CC) (packet : Packet) : Option (ZtConnectionActor CC) :=
  match self.crypto, packet.body with
  | some crypto, .encrypted payload =>
    match (self.counted packet).openPayload crypto (self.recovered packet.header) packet.header.encode
        payload with
    | .ok (_, opened) => some opened
    | .error _ => none
  | _, _ => none

/-- A packet that is no replay is accepted and opens, which may move the keys on. -/
structure Admits (receiver : ZtConnectionActor CC) (packet : Packet) (opened : ZtConnectionActor CC) :
    Prop where
  fresh : receiver.isReplay (receiver.numberOf packet) = false
  accepts : receiver.acceptsProtected = true
  opens : ∃ crypto payload, receiver.crypto = some crypto ∧ packet.body = .encrypted payload ∧
    OpensTo (receiver.counted packet) crypto (receiver.numberOf packet) packet.header.encode payload opened
  answered : receiver.opened? packet = some opened

/-- Whether a protected packet is no replay, is accepted and opens with the keys chosen for it. -/
def getsThrough (self : ZtConnectionActor CC) (packet : Packet) : Bool :=
  !self.isReplay (self.numberOf packet) && self.acceptsProtected &&
    match self.crypto, packet.body with
    | some crypto, .encrypted payload =>
      ((self.counted packet).openPayload crypto (self.recovered packet.header) packet.header.encode
        payload).isOk
    | _, _ => false

/-- A payload that does not open is an error of the cryptography. -/
theorem openPayload_error {self : ZtConnectionActor CC} {crypto : CryptoContext}
    {header : PacketHeader} {aad : Bytes} {payload : Sealed} {error : ZtError}
    (failed : self.openPayload crypto header aad payload = .error error) :
    ∃ text, error = .crypto text := by
  -- With the keys at hand, current or previous, opening fails with a text only.
  have kept : ∀ usePrevKey text,
      crypto.decryptInPlace header.packetNumber aad payload usePrevKey = .error text →
      ∃ reason, text = .crypto reason := by
    intro usePrevKey text refused
    unfold CryptoContext.decryptInPlace at refused
    repeat' split at refused
    all_goals cases refused
    all_goals exact ⟨_, rfl⟩
  have mapped : ∀ usePrevKey,
      (crypto.decryptInPlace header.packetNumber aad payload usePrevKey).map (·, self) = .error error →
      ∃ text, error = .crypto text := by
    intro usePrevKey refused
    cases answer : crypto.decryptInPlace header.packetNumber aad payload usePrevKey with
    | ok plaintext =>
      rw [answer] at refused
      cases refused
    | error text =>
      rw [answer] at refused
      cases refused
      exact kept usePrevKey _ answer
  unfold openPayload at failed
  split at failed
  · -- So it does with the keys of the next epoch.
    unfold CryptoContext.trialDecryptAndRotate at failed
    split at failed
    · rename_i tried
      split at tried <;> cases tried
      cases failed
      exact ⟨_, rfl⟩
    · cases failed
  · exact mapped true failed
  · exact mapped false failed

variable [HandshakeCrypto] [CongestionController CC]

/-- A packet that is dropped: its bytes are counted, and none of its frames is looked at. -/
structure Drops (receiver : ZtConnectionActor CC) (packet : Packet)
    (result : Except ZtError Unit × ZtConnectionActor CC) : Prop where
  ignored : receiver.getsThrough packet = false
  after : result.2 = receiver.counted packet
  answer : ∀ error, result.1 = .error error → error = .unauthorized ∨ ∃ text, error = .crypto text

/-- A protected packet is dropped, or it is opened and handled. -/
theorem processIncomingPacket_cases (self : ZtConnectionActor CC) {packet : Packet}
    (kind : packet.header.pType.isProtected = true) (addr : Address) :
    self.Drops packet (exec (processIncomingPacket packet addr) self) ∨
      ∃ opened, self.getsThrough packet = true ∧ self.Admits packet opened ∧
        exec (processIncomingPacket packet addr) self =
          exec (handleOpened (self.numberOf packet) packet.frames addr) opened.activate := by
  have other : packet.header.pType ≠ .initial := by
    intro same
    rw [same] at kind
    cases kind
  unfold processIncomingPacket
  rw [exec_bind_modify, exec_bind_get]
  split
  · -- A short header without keys.
    rename_i unkeyed
    have none : self.crypto = none := by simpa using unkeyed.2
    exact .inl ⟨by simp [getsThrough, none], rfl, fun _ same => .inl (Except.error.inj same).symm⟩
  rw [if_neg (by simp [other])]
  change self.Drops packet (exec (if self.isReplay (self.numberOf packet) = true then pure () else
    dispatchPacket (self.recovered packet.header) packet.body packet.header.encode addr)
    (self.counted packet)) ∨ ∃ opened, _ ∧ _ ∧ exec (if
      self.isReplay (self.numberOf packet) = true then pure () else dispatchPacket
        (self.recovered packet.header) packet.body packet.header.encode addr)
        (self.counted packet) = _
  by_cases replay : self.isReplay (self.numberOf packet) = true
  · rw [if_pos replay]
    exact .inl ⟨by simp [getsThrough, replay], rfl, nofun⟩
  rw [if_neg replay]
  have fresh : self.isReplay (self.numberOf packet) = false := by simpa using replay
  have dispatched : exec (dispatchPacket (self.recovered packet.header) packet.body
      packet.header.encode addr) (self.counted packet) =
      exec (if self.acceptsProtected then processProtected (self.recovered packet.header) packet.body
        packet.header.encode addr else pure ()) (self.counted packet) := by
    unfold dispatchPacket
    rw [exec_bind_get]
    have types : (self.recovered packet.header).pType = packet.header.pType := rfl
    rw [types]
    -- The three protected types are dispatched alike.
    cases sort : packet.header.pType with
    | data | close | mtuProbe => rfl
    | initial | handshake | retry =>
      rw [sort] at kind
      cases kind
  rw [dispatched]
  by_cases accepts : self.acceptsProtected = true
  · rw [if_pos accepts]
    unfold processProtected
    rw [exec_bind_get]
    have same : (self.counted packet).crypto = self.crypto := rfl
    rw [same]
    cases keys : self.crypto with
    | none =>
      exact .inl ⟨by simp [getsThrough, keys], rfl, fun _ same => .inl (Except.error.inj same).symm⟩
    | some crypto =>
      cases body : packet.body with
      | clear payload =>
        dsimp only
        refine .inl ⟨by simp [getsThrough, keys, body], ?_, ?_⟩
        · split <;> rfl
        · split
          · exact nofun
          · exact fun _ same => .inr ⟨_, (Except.error.inj same).symm⟩
      | encrypted payload =>
        dsimp only
        -- Whether the payload opens is what the verdict asks last.
        have through : self.getsThrough packet = ((self.counted packet).openPayload crypto
            (self.recovered packet.header) packet.header.encode payload).isOk := by
          simp only [getsThrough, fresh, accepts, keys, body, Bool.not_false, Bool.true_and]
        cases answered : (self.counted packet).openPayload crypto (self.recovered packet.header)
          packet.header.encode payload with
        | error error =>
          refine .inl ⟨through.trans (by rw [answered]; rfl), rfl, fun _ same => .inr ?_⟩
          cases same
          exact openPayload_error answered
        | ok answer =>
          obtain ⟨plaintext, opened⟩ := answer
          obtain ⟨rfl, opens⟩ := openPayload_opens answered
          refine .inr ⟨opened, through.trans (by rw [answered]; rfl),
            ⟨fresh, accepts, ⟨crypto, payload, keys, body, opens⟩, ?_⟩, ?_⟩
          · simp only [opened?, keys, body, answered]
          have frames : packet.frames = (Frame.decodeFrames payload.plaintext).1 := by
            simp only [Packet.frames, body]
          rw [frames]
          rfl
  · rw [if_neg accepts]
    exact .inl ⟨by simp [getsThrough, accepts], rfl, nofun⟩

section Handling

omit [HandshakeCrypto] [CongestionController CC]

omit [Hkdf] in
/-- Checking the path never fails. -/
theorem validatePath_ok (self : ZtConnectionActor CC) (addr : Address) :
    exec (validatePath addr) self = (.ok (), (exec (validatePath addr) self).2) := by
  unfold validatePath
  rw [exec_bind_get]
  split
  · split <;> rfl
  · split <;> rfl

/-- The state in which the frames of an opened packet are handled. -/
structure Ready (receiver : ZtConnectionActor CC) (number : Nat) (ready : ZtConnectionActor CC) : Prop where
  streams : ready.streams = receiver.streams
  maxStreams : ready.localMaxStreams = receiver.localMaxStreams
  role : ready.isClient = receiver.isClient
  state : ready.state = .active
  tracker : ready.ackTracker = receiver.ackTracker.markProcessed number
  /-- Until then nothing happened but sending. -/
  log : ∃ more, ready.log = receiver.log ++ more ∧ ∀ effect ∈ more, effect.IsSend

/-- Opening a packet leads to such a state. -/
theorem Admits.ready {self opened : ZtConnectionActor CC} {packet : Packet}
    (admits : self.Admits packet opened) (addr : Address) (number : Nat) :
    Ready self number ((exec (validatePath addr) opened.activate).2.markProcessed number) := by
  obtain ⟨crypto, payload, -, -, opens⟩ := admits.opens
  have accepts := admits.accepts
  simp only [acceptsProtected, Bool.decide_or, Bool.or_eq_true, decide_eq_true_eq] at accepts
  -- Opening may change the keys, and makes a server active.
  obtain ⟨streams, maxStreams, role, state, tracker, log⟩ :
      opened.activate.streams = self.streams ∧ opened.activate.localMaxStreams = self.localMaxStreams ∧
        opened.activate.isClient = self.isClient ∧ opened.activate.state = .active ∧
        opened.activate.ackTracker = self.ackTracker ∧ opened.activate.log = self.log := by
    unfold activate
    cases opens with
    | current | previous | next =>
      split
      · exact ⟨rfl, rfl, rfl, rfl, rfl, rfl⟩
      · rename_i settled
        exact ⟨rfl, rfl, rfl, accepts.resolve_right settled, rfl, rfl⟩
  -- A new address is answered with a challenge, which is sending.
  have sends := opened.activate.validatePath_sends addr
  have only := SentOnly.of_run sends.1
  have rest := only.rest
  refine ⟨?_, ?_, ?_, ?_, ?_, ?_⟩
  · exact sends.streams.trans streams
  · exact sends.2.1.trans maxStreams
  · exact (congrArg Session.isClient rest).trans role
  · exact sends.state.trans state
  · show PacketWindow.markProcessed _ number = _
    rw [show (exec (validatePath addr) opened.activate).2.ackTracker = self.ackTracker from
      (congrArg Session.ackTracker rest).trans tracker]
  · obtain ⟨more, grown, sent⟩ := only.log
    exact ⟨more, grown.trans (by rw [log]), sent⟩

end Handling

/-- Handling an opened packet is handling its frames in that state. -/
theorem handleOpened_eq (self : ZtConnectionActor CC) (number : Nat) (frames : List Frame)
    (addr : Address) :
    exec (handleOpened number frames addr) self =
      exec (handleFrames addr frames) ((exec (validatePath addr) self).2.markProcessed number) := by
  unfold handleOpened
  rw [exec_bind_ok (validatePath_ok self addr), exec_bind_modify]

/-- An actor with more in its history, and nothing else changed. -/
def recording (self : ZtConnectionActor CC) (effects : List Effect) : ZtConnectionActor CC :=
  { self with log := self.log ++ effects }

omit [Hkdf] [HandshakeCrypto] [CongestionController CC] in
/-- Recording one thing after another. -/
theorem recording_recording (self : ZtConnectionActor CC) (first second : List Effect) :
    (self.recording first).recording second = self.recording (first ++ second) := by
  simp [recording]

/-- Padding only leaves a trace in the history. -/
theorem handleFrames_blank (addr : Address) {frames : List Frame}
    (padding : ∀ frame ∈ frames, frame.isPadding = true) (self : ZtConnectionActor CC) :
    ∃ more, exec (handleFrames addr frames) self = (.ok (), self.recording more) ∧
      ∀ effect ∈ more, ∃ frame known, effect = .handled frame known := by
  induction frames generalizing self with
  | nil => exact ⟨[], by simp [handleFrames, recording], by simp⟩
  | cons frame rest ih =>
    have first := padding frame List.mem_cons_self
    cases frame with
    | padding len =>
      obtain ⟨more, handled, notes⟩ := ih (fun other member =>
        padding other (List.mem_cons_of_mem _ member)) (self.recording [.handled (.padding len) false])
      refine ⟨.handled (.padding len) false :: more, ?_, ?_⟩
      · exact handled.trans (congrArg _ (recording_recording _ _ _))
      · intro effect member
        rcases List.mem_cons.mp member with rfl | later
        · exact ⟨_, _, rfl⟩
        · exact notes effect later
    | _ => cases first

/-- A packet with one frame and padding leaves what the frame does, and traces in the history. -/
theorem handleFrames_single (self : ZtConnectionActor CC) (frame : Frame) {rest : List Frame}
    (padding : ∀ other ∈ rest, other.isPadding = true) (addr : Address) :
    ∃ more, exec (handleFrames addr (frame :: rest)) self =
        ((exec (handleFrame frame addr) self).1,
          (exec (handleFrame frame addr) self).2.recording more) ∧
      ∀ effect ∈ more, ∃ frame known, effect = .handled frame known := by
  unfold handleFrames
  rw [exec_bind_get, exec_bind]
  cases handled : exec (handleFrame frame addr) self with
  | mk result after =>
    cases result with
    | error error => exact ⟨[], by simp [recording], by simp⟩
    | ok answer =>
      dsimp only
      rw [exec_bind_modify]
      obtain ⟨more, same, notes⟩ := handleFrames_blank addr padding
        (after.recording [.handled frame (frame.streamId?.any self.streams.contains)])
      refine ⟨_ :: more, same.trans (congrArg _ (recording_recording _ _ _)),
        fun effect member => ?_⟩
      rcases List.mem_cons.mp member with rfl | later
      · exact ⟨_, _, rfl⟩
      · exact notes effect later

end ZtConnectionActor

namespace System

open Program ZtConnectionActor

section Delivered

variable {CC : Type} [Hkdf] [HandshakeCrypto] [CongestionController CC] {master : Bytes}
  {condition : System CC → Move → Prop} {system : System CC}

/-- The actor of a side with the answers its host is going to give. -/
def receiver (self : System CC) (side : Side) (host : Host) : ZtConnectionActor CC :=
  { self.actor side with host := host }

/-- A side once a packet was processed. -/
def processed (self : System CC) (side : Side) (host : Host) (record : SentRecord) (addr : Address) :
    ZtConnectionActor CC :=
  (exec (processIncomingPacket (arriving record) addr) (self.receiver side host)).2

/-- A delivered packet whose frames are handled, and the state they are handled in. -/
structure Handles (system : System CC) (side : Side) (host : Host) (record : SentRecord)
    (addr : Address) (ready : ZtConnectionActor CC) : Prop where
  through : (system.receiver side host).getsThrough (arriving record) = true
  fresh : (system.receiver side host).isReplay
    ((system.receiver side host).numberOf (arriving record)) = false
  accepts : (system.receiver side host).acceptsProtected = true
  set : Ready (system.receiver side host) ((system.receiver side host).numberOf (arriving record)) ready
  moves : Moves ((system.actor side.peer).environment fun _ _ => True)
    (system.receiver side host) ready
  /-- The packet was opened, the path looked at and the number recorded. -/
  admitted : ∃ opened, (system.receiver side host).Admits (arriving record) opened ∧
    ready = (exec (validatePath addr) opened.activate).2.markProcessed
      ((system.receiver side host).numberOf (arriving record))
  result : exec (processIncomingPacket (arriving record) addr) (system.receiver side host) =
    exec (handleFrames addr record.packet.frames) ready

/-- The frames of a delivered packet were sent by the peer, and conform. -/
theorem ReachableWhile.arrived (reached : ReachableWhile master condition system) {side : Side}
    {index : Nat} {record : SentRecord} (found : system.delivered? side index = some record)
    (kind : record.packet.header.pType.isProtected = true) :
    record.packet.IsPlain ∧ ∀ frame ∈ record.packet.frames,
      HeardFrame ((system.actor side.peer).environment fun _ _ => True).heard frame ∧
        frame.Conforming := by
  have sent : .sent record ∈ (system.actor side.peer).log :=
    Session.mem_sentRecords.mp (List.mem_of_getElem? found)
  have peer := (reached.sound side.peer).environment fun _ _ => True
  refine ⟨reached.plain side.peer record sent kind, fun frame member => ?_⟩
  have heard : HeardFrame ((system.actor side.peer).environment fun _ _ => True).heard frame :=
    ⟨record, sent, kind, member⟩
  exact ⟨heard, peer.frames frame heard⟩

/-- A delivered packet is dropped, or its frames are handled. -/
theorem delivered_cases {side : Side} {index : Nat} {record : SentRecord}
    (found : system.delivered? side index = some record)
    (kind : record.packet.header.pType.isProtected = true) (addr : Address) (host : Host) :
    (system.receiver side host).Drops (arriving record)
        (exec (processIncomingPacket (arriving record) addr) (system.receiver side host)) ∨
      ∃ ready, system.Handles side host record addr ready := by
  have sent : .sent record ∈ (system.actor side.peer).log :=
    Session.mem_sentRecords.mp (List.mem_of_getElem? found)
  rcases @processIncomingPacket_cases CC _ _ _ (system.receiver side host) (arriving record) kind addr
    with drops | ⟨opened, through, admits, handled⟩
  · exact .inl drops
  · right
    obtain ⟨crypto, payload, keys, body, opens⟩ := admits.opens
    rw [show (arriving record).header.encode = _ from record.packet.header.encode_onWire] at opens
    have activated : Moves ((system.actor side.peer).environment fun _ _ => True)
        (system.receiver side host) opened.activate :=
      (Moves.of_same rfl rfl).trans ((opens.moves keys sent kind body).trans opened.activate_moves)
    -- Then the path is checked and the number recorded.
    refine ⟨_, through, admits.fresh, admits.accepts, admits.ready addr _, ?_, ⟨opened, admits, rfl⟩,
      handled.trans (handleOpened_eq _ _ _ _)⟩
    refine (activated.trans (.of_sends (validatePath_sends _ addr))).trans (.single (.mark _ ?_) rfl)
    exact expandPn_lt record.packet.header.onWire_packetNumber_lt _ _

end Delivered

end System

end Zetta
