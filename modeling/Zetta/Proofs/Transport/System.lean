import Zetta.Proofs.Transport.EventLoop

/-! Two connected endpoints follow the machine, each hearing what the other one sent. -/

namespace Zetta

/-- What surrounds a session whose peer is another one. -/
def Session.environment (peer : Session) (allowed : Session → Request → Prop) : Environment where
  heard := fun record => .sent record ∈ peer.log
  allowed := allowed
  acting := True

/-- A packet among those a session sent is one its history shows. -/
theorem Session.mem_sentRecords {session : Session} {record : SentRecord} :
    record ∈ session.sentRecords ↔ .sent record ∈ session.log := by
  unfold sentRecords
  rw [List.mem_filterMap]
  constructor
  · rintro ⟨effect, member, found⟩
    -- Only a send gives a packet, and it gives its own.
    cases effect <;> simp [Effect.sent?] at found
    rw [← found]
    exact member
  · intro member
    exact ⟨.sent record, member, rfl⟩

/-- What a sound peer sent is conforming. -/
theorem Session.Sound.environment {peer : Session} (sound : peer.Sound)
    (allowed : Session → Request → Prop) : (peer.environment allowed).Conforming where
  frames := by
    rintro frame ⟨record, sent, kind, member⟩
    have explained := (sound.log.sent record sent kind).carried frame member
    exact explained.conforming sound.log.issued
  kinds := fun record sent => sound.log.kinds record sent

namespace Session.Fresh

variable {fresh : Session}

/-- The handshake leaves no trace of a stream. -/
theorem uncreated (start : fresh.Fresh) (id : Nat) : .created id ∉ fresh.log := by
  intro member
  rcases start.log _ member with ⟨cookie, same⟩ | ⟨record, same, -⟩ <;> cases same

/-- Its packets are not protected, and its payloads are Initial ones. -/
theorem logSound (start : fresh.Fresh) : LogSound fresh.log fresh.nextPacketNumber where
  issued := by
    intro payload member
    rcases start.log _ member with ⟨cookie, same⟩ | ⟨record, same, -⟩
    · cases same
      trivial
    · cases same
  sent := by
    intro record member isProtected
    rcases start.log _ member with ⟨cookie, same⟩ | ⟨other, same, kind⟩
    · cases same
    · cases same
      -- No packet type belongs both to the handshake and to what follows it.
      cases type : record.packet.header.pType <;>
        simp [type, PacketType.isProtected, PacketType.isHandshake] at isProtected kind
  kinds := by
    intro record member retry
    rcases start.log _ member with ⟨cookie, same⟩ | ⟨other, same, kind⟩
    · cases same
    · cases same
      rw [retry] at kind
      cases kind

/-- A fresh session is sound once its role is known. -/
theorem sound (start : fresh.Fresh) (client : fresh.isClient = true → fresh.state ≠ .handshaking)
    (server : fresh.isClient = false → fresh.ephemeralSecret = none)
    (parity : fresh.nextStreamId % 2 = fresh.localParity) : fresh.Sound where
  streams := by
    intro id stream found
    rw [start.streams, SortedMap.find?_empty] at found
    cases found
  log := start.logSound
  queue := start.queue
  unacked := start.unacked
  number := start.number
  window := start.window
  highest := start.highest
  windows := start.windows
  client := client
  server := server
  names := {
    parity := parity
    created := fun id member => absurd member (start.uncreated id)
    table := by
      intro id stream found
      rw [start.streams, SortedMap.find?_empty] at found
      cases found }

end Session.Fresh

namespace System

variable {CC : Type} [Hkdf]

omit [Hkdf] in
@[simp] theorem actor_setActor (self : System CC) (side : Side) (actor : ZtConnectionActor CC) :
    (self.setActor side actor).actor side = actor := by
  cases side <;> rfl

omit [Hkdf] in
@[simp] theorem actor_setActor_peer (self : System CC) (side : Side) (actor : ZtConnectionActor CC) :
    (self.setActor side actor).actor side.peer = self.actor side.peer := by
  cases side <;> rfl

/-- Nothing has happened on either side since the handshake. -/
theorem Connected.fresh {system : System CC} {master : Bytes} (connected : system.Connected master)
    (side : Side) : (system.actor side).Fresh := by
  cases side
  · exact connected.client
  · exact connected.server

/-- Both sides are sound right after the handshake. -/
theorem Connected.sound {system : System CC} {master : Bytes} (connected : system.Connected master)
    (side : Side) : (system.actor side).Sound := by
  cases side with
  | client =>
    -- The client is active, and opens streams with even ids.
    apply connected.client.sound
    · intro _
      rw [connected.clientState]
      decide
    · intro server
      rw [connected.clientRole] at server
      cases server
    · simp [connected.clientIds, Session.localParity, connected.clientRole]
  | server =>
    apply connected.server.sound
    · intro client
      rw [connected.serverRole] at client
      cases client
    · intro _
      exact connected.serverSecret
    · simp [connected.serverIds, Session.localParity, connected.serverRole]

/-- What surrounds a side during one move: the packet it delivers, or the application's requests. -/
def around (system : System CC) (allowed : Session → Request → Prop) : Move → Environment
  | .act .. => ⟨fun _ => False, allowed, True⟩
  | .deliver side index .. =>
    ⟨fun record => system.delivered? side index = some record, fun _ _ => False, False⟩

omit [Hkdf] in
/-- What a move delivers is among what the peer sent. -/
theorem around_sent {system : System CC} {allowed : Session → Request → Prop} {move : Move}
    {record : SentRecord} (heard : (system.around allowed move).heard record) :
    .sent record ∈ (system.actor move.side.peer).log := by
  cases move with
  | act => exact heard.elim
  | deliver side index addr host => exact Session.mem_sentRecords.mp (List.mem_of_getElem? heard)

/-- What the application asks for in a move is allowed. -/
def Permits (allowed : Session → Request → Prop) (system : System CC) : Move → Prop
  | .act side event host => ZtConnectionActor.Permitted
      (system.around allowed (.act side event host)) (system.actor side) event
  | .deliver .. => True

variable [HandshakeCrypto] [CongestionController CC]

/-- In every move one side takes a turn and the other one stands still. -/
theorem step_turn {system : System CC} (sound : ∀ side, (system.actor side).Sound)
    {allowed : Session → Request → Prop} {move : Move} (asked : system.Permits allowed move) :
    ZtConnectionActor.Turn (system.around allowed move) move.host
        (system.actor move.side) ((system.step move).actor move.side) ∧
      (system.step move).actor move.side.peer = system.actor move.side.peer := by
  -- A move that does nothing is a turn of no steps.
  have still : ZtConnectionActor.Turn (system.around allowed move) move.host
      (system.actor move.side) (system.actor move.side) :=
    ⟨.refl, rfl, fun _ => by omega⟩
  -- The packet delivered, if any, comes from a sound peer.
  have peer : (system.around allowed move).Conforming := by
    have conforming := (sound move.side.peer).environment allowed
    refine ⟨fun frame heard => ?_, fun record heard => ?_⟩
    · exact conforming.frames frame (heard.mono fun record => around_sent)
    · exact conforming.kinds record (around_sent heard)
  cases move with
  | act side event host =>
    unfold step
    dsimp only [Move.side, Move.host]
    split
    · rename_i isLocal
      rw [actor_setActor, actor_setActor_peer]
      exact ⟨ZtConnectionActor.step_turn (sound side) peer (.act isLocal trivial asked) host, rfl⟩
    · exact ⟨still, rfl⟩
  | deliver side index addr host =>
    unfold step
    dsimp only [Move.side, Move.host]
    cases found : system.delivered? side index with
    | none => exact ⟨still, rfl⟩
    | some record =>
      dsimp only
      rw [actor_setActor, actor_setActor_peer]
      exact ⟨ZtConnectionActor.step_turn (sound side) peer (.deliver found addr) host, rfl⟩

section Reachable

variable {master : Bytes} {condition : System CC → Move → Prop} {system : System CC}

omit [Hkdf] [HandshakeCrypto] [CongestionController CC] in
/-- Without a restriction on what the application asks for, every move is allowed. -/
theorem permits_all (system : System CC) (move : Move) : system.Permits (fun _ _ => True) move := by
  cases move with
  | act side event host =>
    cases event with
    | streamDataRead => exact .inr trivial
    | outgoingData => exact fun _ => trivial
    | _ => trivial
  | deliver => trivial

omit [HandshakeCrypto] [CongestionController CC] in
/-- A step of one side during a move is one of a side that may hear all its peer sent. -/
theorem around_environment {system : System CC} {allowed : Session → Request → Prop} {move : Move}
    {before after : Session} (step : CoreStep (system.around allowed move) before after) :
    CoreStep ((system.actor move.side.peer).environment allowed) before after := by
  apply step.mono
  · intro record heard
    exact around_sent heard
  · intro session request asked
    cases move with
    | act => exact asked
    | deliver => exact asked.elim
  · exact fun _ => trivial

/-- Every run of a connected pair is reachable. -/
theorem Connected.reachable (connected : system.Connected master) (moves : List Move) :
    Reachable master (system.run moves) := by
  induction moves using List.reverseRecOn with
  | nil => exact .start connected
  | append_singleton moves move ih =>
    -- The last move comes after all the others.
    have last : system.run (moves ++ [move]) = (system.run moves).step move :=
      List.foldl_concat System.step system move moves
    rw [last]
    exact .step move ih trivial

/-- A run under a condition is one under every weaker condition. -/
theorem ReachableWhile.mono {weaker : System CC → Move → Prop}
    (implied : ∀ system move, condition system move → weaker system move)
    (reached : ReachableWhile master condition system) : ReachableWhile master weaker system := by
  induction reached with
  | start connected => exact .start connected
  | step move _ met ih => exact .step move ih (implied _ _ met)

/-- Every move of a list meets a condition when its turn comes. -/
def MetAlong (condition : System CC → Move → Prop) : System CC → List Move → Prop
  | _, [] => True
  | system, move :: rest => condition system move ∧ MetAlong condition (system.step move) rest

/-- A run whose moves all meet a condition reaches its end while it holds. -/
theorem Connected.reachableWhile (connected : system.Connected master) {moves : List Move}
    (met : MetAlong condition system moves) :
    ReachableWhile master condition (system.run moves) := by
  have start : ReachableWhile master condition system := .start connected
  clear connected
  -- The induction is on the moves left, from any system reached so far.
  induction moves generalizing system with
  | nil => exact start
  | cons move rest ih => exact ih met.2 (start.step move met.1)

/-- Both sides are sound in every system reached. -/
theorem ReachableWhile.sound (reached : ReachableWhile master condition system) (side : Side) :
    (system.actor side).Sound := by
  induction reached generalizing side with
  | start connected => exact connected.sound side
  | @step before move _ met ih =>
    obtain ⟨turn, still⟩ := step_turn ih (before.permits_all move)
    -- One side took steps that keep it sound, the other one did nothing.
    have moved : ((before.step move).actor move.side).Sound :=
      Program.invariant_run (fun _ _ holds step => step.sound holds) (ih move.side) turn.run
    rcases side.eq_or_eq_peer move.side with rfl | rfl
    · exact moved
    · rw [still]
      exact ih move.side.peer

/--
A relation between a side and its peer that holds after the handshake, and that the steps of both
keep, holds in every system reached.
-/
theorem ReachableWhile.invariant {allowed : Session → Request → Prop}
    {relation : Session → Session → Prop}
    (asked : ∀ system move, condition system move → system.Permits allowed move)
    (start : ∀ system : System CC, system.Connected master → ∀ side,
      relation (system.actor side).toSession (system.actor side.peer).toSession)
    (own : ∀ {before after peer : Session}, before.Sound → peer.Sound → relation before peer →
      CoreStep (peer.environment allowed) before after → relation after peer)
    (other : ∀ {self before after : Session}, self.Sound → before.Sound → relation self before →
      CoreStep (self.environment allowed) before after → relation self after)
    (reached : ReachableWhile master condition system) (side : Side) :
    relation (system.actor side).toSession (system.actor side.peer).toSession := by
  induction reached generalizing side with
  | start connected => exact start _ connected side
  | @step before move reached met ih =>
    obtain ⟨turn, still⟩ := step_turn reached.sound (asked before move met)
    have sound := reached.sound
    rcases side.eq_or_eq_peer move.side with rfl | rfl
    · -- The side that moved is the one the relation is about.
      rw [still]
      have stable : ∀ first second : Session,
          first.Sound ∧ relation first (before.actor move.side.peer).toSession →
          CoreStep (before.around allowed move) first second →
          second.Sound ∧ relation second (before.actor move.side.peer).toSession :=
        fun _ _ holds step =>
          ⟨step.sound holds.1,
            own holds.1 (sound move.side.peer) holds.2 (around_environment step)⟩
      exact (Program.invariant_run stable ⟨sound move.side, ih move.side⟩ turn.run).2
    · -- The side that moved is the peer.
      rw [still, Side.peer_peer]
      have earlier := ih move.side.peer
      rw [Side.peer_peer] at earlier
      have stable : ∀ first second : Session,
          first.Sound ∧ relation (before.actor move.side.peer).toSession first →
          CoreStep (before.around allowed move) first second →
          second.Sound ∧ relation (before.actor move.side.peer).toSession second :=
        fun _ _ holds step =>
          ⟨step.sound holds.1,
            other (sound move.side.peer) holds.1 holds.2 (around_environment step)⟩
      exact (Program.invariant_run stable ⟨sound move.side, earlier⟩ turn.run).2

end Reachable

end System
end Zetta
