import Zetta.Machine.Keys
import Zetta.Proofs.Transport.PacketNumber
import Zetta.Proofs.Transport.Receipt

/-! Which packets open across a key update, and when two peers keep to neighbouring epochs. -/

namespace Zetta

namespace ZtConnectionActor

/-- Whether a payload opens depends on the keys chosen for it. -/
theorem openPayload_isOk {CC : Type} [Hkdf] (self : ZtConnectionActor CC) (crypto : CryptoContext)
    (header : PacketHeader) (aad : Bytes) (payload : Sealed) :
    (self.openPayload crypto header aad payload).isOk =
      match self.chooseKey header with
      | .next => (payload.openWith crypto.nextRxKey crypto.nextRxIv header.packetNumber aad).isSome
      | .previous => crypto.prevRx.any fun prev =>
        (payload.openWith prev.rxKey prev.rxIv header.packetNumber aad).isSome
      | .current => (payload.openWith crypto.rxKey crypto.rxIv header.packetNumber aad).isSome := by
  unfold openPayload CryptoContext.trialDecryptAndRotate CryptoContext.decryptInPlace
  cases self.chooseKey header with
  | next => cases payload.openWith crypto.nextRxKey crypto.nextRxIv header.packetNumber aad <;> rfl
  | previous =>
    -- Without keys of the last epoch nothing older opens.
    cases crypto.prevRx with
    | none => rfl
    | some prev =>
      simp only [if_true, Option.any_some]
      cases payload.openWith prev.rxKey prev.rxIv header.packetNumber aad <;> rfl
  | current =>
    simp only [Bool.false_eq_true, if_false]
    cases payload.openWith crypto.rxKey crypto.rxIv header.packetNumber aad <;> rfl

end ZtConnectionActor

namespace System

open ZtConnectionActor

variable {CC : Type} [Hkdf] {master : Bytes} {system : System CC}

/-- Right after the handshake both sides hold the keys of the first epoch and have sealed nothing. -/
theorem Connected.epochal (connected : system.Connected master) (side : Side) :
    (system.actor side).Epochal master := by
  have fresh := connected.fresh side
  refine ⟨?_, fun record member kind => ?_⟩
  · cases side with
    | client =>
      refine ⟨_, connected.clientKeys, ?_, ?_⟩
      · rw [show (system.actor .client).isClient = true from connected.clientRole]
        exact CryptoContext.keyed_start master true
      · exact connected.client.epoch.symm
    | server =>
      refine ⟨_, connected.serverKeys, ?_, ?_⟩
      · rw [show (system.actor .server).isClient = false from connected.serverRole]
        exact CryptoContext.keyed_start master false
      · exact connected.server.epoch.symm
  · -- The handshake sent long packets only.
    rcases fresh.log _ member with ⟨cookie, same⟩ | ⟨other, same, long⟩
    · cases same
    · cases same
      cases type : record.packet.header.pType <;>
        simp [type, PacketType.isProtected, PacketType.isHandshake] at kind long

/-- One of the two sides is the client. -/
theorem Connected.roles (connected : system.Connected master) (side : Side) :
    (system.actor side).isClient = !(system.actor side.peer).isClient := by
  cases side with
  | client =>
    show system.client.isClient = !system.server.isClient
    rw [connected.clientRole, connected.serverRole]
    rfl
  | server =>
    show system.server.isClient = !system.client.isClient
    rw [connected.clientRole, connected.serverRole]
    rfl

/-- Both sides count packets up to a positive number. -/
theorem Connected.interval_pos (connected : system.Connected master) (side : Side) :
    0 < (system.actor side).config.keyUpdatePacketInterval := by
  cases side
  · exact ZtConfig.interval_pos connected.clientConfig
  · exact ZtConfig.interval_pos connected.serverConfig

variable [HandshakeCrypto] [CongestionController CC] {condition : System CC → Move → Prop}

/-- What holds of the keys of a side and its peer in every run. -/
structure KeysAgree (master : Bytes) (own peer : Session) : Prop where
  epochal : own.Epochal master
  other : peer.Epochal master
  roles : own.isClient = !peer.isClient
  counts : 0 < own.config.keyUpdatePacketInterval

/-- It holds in every run. -/
theorem ReachableWhile.keys (reached : ReachableWhile master condition system) (side : Side) :
    KeysAgree master (system.actor side).toSession (system.actor side.peer).toSession := by
  refine @ReachableWhile.invariant CC _ _ _ master condition system _ (KeysAgree master)
    (fun system move _ => system.permits_all move) ?_ ?_ ?_ reached side
  · intro start connected side
    exact ⟨connected.epochal side, connected.epochal side.peer, connected.roles side,
      connected.interval_pos side⟩
  · -- Each step keeps the roles and what was configured.
    intro before after peer _ _ agree step
    exact ⟨step.epochal agree.epochal, agree.other, step.constants.role.trans agree.roles,
      by rw [step.constants.config]; exact agree.counts⟩
  · intro own before after _ _ agree step
    exact ⟨agree.epochal, step.epochal agree.other, by rw [step.constants.role]; exact agree.roles,
      agree.counts⟩

section Opening

variable {side : Side} {index : Nat} {record : SentRecord} {crypto : CryptoContext}

omit [HandshakeCrypto] [CongestionController CC] in
/-- The key is chosen by the parity of the packet's epoch and by its number. -/
theorem chooseKey_arriving (agree : KeysAgree master (system.actor side).toSession
      (system.actor side.peer).toSession) (stamped : record.Stamped master (system.actor side.peer).isClient)
    (short : record.packet.header.isLong = false) (host : Host)
    (keys : (system.actor side).crypto = some crypto)
    (recovered : (system.receiver side host).numberOf (arriving record) =
      record.packet.header.packetNumber) :
    ((system.receiver side host).counted (arriving record)).chooseKey
        ((system.receiver side host).recovered (arriving record).header) =
      if record.epoch % 2 = crypto.epoch % 2 then .current
      else if system.highest side ≤ record.packet.header.packetNumber then .next else .previous := by
  obtain ⟨held, found, -, epoch⟩ := agree.epochal.keyed
  rw [keys] at found
  cases found
  have long : ((system.receiver side host).recovered (arriving record).header).isLong = false := short
  have phase : ((system.receiver side host).recovered (arriving record).header).keyPhase =
      decide (record.epoch % 2 ≠ 0) := stamped.phase
  have own : ((system.receiver side host).counted (arriving record)).currentKeyPhase =
      decide (crypto.epoch % 2 ≠ 0) := by rw [epoch]; rfl
  have top : ((system.receiver side host).counted (arriving record)).replayWindow.highestProcessed.getD 0 =
      system.highest side := rfl
  have number : ((system.receiver side host).recovered (arriving record).header).packetNumber =
      record.packet.header.packetNumber := recovered
  unfold chooseKey
  simp only [long, phase, own, top, number]
  -- The phases differ exactly when the parities do.
  by_cases same : record.epoch % 2 = crypto.epoch % 2
  · rw [if_pos same, if_neg (by simp [same])]
  · have differ : decide (record.epoch % 2 ≠ 0) ≠ decide (crypto.epoch % 2 ≠ 0) := by
      intro equal
      have both := decide_eq_decide.mp equal
      omega
    rw [if_neg same, if_pos ⟨by simp, differ⟩]

/-- A packet whose number was recovered opens under the key chosen for it in three cases. -/
theorem ReachableWhile.opens_iff (reached : ReachableWhile master condition system)
    (distinct : DistinctKeys master) (found : system.delivered? side index = some record)
    (kind : record.packet.header.pType.isProtected = true) (host : Host)
    (keys : (system.actor side).crypto = some crypto) {payload : Sealed}
    (body : record.packet.body = .encrypted payload)
    (recovered : (system.receiver side host).numberOf (arriving record) =
      record.packet.header.packetNumber) :
    (((system.receiver side host).counted (arriving record)).openPayload crypto
        ((system.receiver side host).recovered (arriving record).header)
        (arriving record).header.encode payload).isOk = true ↔
      record.epoch = crypto.epoch ∨
        (record.epoch = crypto.epoch + 1 ∧
          system.highest side ≤ record.packet.header.packetNumber) ∨
        (record.epoch + 1 = crypto.epoch ∧
          record.packet.header.packetNumber < system.highest side) := by
  have agree := reached.keys side
  have sent : .sent record ∈ (system.actor side.peer).log :=
    Session.mem_sentRecords.mp (List.mem_of_getElem? found)
  have stamped := (agree.other.sent record sent kind).1
  have short := ((reached.sound side.peer).log.sent record sent kind).short
  have number : ((system.receiver side host).recovered (arriving record).header).packetNumber =
      record.packet.header.packetNumber := recovered
  -- Each key opens the packets of its own epoch.
  have peerRole : (system.actor side.peer).isClient = !(system.actor side).isClient := by
    rw [agree.roles, Bool.not_not]
  have opens := fun epoch => (peerRole ▸ stamped).opens_iff distinct body epoch
  obtain ⟨held, present, follows, -⟩ := agree.epochal.keyed
  rw [keys] at present
  cases present
  rw [openPayload_isOk, chooseKey_arriving agree stamped short host keys recovered, number,
    show (arriving record).header.encode = _ from record.packet.header.encode_onWire]
  by_cases same : record.epoch % 2 = crypto.epoch % 2
  · rw [if_pos same]
    dsimp only
    rw [follows.rxKey, follows.rxIv, opens]
    omega
  · rw [if_neg same]
    by_cases ahead : system.highest side ≤ record.packet.header.packetNumber
    · rw [if_pos ahead]
      dsimp only
      rw [follows.nextRxKey, follows.nextRxIv, opens]
      omega
    · rw [if_neg ahead]
      dsimp only
      cases last : crypto.epoch with
      | zero =>
        -- In the first epoch no older keys are kept.
        rw [follows.first last]
        simp only [Option.any_none, Bool.false_eq_true, false_iff]
        omega
      | succ earlier =>
        rw [follows.prevRx earlier last]
        simp only [Option.any_some, opens]
        omega

end Opening

section Drift

/-- How far the packets counted and those the socket takes in a move can move the keys of its side on. -/
def updates (system : System CC) (move : Move) : Nat :=
  ((system.actor move.side).packetsSinceKeyUpdate + move.host.sends.count .sent) /
    (system.actor move.side).config.keyUpdatePacketInterval

/-- No Initial packet is left to be sent again, and the keys move on to at most one epoch ahead. -/
def KeepsStep (system : System CC) (move : Move) : Prop :=
  (system.actor move.side).InitialFree ∧
    max (system.actor move.side).currentKeyEpoch (system.actor move.side.peer).currentKeyEpoch +
      system.updates move ≤ (system.actor move.side.peer).currentKeyEpoch + 1

/-- A move takes its side no further than its peer, but for the updates it pays for itself. -/
theorem ReachableWhile.epoch_le (reached : ReachableWhile master condition system)
    (distinct : DistinctKeys master) (move : Move) (free : (system.actor move.side).InitialFree) :
    (system.actor move.side).currentKeyEpoch ≤ ((system.step move).actor move.side).currentKeyEpoch ∧
      ((system.step move).actor move.side).currentKeyEpoch ≤
        max (system.actor move.side).currentKeyEpoch (system.actor move.side.peer).currentKeyEpoch +
          system.updates move := by
  obtain ⟨turn, -⟩ := step_turn reached.sound (system.permits_all move)
  have agree := reached.keys move.side
  -- Along the turn every epoch is paid for by an update, or was reached by the peer.
  have along : ((system.step move).actor move.side).Epochal master ∧
      ((system.step move).actor move.side).isClient = !(system.actor move.side.peer).isClient ∧
      (system.actor move.side).currentKeyEpoch ≤ ((system.step move).actor move.side).currentKeyEpoch ∧
      (system.actor move.side).rotations ≤ ((system.step move).actor move.side).rotations ∧
      ((system.step move).actor move.side).currentKeyEpoch + (system.actor move.side).rotations ≤
        max (system.actor move.side).currentKeyEpoch (system.actor move.side.peer).currentKeyEpoch +
          ((system.step move).actor move.side).rotations := by
    refine @Program.invariant_run Session _ (fun session => session.Epochal master ∧
      session.isClient = !(system.actor move.side.peer).isClient ∧
      (system.actor move.side).currentKeyEpoch ≤ session.currentKeyEpoch ∧
      (system.actor move.side).rotations ≤ session.rotations ∧
      session.currentKeyEpoch + (system.actor move.side).rotations ≤
        max (system.actor move.side).currentKeyEpoch (system.actor move.side.peer).currentKeyEpoch +
          session.rotations) ?_ _ _ ⟨agree.epochal, agree.roles, le_rfl, le_rfl, by omega⟩ turn.run
    rintro before after ⟨epochal, roles, grown, paid, bound⟩ step
    have wider := around_environment step
    refine ⟨step.epochal epochal, step.constants.role.trans roles, ?_⟩
    rcases wider.follows_peer epochal agree.other roles distinct with
      ⟨same, kept⟩ | ⟨next, rotated | ⟨reached, kept⟩⟩ <;> omega
  obtain ⟨-, -, grown, -, bound⟩ := along
  refine ⟨grown, ?_⟩
  -- The updates are as many as the packets fill intervals.
  have spend := turn.spend free
  rw [turn.interval] at spend
  have filled : ((system.step move).actor move.side).rotations - (system.actor move.side).rotations ≤
      system.updates move := by
    apply (Nat.le_div_iff_mul_le agree.counts).mpr
    rw [Nat.mul_comm, Nat.mul_sub]
    omega
  omega

end Drift

end System

section Sample

open Sample

/-- A configuration whose keys move on after a number of packets. -/
def Sample.rotating (interval : Nat) : ZtConfig :=
  { Sample.config 2 16 with keyUpdatePacketInterval := interval }

/-- The sample key derivation tells the epochs apart by the length of the keys. -/
theorem Sample.distinctKeys : DistinctKeys [] := by
  intro isClient first second same
  cases isClient
  · have lengths := congrArg List.length same
    simpa [epochKeys, deriveEpochKeys, Hkdf.expand] using lengths
  · have lengths := congrArg List.length same
    simpa [epochKeys, deriveEpochKeys, Hkdf.expand] using lengths

namespace System

/-- The server's own packets fill its interval while a packet of the client is under way. -/
def serverAhead : List Move :=
  [.act .client (.openStream .bidirectional) (hostTaking 0),
    .act .client (.outgoingData 2 [1]) (hostTaking 1), .deliver .server 0 0 (hostTaking 0),
    .act .server (.openStream .bidirectional) (hostTaking 0),
    .act .server (.outgoingData 1 [7]) (hostTaking 1),
    .act .server (.outgoingData 1 [8]) (hostTaking 1),
    .act .client (.outgoingData 2 [2]) (hostTaking 1)]

/-- The client's third packet is of the next epoch, and the server has seen the first one only. -/
def clientAhead : List Move :=
  [.act .client (.openStream .bidirectional) (hostTaking 0),
    .act .client (.outgoingData 2 [1]) (hostTaking 1), .deliver .server 0 0 (hostTaking 0),
    .act .client (.outgoingData 2 [2]) (hostTaking 1),
    .act .client (.outgoingData 2 [3]) (hostTaking 1)]

/-- The pair of endpoints when the client's packet of the next epoch is under way. -/
def beforeFollowing : System RenoController := (Sample.system (rotating 2)).run clientAhead

/-- Whether an effect is no Initial payload that entered the sender. -/
def notInitial : Effect → Bool
  | .issued (.initial _) => false
  | _ => true

/-- The pair of endpoints when the client has just moved its keys on. -/
def afterUpdate : System RenoController := (Sample.system (rotating 2)).run (clientAhead.take 4)

end System

end Sample

end Zetta
