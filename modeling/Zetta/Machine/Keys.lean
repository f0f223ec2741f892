import Zetta.Machine.Sound

/-! The key schedule of a connection, and the epochs its packets are sealed in. -/

namespace Zetta

variable [Hkdf]

/-- The secret of an epoch, reached from the master secret one ratchet at a time. -/
def epochSecret (master : Bytes) : Nat → Bytes
  | 0 => master
  | epoch + 1 => ratchetSecret (epochSecret master epoch)

/-- The keys of an epoch, as one of the two sides uses them. -/
def epochKeys (master : Bytes) (isClient : Bool) (epoch : Nat) : EpochKeys :=
  deriveEpochKeys (epochSecret master epoch) epoch isClient

/-- What one side sends under, the other side receives under. -/
theorem epochKeys_peer (master : Bytes) (isClient : Bool) (epoch : Nat) :
    (epochKeys master (!isClient) epoch).rxKey = (epochKeys master isClient epoch).txKey ∧
      (epochKeys master (!isClient) epoch).rxIv = (epochKeys master isClient epoch).txIv := by
  -- The client's keys come first for the client and second for the server.
  cases isClient <;> exact ⟨rfl, rfl⟩

/-- No two epochs of a connection have the same sending key. -/
def DistinctKeys (master : Bytes) : Prop :=
  ∀ isClient first second, (epochKeys master isClient first).txKey =
    (epochKeys master isClient second).txKey → first = second

namespace CryptoContext

/-- A context that holds the keys of its epoch, those of the next one and those kept of the last. -/
structure Keyed (crypto : CryptoContext) (master : Bytes) (isClient : Bool) : Prop where
  role : crypto.isClient = isClient
  secret : crypto.secret = epochSecret master crypto.epoch
  txKey : crypto.txKey = (epochKeys master isClient crypto.epoch).txKey
  txIv : crypto.txIv = (epochKeys master isClient crypto.epoch).txIv
  rxKey : crypto.rxKey = (epochKeys master isClient crypto.epoch).rxKey
  rxIv : crypto.rxIv = (epochKeys master isClient crypto.epoch).rxIv
  nextRxKey : crypto.nextRxKey = (epochKeys master isClient (crypto.epoch + 1)).rxKey
  nextRxIv : crypto.nextRxIv = (epochKeys master isClient (crypto.epoch + 1)).rxIv
  /-- Only the first epoch has none before it. -/
  first : crypto.epoch = 0 → crypto.prevRx = none
  prevRx : ∀ last, crypto.epoch = last + 1 → crypto.prevRx =
    some ⟨(epochKeys master isClient last).rxKey, (epochKeys master isClient last).rxIv⟩

/-- The context both sides start from after the key exchange. -/
theorem keyed_start (master : Bytes) (isClient : Bool) :
    ((withSecret master isClient).applyEpochKeys 0).Keyed master isClient where
  role := rfl
  secret := rfl
  txKey := rfl
  txIv := rfl
  rxKey := rfl
  rxIv := rfl
  nextRxKey := rfl
  nextRxIv := rfl
  first := fun _ => rfl
  prevRx := by
    intro last zero
    cases zero

/-- Rotating moves on to the next epoch and keeps the receive keys of this one. -/
theorem Keyed.rotate {crypto : CryptoContext} {master : Bytes} {isClient : Bool}
    (keyed : crypto.Keyed master isClient) : crypto.rotateKeys.Keyed master isClient := by
  -- The ratchet takes the secret of this epoch to that of the next.
  have secret : ratchetSecret crypto.secret = epochSecret master (crypto.epoch + 1) := by
    rw [keyed.secret]
    rfl
  have keys : ∀ epoch, deriveEpochKeys (epochSecret master epoch) epoch crypto.isClient =
      epochKeys master isClient epoch := by
    intro epoch
    rw [keyed.role]
    rfl
  refine ⟨keyed.role, secret, ?_, ?_, ?_, ?_, ?_, ?_, (by intro zero; cases zero),
    fun last later => ?_⟩
  · show (deriveEpochKeys (ratchetSecret crypto.secret) (crypto.epoch + 1) crypto.isClient).txKey = _
    rw [secret, keys]
    rfl
  · show (deriveEpochKeys (ratchetSecret crypto.secret) (crypto.epoch + 1) crypto.isClient).txIv = _
    rw [secret, keys]
    rfl
  · show (deriveEpochKeys (ratchetSecret crypto.secret) (crypto.epoch + 1) crypto.isClient).rxKey = _
    rw [secret, keys]
    rfl
  · show (deriveEpochKeys (ratchetSecret crypto.secret) (crypto.epoch + 1) crypto.isClient).rxIv = _
    rw [secret, keys]
    rfl
  · -- The keys after the next are derived one ratchet further.
    show (deriveEpochKeys (ratchetSecret (ratchetSecret crypto.secret)) (crypto.epoch + 1 + 1)
      crypto.isClient).rxKey = _
    rw [secret]
    exact congrArg EpochKeys.rxKey (keys (crypto.epoch + 2))
  · show (deriveEpochKeys (ratchetSecret (ratchetSecret crypto.secret)) (crypto.epoch + 1 + 1)
      crypto.isClient).rxIv = _
    rw [secret]
    exact congrArg EpochKeys.rxIv (keys (crypto.epoch + 2))
  · have same : last = crypto.epoch := (Nat.succ.inj later).symm
    subst same
    show some (⟨crypto.rxKey, crypto.rxIv⟩ : FallbackRxKeys) = _
    rw [keyed.rxKey, keyed.rxIv]

end CryptoContext

/-- A session whose keys are those of its epoch. -/
def Session.Keyed (session : Session) (master : Bytes) : Prop :=
  ∃ crypto, session.crypto = some crypto ∧ crypto.Keyed master session.isClient ∧
    crypto.epoch = session.currentKeyEpoch

/-- A protected packet sealed under the sending keys of its epoch, with that epoch's phase. -/
structure SentRecord.Stamped (record : SentRecord) (master : Bytes) (isClient : Bool) : Prop where
  phase : record.packet.header.keyPhase = decide (record.epoch % 2 ≠ 0)
  body : ∃ plaintext, record.packet.body = .encrypted
    ⟨(epochKeys master isClient record.epoch).txKey,
      makeNonceFromIv (epochKeys master isClient record.epoch).txIv record.packet.header.packetNumber,
      record.packet.header.encode, plaintext⟩

/-- Keys and packets of a session go by its epochs, none of which is ahead of it. -/
structure Session.Epochal (session : Session) (master : Bytes) : Prop where
  keyed : session.Keyed master
  sent : ∀ record, .sent record ∈ session.log → record.packet.header.pType.isProtected = true →
    record.Stamped master session.isClient ∧ record.epoch ≤ session.currentKeyEpoch

section Steps

variable {master : Bytes} {before after : Session}

/-- A packet built from keyed state is stamped with the epoch of that state. -/
theorem Built.stamped {record : SentRecord} (built : Built before record)
    (keyed : before.Keyed master) :
    record.Stamped master before.isClient ∧ record.epoch = before.currentKeyEpoch := by
  obtain ⟨crypto, keys, follows, epoch⟩ := keyed
  obtain ⟨used, frame, pad, current, sealedIn, -, body⟩ := built.content
  -- The keys it was sealed under are those of the session.
  rw [keys] at current
  cases current
  have same : record.epoch = before.currentKeyEpoch := sealedIn.trans epoch
  refine ⟨⟨?_, frame.encode ++ List.replicate pad 0, ?_⟩, same⟩
  · rw [same]
    exact built.phase
  · rw [body, CryptoContext.encryptInPlace, follows.txKey, follows.txIv, sealedIn]

/-- What was sent stays as it was while the epoch only grows. -/
theorem Session.Epochal.grow (epochal : before.Epochal master) (keyed : after.Keyed master)
    (role : after.isClient = before.isClient)
    (later : before.currentKeyEpoch ≤ after.currentKeyEpoch) {more : List Effect}
    (log : after.log = before.log ++ more)
    (sent : ∀ record, .sent record ∈ more → record.packet.header.pType.isProtected = true →
      record.Stamped master before.isClient ∧ record.epoch ≤ after.currentKeyEpoch) :
    after.Epochal master := by
  refine ⟨keyed, fun record member kind => ?_⟩
  rw [log] at member
  rw [role]
  rcases List.mem_append.mp member with old | new
  · obtain ⟨stamped, bound⟩ := epochal.sent record old kind
    exact ⟨stamped, bound.trans later⟩
  · exact sent record new kind

/-- A sending step keeps to the epochs, also when it moves the keys on. -/
theorem SendStep.epochal (step : SendStep before after) (epochal : before.Epochal master) :
    after.Epochal master := by
  cases step with
  | skipNumber | setUnacked | setQueue => exact ⟨epochal.keyed, epochal.sent⟩
  | emit record fits built =>
    refine epochal.grow ?_ rfl le_rfl rfl ?_
    · exact epochal.keyed
    intro other member _
    cases List.mem_singleton.mp member
    obtain ⟨stamped, epoch⟩ := built.stamped epochal.keyed
    exact ⟨stamped, epoch.le⟩
  | emitLong record long =>
    refine epochal.grow ?_ rfl le_rfl rfl ?_
    · exact epochal.keyed
    intro other member kind
    -- A packet of the handshake is not protected.
    cases List.mem_singleton.mp member
    cases type : record.packet.header.pType <;>
      simp [type, PacketType.isProtected, PacketType.isHandshake] at kind long
  | rotate keys =>
    obtain ⟨crypto, found, follows, epoch⟩ := epochal.keyed
    rw [keys] at found
    cases found
    refine epochal.grow ⟨_, rfl, follows.rotate, congrArg (· + 1) epoch⟩ rfl (Nat.le_succ _) rfl ?_
    intro record member
    cases List.mem_singleton.mp member

/-- So does every step of the machine. -/
theorem CoreStep.epochal {env : Environment} (step : CoreStep env before after)
    (epochal : before.Epochal master) : after.Epochal master := by
  -- Steps that send nothing and leave the keys alone only add to the history.
  have quiet : ∀ more, after.log = before.log ++ more → (∀ record, .sent record ∉ more) →
      after.crypto = before.crypto → after.isClient = before.isClient →
      after.currentKeyEpoch = before.currentKeyEpoch → after.Epochal master := by
    intro more log silent crypto role epoch
    have keyed : after.Keyed master := by
      obtain ⟨keys, found, follows, same⟩ := epochal.keyed
      exact ⟨keys, crypto.trans found, role ▸ follows, same.trans epoch.symm⟩
    exact epochal.grow keyed role epoch.ge log fun record member => absurd member (silent record)
  cases step with
  | send step => exact step.epochal epochal
  | follow keys arrived kind body opened =>
    obtain ⟨crypto, found, follows, epoch⟩ := epochal.keyed
    rw [keys] at found
    cases found
    refine epochal.grow ⟨_, rfl, follows.rotate, congrArg (· + 1) epoch⟩ rfl (Nat.le_succ _)
      (List.append_nil _).symm ?_
    simp
  | stream found step reads writes credit => exact quiet _ rfl step.silent rfl rfl rfl
  | remove found removal => exact quiet _ rfl (by cases removal <;> simp) rfl rfl rfl
  | issue | openLocal | openPeer | handled => exact quiet _ rfl (by simp) rfl rfl rfl
  | setState | mark | credit => exact quiet [] (List.append_nil _).symm (by simp) rfl rfl rfl

/-- A stamped packet opens under the receive keys of an epoch exactly when it is its own. -/
theorem SentRecord.Stamped.opens_iff {record : SentRecord} {isClient : Bool}
    (stamped : record.Stamped master (!isClient)) (distinct : DistinctKeys master) {payload : Sealed}
    (body : record.packet.body = .encrypted payload) (epoch : Nat) :
    (payload.openWith (epochKeys master isClient epoch).rxKey (epochKeys master isClient epoch).rxIv
      record.packet.header.packetNumber record.packet.header.encode).isSome = true ↔
        record.epoch = epoch := by
  obtain ⟨plaintext, content⟩ := stamped.body
  rw [content] at body
  cases body
  have peer := epochKeys_peer master (!isClient) epoch
  rw [Bool.not_not] at peer
  unfold Sealed.openWith
  constructor
  · -- The keys tell the epochs apart.
    intro opened
    split at opened
    · rename_i fits
      exact distinct (!isClient) _ _ (fits.1.trans peer.1)
    · cases opened
  · intro same
    subst same
    rw [if_pos ⟨peer.1.symm, by rw [peer.2], rfl⟩, Option.isSome_some]

/-- A session follows its peer only to epochs that the peer has reached. -/
theorem CoreStep.follows_peer {peer : Session} {allowed : Session → Request → Prop} {acting : Prop}
    (step : CoreStep ⟨(.sent · ∈ peer.log), allowed, acting⟩ before after)
    (epochal : before.Epochal master) (other : peer.Epochal master)
    (roles : before.isClient = !peer.isClient) (distinct : DistinctKeys master) :
    (after.currentKeyEpoch = before.currentKeyEpoch ∧ after.rotations = before.rotations) ∨
      (after.currentKeyEpoch = before.currentKeyEpoch + 1 ∧
        (after.rotations = before.rotations + 1 ∨
          after.currentKeyEpoch ≤ peer.currentKeyEpoch ∧ after.rotations = before.rotations)) := by
  cases step with
  | send step =>
    cases step with
    | rotate keys =>
      refine .inr ⟨rfl, .inl ?_⟩
      simp [Session.rotations, Effect.isRotation]
    | emit | emitLong => exact .inl ⟨rfl, by simp [Session.rotations, Effect.isRotation]⟩
    | skipNumber | setUnacked | setQueue => exact .inl ⟨rfl, rfl⟩
  | @follow crypto record payload pn plaintext keys arrived kind body opened =>
    refine .inr ⟨rfl, .inr ⟨?_, rfl⟩⟩
    obtain ⟨found, held, follows, epoch⟩ := epochal.keyed
    rw [keys] at held
    cases held
    obtain ⟨stamped, bound⟩ := other.sent record arrived kind
    -- The key that opened the packet is that of the next epoch, so the packet is of that epoch.
    obtain ⟨sealedText, content⟩ := stamped.body
    have used : payload.key = crypto.nextRxKey := by
      unfold Sealed.openWith at opened
      split at opened
      · rename_i fits
        exact fits.1
      · cases opened
    rw [content] at body
    cases body
    have received := (epochKeys_peer master peer.isClient (crypto.epoch + 1)).1
    rw [follows.nextRxKey, roles, received] at used
    have same : record.epoch = crypto.epoch + 1 := distinct _ _ _ used
    show before.currentKeyEpoch + 1 ≤ peer.currentKeyEpoch
    omega
  | stream found step reads writes credit =>
    refine .inl ⟨rfl, ?_⟩
    simp only [Session.rotations, List.countP_append, step.rotations, Nat.add_zero]
  | remove found removal =>
    exact .inl ⟨rfl, by cases removal <;> simp [Session.rotations, Effect.isRotation]⟩
  | issue | openLocal | openPeer | handled =>
    exact .inl ⟨rfl, by simp [Session.rotations, Effect.isRotation]⟩
  | setState | mark | credit => exact .inl ⟨rfl, rfl⟩

end Steps

end Zetta
