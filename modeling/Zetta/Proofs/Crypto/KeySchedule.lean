import Zetta.Machine.Keys

/-! The key schedules of the two sides of a connection agree in every epoch. -/

namespace Zetta

variable [Hkdf]

/-- Both sides put the connection ids in the same order, so they derive the same secret. -/
theorem deriveMasterSecret_peer (sharedSecret clientScid serverScid : Bytes) (psk : Option Bytes) :
    deriveMasterSecret sharedSecret clientScid serverScid psk true =
      deriveMasterSecret sharedSecret serverScid clientScid psk false := by
  -- The server swaps its arguments back before they are hashed.
  simp [deriveMasterSecret]

namespace CryptoContext

/-- A context after a number of key rotations. -/
def rotated (crypto : CryptoContext) : Nat → CryptoContext
  | 0 => crypto
  | count + 1 => (crypto.rotated count).rotateKeys

/-- One side sends under exactly the keys the other one receives under, in both directions. -/
structure Mirrors (left right : CryptoContext) : Prop where
  epoch : left.epoch = right.epoch
  txKey : left.txKey = right.rxKey
  txIv : left.txIv = right.rxIv
  rxKey : left.rxKey = right.txKey
  rxIv : left.rxIv = right.txIv
  txHpKey : left.txHpKey = right.rxHpKey
  rxHpKey : left.rxHpKey = right.txHpKey

/-- What one rotation keeps: the keys made ready are installed, and the replaced ones retained. -/
structure Advances (before after : CryptoContext) : Prop where
  epoch : after.epoch = before.epoch + 1
  rxKey : after.rxKey = before.nextRxKey
  rxIv : after.rxIv = before.nextRxIv
  prevRx : after.prevRx = some ⟨before.rxKey, before.rxIv⟩
  txHpKey : after.txHpKey = before.txHpKey
  rxHpKey : after.rxHpKey = before.rxHpKey
  /-- A trial succeeds with exactly the keys it then installs. -/
  trial : ∀ packetNumber aad payload plaintext installed,
    before.trialDecryptAndRotate packetNumber aad payload = .ok (plaintext, installed) ↔
      installed = after ∧
        payload.openWith after.rxKey after.rxIv packetNumber aad = some plaintext

/-- Rotation leaves the header protection keys alone. -/
theorem rotated_hpKeys (crypto : CryptoContext) (count : Nat) :
    (crypto.rotated count).txHpKey = crypto.txHpKey ∧
      (crypto.rotated count).rxHpKey = crypto.rxHpKey := by
  -- Each rotation replaces the secret and the epoch keys, and nothing else.
  induction count with
  | zero => exact ⟨rfl, rfl⟩
  | succ count ih => exact ih

/-- Every rotation moves the epoch on by one. -/
theorem rotated_epoch (crypto : CryptoContext) (count : Nat) :
    (crypto.rotated count).epoch = crypto.epoch + count := by
  -- A rotation derives the keys of the epoch after the current one.
  induction count with
  | zero => rfl
  | succ count ih =>
    show (crypto.rotated count).epoch + 1 = crypto.epoch + (count + 1)
    rw [ih, Nat.add_assoc]

/-- Rotated contexts hold the keys of their epochs. -/
theorem Keyed.rotated {crypto : CryptoContext} {master : Bytes} {isClient : Bool}
    (keyed : crypto.Keyed master isClient) (count : Nat) :
    (crypto.rotated count).Keyed master isClient := by
  -- The induction is on the rotations, each of which keeps to the schedule.
  induction count with
  | zero => exact keyed
  | succ count ih => exact ih.rotate

/-- Contexts of the same epoch of one schedule, one for each role, mirror each other. -/
theorem Keyed.mirrors {left right : CryptoContext} {master : Bytes}
    (client : left.Keyed master true) (server : right.Keyed master false)
    (epoch : left.epoch = right.epoch) (txHpKey : left.txHpKey = right.rxHpKey)
    (rxHpKey : left.rxHpKey = right.txHpKey) : left.Mirrors right := by
  -- The two directions of an epoch have their own labels, which the roles swap.
  have toServer := epochKeys_peer master true right.epoch
  have toClient := epochKeys_peer master false right.epoch
  simp only [Bool.not_true, Bool.not_false] at toServer toClient
  refine ⟨epoch, ?_, ?_, ?_, ?_, txHpKey, rxHpKey⟩
  · rw [client.txKey, server.rxKey, epoch, toServer.1]
  · rw [client.txIv, server.rxIv, epoch, toServer.2]
  · rw [client.rxKey, server.txKey, epoch, toClient.1]
  · rw [client.rxIv, server.txIv, epoch, toClient.2]

/-- A context that follows a schedule advances along it. -/
theorem Keyed.advances {crypto : CryptoContext} {master : Bytes} {isClient : Bool}
    (keyed : crypto.Keyed master isClient) : crypto.Advances crypto.rotateKeys := by
  -- Both the keys made ready and the keys installed are those of the next epoch.
  have rxKey : crypto.rotateKeys.rxKey = crypto.nextRxKey :=
    keyed.rotate.rxKey.trans keyed.nextRxKey.symm
  have rxIv : crypto.rotateKeys.rxIv = crypto.nextRxIv :=
    keyed.rotate.rxIv.trans keyed.nextRxIv.symm
  refine ⟨rfl, rxKey, rxIv, rfl, rfl, rfl, ?_⟩
  intro packetNumber aad payload plaintext installed
  rw [rxKey, rxIv]
  unfold trialDecryptAndRotate
  cases payload.openWith crypto.nextRxKey crypto.nextRxIv packetNumber aad with
  | none => simp
  | some opened =>
    -- The rotation is committed only after the trial succeeded.
    simp only [Except.ok.injEq, Prod.mk.injEq, Option.some.injEq]
    constructor
    · rintro ⟨rfl, rfl⟩
      exact ⟨rfl, rfl⟩
    · rintro ⟨rfl, rfl⟩
      exact ⟨rfl, rfl⟩

/--
The contexts of a client and a server with one shared secret match after any number of rotations.

Each rotation installs the receive keys made ready before it and retains those it replaces, and a
trial opens a packet with exactly the keys it then installs.
-/
theorem schedules_match (sharedSecret clientScid serverScid : Bytes) (psk : Option Bytes)
    (count : Nat) :
    let client := (fromSharedSecret sharedSecret clientScid serverScid psk true).rotated
    let server := (fromSharedSecret sharedSecret serverScid clientScid psk false).rotated
    (client count).Mirrors (server count) ∧
      (client count).Advances (client (count + 1)) ∧ (server count).Advances (server (count + 1)) ∧
      (client count).txHpKey = (client 0).txHpKey ∧ (client count).rxHpKey = (client 0).rxHpKey ∧
      (server count).txHpKey = (server 0).txHpKey ∧ (server count).rxHpKey = (server 0).rxHpKey := by
  intro client server
  -- Both contexts start from one master secret and follow its schedule.
  have clientKeyed : (client count).Keyed
      (deriveMasterSecret sharedSecret clientScid serverScid psk true) true :=
    (keyed_start _ true).rotated count
  have serverKeyed : (server count).Keyed
      (deriveMasterSecret sharedSecret clientScid serverScid psk true) false := by
    rw [deriveMasterSecret_peer]
    exact (keyed_start _ false).rotated count
  -- The header protection keys are those of the start, where the roles swap them.
  obtain ⟨clientTx, clientRx⟩ := rotated_hpKeys (client 0) count
  obtain ⟨serverTx, serverRx⟩ := rotated_hpKeys (server 0) count
  have startTx : (client 0).txHpKey = (server 0).rxHpKey := by
    show (deriveHpKeys (deriveMasterSecret sharedSecret clientScid serverScid psk true) true).1 =
      (deriveHpKeys (deriveMasterSecret sharedSecret serverScid clientScid psk false) false).2
    rw [deriveMasterSecret_peer]
    rfl
  have startRx : (client 0).rxHpKey = (server 0).txHpKey := by
    show (deriveHpKeys (deriveMasterSecret sharedSecret clientScid serverScid psk true) true).2 =
      (deriveHpKeys (deriveMasterSecret sharedSecret serverScid clientScid psk false) false).1
    rw [deriveMasterSecret_peer]
    rfl
  have epoch : (client count).epoch = (server count).epoch := by
    rw [rotated_epoch, rotated_epoch]
    rfl
  refine ⟨clientKeyed.mirrors serverKeyed epoch ?_ ?_, clientKeyed.advances, serverKeyed.advances,
    clientTx, clientRx, serverTx, serverRx⟩
  · exact clientTx.trans (startTx.trans serverRx.symm)
  · exact clientRx.trans (startRx.trans serverTx.symm)

end CryptoContext
end Zetta
