import Zetta.Basic

/-! Key derivation, key rotation and packet protection of one connection. -/

namespace Zetta

/-- The labels keys are expanded under. -/
inductive KeyLabel where
  | clientKey (epoch : Nat)
  | serverKey (epoch : Nat)
  | clientIv (epoch : Nat)
  | serverIv (epoch : Nat)
  | clientHp
  | serverHp
  | masterSecret
  | initialSecret
  | ratchetSecret
  deriving DecidableEq, Repr

/-- The text of a label, with the epoch after a colon where it has one. -/
def KeyLabel.text : KeyLabel → String
  | clientKey epoch => "client_key:" ++ toString epoch
  | serverKey epoch => "server_key:" ++ toString epoch
  | clientIv epoch => "client_iv:" ++ toString epoch
  | serverIv epoch => "server_iv:" ++ toString epoch
  | clientHp => "client_hp"
  | serverHp => "server_hp"
  | masterSecret => "master_secret"
  | initialSecret => "initial_secret"
  | ratchetSecret => "ZettaTransport v1 ratchet secret"

/-- The HKDF functions, which the transport takes from a library. -/
class Hkdf where
  /-- A pseudorandom key from an optional salt and key material. -/
  extract : Option String → Bytes → Bytes
  /-- Key material of a length, from a pseudorandom key and a label. -/
  expand : Bytes → KeyLabel → Nat → Bytes

variable [Hkdf]

/-- The master secret of a connection; both sides put the client's id first. -/
def deriveMasterSecret (sharedSecret myScid peerDcid : Bytes) (psk : Option Bytes)
    (isClient : Bool) : Bytes :=
  let ids := if isClient then myScid ++ peerDcid else peerDcid ++ myScid
  let ikm := sharedSecret ++ ids ++ psk.getD []
  Hkdf.expand (Hkdf.extract (some "ZettaTransport v1") ikm) .masterSecret 32

/-- The public secret that protects Initial packets. -/
def deriveInitialSecret (dcid : Bytes) : Bytes :=
  Hkdf.expand (Hkdf.extract (some "ZettaTransport v1 InitialSalt\x00\x00\x00") dcid)
    .initialSecret 32

/-- The keys of both directions in one epoch. -/
structure EpochKeys where
  txKey : Bytes
  rxKey : Bytes
  txIv : Bytes
  rxIv : Bytes

/-- Derive all keys of an epoch, the epoch being part of every label. -/
def deriveEpochKeys (secret : Bytes) (epoch : Nat) (isClient : Bool) : EpochKeys :=
  let client := Hkdf.expand secret (.clientKey epoch) 32
  let server := Hkdf.expand secret (.serverKey epoch) 32
  let clientIv := Hkdf.expand secret (.clientIv epoch) 12
  let serverIv := Hkdf.expand secret (.serverIv epoch) 12
  if isClient then ⟨client, server, clientIv, serverIv⟩ else ⟨server, client, serverIv, clientIv⟩

/-- The static header protection keys, for sending and for receiving. -/
def deriveHpKeys (secret : Bytes) (isClient : Bool) : Bytes × Bytes :=
  let client := Hkdf.expand secret .clientHp 32
  let server := Hkdf.expand secret .serverHp 32
  if isClient then (client, server) else (server, client)

/-- The secret of the next epoch. -/
def ratchetSecret (currentSecret : Bytes) : Bytes :=
  Hkdf.expand (Hkdf.extract none currentSecret) .ratchetSecret 32

/-- The initialization vector with the packet number folded into its last eight bytes. -/
def makeNonceFromIv (iv : Bytes) (packetNumber : Nat) : Bytes :=
  iv.take 4 ++ List.zipWith (· ^^^ ·) (iv.drop 4) (beBytes 8 packetNumber)

/--
A protected payload, as ideal authenticated encryption sees it.

It opens under the key, nonce and associated data it was sealed with and under no others.
-/
structure Sealed where
  key : Bytes
  nonce : Bytes
  aad : Bytes
  plaintext : Bytes
  deriving DecidableEq, Repr

/-- Open a payload, or find that its tag does not match. -/
def Sealed.openWith (self : Sealed) (key iv : Bytes) (packetNumber : Nat) (aad : Bytes) :
    Option Bytes :=
  if self.key = key ∧ self.nonce = makeNonceFromIv iv packetNumber ∧ self.aad = aad then
    some self.plaintext
  else none

omit [Hkdf] in
/-- Opening a payload gives what was sealed. -/
theorem Sealed.openWith_eq {payload : Sealed} {key iv aad plaintext : Bytes} {packetNumber : Nat}
    (opened : payload.openWith key iv packetNumber aad = some plaintext) :
    plaintext = payload.plaintext := by
  unfold Sealed.openWith at opened
  split at opened
  · exact (Option.some.inj opened).symm
  · cases opened

/-- Receive keys of the epoch before, kept for packets that arrive late. -/
structure FallbackRxKeys where
  rxKey : Bytes
  rxIv : Bytes
  deriving DecidableEq, Repr

/-- The keys of a connection: the current epoch, the next receive keys and the previous ones. -/
structure CryptoContext where
  secret : Bytes
  txKey : Bytes
  rxKey : Bytes
  txHpKey : Bytes
  rxHpKey : Bytes
  txIv : Bytes
  rxIv : Bytes
  epoch : Nat
  isClient : Bool
  nextRxKey : Bytes
  nextRxIv : Bytes
  prevRx : Option FallbackRxKeys
  deriving DecidableEq, Repr

namespace CryptoContext

/-- A context with the given secret, whose epoch keys are not derived yet. -/
def withSecret (secret : Bytes) (isClient : Bool) : CryptoContext where
  secret := secret
  txKey := List.replicate 32 0
  rxKey := List.replicate 32 0
  txHpKey := (deriveHpKeys secret isClient).1
  rxHpKey := (deriveHpKeys secret isClient).2
  txIv := List.replicate 12 0
  rxIv := List.replicate 12 0
  epoch := 0
  isClient := isClient
  nextRxKey := List.replicate 32 0
  nextRxIv := List.replicate 12 0
  prevRx := none

/-- Derive and install the keys of an epoch, and the receive keys of the one after it. -/
def applyEpochKeys (self : CryptoContext) (epoch : Nat) : CryptoContext :=
  let keys := deriveEpochKeys self.secret epoch self.isClient
  let nextKeys := deriveEpochKeys (ratchetSecret self.secret) (epoch + 1) self.isClient
  { self with
    epoch := epoch
    txKey := keys.txKey, rxKey := keys.rxKey, txIv := keys.txIv, rxIv := keys.rxIv
    nextRxKey := nextKeys.rxKey, nextRxIv := nextKeys.rxIv }

/-- The context two peers share after the key exchange. -/
def fromSharedSecret (sharedSecret myScid peerDcid : Bytes) (psk : Option Bytes)
    (isClient : Bool) : CryptoContext :=
  (withSecret (deriveMasterSecret sharedSecret myScid peerDcid psk isClient)
    isClient).applyEpochKeys 0

/-- The public context of Initial packets. -/
def initial (dcid : Bytes) (isClient : Bool) : CryptoContext :=
  (withSecret (deriveInitialSecret dcid) isClient).applyEpochKeys 0

/-- Move to the next epoch, keeping the current receive keys as the previous ones. -/
def rotateKeys (self : CryptoContext) : CryptoContext :=
  { self with
    prevRx := some ⟨self.rxKey, self.rxIv⟩
    secret := ratchetSecret self.secret : CryptoContext }.applyEpochKeys (self.epoch + 1)

/-- Seal a payload under the current sending key. -/
def encryptInPlace (self : CryptoContext) (packetNumber : Nat) (aad payload : Bytes) : Sealed :=
  ⟨self.txKey, makeNonceFromIv self.txIv packetNumber, aad, payload⟩

/-- Open a payload with the current receive key, or with the previous one when asked to. -/
def decryptInPlace (self : CryptoContext) (packetNumber : Nat) (aad : Bytes) (payload : Sealed)
    (usePrevKey : Bool) : Except ZtError Bytes :=
  if usePrevKey then
    match self.prevRx with
    | some prev =>
      match payload.openWith prev.rxKey prev.rxIv packetNumber aad with
      | some plaintext => .ok plaintext
      | none => .error (.crypto "Decryption with prev key failed: aead::Error")
    | none => .error (.crypto "No previous RX cipher available")
  else
    match payload.openWith self.rxKey self.rxIv packetNumber aad with
    | some plaintext => .ok plaintext
    | none => .error (.crypto "Decryption failed: aead::Error")

/-- Open a payload with the next epoch's key, rotating to that epoch when it succeeds. -/
def trialDecryptAndRotate (self : CryptoContext) (packetNumber : Nat) (aad : Bytes)
    (payload : Sealed) : Except ZtError (Bytes × CryptoContext) :=
  match payload.openWith self.nextRxKey self.nextRxIv packetNumber aad with
  | some plaintext => .ok (plaintext, self.rotateKeys)
  | none => .error (.crypto "Trial decryption failed: aead::Error")

end CryptoContext
end Zetta
