import Zetta.Lib.Program
import Zetta.Protocol.Packet
import Zetta.Protocol.PacketNumber
import Zetta.State.PacketWindow
import Zetta.State.StreamState
import Zetta.State.Unacked
import Zetta.Transport.Config

/-! The state of one connection's actor, and the environment its handlers run in. -/

namespace Zetta

/-- Lifecycle states of a connection. -/
inductive ConnectionState where
  | handshaking
  | active
  | closing
  | closed
  deriving DecidableEq, Repr

/-- A socket address. -/
abbrev Address := Nat

/-- The eight bytes of a path challenge. -/
abbrev PathToken := { bytes : Bytes // bytes.length = 8 }

/-- A packet handed to the socket, and the key epoch it was sealed in. -/
structure SentRecord where
  /-- The packet as its sender built it, with the packet number in full. -/
  packet : Packet
  epoch : Nat
  destination : Address
  deriving DecidableEq, Repr

/-- One call of the packet protection: the keys, the packet number and what was sealed. -/
structure Encryption where
  crypto : CryptoContext
  packetNumber : Nat
  aad : Bytes
  payload : Bytes
  deriving DecidableEq, Repr

/-- A packet of the handshake: Initial or Handshake, with a long header. -/
abbrev LongPacket := { packet : Packet // packet.header.isLong = true ∧
  packet.header.pType.isHandshake = true }

/--
What a connection did that is visible outside it or that later states no longer show.

The log is history only: no handler reads it.
-/
inductive Effect where
  /-- A payload entered the sender, for the first time. -/
  | issued (payload : UnackedPayload)
  | sent (record : SentRecord)
  /-- A stream entered the table. -/
  | created (id : Nat)
  /-- A stream opened by the peer was handed to the application. -/
  | surfaced (id : Nat)
  /-- A stream left the table on the application's request. -/
  | closedLocally (id : Nat)
  /-- A stream left the table because the peer reset it. -/
  | resetByPeer (id : Nat)
  | pushed (id : Nat) (chunk : Bytes)
  /-- The application reported bytes of a stream as read. -/
  | reported (id : Nat) (bytes : Nat)
  /-- A frame was handled without an error; the stream it names was in the table or not. -/
  | handled (frame : Frame) (known : Bool)
  /-- The count of sent packets moved the keys on from an epoch. -/
  | rotated (epoch : Nat)
  deriving DecidableEq, Repr

/-- The part of a connection's state that the protocol properties speak about. -/
structure Session where
  config : ZtConfig
  isClient : Bool
  state : ConnectionState
  nextPacketNumber : Nat
  crypto : Option CryptoContext
  currentKeyEpoch : Nat
  streams : SortedMap Nat StreamState
  unackedPackets : UnackedWindow
  unpacedQueue : List (UnackedPayload × Nat)
  replayWindow : ReplayWindow
  ackTracker : PacketWindow
  peerInitialStreamWindow : Nat
  /-- How many more bytes the peer's connection window admits. -/
  remoteWindow : Nat
  /-- The id of the next stream the application opens. -/
  nextStreamId : Nat
  /-- The secret of the key exchange, until it is used; a server's actor never holds one. -/
  ephemeralSecret : Option Bytes
  log : List Effect

/-- The parity of the stream ids the endpoint's own application opens. -/
def Session.localParity (self : Session) : Nat := if self.isClient then 0 else 1

/-- The parity of the stream ids the peer opens. -/
def Session.peerParity (self : Session) : Nat := if self.isClient then 1 else 0

/-- The two parities differ. -/
theorem Session.parities_differ (self : Session) : self.localParity ≠ self.peerParity := by
  unfold localParity peerParity
  split <;> decide

/-- What the socket does with one packet. -/
inductive SendOutcome where
  | sent
  | wouldBlock
  | ioError
  /-- Protecting the packet failed before it reached the socket. -/
  | cryptoError
  deriving DecidableEq, Repr

/-- What the pacer decides about the payload at the front of the queue. -/
inductive PaceDecision where
  | send
  | wait (delay : Duration)
  deriving DecidableEq, Repr

/--
The environment of one event: the clock, the socket, the pacer and random bytes.

The floating-point pacing budget and the scaled round-trip time enter only through their results.
-/
structure Host where
  now : Instant
  sends : List SendOutcome
  paces : List PaceDecision
  /-- The round-trip time times one and a quarter. -/
  scaledRtt : Duration
  /-- The random number whose eight bytes a path challenge carries. -/
  token : Nat
  deriving DecidableEq, Repr

/-- A congestion controller, as the connection uses it. -/
class CongestionController (CC : Type) where
  onPacketAcked : CC → Nat → Duration → Instant → CC
  onCongestionEvent : CC → Duration → Instant → CC
  cwnd : CC → Nat
  setMtu : CC → Nat → CC

/-- The hash, signatures and key exchange of the handshake, which come from libraries. -/
class HandshakeCrypto where
  sha256 : Bytes → Bytes
  sign : Bytes → Bytes → Bytes
  isValidKey : Bytes → Bool
  verify : Bytes → Bytes → Bytes → Bool
  sharedSecret : Bytes → Bytes → Bytes
  /-- The application's policy on peer keys. -/
  verifyPeerKey : Bytes → Bool

/-- The actor of one connection: the session and what only its own handlers look at. -/
structure ZtConnectionActor (CC : Type) extends Session where
  addr : Address
  dcid : Bytes
  scid : Bytes
  publicKey : Bytes
  edSigningKey : Option Bytes
  edPublicKey : Bytes
  mtuProbes : SortedMap Nat Nat
  rtt : Duration
  rttvar : Duration
  rttInitialized : Bool
  localWindow : Nat
  cc : CC
  bytesInFlight : Nat
  mtu : Nat
  mtuMin : Nat
  mtuMax : Nat
  baseMtu : Nat
  bytesReceived : Nat
  bytesSent : Nat
  connTxOffset : Nat
  packetsSinceKeyUpdate : Nat
  queuedBytes : Nat
  cookie : Option Bytes
  handshakePacket : Option LongPacket
  largestAckedReceivedAt : Option Instant
  localMaxStreams : Nat
  peerMaxStreams : Nat
  peerMaxDatagramSize : Nat
  idleTimeout : Duration
  packetsLost : Nat
  packetsRetransmitted : Nat
  mtuProbeSuccesses : Nat
  mtuProbeFailures : Nat
  mtuBlackholeRecoveries : Nat
  pendingAcks : Nat
  lastActiveStreamId : Nat
  /-- The channel on which streams opened by the peer reach the application, by id. -/
  incomingStreams : Channel Nat
  datagrams : Channel Bytes
  socketBlocked : Bool
  pendingValidationAddr : Option Address
  pathValidationToken : Option PathToken
  pathValidationSentAt : Option Instant
  pathValidationRetries : Nat
  /-- Whether the event loop is still running. -/
  running : Bool
  /-- Every call of the packet protection so far; like the log, it is history only. -/
  encryptions : List Encryption
  host : Host

/-- What an endpoint gives the actor of a new connection. -/
structure ActorSeed where
  config : ZtConfig
  isClient : Bool
  addr : Address
  scid : Bytes
  dcid : Bytes
  publicKey : Bytes
  ephemeralSecret : Option Bytes
  edSigningKey : Option Bytes
  edPublicKey : Bytes

/--
The actor of a new connection, before the handshake.

The controller is made from its initial window and segment size.
-/
def ZtConnectionActor.new {CC : Type} (controller : Nat → Nat → CC) (seed : ActorSeed)
    (host : Host) : ZtConnectionActor CC where
  isClient := seed.isClient
  state := .handshaking
  nextPacketNumber := 0
  crypto := none
  currentKeyEpoch := 0
  streams := .empty
  unackedPackets := .new
  unpacedQueue := []
  replayWindow := .new
  ackTracker := .new
  peerInitialStreamWindow := seed.config.initialStreamWindow
  -- The client uses even stream ids and the server odd ones.
  nextStreamId := if seed.isClient then 2 else 1
  ephemeralSecret := seed.ephemeralSecret
  log := []
  config := seed.config
  addr := seed.addr
  dcid := seed.dcid
  scid := seed.scid
  publicKey := seed.publicKey
  edSigningKey := seed.edSigningKey
  edPublicKey := seed.edPublicKey
  mtuProbes := .empty
  rtt := milliseconds 333
  rttvar := milliseconds 166
  rttInitialized := false
  localWindow := seed.config.initialMaxData
  remoteWindow := seed.config.initialMaxData
  cc := controller (10 * seed.config.mtuMin) seed.config.mtuMin
  bytesInFlight := 0
  mtu := seed.config.mtuMin
  mtuMin := seed.config.mtuMin
  mtuMax := seed.config.mtuMax
  baseMtu := seed.config.mtuMin
  bytesReceived := 0
  bytesSent := 0
  connTxOffset := 0
  packetsSinceKeyUpdate := 0
  queuedBytes := 0
  cookie := none
  handshakePacket := none
  largestAckedReceivedAt := none
  localMaxStreams := seed.config.maxConcurrentStreams
  peerMaxStreams := seed.config.maxConcurrentStreams
  peerMaxDatagramSize := seed.config.mtuMin - 64
  idleTimeout := seed.config.idleTimeout
  packetsLost := 0
  packetsRetransmitted := 0
  mtuProbeSuccesses := 0
  mtuProbeFailures := 0
  mtuBlackholeRecoveries := 0
  pendingAcks := 0
  lastActiveStreamId := 0
  incomingStreams := .new
  datagrams := .new
  socketBlocked := false
  pendingValidationAddr := none
  pathValidationToken := none
  pathValidationSentAt := none
  pathValidationRetries := 0
  running := true
  encryptions := []
  host := host

/-- The key phase bit of outgoing packets. -/
def ZtConnectionActor.currentKeyPhase {CC : Type} (self : ZtConnectionActor CC) : Bool :=
  self.currentKeyEpoch % 2 ≠ 0

/-- A handler of the actor. -/
abbrev Act (CC α : Type) := Program.Prog (ZtConnectionActor CC) ZtError α

end Zetta
