import Zetta.Lib.Expiry
import Zetta.Transport.Cookie
import Zetta.Transport.EventLoop

/-! An endpoint that accepts connections: its identity, its actors and what a new one is made from. -/

namespace Zetta

/-- A connection id as endpoints draw them. -/
abbrev ConnectionId := { bytes : Bytes // bytes.length = 8 }

/-- What a server reads from an Initial packet. -/
structure ClientHello where
  /-- The header as it is on the wire. -/
  header : PacketHeader
  addr : Address
  size : Nat
  handshake : HandshakeFields
  parameters : TransportParameters
  cookie : Option Bytes
  deriving DecidableEq, Repr

/-- The client's transcript, as the server computes it from what it read. -/
def ClientHello.transcript (self : ClientHello) : Bytes :=
  clientTranscript self.header.scid self.header.dcid self.handshake.publicKey self.cookie
    self.parameters

/-- The bytes of a public key, for signatures or for the key exchange. -/
abbrev PublicKey := { bytes : Bytes // bytes.length = 32 }

/-- What an endpoint is bound with, once and for all. -/
structure EndpointIdentity (CC : Type) where
  config : ZtConfig
  /-- Binding checks the configuration. -/
  valid : config.validate = .ok ()
  edSigningKey : Bytes
  edPublicKey : PublicKey
  cookieKey : Bytes
  /-- The application's policy on the keys of clients. -/
  verifyPeerKey : Bytes → Bool
  controller : Nat → Nat → CC

/-- Everything a new connection of a server is made from. -/
structure Acceptance where
  hello : ClientHello
  scid : ConnectionId
  ephemeralSecret : Bytes
  host : Host
  deriving DecidableEq

namespace Acceptance

variable {CC : Type} [HandshakeCrypto] [EndpointCrypto]

/-- The server's half of the key exchange. -/
def publicKey (self : Acceptance) : Bytes := (EndpointCrypto.publicKey self.ephemeralSecret).val

/-- The header of the response: the first packet number of the connection fits in one byte. -/
def responseHeader (self : Acceptance) : PacketHeader :=
  ⟨.handshake, true, protocolVersion, self.hello.header.scid, self.scid.val, 0, false, 1⟩

/-- The hash the server signs: it continues the client's transcript with the server's choices. -/
def transcriptHash (identity : EndpointIdentity CC) (self : Acceptance) : Bytes :=
  HandshakeCrypto.sha256 (self.hello.transcript ++ self.scid.val ++ self.publicKey ++
    (TransportParameters.fromConfig identity.config).transcriptBytes)

/-- The handshake frame of the response. -/
def handshakeFrame (identity : EndpointIdentity CC) (self : Acceptance) : Frame :=
  .handshake self.publicKey identity.edPublicKey.val (self.transcriptHash identity)
    (HandshakeCrypto.sign identity.edSigningKey (self.transcriptHash identity)) identity.config.alpn

/-- The frames of the response. -/
def responsePayload (identity : EndpointIdentity CC) (self : Acceptance) : Bytes :=
  (self.handshakeFrame identity).encode ++
    (Frame.transportParameters (TransportParameters.fromConfig identity.config)).encode

variable [Hkdf]

/-- The public keys that protect the response. -/
def responseKeys (self : Acceptance) : CryptoContext := .initial self.hello.header.scid false

/-- The response to the Initial packet. -/
def response (identity : EndpointIdentity CC) (self : Acceptance) : LongPacket :=
  ⟨⟨self.responseHeader, .encrypted (self.responseKeys.encryptInPlace 0 self.responseHeader.encode
    (self.responsePayload identity))⟩, rfl, rfl⟩

/-- The keys the server shares with the client. -/
def sharedKeys (identity : EndpointIdentity CC) (self : Acceptance) : CryptoContext :=
  .fromSharedSecret
    (HandshakeCrypto.sharedSecret self.ephemeralSecret self.hello.handshake.publicKey)
    self.scid.val self.hello.header.scid identity.config.psk false

/-- The actor of the new connection, with the response in its hands. -/
def actor (identity : EndpointIdentity CC) (self : Acceptance) : ZtConnectionActor CC :=
  let fresh := ZtConnectionActor.new identity.controller
    ⟨identity.config, false, self.hello.addr, self.scid.val, self.hello.header.scid,
      identity.edPublicKey.val, none, none, identity.edPublicKey.val⟩ self.host
  { fresh.markProcessed self.hello.header.packetNumber with
    peerMaxStreams := self.hello.parameters.maxStreams
    peerInitialStreamWindow := self.hello.parameters.initialStreamWindow
    remoteWindow := self.hello.parameters.initialMaxData
    peerMaxDatagramSize := self.hello.parameters.maxDatagramSize
    idleTimeout := min identity.config.idleTimeout (milliseconds self.hello.parameters.idleTimeoutMs)
    bytesReceived := self.hello.size
    -- The response took the first number, and was sealed before the actor's first turn.
    nextPacketNumber := 1
    encryptions := [⟨self.responseKeys, 0, self.responseHeader.encode, self.responsePayload identity⟩]
    crypto := some (self.sharedKeys identity)
    handshakePacket := some (self.response identity) }

end Acceptance

/--
An endpoint: its socket's routers, its replay filter and its actors.

A message in an actor's mailbox is not told apart from a packet the network still holds.
-/
structure ZtEndpoint (CC : Type) extends EndpointIdentity CC where
  /-- Codes of consumed cookies, with the time they were consumed at. -/
  handshakeReplayFilter : Expiry.Record CookieMac
  /-- The actors spawned so far; one that stopped running has closed its mailbox. -/
  tasks : List (ZtConnectionActor CC)
  /-- Connection ids, and the positions of their actors among the tasks. -/
  routingTable : List (Bytes × Nat)
  /-- What the router of each socket remembers of the routing table. -/
  localRoutingTables : Nat → List (Bytes × Nat)
  /-- The accept queue, by connection id. -/
  incoming : Channel Bytes
  /-- The connections whose handles were put on the accept queue; like what follows, history only. -/
  acceptances : List Acceptance
  /-- The packets the endpoint itself sent: Retry packets and responses. -/
  sent : List SentRecord

namespace ZtEndpoint

variable {CC : Type}

/-- How many connections wait to be accepted at most. -/
def acceptQueueCapacity : Nat := 1024

/-- An endpoint that was just bound. -/
def bind (identity : EndpointIdentity CC) : ZtEndpoint CC where
  toEndpointIdentity := identity
  handshakeReplayFilter := []
  tasks := []
  routingTable := []
  localRoutingTables := fun _ => []
  incoming := .new
  acceptances := []
  sent := []

/-- Take a connection id out of a routing table. -/
def unroute (table : List (Bytes × Nat)) (id : Bytes) : List (Bytes × Nat) :=
  table.filter fun entry => entry.1 ≠ id

/-- Whether the routing table holds a connection id. -/
def isRouted (self : ZtEndpoint CC) (id : Bytes) : Bool := (self.routingTable.lookup id).isSome

/-- Whether the mailbox of an actor is closed. -/
def isClosed (self : ZtEndpoint CC) (index : Nat) : Bool :=
  self.tasks[index]?.all fun actor => !actor.running

variable [Hkdf] [HandshakeCrypto] [CongestionController CC]

/-- A turn of an actor's event loop; an actor that ends takes itself out of the routing table. -/
def turn (index : Nat) (event : Event) (host : Host) (self : ZtEndpoint CC) : ZtEndpoint CC :=
  match self.tasks[index]? with
  | none => self
  | some actor =>
    if !actor.running then self
    else
      let after := actor.step event host
      let self := { self with tasks := self.tasks.set index after }
      if after.running then self
      else { self with routingTable := unroute self.routingTable after.scid }

end ZtEndpoint
end Zetta
