import Zetta.Transport.EventLoop
import Zetta.Transport.History

/-! Two connected endpoints and a network that drops, duplicates and reorders packets. -/

namespace Zetta

/-- One of the two endpoints. -/
inductive Side where
  | client
  | server
  deriving DecidableEq, Repr

/-- The other endpoint. -/
def Side.peer : Side → Side
  | client => server
  | server => client

@[simp] theorem Side.peer_peer (side : Side) : side.peer.peer = side := by cases side <;> rfl

/-- Of two sides, one is the other or its peer. -/
theorem Side.eq_or_eq_peer (side other : Side) : side = other ∨ side = other.peer := by
  cases side <;> cases other <;> simp [peer]

/--
The two actors of a connection.

The network needs no state of its own: any packet a side ever sent can arrive at the other side,
at any time, any number of times, or never.
-/
structure System (CC : Type) where
  client : ZtConnectionActor CC
  server : ZtConnectionActor CC

/-- Whether an event comes from the endpoint itself and not from the network or the handshake. -/
def Event.isLocal : Event → Bool
  | incomingPacket .. | setHandshakePacket _ => false
  | _ => true

/-- A step of the system. -/
inductive Move where
  /-- Something happens at one side. -/
  | act (side : Side) (event : Event) (host : Host)
  /-- A packet the peer sent, named by its position among them, arrives from an address. -/
  | deliver (side : Side) (index : Nat) (addr : Address) (host : Host)

/-- The side a move happens at. -/
def Move.side : Move → Side
  | act side .. | deliver side .. => side

/-- What the host of that side answers meanwhile. -/
def Move.host : Move → Host
  | act _ _ host | deliver _ _ _ host => host

namespace System

variable {CC : Type}

/-- The actor of a side. -/
def actor (self : System CC) : Side → ZtConnectionActor CC
  | .client => self.client
  | .server => self.server

/-- Replace the actor of a side. -/
def setActor (self : System CC) (side : Side) (actor : ZtConnectionActor CC) : System CC :=
  match side with
  | .client => { self with client := actor }
  | .server => { self with server := actor }

/-- The packet as it arrives: its number is truncated on the wire. -/
def arriving (record : SentRecord) : Packet := { record.packet with header := record.packet.header.onWire }

/-- The packet a move delivers, if the peer sent that many. -/
def delivered? (self : System CC) (side : Side) (index : Nat) : Option SentRecord :=
  (self.actor side.peer).sentRecords[index]?

variable [Hkdf] [HandshakeCrypto] [CongestionController CC]

/-- Take a step; a delivery of a packet that was never sent does nothing. -/
def step (self : System CC) : Move → System CC
  | .act side event host =>
    if event.isLocal then self.setActor side ((self.actor side).step event host) else self
  | .deliver side index addr host =>
    match self.delivered? side index with
    | none => self
    | some record =>
      self.setActor side ((self.actor side).step (.incomingPacket (arriving record) addr) host)

/-- Take steps one after the other. -/
def run (self : System CC) (moves : List Move) : System CC := moves.foldl step self

end System

/-- A session on which nothing happened since the handshake. -/
structure Session.Fresh (fresh : Session) : Prop where
  streams : fresh.streams = .empty
  /-- The handshake may have sent packets with long headers and issued Initial payloads. -/
  log : ∀ effect ∈ fresh.log, (∃ cookie, effect = .issued (.initial cookie)) ∨
    ∃ record, effect = .sent record ∧ record.packet.header.pType.isHandshake = true
  queue : ∀ entry ∈ fresh.unpacedQueue, .issued entry.1 ∈ fresh.log
  unacked : ∀ entry ∈ fresh.unackedPackets.iter, .issued entry.2.payload ∈ fresh.log
  windows : fresh.replayWindow = fresh.ackTracker
  highest : ∀ highest, fresh.ackTracker.highestProcessed = some highest → highest < u64Size
  number : fresh.nextPacketNumber < u64Size
  window : fresh.peerInitialStreamWindow < u64Size
  epoch : fresh.currentKeyEpoch = 0

/-- Two endpoints that have just completed a handshake with each other. -/
structure System.Connected {CC : Type} [Hkdf] (system : System CC) (master : Bytes) : Prop where
  client : system.client.Fresh
  server : system.server.Fresh
  clientRole : system.client.isClient = true
  serverRole : system.server.isClient = false
  clientState : system.client.state = .active
  serverState : system.server.state = .handshaking
  /-- A server's actor never holds a secret for the key exchange. -/
  serverSecret : system.server.ephemeralSecret = none
  clientIds : system.client.nextStreamId = 2
  serverIds : system.server.nextStreamId = 1
  /-- Only a configuration that passed its check makes an endpoint. -/
  clientConfig : system.client.config.validate = .ok ()
  serverConfig : system.server.config.validate = .ok ()
  /-- Each side starts from the limits the other one advertised. -/
  clientWindow : system.client.peerInitialStreamWindow = system.server.config.initialStreamWindow
  serverWindow : system.server.peerInitialStreamWindow = system.client.config.initialStreamWindow
  clientCredit : system.client.remoteWindow = system.server.config.initialMaxData
  serverCredit : system.server.remoteWindow = system.client.config.initialMaxData
  clientKeys : system.client.crypto = some ((CryptoContext.withSecret master true).applyEpochKeys 0)
  serverKeys : system.server.crypto = some ((CryptoContext.withSecret master false).applyEpochKeys 0)

/-- The systems reached from a connected pair by steps that all meet a condition. -/
inductive System.ReachableWhile {CC : Type} [Hkdf] [HandshakeCrypto] [CongestionController CC]
    (master : Bytes) (condition : System CC → Move → Prop) : System CC → Prop
  | start {system : System CC} (connected : system.Connected master) :
      ReachableWhile master condition system
  | step {system : System CC} (move : Move) (reached : ReachableWhile master condition system)
      (met : condition system move) : ReachableWhile master condition (system.step move)

/-- The systems reached from a connected pair by any steps. -/
def System.Reachable {CC : Type} [Hkdf] [HandshakeCrypto] [CongestionController CC]
    (master : Bytes) : System CC → Prop :=
  ReachableWhile master fun _ _ => True

end Zetta
