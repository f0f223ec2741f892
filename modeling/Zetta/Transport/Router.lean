import Zetta.Transport.Handshake

/-! The routers of an endpoint, which hand datagrams to actors or to the handshake, and its runs. -/

namespace Zetta

open Program

/-- How many connections an endpoint holds before it refuses handshakes. -/
def maxActiveConnections : Nat := 1000

/-- What chance and the host contribute to one datagram. -/
structure RouterDraw extends HandshakeDraw where
  /-- The socket the datagram arrived on. -/
  socket : Nat
  /-- Whether the mailbox found in the router's own table has room. -/
  cachedRoom : Bool
  /-- Whether the mailbox found in the shared table has room. -/
  sharedRoom : Bool
  /-- Whether fewer than 256 handshakes are being processed. -/
  permit : Bool

/-- Where a router sends a datagram. -/
inductive Route where
  | task (index : Nat)
  | handshake
  | dropped
  deriving DecidableEq, Repr

namespace ZtEndpoint

variable {CC : Type}

/-- Replace what the router of a socket remembers. -/
def remember (socket : Nat) (table : List (Bytes × Nat)) (self : ZtEndpoint CC) : ZtEndpoint CC :=
  { self with localRoutingTables := Function.update self.localRoutingTables socket table }

/-- The part of the router that looks into the table shared by all sockets. -/
def routeShared (draw : RouterDraw) (packet : Packet) (self : ZtEndpoint CC) :
    Route × ZtEndpoint CC :=
  let dcid := packet.header.dcid
  match self.routingTable.lookup dcid with
  | some index =>
    if self.isClosed index then
      (.dropped, { self with routingTable := unroute self.routingTable dcid })
    else
      (if draw.sharedRoom then .task index else .dropped,
        self.remember draw.socket ((dcid, index) :: self.localRoutingTables draw.socket))
  | none =>
    -- Only a datagram that can hold an Initial packet starts a handshake.
    if packet.size ≥ 1200 ∧ packet.header.isLong then
      if self.routingTable.length ≥ maxActiveConnections then (.dropped, self)
      else if draw.permit then (.handshake, self)
      else (.dropped, self)
    else (.dropped, self)

/-- Where the router of a socket sends a datagram, by its destination connection id. -/
def route (draw : RouterDraw) (packet : Packet) (self : ZtEndpoint CC) : Route × ZtEndpoint CC :=
  let dcid := packet.header.dcid
  let cached := self.localRoutingTables draw.socket
  match cached.lookup dcid with
  | none => self.routeShared draw packet
  | some index =>
    if !self.isClosed index ∧ draw.cachedRoom then (.task index, self)
    -- A mailbox that is closed or full leaves the router's own table.
    else (self.remember draw.socket (unroute cached dcid)).routeShared draw packet

variable [Hkdf] [HandshakeCrypto] [EndpointCrypto] [CongestionController CC]

/-- Process a datagram: route it, and let the actor or the handshake it is for handle it. -/
def receive (draw : RouterDraw) (packet : Packet) (addr : Address) (self : ZtEndpoint CC) :
    ZtEndpoint CC :=
  match self.route draw packet with
  | (.task index, self) => self.turn index (.incomingPacket packet addr) draw.host
  | (.handshake, self) => (exec (handleHandshake draw.toHandshakeDraw packet addr) self).2
  | (.dropped, self) => self

end ZtEndpoint

/-- What can happen at an endpoint that accepts connections. -/
inductive ServerMove where
  /-- A datagram arrives some milliseconds after the one before it. -/
  | receive (elapsed : Nat) (draw : RouterDraw) (packet : Packet) (addr : Address)
  /-- A turn of an actor: a message that waited for it, a timer or a use of a channel. -/
  | turn (index : Nat) (event : Event) (host : Host)
  /-- The application takes a connection off the accept queue. -/
  | accept
  /-- The application closes a connection by its id, which is no longer routed then. -/
  | close (id : Bytes)

/-- An endpoint and the clock of its process, in milliseconds. -/
structure Server (CC : Type) extends ZtEndpoint CC where
  clock : Nat

namespace Server

variable {CC : Type} [Hkdf] [HandshakeCrypto] [EndpointCrypto] [CongestionController CC]

/-- The draw of a datagram, with the time it is processed at. -/
def drawn (self : Server CC) (elapsed : Nat) (draw : RouterDraw) : RouterDraw :=
  { draw with now := self.clock + elapsed }

/-- Something happens. -/
def step (self : Server CC) : ServerMove → Server CC
  | .receive elapsed draw packet addr =>
    { toZtEndpoint := self.toZtEndpoint.receive (self.drawn elapsed draw) packet addr
      clock := self.clock + elapsed }
  -- Only the handshake sends this message, and the actor started with it.
  | .turn _ (.setHandshakePacket _) _ => self
  | .turn index event host => { self with toZtEndpoint := self.toZtEndpoint.turn index event host }
  | .accept => { self with incoming := self.incoming.recv }
  | .close id => { self with routingTable := ZtEndpoint.unroute self.routingTable id }

/-- One thing after another. -/
def run (self : Server CC) (moves : List ServerMove) : Server CC := moves.foldl step self

/-- A server that was just bound. -/
def bind (identity : EndpointIdentity CC) (clock : Nat) : Server CC := ⟨.bind identity, clock⟩

end Server
end Zetta
