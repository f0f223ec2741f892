import Zetta.Transport.Router
import Zetta.Transport.System

/-! Clients that connect to a server over a network that loses, delays, repeats and reorders. -/

namespace Zetta

/-- One attempt of a client to connect, with what it draws for it. -/
structure Attempt (CC : Type) where
  /-- Where the client's packets come from. -/
  address : Address
  server : Address
  config : ZtConfig
  /-- Binding the client's endpoint checked the configuration. -/
  valid : config.validate = .ok ()
  scid : ConnectionId
  dcid : ConnectionId
  ephemeralSecret : Bytes
  edSigningKey : Bytes
  edPublicKey : PublicKey
  controller : Nat → Nat → CC

/-- The client's half of the key exchange. -/
def Attempt.publicKey {CC : Type} [EndpointCrypto] (self : Attempt CC) : Bytes :=
  (EndpointCrypto.publicKey self.ephemeralSecret).val

/-- The actor an attempt starts with. -/
def Attempt.actor {CC : Type} [EndpointCrypto] (self : Attempt CC) (host : Host) :
    ZtConnectionActor CC :=
  .new self.controller ⟨self.config, true, self.server, self.scid.val, self.dcid.val, self.publicKey,
    some self.ephemeralSecret, some self.edSigningKey, self.edPublicKey.val⟩ host

/-- An attempt and its actor. -/
structure Client (CC : Type) where
  attempt : Attempt CC
  actor : ZtConnectionActor CC

/--
Clients and the server they connect to.

The network needs no state of its own: any packet ever sent can arrive at the other end, at any time,
any number of times, or never.
-/
structure Network (CC : Type) where
  clients : List (Client CC)
  server : Server CC

/-- A step of the network. -/
inductive NetworkMove (CC : Type) where
  | connect (attempt : Attempt CC) (host : Host)
  /-- Something happens at a client. -/
  | act (client : Nat) (event : Event) (host : Host)
  /-- A packet of the server, named by its position among them, arrives at a client. -/
  | answer (client position : Nat) (addr : Address) (host : Host)
  /-- A packet of a client arrives at the server's socket. -/
  | arrive (client position elapsed : Nat) (draw : RouterDraw)
  /-- A packet of a client that waited in a mailbox is taken out of it. -/
  | deliver (task client position : Nat) (host : Host)
  /-- Something happens at a connection of the server. -/
  | turn (task : Nat) (event : Event) (host : Host)
  /-- The server's application takes a connection off the accept queue. -/
  | accept
  /-- The server's application closes a connection. -/
  | close (id : Bytes)

/-- The packets an endpoint has sent, its own and those of its actors. -/
def ZtEndpoint.outgoing {CC : Type} (self : ZtEndpoint CC) : List SentRecord :=
  self.sent ++ self.tasks.flatMap fun actor => actor.sentRecords

namespace Network

variable {CC : Type} [Hkdf] [HandshakeCrypto] [EndpointCrypto] [CongestionController CC]

omit [Hkdf] [HandshakeCrypto] [EndpointCrypto] [CongestionController CC] in
/-- A packet of a client as it arrives at the server, and the address it comes from. -/
def incoming? (self : Network CC) (client position : Nat) : Option (Packet × Address) :=
  match self.clients[client]? with
  | none => none
  | some sender =>
    (sender.actor.sentRecords[position]?).map fun record =>
      (System.arriving record, sender.attempt.address)

/-- Let the actor of a client take a turn. -/
def turnClient (self : Network CC) (client : Nat) (event : Event) (host : Host) : Network CC :=
  match self.clients[client]? with
  | none => self
  | some known =>
    { self with
      clients := self.clients.set client { known with actor := known.actor.step event host } }

/-- Take a step; a delivery of a packet that was never sent does nothing. -/
def step (self : Network CC) : NetworkMove CC → Network CC
  | .connect attempt host =>
    { self with clients := self.clients ++ [⟨attempt, (attempt.actor host).start host⟩] }
  | .act client event host => if event.isLocal then self.turnClient client event host else self
  | .answer client position addr host =>
    match self.server.outgoing[position]? with
    | none => self
    | some record => self.turnClient client (.incomingPacket (System.arriving record) addr) host
  | .arrive client position elapsed draw =>
    match self.incoming? client position with
    | none => self
    | some (packet, addr) =>
      { self with server := self.server.step (.receive elapsed draw packet addr) }
  | .deliver task client position host =>
    match self.incoming? client position with
    | none => self
    | some (packet, addr) =>
      { self with server := self.server.step (.turn task (.incomingPacket packet addr) host) }
  | .turn task event host =>
    if event.isLocal then { self with server := self.server.step (.turn task event host) } else self
  | .accept => { self with server := self.server.step .accept }
  | .close id => { self with server := self.server.step (.close id) }

/-- Take steps one after the other. -/
def run (self : Network CC) (moves : List (NetworkMove CC)) : Network CC := moves.foldl step self

/-- A server that was just bound, and no client yet. -/
def bind (identity : EndpointIdentity CC) (clock : Nat) : Network CC := ⟨[], .bind identity clock⟩

/-- The networks reached from a bound server by steps that all meet a condition. -/
inductive ReachableWhile (condition : Network CC → NetworkMove CC → Prop) : Network CC → Prop
  | bind (identity : EndpointIdentity CC) (clock : Nat) :
      ReachableWhile condition (.bind identity clock)
  | step {network : Network CC} (move : NetworkMove CC) (reached : ReachableWhile condition network)
      (met : condition network move) : ReachableWhile condition (network.step move)

/-- The networks reached from a bound server by any steps. -/
def Reachable : Network CC → Prop := ReachableWhile fun _ _ => True

end Network
end Zetta
