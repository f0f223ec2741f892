import Zetta.Transport.Actor

/-! What the history of a connection says: packets sent, bytes accepted and delivered, stream life. -/

namespace Zetta

/-- The frames a packet's receiver finds in it. -/
def Packet.frames (self : Packet) : List Frame :=
  match self.body with
  | .encrypted payload => (Frame.decodeFrames payload.plaintext).1
  | .clear _ => []

/-- The datagrams in a packet; those of the handshake carry none. -/
def SentRecord.datagrams (self : SentRecord) : List Bytes :=
  if self.packet.header.pType.isProtected then self.packet.frames.filterMap Frame.datagram? else []

namespace Effect

/-- The packet of a send. -/
def sent? : Effect → Option SentRecord
  | sent record => some record
  | _ => none

/-- The bytes accepted from the application for a stream. -/
def accepted (id : Nat) : Effect → Bytes
  | issued (.stream streamId _ _ data) => if streamId = id then data else []
  | _ => []

/-- The bytes moved into the channel of a stream. -/
def delivered (id : Nat) : Effect → Bytes
  | pushed streamId chunk => if streamId = id then chunk else []
  | _ => []

/-- The number of bytes of a stream the application reported as read. -/
def bytesReported (id : Nat) : Effect → Nat
  | reported streamId bytes => if streamId = id then bytes else 0
  | _ => 0

/-- The final size a frame for a stream was issued with. -/
def finalSize? (id : Nat) : Effect → Option Nat
  | issued (.streamClose streamId finalSize) => if streamId = id then some finalSize else none
  | issued (.resetStream streamId _ finalSize) => if streamId = id then some finalSize else none
  | _ => none

/-- Whether the count of packets moved the keys on. -/
def isRotation : Effect → Bool
  | rotated _ => true
  | _ => false

end Effect

namespace Session

/-- The packets handed to the socket, oldest first. -/
def sentRecords (self : Session) : List SentRecord := self.log.filterMap Effect.sent?

/-- Everything accepted from the application for a stream, in order. -/
def acceptedBytes (self : Session) (id : Nat) : Bytes := self.log.flatMap (Effect.accepted id)

/-- Everything moved into the channel of a stream, in order. -/
def deliveredBytes (self : Session) (id : Nat) : Bytes := self.log.flatMap (Effect.delivered id)

/-- How many bytes of a stream the application reported as read. -/
def reportedBytes (self : Session) (id : Nat) : Nat :=
  (self.log.map (Effect.bytesReported id)).sum

/-- How often a stream entered the table. -/
def createdCount (self : Session) (id : Nat) : Nat := self.log.count (.created id)

/-- How often a stream of the peer was handed to the application. -/
def surfacedCount (self : Session) (id : Nat) : Nat := self.log.count (.surfaced id)

/-- How often a datagram was accepted from the application. -/
def acceptedCount (self : Session) (data : Bytes) : Nat := self.log.count (.issued (.datagram data))

/-- How often a datagram is found in the packets handed to the socket. -/
def carriedCount (self : Session) (data : Bytes) : Nat :=
  (self.sentRecords.flatMap SentRecord.datagrams).count data

/-- How often the count of packets moved the keys on. -/
def rotations (self : Session) : Nat := self.log.countP Effect.isRotation

/-- No Initial payload of the handshake is left to be sent again. -/
def InitialFree (self : Session) : Prop := ∀ cookie, .issued (.initial cookie) ∉ self.log

/-- The final sizes issued for a stream, in order. -/
def finalSizes (self : Session) (id : Nat) : List Nat := self.log.filterMap (Effect.finalSize? id)

end Session
end Zetta
