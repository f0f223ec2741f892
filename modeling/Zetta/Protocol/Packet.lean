import Zetta.Crypto.Context
import Zetta.Protocol.Frame

/-! Packets: the header on the wire and the protected or clear body after it. -/

namespace Zetta

/-- Packet types; the first two and the last have long headers. -/
inductive PacketType where
  | initial
  | handshake
  | data
  | close
  | mtuProbe
  | retry
  deriving DecidableEq, Repr

/-- The number a packet type is sent as. -/
def PacketType.code : PacketType → Nat
  | initial => 0x00
  | handshake => 0x01
  | data => 0x02
  | close => 0x0A
  | mtuProbe => 0x0B
  | retry => 0x0C

/-- Whether packets of a type are protected by the connection's own keys. -/
def PacketType.isProtected : PacketType → Bool
  | data | close | mtuProbe => true
  | initial | handshake | retry => false

/-- Whether packets of a type set up a connection; a Retry is sent before there is one. -/
def PacketType.isHandshake : PacketType → Bool
  | initial | handshake => true
  | data | close | mtuProbe | retry => false

/-- A packet header, with the packet number in full on the sender's side. -/
structure PacketHeader where
  pType : PacketType
  isLong : Bool
  version : Nat
  dcid : Bytes
  scid : Bytes
  packetNumber : Nat
  keyPhase : Bool
  pnLen : Nat
  deriving DecidableEq, Repr

namespace PacketHeader

/-- The number of bytes the packet number is sent in. -/
def sentLen (self : PacketHeader) : Nat := min (max self.pnLen 1) 4

/-- The header's bytes before the packet number. -/
def front (self : PacketHeader) : Bytes :=
  let lenBits := self.sentLen - 1
  if self.isLong then
    UInt8.ofNat (0x80 + self.pType.code * 4 + lenBits) :: beBytes 4 self.version ++
      beBytes 1 self.dcid.length ++ self.dcid ++ beBytes 1 self.scid.length ++ self.scid
  else
    UInt8.ofNat ((if self.keyPhase then 0x40 else 0) + self.pType.code * 4 + lenBits) ::
      beBytes 1 self.dcid.length ++ self.dcid

/-- The bytes of a header; only the low bytes of the packet number are sent. -/
def encode (self : PacketHeader) : Bytes :=
  self.front ++ beBytes self.sentLen (self.packetNumber % 2 ^ (self.sentLen * 8))

/-- The header a receiver decodes, with the packet number still truncated. -/
def onWire (self : PacketHeader) : PacketHeader :=
  { self with packetNumber := self.packetNumber % 2 ^ (self.sentLen * 8), pnLen := self.sentLen }

/-- A decoded header has the bytes it was decoded from. -/
theorem encode_onWire (self : PacketHeader) : self.onWire.encode = self.encode := by
  -- Clamping the length and cutting the number are both done already.
  have length : self.onWire.sentLen = self.sentLen := by
    simp only [onWire, sentLen]
    omega
  have front : self.onWire.front = self.front := by
    simp only [PacketHeader.front, length]
    rfl
  unfold encode
  rw [length, front]
  simp [onWire]

/-- A number on the wire fits the bytes it is sent in. -/
theorem onWire_packetNumber_lt (self : PacketHeader) : self.onWire.packetNumber < u64Size := by
  have narrow : self.sentLen * 8 ≤ 64 := by
    simp only [sentLen]
    omega
  have bound : 2 ^ (self.sentLen * 8) ≤ u64Size := Nat.pow_le_pow_right (by decide) narrow
  exact lt_of_lt_of_le (Nat.mod_lt _ (Nat.two_pow_pos _)) bound

end PacketHeader

/-- What follows a header: a protected payload with its tag, or bytes in the clear. -/
inductive Body where
  | encrypted (payload : Sealed)
  | clear (payload : Bytes)
  deriving DecidableEq, Repr

/-- The bytes after a header; a protected payload stands for as many bytes and a tag. -/
def Body.bytes : Body → Bytes
  | encrypted payload => payload.plaintext ++ List.replicate 16 0
  | clear payload => payload

/-- A packet with its header protection removed. -/
structure Packet where
  header : PacketHeader
  body : Body
  deriving DecidableEq, Repr

/-- The size of a packet on the wire. -/
def Packet.size (self : Packet) : Nat :=
  self.header.encode.length + self.body.bytes.length

end Zetta
