import Zetta.Protocol.Packet

/-! The three parsers of packet headers: the full decoder, the protection offset and the router's. -/

namespace Zetta

open ByteReader

namespace PacketType

/-- The type of a long header with the type bits given. -/
def ofLong : Nat → Option PacketType
  | 0x00 => some initial
  | 0x01 => some handshake
  | 0x0C => some retry
  | _ => none

/-- The type of a short header with the type bits given. -/
def ofShort : Nat → Option PacketType
  | 0x02 => some data
  | 0x0A => some close
  | 0x0B => some mtuProbe
  | _ => none

end PacketType

namespace PacketHeader

/-- Whether a first byte starts a long header. -/
def longForm (firstByte : UInt8) : Bool := firstByte &&& 0x80 != 0

/-- The length of the packet number that a first byte announces. -/
def pnLenOf (firstByte : UInt8) : Nat := (firstByte &&& 0x03).toNat + 1

/-- The type bits of a first byte. -/
def typeBits (firstByte : UInt8) : Nat := ((firstByte >>> 2) &&& 0x0F).toNat

/-- Read the fields of a long header. -/
def getLong (pType : PacketType) (pnLen : Nat) : Reader ZtError PacketHeader := do
  need (5 + pnLen) (.invalidPacket "Short")
  let version ← getUint 4
  let dcidLen ← getUint 1
  let dcid ← take dcidLen (.invalidPacket "Truncated DCID")
  need 1 (.invalidPacket "Missing SCID len")
  let scidLen ← getUint 1
  need (scidLen + pnLen) (.invalidPacket "Truncated")
  let scid ← take scidLen (.invalidPacket "advance past the end of the buffer")
  let truncatedPn ← getUint pnLen
  return ⟨pType, true, version, dcid, scid, truncatedPn, false, pnLen⟩

/-- Read the fields of a short header. -/
def getShort (pType : PacketType) (keyPhase : Bool) (pnLen : Nat) : Reader ZtError PacketHeader := do
  need (1 + pnLen) (.invalidPacket "Short")
  let dcidLen ← getUint 1
  need (dcidLen + pnLen) (.invalidPacket "Truncated")
  let dcid ← take dcidLen (.invalidPacket "advance past the end of the buffer")
  let truncatedPn ← getUint pnLen
  return ⟨pType, false, 0, dcid, [], truncatedPn, keyPhase, pnLen⟩

/-- Read a header from the front of a packet. -/
def decode : Reader ZtError PacketHeader := do
  need 1 (.invalidPacket "Empty buffer")
  let firstByte := UInt8.ofNat (← getUint 1)
  if longForm firstByte then
    match PacketType.ofLong (typeBits firstByte) with
    | none => throw (.invalidPacket "Invalid long packet type")
    | some pType => getLong pType (pnLenOf firstByte)
  else
    match PacketType.ofShort (typeBits firstByte) with
    | none => throw (.invalidPacket "Invalid short packet type")
    | some pType => getShort pType (firstByte &&& 0x40 != 0) (pnLenOf firstByte)

/-- Where the packet number starts, which is where header protection ends. -/
def getPnOffset : Bytes → Option Nat
  | [] => none
  | firstByte :: rest =>
    let data := firstByte :: rest
    if longForm firstByte then
      if data.length < 6 then none
      else
        let offset := 6 + (data.getD 5 0).toNat
        if data.length < offset + 1 then none
        else some (offset + (1 + (data.getD offset 0).toNat))
    else
      if data.length < 2 then none
      else some (2 + (data.getD 1 0).toNat)

end PacketHeader

/-- The destination of a packet, read without parsing the whole header. -/
def extractDcidFast : Bytes → Option Bytes
  | [] => none
  | firstByte :: rest =>
    let data := firstByte :: rest
    if PacketHeader.longForm firstByte then
      if data.length < 6 then none
      else
        let dcidLen := (data.getD 5 0).toNat
        if data.length < 6 + dcidLen then none else some ((data.drop 6).take dcidLen)
    else
      if data.length < 2 then none
      else
        let dcidLen := (data.getD 1 0).toNat
        if data.length < 2 + dcidLen then none else some ((data.drop 2).take dcidLen)

end Zetta
