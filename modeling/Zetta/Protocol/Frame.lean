import Zetta.Basic
import Zetta.Lib.ByteReader

/-! Frames, the units a packet payload is made of, with their encoder and decoder. -/

namespace Zetta

open ByteReader

/-- Local capabilities of a multiplexed stream. -/
inductive StreamType where
  | bidirectional
  | unidirectionalOut
  | unidirectionalIn
  deriving DecidableEq, Repr

namespace StreamType

/-- The byte a capability is sent as. -/
def toWire : StreamType → UInt8
  | bidirectional => 0
  | unidirectionalOut => 1
  | unidirectionalIn => 2

/-- The capability a received byte stands for. -/
def fromWire (value : UInt8) : Option StreamType :=
  if value = 0 then some bidirectional
  else if value = 1 then some unidirectionalOut
  else if value = 2 then some unidirectionalIn
  else none

/-- The same stream as its peer sees it. -/
def forPeer : StreamType → Option StreamType
  | bidirectional => some bidirectional
  | unidirectionalOut => some unidirectionalIn
  | unidirectionalIn => none

end StreamType

/-- The receive limits a peer advertises in the handshake. -/
structure TransportParameters where
  maxStreams : Nat
  initialStreamWindow : Nat
  initialMaxData : Nat
  maxDatagramSize : Nat
  idleTimeoutMs : Nat
  deriving DecidableEq, Repr

namespace TransportParameters

/-- Refuse limits that no conforming peer advertises. -/
def validate (self : TransportParameters) : Except ZtError TransportParameters :=
  if self.maxStreams = 0
      ∨ self.maxStreams > (u32Size - 1) / 2
      ∨ self.initialStreamWindow = 0
      ∨ self.initialMaxData = 0
      ∨ self.initialMaxData > u32Size - 1
      ∨ self.maxDatagramSize = 0
      ∨ self.idleTimeoutMs = 0 then
    .error (.invalidPacket "invalid peer transport parameters")
  else .ok self

/-- The fixed layout in which the parameters are sent and signed. -/
def transcriptBytes (self : TransportParameters) : Bytes :=
  beBytes 8 self.maxStreams ++ beBytes 8 self.initialStreamWindow ++
    beBytes 8 self.initialMaxData ++ beBytes 4 self.maxDatagramSize ++
    beBytes 8 self.idleTimeoutMs

end TransportParameters

/-- Frame types for payloads; numbers are those of the fields' machine words. -/
inductive Frame where
  | padding (len : Nat)
  | stream (id : Nat) (streamType : StreamType) (offset : Nat) (data : Bytes)
  | ack (largestAcked windowSize ackDelay : Nat) (ackRanges : List (Nat × Nat))
  | connectionClose
  | handshake (publicKey edPublicKey transcriptHash signature alpn : Bytes)
  | cookie (token : Bytes)
  | streamClose (id finalSize : Nat)
  | maxStreamData (id maxData : Nat)
  | maxData (limit : Nat)
  | datagram (data : Bytes)
  | pathChallenge (data : Bytes)
  | pathResponse (data : Bytes)
  | crypto (offset : Nat) (data : Bytes)
  | maxStreams (limit : Nat)
  | streamsBlocked (maxStreams : Nat)
  | ping
  | resetStream (streamId errorCode finalSize : Nat)
  | stopSending (streamId errorCode : Nat)
  | dataBlocked (maxData : Nat)
  | streamDataBlocked (streamId maxData : Nat)
  | connectionCloseV2 (errorCode : Nat) (reason : Bytes)
  | transportParameters (parameters : TransportParameters)
  deriving DecidableEq, Repr

/-- A number in one, two, four or eight bytes, its length in the two high bits. -/
def putVarint (val : Nat) : Bytes :=
  if val < 64 then beBytes 1 val
  else if val < 16384 then beBytes 2 (val ||| 0x4000)
  else if val < 1073741824 then beBytes 4 (val ||| 0x80000000)
  else beBytes 8 (val ||| 0xC000000000000000)

/-- Read a big-endian number whose bytes an earlier check found present. -/
def getUint (width : Nat) : Reader ZtError Nat :=
  beNat <$> take width (.invalidPacket "advance past the end of the buffer")

/-- Read a number in the length its first byte announces. -/
def getVarint : Reader ZtError Nat := do
  need 1 (.invalidPacket "Truncated varint")
  let first ← peek (.invalidPacket "Truncated varint")
  match first.toNat / 64 with
  | 0 => getUint 1
  | 1 => do
    need 2 (.invalidPacket "Truncated varint 2")
    return (← getUint 2) &&& 0x3FFF
  | 2 => do
    need 4 (.invalidPacket "Truncated varint 4")
    return (← getUint 4) &&& 0x3FFFFFFF
  | _ => do
    need 8 (.invalidPacket "Truncated varint 8")
    return (← getUint 8) &&& 0x3FFFFFFFFFFFFFFF

namespace Frame

/-- The bytes of a frame, its type first. -/
def encode : Frame → Bytes
  | padding len => List.replicate len 0
  | stream id streamType offset data =>
    0x01 :: beBytes 4 id ++ [streamType.toWire] ++ beBytes 8 offset ++ putVarint data.length ++ data
  | ack largestAcked windowSize ackDelay ackRanges =>
    let ranges := ackRanges.take (min ackRanges.length 128)
    0x02 :: beBytes 8 largestAcked ++ beBytes 4 windowSize ++ putVarint ackDelay ++
      beBytes 1 (min ackRanges.length 128) ++
      ranges.flatMap fun range => beBytes 8 range.1 ++ beBytes 8 range.2
  | connectionClose => [0x03]
  | handshake publicKey edPublicKey transcriptHash signature alpn =>
    0x04 :: publicKey ++ edPublicKey ++ beBytes 2 transcriptHash.length ++ transcriptHash ++
      signature ++ beBytes 1 alpn.length ++ alpn
  | cookie token => 0x05 :: beBytes 2 token.length ++ token
  | streamClose id finalSize => 0x06 :: beBytes 4 id ++ beBytes 8 finalSize
  | maxStreamData id limit => 0x07 :: beBytes 4 id ++ beBytes 8 limit
  | maxData limit => 0x08 :: beBytes 8 limit
  | datagram data => 0x09 :: putVarint data.length ++ data
  | pathChallenge data => 0x0A :: data
  | pathResponse data => 0x0B :: data
  | crypto offset data => 0x0C :: beBytes 8 offset ++ putVarint data.length ++ data
  | maxStreams limit => 0x12 :: beBytes 8 limit
  | streamsBlocked limit => 0x13 :: beBytes 8 limit
  | ping => [0x0D]
  | resetStream streamId errorCode finalSize =>
    0x0E :: beBytes 4 streamId ++ putVarint errorCode ++ putVarint finalSize
  | stopSending streamId errorCode => 0x0F :: beBytes 4 streamId ++ putVarint errorCode
  | dataBlocked limit => 0x10 :: putVarint limit
  | streamDataBlocked streamId limit => 0x11 :: beBytes 4 streamId ++ putVarint limit
  | connectionCloseV2 errorCode reason =>
    0x14 :: putVarint errorCode ++ putVarint reason.length ++ reason
  | transportParameters parameters => 0x15 :: parameters.transcriptBytes

/-- Read a run of bytes of a length read before, which may be longer than the buffer. -/
def getBytes (len : Nat) (truncated : String) : Reader ZtError Bytes :=
  take len (.invalidPacket truncated)

/-- Read the selective ranges, each from its first number to its last. -/
def getRanges : Nat → Reader ZtError (List (Nat × Nat))
  | 0 => return []
  | count + 1 => do
    let first ← getUint 8
    let last ← getUint 8
    if first > last then throw (.invalidPacket "Ack range start > end")
    return (first, last) :: (← getRanges count)

/-- Take the zeros at the front, which all belong to one padding frame. -/
def getPadding : Reader ZtError Frame := fun buffer =>
  .ok (padding (1 + (buffer.takeWhile (· == 0)).length), buffer.dropWhile (· == 0))

/-- Read the fields of a stream frame. -/
def getStream : Reader ZtError Frame := do
  need 14 (.invalidPacket "Stream frame too short")
  let id ← getUint 4
  let kind ← getUint 1
  match StreamType.fromWire (UInt8.ofNat kind) with
  | none => throw (.invalidPacket "Invalid stream type")
  | some streamType => do
    let offset ← getUint 8
    let len ← getVarint
    return stream id streamType offset (← getBytes len "Stream frame truncated")

/-- Read the fields of an acknowledgment frame. -/
def getAck : Reader ZtError Frame := do
  need 13 (.invalidPacket "Ack frame too short")
  let largestAcked ← getUint 8
  let windowSize ← getUint 4
  let ackDelay ← getVarint
  need 1 (.invalidPacket "Ack frame range count missing")
  let rangeCount ← getUint 1
  if rangeCount > 128 then throw (.invalidPacket "Too many ACK ranges")
  need (rangeCount * 16) (.invalidPacket "Ack frame ranges truncated")
  return ack largestAcked windowSize ackDelay (← getRanges rangeCount)

/-- Read the fields of a handshake frame. -/
def getHandshake : Reader ZtError Frame := do
  need 130 (.invalidPacket "Handshake frame too short")
  let publicKey ← getBytes 32 "advance past the end of the buffer"
  let edPublicKey ← getBytes 32 "advance past the end of the buffer"
  let hashLen ← getUint 2
  need (hashLen + 64) (.invalidPacket "Handshake frame truncated")
  let transcriptHash ← getBytes hashLen "advance past the end of the buffer"
  let signature ← getBytes 64 "advance past the end of the buffer"
  need 1 (.invalidPacket "Handshake frame ALPN length missing")
  let alpnLen ← getUint 1
  let alpn ← getBytes alpnLen "Handshake frame ALPN truncated"
  return handshake publicKey edPublicKey transcriptHash signature alpn

/-- Read the fields of a transport parameters frame. -/
def getTransportParameters : Reader ZtError Frame := do
  need 36 (.invalidPacket "TransportParameters frame too short")
  let maxStreams ← getUint 8
  let initialStreamWindow ← getUint 8
  let initialMaxData ← getUint 8
  let maxDatagramSize ← getUint 4
  let idleTimeoutMs ← getUint 8
  return transportParameters
    ⟨maxStreams, initialStreamWindow, initialMaxData, maxDatagramSize, idleTimeoutMs⟩

/-- Read the fields that follow a frame type. -/
def getFields (frameType : Nat) : Reader ZtError Frame :=
  match frameType with
  | 0x00 => getPadding
  | 0x01 => getStream
  | 0x02 => getAck
  | 0x03 => return connectionClose
  | 0x04 => getHandshake
  | 0x05 => do
    need 2 (.invalidPacket "Cookie frame too short")
    let len ← getUint 2
    return cookie (← getBytes len "Cookie frame truncated")
  | 0x06 => do
    need 12 (.invalidPacket "StreamClose frame too short")
    let id ← getUint 4
    return streamClose id (← getUint 8)
  | 0x07 => do
    need 12 (.invalidPacket "MaxStreamData frame too short")
    let id ← getUint 4
    return maxStreamData id (← getUint 8)
  | 0x08 => do
    need 8 (.invalidPacket "MaxData frame too short")
    return maxData (← getUint 8)
  | 0x09 => do
    let len ← getVarint
    return datagram (← getBytes len "Datagram frame truncated")
  | 0x0A => do
    need 8 (.invalidPacket "PathChallenge frame too short")
    return pathChallenge (← getBytes 8 "advance past the end of the buffer")
  | 0x0B => do
    need 8 (.invalidPacket "PathResponse frame too short")
    return pathResponse (← getBytes 8 "advance past the end of the buffer")
  | 0x0C => do
    need 9 (.invalidPacket "Crypto frame too short")
    let offset ← getUint 8
    let len ← getVarint
    return crypto offset (← getBytes len "Crypto frame truncated")
  | 0x12 => do
    need 8 (.invalidPacket "MaxStreams frame too short")
    return maxStreams (← getUint 8)
  | 0x13 => do
    need 8 (.invalidPacket "StreamsBlocked frame too short")
    return streamsBlocked (← getUint 8)
  | 0x0D => return ping
  | 0x0E => do
    need 4 (.invalidPacket "ResetStream frame too short")
    let streamId ← getUint 4
    let errorCode ← getVarint
    return resetStream streamId errorCode (← getVarint)
  | 0x0F => do
    need 4 (.invalidPacket "StopSending frame too short")
    let streamId ← getUint 4
    return stopSending streamId (← getVarint)
  | 0x10 => return dataBlocked (← getVarint)
  | 0x11 => do
    need 4 (.invalidPacket "StreamDataBlocked frame too short")
    let streamId ← getUint 4
    return streamDataBlocked streamId (← getVarint)
  | 0x14 => do
    let errorCode ← getVarint
    let reasonLen ← getVarint
    return connectionCloseV2 errorCode (← getBytes reasonLen "ConnectionCloseV2 reason truncated")
  | 0x15 => getTransportParameters
  | other => throw (.invalidPacket ("Unknown frame type: " ++ toString other))

/-- Read one frame from the front of a payload. -/
def decode : Reader ZtError Frame := do
  need 1 (.invalidPacket "Empty frame")
  let frameType ← getUint 1
  getFields frameType

/-- Read frames until the payload ends or one does not decode; that one's error comes last. -/
def decodeAll : Nat → Bytes → List Frame × Option ZtError
  | 0, _ => ([], none)
  | _ + 1, [] => ([], none)
  | fuel + 1, bytes =>
    match decode bytes with
    | .error error => ([], some error)
    | .ok (frame, rest) =>
      let (frames, error) := decodeAll fuel rest
      (frame :: frames, error)

/-- The frames of a payload; each takes at least one byte, so its length bounds their number. -/
def decodeFrames (payload : Bytes) : List Frame × Option ZtError := decodeAll payload.length payload

/-- The datagram a frame carries. -/
def datagram? : Frame → Option Bytes
  | datagram data => some data
  | _ => none

/-- The stream a frame names. -/
def streamId? : Frame → Option Nat
  | stream id .. | streamClose id _ | maxStreamData id _ => some id
  | resetStream streamId .. | stopSending streamId _ | streamDataBlocked streamId _ => some streamId
  | _ => none

end Frame

end Zetta
