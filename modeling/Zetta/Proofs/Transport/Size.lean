import Zetta.Proofs.Transport.PacketSender

/-! How many bytes packets take on the wire. -/

namespace Zetta

/-- A short header takes its first byte, the id with its length, and the number. -/
theorem PacketHeader.encode_length_short {header : PacketHeader} (short : header.isLong = false)
    (positive : 1 ≤ header.pnLen) (most : header.pnLen ≤ 4) :
    header.encode.length = 2 + header.dcid.length + header.pnLen := by
  have width : header.sentLen = header.pnLen := by
    unfold sentLen
    omega
  simp only [encode, front, short, Bool.false_eq_true, if_false, width, List.length_append,
    List.length_cons, beBytes_length]

/-- Padding reaches four bytes together with the number, and no more. -/
theorem ZtConnectionActor.padShort_length (pnLen : Nat) (payload : Bytes) :
    (ZtConnectionActor.padShort pnLen payload).length = max payload.length (4 - pnLen) := by
  unfold ZtConnectionActor.padShort
  dsimp only
  split
  · simp only [Frame.encode, List.length_append, List.length_replicate]
    omega
  · omega

/-- A sealed packet adds its header and a tag to the plaintext. -/
theorem ZtConnectionActor.sealedPacket_size (crypto : CryptoContext) (header : PacketHeader)
    (plaintext : Bytes) :
    (ZtConnectionActor.sealedPacket crypto header plaintext).size =
      header.encode.length + plaintext.length + 16 := by
  simp only [Packet.size, ZtConnectionActor.sealedPacket, Body.bytes,
    CryptoContext.encryptInPlace, List.length_append, List.length_replicate]
  omega

/-- Whether a payload is data of the application. -/
def UnackedPayload.isData : UnackedPayload → Bool
  | stream .. | datagram _ => true
  | _ => false

/-- The frame of data adds at most 22 bytes of its own. -/
theorem UnackedPayload.data_frame_length_le {payload : UnackedPayload} (data : payload.isData = true)
    (headerLen : Nat) : (payload.frame headerLen).encode.length ≤ payload.len + 22 := by
  cases payload with
  | stream id streamType offset carried =>
    have varint := (putVarint_length_bounds carried.length).2
    simp only [frame, len, Frame.encode, List.length_append, List.length_cons, List.length_nil,
      beBytes_length]
    omega
  | datagram carried =>
    have varint := (putVarint_length_bounds carried.length).2
    simp only [frame, len, Frame.encode, List.length_append, List.length_cons]
    omega
  | _ => cases data

/-- So does the frame of any payload that counts bytes. -/
theorem UnackedPayload.frame_length_le {payload : UnackedPayload} (counts : payload.len ≠ 0)
    (headerLen : Nat) : (payload.frame headerLen).encode.length ≤ payload.len + 22 := by
  -- Only stream data, datagrams and probes count bytes.
  cases payload with
  | stream | datagram => exact data_frame_length_le rfl headerLen
  | mtuProbe target =>
    simp only [frame, len, Frame.encode, List.length_replicate]
    omega
  | _ => exact absurd rfl counts

namespace ZtConnectionActor

variable {CC : Type}

/-- The length of a packet number on the wire is one to four bytes. -/
theorem pnLen_bounds (self : ZtConnectionActor CC) (pn : Nat) : 1 ≤ self.pnLen pn ∧ self.pnLen pn ≤ 4 :=
  pnLength_bounds _ _

/-- How long ago the largest number was received, in microseconds. -/
def ackDelay (self : ZtConnectionActor CC) : Nat :=
  self.largestAckedReceivedAt.elim 0 fun received => (self.host.now - received) / 1000 % u64Size

/-- An acknowledgment takes its fixed fields, the delay, and sixteen bytes for each range. -/
theorem ackFrame_length (self : ZtConnectionActor CC) :
    self.ackFrame.encode.length =
      14 + (putVarint self.ackDelay).length + 16 * min 128 self.getAckRanges.length := by
  simp only [ackFrame, ackDelay, Frame.encode, List.length_append, List.length_cons, beBytes_length,
    ackRanges_length, List.length_take]
  omega

/-- The packet of acknowledgments under a number. -/
def ackPacket (self : ZtConnectionActor CC) (crypto : CryptoContext) (pn : Nat) : Packet :=
  sealedPacket crypto (self.shortHeader .data pn)
    (padShort (self.shortHeader .data pn).pnLen self.ackFrame.encode)

/-- Its size: the header, the frame and the tag. -/
theorem ackPacket_size_eq (self : ZtConnectionActor CC) (crypto : CryptoContext) (pn : Nat) :
    (self.ackPacket crypto pn).size = 32 + self.dcid.length + self.pnLen pn +
      (putVarint self.ackDelay).length + 16 * min 128 self.getAckRanges.length := by
  obtain ⟨positive, most⟩ := self.pnLen_bounds pn
  have header : (self.shortHeader .data pn).encode.length = 2 + self.dcid.length + self.pnLen pn :=
    PacketHeader.encode_length_short rfl positive most
  -- The frame is long enough without padding.
  rw [ackPacket, sealedPacket_size, header, padShort_length, ackFrame_length]
  omega

end ZtConnectionActor
end Zetta
