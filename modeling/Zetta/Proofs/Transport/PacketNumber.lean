import Zetta.Proofs.Transport.System
import Zetta.Transport.Sample

/-! Which packet numbers a receiver recovers after losses. -/

namespace Zetta

/-- A length of less than four bytes is enough exactly for twice the range it has to tell apart. -/
theorem pnLength_le_iff {pn largestAcked len : Nat} (some : 1 ≤ len) (short : len < 4) :
    pnLength pn largestAcked ≤ len ↔ wrappingMul (pn - largestAcked) 2 < 2 ^ (len * 8) := by
  -- The clamps do not matter between one and three bytes, and bytes are bits rounded up.
  rw [← Nat.size_le]
  simp only [pnLength]
  omega

namespace System

/-- The highest packet number a side has processed, as it expands the next ones from it. -/
def highest {CC : Type} (self : System CC) (side : Side) : Nat :=
  (self.actor side).replayWindow.highestProcessed.getD 0

section Recovery

variable {CC : Type} [Hkdf] [HandshakeCrypto] [CongestionController CC]

/--
A delivered packet whose number is ahead of all processed ones gets its number back exactly when
it lies inside half the window of its length, or below a whole one; and the sender chose that
length by the oldest packet it holds for retransmission.
-/
theorem delivered_number_recovered_iff {master : Bytes} {system : System CC}
    (reached : Reachable master system) {side : Side} {index : Nat} {record : SentRecord}
    (found : system.delivered? side index = some record)
    (kind : record.packet.header.pType.isProtected = true)
    (ahead : system.highest side < record.packet.header.packetNumber) :
    (((system.actor side).recovered (arriving record).header).packetNumber =
        record.packet.header.packetNumber ↔
      record.packet.header.packetNumber ≤
          system.highest side + 1 + 2 ^ (record.packet.header.pnLen * 8) / 2 ∨
        record.packet.header.packetNumber < 2 ^ (record.packet.header.pnLen * 8)) ∧
    ∀ (sender : ZtConnectionActor CC) (pType : PacketType) (pn len : Nat), 1 ≤ len → len < 4 →
      ((sender.shortHeader pType pn).pnLen ≤ len ↔
        wrappingMul (pn - (sender.lowestUnacked pn - 1)) 2 < 2 ^ (len * 8)) := by
  -- The packet is one the peer sent, so its number was given out and its length is in range.
  have sent : .sent record ∈ (system.actor side.peer).log :=
    Session.mem_sentRecords.mp (List.mem_of_getElem? found)
  have peer := reached.sound side.peer
  have numbered := peer.log.sent record sent kind
  have word : record.packet.header.packetNumber < u64Size := lt_trans numbered.number peer.number
  constructor
  · -- Only the low bytes travel, and the receiver expands them from its highest number.
    have wire : ((system.actor side).recovered (arriving record).header).packetNumber =
        expandPn (record.packet.header.packetNumber % 2 ^ (record.packet.header.pnLen * 8))
          record.packet.header.pnLen (system.highest side) := by
      have length : record.packet.header.sentLen = record.packet.header.pnLen := by
        have bounds := numbered.length
        simp only [PacketHeader.sentLen]
        omega
      simp only [arriving, PacketHeader.onWire, ZtConnectionActor.recovered, length, highest]
    rw [wire]
    exact expandPn_eq_iff word ahead numbered.length.1 numbered.length.2
  · intro sender pType pn len some short
    exact pnLength_le_iff some short

end Recovery

section Burst

open Sample

/-- The application asks for a stream while the only one allowed is open. -/
def askForStream : Move := .act .client (.openStream .bidirectional) (hostTaking 1)

/-- The client's first packet arrives, and the following ones up to the last are lost. -/
def lossBurst (lost : Nat) : List Move :=
  askForStream :: askForStream :: .deliver .server 0 0 (hostTaking 0) ::
    List.replicate (lost + 1) askForStream

/-- The pair of endpoints when the packet after the burst is on its way. -/
def afterBurst (lost : Nat) : System RenoController :=
  (Sample.system (config 1 1000)).run (lossBurst lost)

/-- The burst is a run of a connected pair. -/
theorem afterBurst_reachable (lost : Nat) : Reachable [] (afterBurst lost) := by
  have connected : (Sample.system (config 1 1000)).Connected [] :=
    @system_connected (config 1 1000) rfl (by decide)
  exact connected.reachable (lossBurst lost)

/-- After 255 losses the next packet comes under the number of the first one, a replay. -/
theorem burst_number_lost :
    Reachable [] (afterBurst 255) ∧ (afterBurst 255).highest .server = 0 ∧
      ((afterBurst 255).delivered? .server 256).map (fun record =>
        (record.packet.header.packetNumber,
          (((afterBurst 255).actor .server).recovered (arriving record).header).packetNumber)) =
        some (256, 0) :=
  ⟨afterBurst_reachable 255, by decide +kernel⟩

/-- Without losses the second packet gets its number back. -/
theorem next_number_recovered :
    ((afterBurst 0).delivered? .server 1).map (fun record =>
      (((afterBurst 0).actor .server).recovered (arriving record).header).packetNumber) = some 1 := by
  have sent : ((afterBurst 0).delivered? .server 1).map (fun record =>
      (record.packet.header.pType, record.packet.header.packetNumber)) = some (.data, 1) := by
    decide +kernel
  have top : (afterBurst 0).highest .server = 0 := by decide +kernel
  obtain ⟨record, found, same⟩ := Option.map_eq_some_iff.mp sent
  obtain ⟨type, number⟩ := Prod.mk.inj same
  have recovered := (delivered_number_recovered_iff (afterBurst_reachable 0) found
    (by rw [type]; rfl) (by rw [number, top]; decide)).1.mpr
      (.inl (by rw [number, top]; exact Nat.le_add_right 1 _))
  rw [found, ← number]
  exact congrArg some recovered

end Burst

end System
end Zetta
