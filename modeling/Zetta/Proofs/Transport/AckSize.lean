import Zetta.Proofs.State.PacketWindow
import Zetta.Proofs.Transport.Holdings
import Zetta.Transport.Meeting

/-! How large the packet of acknowledgments gets, by the gaps between the numbers received. -/

namespace Zetta
namespace ZtConnectionActor

open Program

variable {CC : Type}

/-- The packet that sending the pending acknowledgments builds, under the next number. -/
def flushedPacket (self : ZtConnectionActor CC) (crypto : CryptoContext) : Packet :=
  ({ self with nextPacketNumber := self.nextPacketNumber + 1 } :
    ZtConnectionActor CC).refreshLocalWindow.ackPacket crypto self.nextPacketNumber

/-- Its size, if the peer's connection id has eight bytes and the numbers received are known. -/
theorem flushedPacket_size {self : ZtConnectionActor CC} (crypto : CryptoContext) {numbers : List Nat}
    (short : self.dcid.length = 8) (history : self.ackTracker = PacketWindow.markAll numbers) :
    (self.flushedPacket crypto).size = 40 + self.pnLen self.nextPacketNumber +
      (putVarint self.ackDelay).length + 16 * min 128 (PacketWindow.stretches numbers) := by
  have listed : self.getAckRanges.length = min 128 (PacketWindow.stretches numbers) := by
    rw [getAckRanges, history]
    exact PacketWindow.markAll_ranges_length numbers
  -- Neither the number taken nor the window refreshed shows in the size.
  have size : (self.flushedPacket crypto).size = 32 + self.dcid.length +
      self.pnLen self.nextPacketNumber + (putVarint self.ackDelay).length +
        16 * min 128 self.getAckRanges.length := ackPacket_size_eq _ crypto self.nextPacketNumber
  rw [size, short, listed]
  omega

variable [Hkdf]

/-- Counting a packet sends none. -/
theorem notePacketSent_sent {self : ZtConnectionActor CC} {record : SentRecord}
    (member : .sent record ∈ self.notePacketSent.log) : .sent record ∈ self.log := by
  have rotates := self.notePacketSent_rotates []
  generalize self.notePacketSent = after at member rotates
  have member : .sent record ∈ (after.books []).log := member
  generalize after.books [] = books at member rotates
  cases rotates with
  | stays => exact member
  | moves => exact Books.sent_of_append member nofun

/-- No other packet goes out when the acknowledgments are sent. -/
theorem flushAcks_sent {self : ZtConnectionActor CC} {crypto : CryptoContext}
    (keys : self.crypto = some crypto) {record : SentRecord}
    (member : .sent record ∈ (exec flushAcks self).2.log) :
    .sent record ∈ self.log ∨ record.packet = self.flushedPacket crypto := by
  unfold flushAcks at member
  rw [exec_bind_get] at member
  split at member
  · exact .inl member
  rcases self.getNextPacketNumber_exact with ⟨-, failed⟩ | ⟨-, taken⟩
  · rw [exec_bind_error failed] at member
    exact .inl member
  rw [exec_bind_ok taken, exec_bind_modify, exec_bind_get] at member
  dsimp only at member
  -- The state the packet is built in has the keys and the history of this one.
  have same : ({ self with nextPacketNumber := self.nextPacketNumber + 1 } :
    ZtConnectionActor CC).refreshLocalWindow.crypto = some crypto := keys
  show .sent record ∈ ({ self with nextPacketNumber := self.nextPacketNumber + 1 } :
      ZtConnectionActor CC).refreshLocalWindow.log ∨
    record.packet = ({ self with nextPacketNumber := self.nextPacketNumber + 1 } :
      ZtConnectionActor CC).refreshLocalWindow.ackPacket crypto self.nextPacketNumber
  generalize ({ self with nextPacketNumber := self.nextPacketNumber + 1 } :
    ZtConnectionActor CC).refreshLocalWindow = ready at same member ⊢
  rcases protectPacket_cases (ready.shortHeader .data self.nextPacketNumber)
      (padShort (ready.shortHeader .data self.nextPacketNumber).pnLen ready.ackFrame.encode) ready with
    ⟨error, rest, encryptions, -, -, -, failed⟩ | ⟨used, held, made⟩
  · rw [exec_bind_error failed] at member
    exact .inl member
  rw [same] at held
  cases held
  rw [exec_bind_ok made, exec_bind_attempt] at member
  dsimp only at member
  have offers := sendmsgVectored_offers (ready.ackPacket crypto self.nextPacketNumber) crypto.epoch
    (ready.encrypting (sealing crypto (ready.shortHeader .data self.nextPacketNumber)
      (padShort (ready.shortHeader .data self.nextPacketNumber).pnLen ready.ackFrame.encode))) []
  unfold ackPacket at offers ⊢
  generalize exec (sendmsgVectored _ _) _ = result at member offers
  obtain ⟨outcome, after⟩ := result
  have kept : .sent record ∈ after.log := by
    cases outcome with
    | error error => exact member
    | ok done => exact notePacketSent_sent member
  have kept : .sent record ∈ (after.books []).log := kept
  rcases offers.sent kept with old | new
  · exact .inl old
  · exact .inr (congrArg SentRecord.packet new)

/--
The packet of acknowledgments fits the path MTU exactly if the stretches of numbers received, sixteen
bytes each up to 128 of them, leave room for the rest of it; and no other packet is sent with them.
-/
theorem ackPacket_fits_iff {self : ZtConnectionActor CC} {crypto : CryptoContext} {numbers : List Nat}
    (keys : self.crypto = some crypto) (short : self.dcid.length = 8)
    (history : self.ackTracker = PacketWindow.markAll numbers) :
    ((self.flushedPacket crypto).size ≤ self.mtu ↔
      40 + self.pnLen self.nextPacketNumber + (putVarint self.ackDelay).length +
        16 * min 128 (PacketWindow.stretches numbers) ≤ self.mtu) ∧
    ∀ record, .sent record ∈ (exec flushAcks self).2.log →
      .sent record ∈ self.log ∨ record.packet = self.flushedPacket crypto := by
  rw [flushedPacket_size crypto short history]
  exact ⟨Iff.rfl, fun record member => flushAcks_sent keys member⟩

end ZtConnectionActor

open Meeting

/-- The server of the sample meeting after it has received every other packet, a number of them. -/
def received (count : Nat) : ZtConnectionActor RenoController :=
  { server with
    ackTracker := PacketWindow.markAll ((List.range count).map (2 * ·))
    pendingAcks := 1
    host := hostTaking 2 }

/-- With 80 gaps the packet of acknowledgments goes out larger than the path MTU. -/
theorem gaps_exceed_mtu :
    (received 80).dcid.length = 8 ∧ (received 80).mtu = 1200 ∧
      ((Program.exec ZtConnectionActor.flushAcks (received 80)).2.log.filterMap Effect.sent?).map
        (fun record => record.packet.size) = [1322] := by
  decide +kernel

/-- With 40 gaps it fits. -/
theorem few_gaps_fit :
    ((received 40).flushedPacket (acceptance.sharedKeys identity)).size ≤ (received 40).mtu := by
  have keys : (received 40).crypto = some (acceptance.sharedKeys identity) := rfl
  have fits := ZtConnectionActor.ackPacket_fits_iff keys rfl rfl
  exact fits.1.mpr (by decide +kernel)

end Zetta
