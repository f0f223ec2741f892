import Zetta.Proofs.Protocol.Frame
import Zetta.Proofs.State.PacketWindow
import Zetta.Transport.PacketSender

/-! Acknowledgments tell the peer exactly what was received, and the peer accepts them. -/

namespace Zetta

namespace ZtConnectionActor

open PacketWindow

variable {CC : Type}

/-- The ranges of an acknowledgment keep the order and the gaps of all runs. -/
theorem maximal_take {numbers : List Nat} {low high : Nat} {ranges : List (Nat × Nat)}
    (maximal : Runs.Maximal (· ∈ numbers) low high ranges) (limit : Nat) :
    (∀ range ∈ ranges.take limit, range.1 ≤ range.2 ∧ range.2 ≤ high ∧
      ∀ number, range.1 ≤ number → number ≤ range.2 → number ∈ numbers) ∧
    (ranges.take limit).Pairwise fun upper lower => lower.2 + 1 < upper.1 := by
  refine ⟨fun range listed => ?_, maximal.apart.sublist (List.take_sublist limit ranges)⟩
  have member := List.mem_of_mem_take listed
  have ordered := maximal.ordered range member
  -- Every number of a run is one of the numbers, its last one included.
  have covered := fun number => (maximal.covered number).mp
  refine ⟨ordered, (covered range.2 ⟨range, member, ordered, le_rfl⟩).2.1, ?_⟩
  intro number first last
  exact (covered number ⟨range, member, first, last⟩).2.2

/-- A 64-bit clock in nanoseconds never counts more microseconds than a varint holds. -/
theorem microseconds_lt {now : Nat} (received : Nat) (clock : now < u64Size) :
    (now - received) / 1000 % u64Size < 2 ^ 62 := by
  unfold u64Size at clock ⊢
  omega

/-- An acknowledgment of received numbers holds nothing that the wire would cut off. -/
theorem ackFrame_exact {self : ZtConnectionActor CC} {numbers : List Nat} {highest : Nat}
    (tracked : self.ackTracker = markAll numbers) (seen : numbers.max? = some highest)
    (words : ∀ pn ∈ numbers, pn < u64Size) (clock : self.host.now < u64Size) :
    self.ackFrame.Exact := by
  obtain ⟨ranges, maximal, listed⟩ := markAll_ranges seen
  obtain ⟨inside, -⟩ := maximal_take maximal maxAckRanges
  have top : highest < u64Size := words highest (List.max?_eq_some_iff.mp seen).1
  have delay : (self.largestAckedReceivedAt.elim 0 fun received =>
      (self.host.now - received) / 1000 % u64Size) < 2 ^ 62 := by
    cases self.largestAckedReceivedAt with
    | none => exact Nat.two_pow_pos 62
    | some received =>
      exact microseconds_lt received clock
  have window : self.localWindow % u32Size < u32Size := Nat.mod_lt _ (by decide)
  simp only [ackFrame, getAckRanges, tracked, listed, markAll_highest, seen, Option.getD_some]
  refine ⟨⟨top, window, Nat.lt_trans delay (by decide), ?_⟩, delay, ?_⟩
  · intro range member
    obtain ⟨ordered, below, -⟩ := inside range member
    exact ⟨ordered, by omega⟩
  · exact List.length_take_le maxAckRanges ranges

/-- A peer that sent everything received finds nothing wrong with the acknowledgment. -/
theorem isAckValid_ranges {peer : ZtConnectionActor CC} {numbers : List Nat} {highest : Nat}
    (seen : numbers.max? = some highest) (sent : ∀ pn ∈ numbers, pn < peer.nextPacketNumber) :
    peer.isAckValid highest (markAll numbers).getAckRanges = true := by
  obtain ⟨ranges, maximal, listed⟩ := markAll_ranges seen
  obtain ⟨inside, -⟩ := maximal_take maximal maxAckRanges
  have top := sent highest (List.max?_eq_some_iff.mp seen).1
  rw [listed]
  -- The highest number was sent, and no range is inverted or ends above it.
  have proper : (ranges.take maxAckRanges).any
      (fun range => range.1 > range.2 || range.2 > highest) = false := by
    rw [List.any_eq_false]
    intro range member
    obtain ⟨ordered, below, -⟩ := inside range member
    simp only [Bool.or_eq_true, decide_eq_true_eq, not_or]
    omega
  unfold isAckValid
  rw [proper]
  simp only [Bool.or_false, Bool.not_eq_true', Bool.or_eq_false_iff, beq_eq_false_iff_ne,
    decide_eq_false_iff_not]
  omega

/--
Acknowledgments are exact. After any marks, the ranges are the maximal intervals of marked numbers
in the window, highest first, cut off after 128; the frame that carries them is read back unchanged
and passes the check of a peer that sent all of the numbers.
-/
theorem ackRanges_exact {numbers : List Nat} {highest : Nat} (seen : numbers.max? = some highest) :
    (∃ intervals, Runs.Maximal (· ∈ numbers) (highest - 2047) highest intervals ∧
      (markAll numbers).getAckRanges = intervals.take 128 ∧
      (intervals.length ≤ 128 → ∀ pn ∈ numbers, highest - 2047 ≤ pn →
        ∃ range ∈ (markAll numbers).getAckRanges, range.1 ≤ pn ∧ pn ≤ range.2)) ∧
    ((markAll numbers).getAckRanges.Pairwise fun upper lower => lower.2 + 1 < upper.1) ∧
    (∀ range ∈ (markAll numbers).getAckRanges, range.1 ≤ range.2 ∧
      ∀ pn, range.1 ≤ pn → pn ≤ range.2 → pn ∈ numbers) ∧
    ∀ self : ZtConnectionActor CC, self.ackTracker = markAll numbers →
      (∀ pn ∈ numbers, pn < u64Size) → self.host.now < u64Size →
      ∃ windowSize ackDelay,
        self.ackFrame = .ack highest windowSize ackDelay (markAll numbers).getAckRanges ∧
        (∀ rest, Frame.decode (self.ackFrame.encode ++ rest) = .ok (self.ackFrame, rest)) ∧
        ∀ peer : ZtConnectionActor CC, (∀ pn ∈ numbers, pn < peer.nextPacketNumber) →
          peer.isAckValid highest (markAll numbers).getAckRanges = true := by
  obtain ⟨intervals, maximal, listed⟩ := markAll_ranges seen
  obtain ⟨inside, apart⟩ := maximal_take maximal maxAckRanges
  have largest := (List.max?_eq_some_iff.mp seen).2
  rw [← listed] at inside apart
  refine ⟨⟨intervals, maximal, listed, ?_⟩, apart, ?_, ?_⟩
  · -- Nothing is cut off, so every number of the window is in a range.
    intro few pn member near
    rw [listed, maxAckRanges, List.take_of_length_le few]
    exact (maximal.covered pn).mpr ⟨near, largest pn member, member⟩
  · intro range member
    exact ⟨(inside range member).1, (inside range member).2.2⟩
  · intro self tracked words clock
    have exact := ackFrame_exact tracked seen words clock
    have shape : ∃ windowSize ackDelay,
        self.ackFrame = .ack highest windowSize ackDelay (markAll numbers).getAckRanges := by
      rw [ackFrame, ZtConnectionActor.getAckRanges, tracked, markAll_highest, seen]
      exact ⟨_, _, rfl⟩
    obtain ⟨windowSize, ackDelay, built⟩ := shape
    refine ⟨windowSize, ackDelay, built, ?_, fun peer sent => isAckValid_ranges seen sent⟩
    · intro rest
      obtain ⟨proper, same⟩ := exact.words rfl
      have read := Frame.decode_encode proper rest
      rwa [same] at read

/-- Two numbers, a gap and a third number give two ranges. -/
theorem ackRanges_exact_gap :
    (markAll [0, 5, 1]).getAckRanges = [(5, 5), (0, 1)] ∧
      ∃ intervals, Runs.Maximal (· ∈ [0, 5, 1]) (5 - 2047) 5 intervals ∧
        (markAll [0, 5, 1]).getAckRanges = intervals.take 128 := by
  refine ⟨by decide, ?_⟩
  obtain ⟨⟨intervals, maximal, listed, -⟩, -⟩ :=
    @ackRanges_exact RenoController [0, 5, 1] 5 (by decide)
  exact ⟨intervals, maximal, listed⟩

end ZtConnectionActor
end Zetta
