import Zetta.Machine.Books
import Zetta.Proofs.State.UnackedWindow
import Zetta.Proofs.Transport.PacketSender

/-! The packets that leave the window: acknowledged, lost or expired, each exactly once. -/

namespace Zetta

namespace Books

/-- The sizes of the probes among packets that are given up. -/
def lostTargets (packets : List (Nat × UnackedPacket)) : List Nat :=
  (packets.filter fun entry => entry.2.isMtuProbe && entry.2.payload.isProbe).map
    fun entry => entry.2.payload.len

/-- The probes among some packets and then others that are given up. -/
theorem lostTargets_append (first second : List (Nat × UnackedPacket)) :
    lostTargets (first ++ second) = lostTargets first ++ lostTargets second := by
  simp [lostTargets]

/-- They are among the sizes tried. -/
theorem lostTargets_sublist (packets : List (Nat × UnackedPacket)) :
    (lostTargets packets).Sublist (probeTargets packets) := by
  apply List.Sublist.map
  apply List.monotone_filter_right
  intro entry both
  exact (Bool.and_eq_true_iff.mp both).1

/-- Every one of them is counted. -/
theorem recordLoss_foldl (packets : List (Nat × UnackedPacket)) (failures : Nat) :
    packets.foldl recordLoss failures =
      (lostTargets packets).foldl (fun failures _ => saturatingAdd failures 1) failures := by
  induction packets generalizing failures with
  | nil => rfl
  | cons entry rest ih =>
    rw [List.foldl_cons, ih]
    unfold lostTargets recordLoss
    rw [List.filter_cons]
    split <;> rfl

/-- A packet leaves, and if it was a probe the search may learn what became of it. -/
def Teaches (packet : UnackedPacket) (before after : MtuSearch) : Prop :=
  after = before ∨ packet.isMtuProbe = true ∧
    ∃ outcome : ProbeOutcome, outcome.target = packet.payload.len ∧ after = before.learn outcome

/-- Packets leave, and the search learns what became of some of the probes among them. -/
def Teach (gone : List (Nat × UnackedPacket)) (before after : MtuSearch) : Prop :=
  ∃ outcomes : List ProbeOutcome, (outcomes.map ProbeOutcome.target).Sublist (probeTargets gone) ∧
    after = outcomes.foldl MtuSearch.learn before

/-- Nothing is learned from no packets. -/
theorem Teach.refl (search : MtuSearch) : Teach [] search search := ⟨[], by simp, rfl⟩

/-- The probes among some packets and then others. -/
theorem probeTargets_append (first second : List (Nat × UnackedPacket)) :
    probeTargets (first ++ second) = probeTargets first ++ probeTargets second := by
  simp [probeTargets]

/-- What the search learns from some packets and then from others. -/
theorem Teach.trans {first second : List (Nat × UnackedPacket)} {before middle after : MtuSearch}
    (left : Teach first before middle) (right : Teach second middle after) :
    Teach (first ++ second) before after := by
  obtain ⟨early, leftKnown, rfl⟩ := left
  obtain ⟨late, rightKnown, rfl⟩ := right
  refine ⟨early ++ late, ?_, (List.foldl_append ..).symm⟩
  rw [List.map_append, probeTargets_append]
  exact leftKnown.append rightKnown

/-- One packet teaches what packets can. -/
theorem Teaches.teach {packet : UnackedPacket} {before after : MtuSearch} (pn : Nat)
    (teaches : Teaches packet before after) : Teach [(pn, packet)] before after := by
  rcases teaches with rfl | ⟨probe, outcome, target, rfl⟩
  · exact ⟨[], by simp, rfl⟩
  · exact ⟨[outcome], by simp [probeTargets, probe, target], rfl⟩

/-- Acting on packets one by one teaches what each of them does. -/
theorem Teach.fold {σ : Type} {act : Nat → UnackedPacket → σ → σ} (view : σ → MtuSearch)
    (each : ∀ pn packet state, Teaches packet (view state) (view (act pn packet state)))
    (gone : List (Nat × UnackedPacket)) (state : σ) :
    Teach gone (view state) (view (gone.foldl (fun state entry => act entry.1 entry.2 state) state)) := by
  induction gone generalizing state with
  | nil => exact .refl _
  | cons entry rest ih => exact ((each entry.1 entry.2 state).teach entry.1).trans (ih _)

/-- Adding up packets one by one adds their bytes. -/
theorem fold_adds {σ : Type} {act : Nat → UnackedPacket → σ → σ} (view : σ → Nat)
    (each : ∀ pn packet state, view (act pn packet state) = view state + packet.sentBytes)
    (gone : List (Nat × UnackedPacket)) (state : σ) :
    view (gone.foldl (fun state entry => act entry.1 entry.2 state) state) =
      view state + bytesOf gone := by
  induction gone generalizing state with
  | nil => rfl
  | cons entry rest ih =>
    rw [List.foldl_cons, ih, each, bytesOf, bytesOf, List.map_cons, List.sum_cons, Nat.add_assoc]

/-- Taking packets off one by one takes off their bytes. -/
theorem fold_subtracts {σ : Type} {act : Nat → UnackedPacket → σ → σ} (view : σ → Nat)
    (each : ∀ pn packet state, view (act pn packet state) = view state - packet.sentBytes)
    (gone : List (Nat × UnackedPacket)) (state : σ) :
    view (gone.foldl (fun state entry => act entry.1 entry.2 state) state) =
      view state - bytesOf gone := by
  induction gone generalizing state with
  | nil => rfl
  | cons entry rest ih =>
    rw [List.foldl_cons, ih, each, bytesOf, bytesOf, List.map_cons, List.sum_cons, Nat.sub_sub]

/-- What acting on packets one by one does to a part of the state. -/
theorem fold_view {σ τ : Type} {act : Nat → UnackedPacket → σ → σ} (view : σ → τ)
    {step : τ → Nat × UnackedPacket → τ}
    (each : ∀ pn packet state, view (act pn packet state) = step (view state) (pn, packet))
    (gone : List (Nat × UnackedPacket)) (state : σ) :
    view (gone.foldl (fun state entry => act entry.1 entry.2 state) state) =
      gone.foldl step (view state) := by
  induction gone generalizing state with
  | nil => rfl
  | cons entry rest ih => rw [List.foldl_cons, ih, each, List.foldl_cons]

end Books

namespace ZtConnectionActor

open Books UnackedWindow

variable {CC : Type} [CongestionController CC]

/-- What packets that leave do to the table of probes, while no loss is counted. -/
structure Strikes (strike : SortedMap Nat Nat → Nat × UnackedPacket → SortedMap Nat Nat)
    (gone : List (Nat × UnackedPacket)) (before after : ZtConnectionActor CC) : Prop where
  probes : after.mtuProbes = gone.foldl strike before.mtuProbes
  failures : after.mtuProbeFailures = before.mtuProbeFailures

omit [CongestionController CC] in
/-- Packets that leave one after another. -/
theorem Strikes.trans {strike : SortedMap Nat Nat → Nat × UnackedPacket → SortedMap Nat Nat}
    {first second : List (Nat × UnackedPacket)} {before middle after : ZtConnectionActor CC}
    (left : Strikes strike first before middle) (right : Strikes strike second middle after) :
    Strikes strike (first ++ second) before after :=
  ⟨by rw [right.probes, left.probes, List.foldl_append], right.failures.trans left.failures⟩

/-- What a pass over acknowledged packets changes: the window, the search and its own count. -/
structure Acks (gone : List (Nat × UnackedPacket))
    (before after : UnackedWindow × AckTally × ZtConnectionActor CC) : Prop where
  parts : Parts before.1 gone after.1
  teach : Teach gone before.2.2.search after.2.2.search
  counted : after.2.1.bytesInFlightAcked = before.2.1.bytesInFlightAcked + bytesOf gone
  flight : after.2.2.bytesInFlight = before.2.2.bytesInFlight

omit [CongestionController CC] in
/-- One pass after another. -/
theorem Acks.trans {before middle after : UnackedWindow × AckTally × ZtConnectionActor CC}
    {first second : List (Nat × UnackedPacket)} (left : Acks first before middle)
    (right : Acks second middle after) : Acks (first ++ second) before after where
  parts := left.parts.trans right.parts
  teach := left.teach.trans right.teach
  counted := by
    rw [right.counted, left.counted, bytesOf, bytesOf, bytesOf, List.map_append, List.sum_append,
      Nat.add_assoc]
  flight := right.flight.trans left.flight

omit [CongestionController CC] in
/-- Draining is such a pass if acting on one packet is. -/
theorem drain_acks {act : Nat → UnackedPacket → AckTally × ZtConnectionActor CC →
      AckTally × ZtConnectionActor CC}
    {strike : SortedMap Nat Nat → Nat × UnackedPacket → SortedMap Nat Nat}
    (teaches : ∀ pn packet state, Teaches packet state.2.search (act pn packet state).2.search)
    (counts : ∀ pn packet state, (act pn packet state).1.bytesInFlightAcked =
      state.1.bytesInFlightAcked + packet.sentBytes)
    (keeps : ∀ pn packet state, (act pn packet state).2.bytesInFlight = state.2.bytesInFlight)
    (strikes : ∀ pn packet state, (act pn packet state).2.mtuProbes =
      strike state.2.mtuProbes (pn, packet))
    (records : ∀ pn packet state, (act pn packet state).2.mtuProbeFailures = state.2.mtuProbeFailures)
    (pns : List Nat) (window : UnackedWindow) (state : AckTally × ZtConnectionActor CC) :
    ∃ gone, Acks gone (window, state) (drain act pns window state) ∧
      Strikes strike gone state.2 (drain act pns window state).2.2 ∧ ∀ entry ∈ gone, entry.1 ∈ pns := by
  obtain ⟨gone, rest, parts, named, drains⟩ := drain_gone pns window
  have kept := drain_keeps (fun state => state.2.bytesInFlight) keeps pns window state
  have recorded := drain_keeps (fun state => state.2.mtuProbeFailures) records pns window state
  refine ⟨gone, ?_⟩
  rw [drains act state] at kept recorded ⊢
  exact ⟨{
    parts := parts
    teach := Teach.fold (fun state => state.2.search) teaches gone state
    counted := fold_adds (fun state => state.1.bytesInFlightAcked) counts gone state
    flight := kept },
    ⟨fold_view (fun state => state.2.mtuProbes) strikes gone state, recorded⟩, named⟩

/-- A packet reported as received, if it is a probe, tells that its size passes. -/
theorem sackPacket_teaches (pn : Nat) (packet : UnackedPacket)
    (state : AckTally × ZtConnectionActor CC) :
    Teaches packet state.2.search (sackPacket pn packet state).2.search := by
  unfold sackPacket
  dsimp only
  split
  · rename_i probe
    split
    · rename_i passed
      refine .inr ⟨probe, .passed packet.payload.len, rfl, ?_⟩
      have larger : state.2.mtu < packet.payload.len := passed.2
      simp [recordMtuProbeSuccess, search, MtuSearch.learn, larger]
    · exact .inl rfl
  · exact .inl rfl

/-- What a packet reported as received does to the counts and the table of probes. -/
theorem sackPacket_counts (pn : Nat) (packet : UnackedPacket)
    (state : AckTally × ZtConnectionActor CC) :
    (sackPacket pn packet state).1.bytesInFlightAcked =
        state.1.bytesInFlightAcked + packet.sentBytes ∧
      (sackPacket pn packet state).2.bytesInFlight = state.2.bytesInFlight ∧
      (sackPacket pn packet state).2.mtuProbes = forget state.2.mtuProbes (pn, packet) ∧
      (sackPacket pn packet state).2.mtuProbeFailures = state.2.mtuProbeFailures := by
  unfold sackPacket forget
  dsimp only
  split
  · split
    · unfold recordMtuProbeSuccess
      dsimp only
      split <;> exact ⟨rfl, rfl, rfl, rfl⟩
    · exact ⟨rfl, rfl, rfl, rfl⟩
  · exact ⟨rfl, rfl, rfl, rfl⟩

/-- The packets of one range are reported, and none of them is left. -/
theorem sackRange_acks (state : UnackedWindow × AckTally × ZtConnectionActor CC) (range : Nat × Nat) :
    ∃ gone, Acks gone state (sackRange state range) ∧
      Strikes forget gone state.2.2 (sackRange state range).2.2 ∧
      (∀ entry ∈ gone, range.1 ≤ entry.1 ∧ entry.1 ≤ range.2) ∧
      ∀ entry ∈ (sackRange state range).1.iter, ¬ (range.1 ≤ entry.1 ∧ entry.1 ≤ range.2) := by
  -- A packet of the window lies between the base and the end.
  have inside : ∀ entry ∈ state.1.iter, state.1.basePn ≤ entry.1 ∧
      entry.1 ≤ state.1.basePn + state.1.deque.length := by
    intro entry member
    have below : entry.1 < state.1.basePn + state.1.deque.length := lt_extent_of_mem member
    exact ⟨le_of_mem_slots member, below.le⟩
  unfold sackRange
  dsimp only
  split
  · obtain ⟨gone, acks, strikes, named⟩ := drain_acks sackPacket_teaches
      (fun pn packet state => (sackPacket_counts pn packet state).1)
      (fun pn packet state => (sackPacket_counts pn packet state).2.1)
      (fun pn packet state => (sackPacket_counts pn packet state).2.2.1)
      (fun pn packet state => (sackPacket_counts pn packet state).2.2.2)
      (List.range' (max range.1 state.1.basePn)
        (min range.2 (state.1.basePn + state.1.deque.length) + 1 - max range.1 state.1.basePn))
      state.1 state.2
    refine ⟨gone, acks, strikes, fun entry left => ?_, fun entry stays within => ?_⟩
    · have listed := named entry left
      rw [List.mem_range'_1] at listed
      omega
    · rw [iter_drain, List.mem_filter] at stays
      have bounds := inside entry stays.1
      have unlisted := of_decide_eq_true stays.2
      rw [List.mem_range'_1] at unlisted
      omega
  · refine ⟨[], ⟨.refl _, .refl _, rfl, rfl⟩, ⟨rfl, rfl⟩, nofun, fun entry stays within => ?_⟩
    have bounds := inside entry stays
    omega

/-- The first pass: exactly the packets of the ranges leave. -/
theorem sackPass_acks (self : ZtConnectionActor CC) (ranges : List (Nat × Nat)) :
    ∃ gone, Acks gone (self.unackedPackets, ⟨0, 0, none⟩, self) (self.sackPass ranges) ∧
      Strikes forget gone self (self.sackPass ranges).2.2 ∧
      (∀ entry ∈ gone, Frame.Reports ranges entry.1) ∧
      ∀ entry ∈ (self.sackPass ranges).1.iter, ¬ Frame.Reports ranges entry.1 := by
  have walk : ∀ state : UnackedWindow × AckTally × ZtConnectionActor CC,
      ∃ gone, Acks gone state (ranges.foldl sackRange state) ∧
        Strikes forget gone state.2.2 (ranges.foldl sackRange state).2.2 ∧
        (∀ entry ∈ gone, Frame.Reports ranges entry.1) ∧
        ∀ entry ∈ (ranges.foldl sackRange state).1.iter, ¬ Frame.Reports ranges entry.1 := by
    induction ranges with
    | nil =>
      exact fun state => ⟨[], ⟨.refl _, .refl _, rfl, rfl⟩, ⟨rfl, rfl⟩, nofun, fun _ _ reports =>
        nomatch reports⟩
    | cons range rest ih =>
      intro state
      obtain ⟨first, reported, struck, within, without⟩ := sackRange_acks state range
      obtain ⟨second, others, more, told, untold⟩ := ih (sackRange state range)
      refine ⟨first ++ second, reported.trans others, struck.trans more, fun entry left => ?_,
        fun entry stays reports => ?_⟩
      · rcases List.mem_append.mp left with early | late
        · exact ⟨range, List.mem_cons_self, within entry early⟩
        · obtain ⟨other, listed, inside⟩ := told entry late
          exact ⟨other, List.mem_cons_of_mem _ listed, inside⟩
      · -- What is left at the end was left by the first range as well.
        obtain ⟨other, listed, inside⟩ := reports
        rcases List.mem_cons.mp listed with rfl | later
        · exact without entry (others.parts.split.mem_iff.mpr (List.mem_append_right _ stays)) inside
        · exact untold entry stays ⟨other, later, inside⟩
  exact walk _

omit [CongestionController CC] in
/-- The second pass: old packets leave, and the table of probes is not told. -/
theorem cumulativePass_acks (largest : Nat) (window : UnackedWindow)
    (state : AckTally × ZtConnectionActor CC) :
    ∃ gone, Acks gone (window, state) (cumulativePass largest window state) ∧
      Strikes (fun probes _ => probes) gone state.2 (cumulativePass largest window state).2.2 ∧
      ∀ entry ∈ gone, entry.1 < largest - 2047 := by
  have silent : ∀ pn packet (state : AckTally × ZtConnectionActor CC),
      Teaches packet state.2.search (cumulativePacket pn packet state).2.search :=
    fun _ _ _ => .inl rfl
  obtain ⟨gone, acks, strikes, named⟩ := @drain_acks CC cumulativePacket (fun probes _ => probes)
    silent (fun _ _ _ => rfl) (fun _ _ _ => rfl) (fun _ _ _ => rfl) (fun _ _ _ => rfl)
    ((window.iter.takeWhile fun entry => entry.1 < largest - 2047).map Prod.fst) window state
  refine ⟨gone, acks, strikes, fun entry left => ?_⟩
  obtain ⟨other, listed, same⟩ := List.mem_map.mp (named entry left)
  rw [iter_takeWhile_lt, List.mem_filter] at listed
  rw [← same]
  exact of_decide_eq_true listed.2

omit [CongestionController CC] in
/-- A lost packet, if it is a probe, tells that its size does not pass. -/
theorem lostPacket_teaches (pn : Nat) (packet : UnackedPacket)
    (state : LossTally × ZtConnectionActor CC) :
    Teaches packet state.2.search (lostPacket pn packet state).2.search := by
  unfold lostPacket
  dsimp only
  split
  · rename_i probe
    split
    · rename_i target carried
      exact .inr ⟨probe, .failed target, by rw [carried]; rfl, rfl⟩
    · exact .inl rfl
  · split <;> exact .inl rfl

omit [CongestionController CC] in
/-- A lost packet's bytes leave the flight. -/
theorem lostPacket_flight (pn : Nat) (packet : UnackedPacket)
    (state : LossTally × ZtConnectionActor CC) :
    (lostPacket pn packet state).2.bytesInFlight = state.2.bytesInFlight - packet.sentBytes := by
  unfold lostPacket
  dsimp only
  split
  · split <;> rfl
  · split <;> rfl

omit [CongestionController CC] in
/-- A lost probe is struck from the table and counted. -/
theorem lostPacket_strikes (pn : Nat) (packet : UnackedPacket)
    (state : LossTally × ZtConnectionActor CC) :
    (lostPacket pn packet state).2.mtuProbes = forget state.2.mtuProbes (pn, packet) ∧
      (lostPacket pn packet state).2.mtuProbeFailures =
        recordLoss state.2.mtuProbeFailures (pn, packet) := by
  unfold lostPacket forget recordLoss
  dsimp only
  split
  · rename_i probe
    split
    · rename_i target carried
      simp [probe, carried, UnackedPayload.isProbe, recordMtuProbeFailure]
    · rename_i other
      have plain : packet.payload.isProbe = false := by
        cases carried : packet.payload with
        | mtuProbe target => exact absurd carried (other target)
        | _ => rfl
      simp [plain, probe]
  · rename_i ordinary
    split <;> simp [ordinary]

omit [CongestionController CC] in
/-- The third pass: what it gives up leaves the flight, and what is reliable of it is sent again. -/
theorem lossPass_sweeps (largest : Nat) (window : UnackedWindow) (self : ZtConnectionActor CC) :
    ∃ gone, Parts window gone (lossPass largest [] window self).1 ∧
      Teach gone self.search (lossPass largest [] window self).2.2.search ∧
      (lossPass largest [] window self).2.2.bytesInFlight = self.bytesInFlight - bytesOf gone ∧
      (lossPass largest [] window self).2.1.fastRetransmits =
        ((gone.filter fun entry => entry.2.isReliable).map fun entry => entry.2.again) ∧
      (lossPass largest [] window self).2.2.mtuProbes = gone.foldl forget self.mtuProbes ∧
      (lossPass largest [] window self).2.2.mtuProbeFailures =
        gone.foldl recordLoss self.mtuProbeFailures := by
  unfold lossPass
  dsimp only
  generalize ((window.iter.takeWhile _).filter _).map Prod.fst = pns
  obtain ⟨gone, rest, parts, -, drains⟩ := drain_gone pns window
  refine ⟨gone, ?_⟩
  rw [drains]
  exact ⟨parts, Teach.fold (fun state : LossTally × ZtConnectionActor CC => state.2.search)
      lostPacket_teaches gone _,
    fold_subtracts (fun state : LossTally × ZtConnectionActor CC => state.2.bytesInFlight)
      lostPacket_flight gone _, (lostPacket_foldl gone _).trans (List.nil_append _),
    fold_view (fun state : LossTally × ZtConnectionActor CC => state.2.mtuProbes)
      (fun pn packet state => (lostPacket_strikes pn packet state).1) gone _,
    fold_view (fun state : LossTally × ZtConnectionActor CC => state.2.mtuProbeFailures)
      (fun pn packet state => (lostPacket_strikes pn packet state).2) gone _⟩

/-- Settling takes the acknowledged bytes off the flight. -/
theorem settleAck_flight (self : ZtConnectionActor CC) (tally : AckTally) (lossDetected : Bool)
    (ackDelayUs : Nat) :
    (self.settleAck tally lossDetected ackDelayUs).bytesInFlight =
      self.bytesInFlight - tally.bytesInFlightAcked := by
  unfold settleAck updateRtt
  dsimp only
  repeat' split
  all_goals rfl

/-- The search and the probes are not touched any more. -/
theorem settleAck_search (self : ZtConnectionActor CC) (tally : AckTally) (lossDetected : Bool)
    (ackDelayUs : Nat) : (self.settleAck tally lossDetected ackDelayUs).search = self.search ∧
      (self.settleAck tally lossDetected ackDelayUs).mtuProbes = self.mtuProbes ∧
      (self.settleAck tally lossDetected ackDelayUs).mtuProbeFailures = self.mtuProbeFailures := by
  unfold settleAck updateRtt
  dsimp only
  repeat' split
  all_goals exact ⟨rfl, rfl, rfl⟩

omit [CongestionController CC] in
/-- The probes after an acknowledgment: what was reported or lost is struck, and losses are counted. -/
theorem handleAck_probes {self : ZtConnectionActor CC}
    {middle : UnackedWindow × AckTally × ZtConnectionActor CC}
    {swept : UnackedWindow × LossTally × ZtConnectionActor CC}
    {reported outdated lost : List (Nat × UnackedPacket)} {sacked : ZtConnectionActor CC}
    (first : Strikes forget reported self sacked)
    (second : Strikes (fun probes _ => probes) outdated sacked middle.2.2)
    (probes : swept.2.2.mtuProbes = lost.foldl forget middle.2.2.mtuProbes)
    (failures : swept.2.2.mtuProbeFailures = lost.foldl recordLoss middle.2.2.mtuProbeFailures) :
    swept.2.2.mtuProbes = (reported ++ lost).foldl forget self.mtuProbes ∧
      swept.2.2.mtuProbeFailures = lost.foldl recordLoss self.mtuProbeFailures := by
  have untold : middle.2.2.mtuProbes = sacked.mtuProbes := by
    rw [second.probes]
    exact List.foldl_fixed outdated
  rw [probes, failures, untold, first.probes, second.failures, first.failures, List.foldl_append]
  exact ⟨rfl, rfl⟩

/--
An acknowledgment takes packets out of the window, each one's bytes off the flight once,
and the reliable payloads it answers were in packets that left.

The packets that left were reported in a range, or too old for any, or given up.
-/
theorem handleAck_sweeps (self : ZtConnectionActor CC) (largest window delay : Nat)
    (ranges : List (Nat × Nat)) :
    ∃ reported outdated lost, Parts self.unackedPackets ((reported ++ outdated) ++ lost)
        (self.handleAck largest window delay ranges []).2.unackedPackets ∧
      Teach ((reported ++ outdated) ++ lost) self.search
        (self.handleAck largest window delay ranges []).2.search ∧
      (self.handleAck largest window delay ranges []).2.bytesInFlight =
        self.bytesInFlight - bytesOf ((reported ++ outdated) ++ lost) ∧
      (∀ entry ∈ (self.handleAck largest window delay ranges []).1,
        ∃ packet ∈ (reported ++ outdated) ++ lost,
          packet.2.isReliable = true ∧ entry.1 = packet.2.payload) ∧
      (∀ entry ∈ reported, Frame.Reports ranges entry.1) ∧
      (∀ entry ∈ outdated, entry.1 < largest - 2047 ∧ ¬ Frame.Reports ranges entry.1) ∧
      (self.handleAck largest window delay ranges []).2.mtuProbes =
        (reported ++ lost).foldl forget self.mtuProbes ∧
      (self.handleAck largest window delay ranges []).2.mtuProbeFailures =
        lost.foldl recordLoss self.mtuProbeFailures := by
  rw [handleAck_window]
  unfold handleAck
  dsimp only
  obtain ⟨reported, sacked, struck, told, untold⟩ := self.sackPass_acks ranges
  obtain ⟨outdated, aged, silent, old⟩ := cumulativePass_acks largest (self.sackPass ranges).1
    (self.sackPass ranges).2
  -- What is too old was still there after the first pass.
  have unreported : ∀ entry ∈ outdated, ¬ Frame.Reports ranges entry.1 := fun entry left =>
    untold entry (aged.parts.split.mem_iff.mpr (List.mem_append_left _ left))
  -- The first two passes count together what the last step takes off.
  have acked := sacked.trans aged
  generalize cumulativePass largest (self.sackPass ranges).1 (self.sackPass ranges).2 = middle
    at acked silent
  obtain ⟨lost, parts, teach, flight, again, probes, failures⟩ :=
    lossPass_sweeps largest middle.1 middle.2.2
  generalize lossPass largest [] middle.1 middle.2.2 = swept
    at parts teach flight again probes failures
  obtain ⟨search, kept, counted⟩ := settleAck_search { swept.2.2 with unackedPackets := swept.1 }
    middle.2.1 swept.2.1.lossDetected delay
  obtain ⟨table, recorded⟩ := handleAck_probes struck silent probes failures
  refine ⟨reported, outdated, lost, acked.parts.trans parts, ?_, ?_, ?_, told,
    fun entry left => ⟨old entry left, unreported entry left⟩, kept.trans table, counted.trans recorded⟩
  · exact search ▸ acked.teach.trans teach
  · have settled := settleAck_flight { swept.2.2 with unackedPackets := swept.1 } middle.2.1
      swept.2.1.lossDetected delay
    have counted : middle.2.1.bytesInFlightAcked = bytesOf (reported ++ outdated) := by
      rw [acked.counted]
      exact Nat.zero_add _
    have same : middle.2.2.bytesInFlight = self.bytesInFlight := acked.flight
    have sum : bytesOf ((reported ++ outdated) ++ lost) = bytesOf lost + bytesOf (reported ++ outdated) := by
      simp only [bytesOf, List.map_append, List.sum_append]
      omega
    rw [sum]
    refine settled.trans ?_
    rw [counted, ← Nat.sub_sub, ← same]
    exact congrArg (· - bytesOf (reported ++ outdated)) flight
  · intro entry member
    rw [again] at member
    obtain ⟨packet, listed, rfl⟩ := List.mem_map.mp member
    obtain ⟨gone, reliable⟩ := List.mem_filter.mp listed
    exact ⟨packet, List.mem_append_right _ gone, reliable, rfl⟩

end ZtConnectionActor

/-- The scan for expired packets leaves every slot in place, and everything in it but its attempts. -/
theorem expireSlots_contents (now : Instant) (rto : Duration) (deque : List (Option UnackedPacket))
    (pn len : Nat) (expiry : Expiry) :
    (expireSlots now rto pn deque expiry).1.length = deque.length ∧
      UnackedWindow.contents ⟨pn, (expireSlots now rto pn deque expiry).1, len⟩ =
        UnackedWindow.contents ⟨pn, deque, len⟩ := by
  simp only [UnackedWindow.contents, UnackedWindow.iter]
  induction deque generalizing pn expiry with
  | nil => exact ⟨rfl, rfl⟩
  | cons slot rest ih =>
    cases slot with
    | none =>
      obtain ⟨length, contents⟩ := ih (pn + 1) expiry
      simp only [expireSlots, UnackedWindow.slots, List.length_cons, length]
      exact ⟨trivial, contents⟩
    | some up =>
      unfold expireSlots
      split
      · split
        · simp only [UnackedWindow.slots, List.length_cons, List.map_cons, ih, and_self]
        · dsimp only
          split
          · -- The scan stops here, so the rest is as it was.
            simp only [UnackedWindow.slots, List.length_cons, List.map_cons, and_self]
          · simp only [UnackedWindow.slots, List.length_cons, List.map_cons, ih, and_self]
      · simp only [UnackedWindow.slots, List.length_cons, List.map_cons, ih, and_self]

/--
What the scan collects speaks of the same expired packets: all are dropped, the reliable ones are
sent again, and the sizes that failed are those of the probes among them.
-/
theorem expireSlots_doomed (now : Instant) (rto : Duration) (deque : List (Option UnackedPacket))
    (pn : Nat) (expiry : Expiry) :
    ∃ doomed, doomed.Sublist (UnackedWindow.slots pn (expireSlots now rto pn deque expiry).1) ∧
      (expireSlots now rto pn deque expiry).2.toDrop = expiry.toDrop ++ doomed.map Prod.fst ∧
      (expireSlots now rto pn deque expiry).2.toRetransmit =
        expiry.toRetransmit ++ (doomed.filter fun entry => entry.2.isReliable).map Prod.fst ∧
      (expireSlots now rto pn deque expiry).2.failedProbeTargets =
        expiry.failedProbeTargets ++ Books.lostTargets doomed := by
  induction deque generalizing pn expiry with
  | nil => exact ⟨[], by simp [expireSlots], by simp [expireSlots, Books.lostTargets]⟩
  | cons slot rest ih =>
    cases slot with
    | none => exact ih (pn + 1) expiry
    | some up =>
      unfold expireSlots
      split
      · split
        · -- A probe or a datagram is dropped.
          rename_i unreliable
          dsimp only
          generalize tried : expiry.failedProbeTargets ++ _ = failing
          obtain ⟨doomed, listed, drop, again, failed⟩ := ih (pn + 1) { expiry with
            toDrop := expiry.toDrop ++ [pn]
            failedProbeTargets := failing }
          have given : up.isReliable = false := by
            unfold UnackedPacket.isReliable
            cases probe : up.isMtuProbe with
            | true => rfl
            | false => simpa [probe] using unreliable
          have own : failing = expiry.failedProbeTargets ++ Books.lostTargets [(pn, up)] := by
            rw [← tried]
            congr 1
            split
            · rename_i target carried
              have probe : up.isMtuProbe = true := by
                simpa [carried, UnackedPayload.isDatagram] using unreliable
              simp [Books.lostTargets, probe, carried, UnackedPayload.isProbe, UnackedPayload.len]
            · rename_i other
              have plain : up.payload.isProbe = false := by
                cases carried : up.payload with
                | mtuProbe target => exact absurd carried (other target)
                | _ => rfl
              simp [Books.lostTargets, plain]
          refine ⟨(pn, up) :: doomed, listed.cons_cons _, ?_, ?_, ?_⟩
          · rw [drop, List.map_cons, List.append_assoc, List.singleton_append]
          · rw [again, List.filter_cons, if_neg (by simp [given])]
          · rw [failed, own, List.append_assoc, ← Books.lostTargets_append, List.singleton_append]
        · rename_i reliable
          dsimp only
          split
          · exact ⟨[], by simp [Books.lostTargets]⟩
          · -- Any other packet is sent again, under the number of attempts just counted.
            have given : up.isReliable = true := by
              simpa [UnackedPacket.isReliable] using reliable
            obtain ⟨doomed, listed, drop, again, failed⟩ := ih (pn + 1) { expiry with
              toDrop := expiry.toDrop ++ [pn]
              toRetransmit := expiry.toRetransmit ++ [pn]
              blackholeDetected := expiry.blackholeDetected || decide (up.retries + 1 > 3) }
            have counted : ({ up with retries := up.retries + 1, sentAt := now } : UnackedPacket).isReliable
                = true := given
            have plain : up.isMtuProbe = false := by
              have both := Bool.and_eq_true_iff.mp given
              simpa using both.1
            refine ⟨(pn, { up with retries := up.retries + 1, sentAt := now }) :: doomed,
              listed.cons_cons _, ?_, ?_, ?_⟩
            · rw [drop, List.map_cons, List.append_assoc, List.singleton_append]
            · rw [again, List.filter_cons, if_pos counted, List.map_cons, List.append_assoc,
                List.singleton_append]
            · rw [failed]
              simp [Books.lostTargets, plain]
      · -- A packet that did not expire is passed over.
        obtain ⟨doomed, listed, found⟩ := ih (pn + 1) expiry
        exact ⟨doomed, listed.cons _, found⟩

/-- The scan suspects a black hole only if a packet was sent again often enough before. -/
theorem expireSlots_blackhole (now : Instant) (rto : Duration) (deque : List (Option UnackedPacket))
    (pn : Nat) (expiry : Expiry)
    (detected : (expireSlots now rto pn deque expiry).2.blackholeDetected = true) :
    expiry.blackholeDetected = true ∨
      ∃ entry ∈ UnackedWindow.slots pn deque, entry.2.isReliable = true ∧ 3 ≤ entry.2.retries := by
  induction deque generalizing pn expiry with
  | nil => exact .inl detected
  | cons slot rest ih =>
    cases slot with
    | none => exact ih (pn + 1) expiry detected
    | some up =>
      -- A suspicion that comes from a later slot is about a packet further on.
      have later : ∀ earlier : Expiry, earlier.blackholeDetected = expiry.blackholeDetected →
          (expireSlots now rto (pn + 1) rest earlier).2.blackholeDetected = true →
          expiry.blackholeDetected = true ∨ ∃ entry ∈ UnackedWindow.slots pn (some up :: rest),
            entry.2.isReliable = true ∧ 3 ≤ entry.2.retries := by
        intro earlier same found
        rcases ih (pn + 1) earlier found with old | ⟨entry, member, often⟩
        · exact .inl (same ▸ old)
        · exact .inr ⟨entry, List.mem_cons_of_mem _ member, often⟩
      unfold expireSlots at detected
      split at detected
      · split at detected
        · exact later _ (by rfl) detected
        · rename_i reliable
          dsimp only at detected
          split at detected
          · exact .inl detected
          · rcases ih (pn + 1) _ detected with old | ⟨entry, member, often⟩
            · rcases Bool.or_eq_true_iff.mp old with old | often
              · exact .inl old
              · have given : up.isReliable = true := by
                  simpa [UnackedPacket.isReliable] using reliable
                have many : 3 < up.retries + 1 := of_decide_eq_true often
                exact .inr ⟨(pn, up), List.mem_cons_self, given, Nat.le_of_lt_succ many⟩
            · exact .inr ⟨entry, List.mem_cons_of_mem _ member, often⟩
      · exact later _ rfl detected

namespace ZtConnectionActor

open Books UnackedWindow

variable {CC : Type}

/-- Failed probes narrow the search from above. -/
theorem recordMtuProbeFailure_search (targets : List Nat) (self : ZtConnectionActor CC) :
    (targets.foldl recordMtuProbeFailure self).search =
      (targets.map ProbeOutcome.failed).foldl MtuSearch.learn self.search := by
  induction targets generalizing self with
  | nil => rfl
  | cons target rest ih => exact ih (self.recordMtuProbeFailure target)

/-- They leave the size in use and its base alone. -/
theorem recordMtuProbeFailure_base (targets : List Nat) (self : ZtConnectionActor CC) :
    (targets.foldl recordMtuProbeFailure self).mtu = self.mtu ∧
      (targets.foldl recordMtuProbeFailure self).baseMtu = self.baseMtu ∧
      (targets.foldl recordMtuProbeFailure self).bytesInFlight = self.bytesInFlight := by
  induction targets generalizing self with
  | nil => exact ⟨rfl, rfl, rfl⟩
  | cons target rest ih => exact ih (self.recordMtuProbeFailure target)

/-- Expired probes are counted, and the table of probes waits for the packets to leave. -/
theorem noteExpiredProbes_probes [CongestionController CC] (expiry : Expiry)
    (self : ZtConnectionActor CC) :
    (noteExpiredProbes expiry self).mtuProbes = self.mtuProbes ∧
      (noteExpiredProbes expiry self).mtuProbeFailures = expiry.failedProbeTargets.foldl
        (fun failures _ => saturatingAdd failures 1) self.mtuProbeFailures := by
  have counted : ∀ (targets : List Nat) (self : ZtConnectionActor CC),
      (targets.foldl recordMtuProbeFailure self).mtuProbes = self.mtuProbes ∧
        (targets.foldl recordMtuProbeFailure self).mtuProbeFailures =
          targets.foldl (fun failures _ => saturatingAdd failures 1) self.mtuProbeFailures := by
    intro targets
    induction targets with
    | nil => exact fun self => ⟨rfl, rfl⟩
    | cons target rest ih => exact fun self => ih (self.recordMtuProbeFailure target)
  obtain ⟨probes, failures⟩ := counted expiry.failedProbeTargets self
  unfold noteExpiredProbes
  dsimp only
  split
  · unfold recoverMtuBlackhole
    split <;> exact ⟨probes, failures⟩
  · exact ⟨probes, failures⟩

/-- What expired probes and a black hole change in the search. -/
theorem noteExpiredProbes_search [CongestionController CC] (expiry : Expiry)
    (self : ZtConnectionActor CC) :
    (noteExpiredProbes expiry self).bytesInFlight = self.bytesInFlight ∧
      ((noteExpiredProbes expiry self).search =
          (expiry.failedProbeTargets.map ProbeOutcome.failed).foldl MtuSearch.learn self.search ∨
        expiry.blackholeDetected = true ∧ self.baseMtu < self.mtu ∧
          (noteExpiredProbes expiry self).search = ((expiry.failedProbeTargets.map
            ProbeOutcome.failed).foldl MtuSearch.learn self.search).recover self.baseMtu) := by
  have learned := recordMtuProbeFailure_search expiry.failedProbeTargets self
  obtain ⟨mtu, base, flight⟩ := recordMtuProbeFailure_base expiry.failedProbeTargets self
  unfold noteExpiredProbes
  dsimp only
  generalize expiry.failedProbeTargets.foldl recordMtuProbeFailure self = failed at learned mtu base flight
  split
  · rename_i hole
    have above : failed.baseMtu < failed.mtu := hole.2
    unfold recoverMtuBlackhole
    rw [if_neg (not_le.mpr above), ← learned, ← base]
    exact ⟨flight, .inr ⟨hole.1, mtu ▸ above, rfl⟩⟩
  · exact ⟨flight, .inl learned⟩

/-- The payloads collected from expired packets are those listed to be sent again. -/
theorem expiredPacket_foldl (toRetransmit : List Nat) (doomed : List (Nat × UnackedPacket))
    (state : List (UnackedPayload × Nat) × ZtConnectionActor CC) :
    ∀ entry ∈ (doomed.foldl (fun state entry => expiredPacket toRetransmit entry.1 entry.2 state)
        state).1, entry ∈ state.1 ∨ ∃ packet ∈ doomed, packet.1 ∈ toRetransmit ∧
          entry.1 = packet.2.payload := by
  induction doomed generalizing state with
  | nil => exact fun entry member => .inl member
  | cons packet rest ih =>
    intro entry member
    rcases ih _ entry member with old | ⟨other, listed, found⟩
    · unfold expiredPacket at old
      dsimp only at old
      split at old
      · exact .inl old
      · split at old
        · rename_i named
          rcases List.mem_append.mp old with old | own
          · exact .inl old
          · rw [List.mem_singleton.mp own]
            exact .inr ⟨packet, List.mem_cons_self, by simpa using named, rfl⟩
        · exact .inl old
    · exact .inr ⟨other, List.mem_cons_of_mem _ listed, found⟩

/-- An expired packet's bytes leave the flight. -/
theorem expiredPacket_flight (toRetransmit : List Nat) (pn : Nat) (up : UnackedPacket)
    (state : List (UnackedPayload × Nat) × ZtConnectionActor CC) :
    (expiredPacket toRetransmit pn up state).2.bytesInFlight =
      state.2.bytesInFlight - up.sentBytes := by
  unfold expiredPacket
  dsimp only
  split
  · rfl
  · split <;> rfl

/-- An expired probe is struck from the table. -/
theorem expiredPacket_strikes (toRetransmit : List Nat) (pn : Nat) (up : UnackedPacket)
    (state : List (UnackedPayload × Nat) × ZtConnectionActor CC) :
    (expiredPacket toRetransmit pn up state).2.mtuProbes = forget state.2.mtuProbes (pn, up) ∧
      (expiredPacket toRetransmit pn up state).2.mtuProbeFailures = state.2.mtuProbeFailures := by
  unfold expiredPacket forget
  dsimp only
  split
  · exact ⟨rfl, rfl⟩
  · split <;> exact ⟨rfl, rfl⟩

/-- Expired packets leave the window and the flight, and only reliable payloads are taken along. -/
theorem drain_expired_sweeps {self : ZtConnectionActor CC} {expiry : Expiry}
    {doomed : List (Nat × UnackedPacket)} (listed : doomed.Sublist self.unackedPackets.iter)
    (drop : expiry.toDrop = doomed.map Prod.fst)
    (again : expiry.toRetransmit = (doomed.filter fun entry => entry.2.isReliable).map Prod.fst) :
    ∃ rest payloads after, drain (expiredPacket expiry.toRetransmit) expiry.toDrop self.unackedPackets
        ([], self) = (rest, payloads, after) ∧ Parts self.unackedPackets doomed rest ∧
      after.search = self.search ∧ after.bytesInFlight = self.bytesInFlight - bytesOf doomed ∧
      after.mtuProbes = doomed.foldl forget self.mtuProbes ∧
      after.mtuProbeFailures = self.mtuProbeFailures ∧ ∀ entry ∈ payloads, ∃ packet ∈ doomed, packet.2.isReliable = true ∧
        entry.1 = packet.2.payload := by
  obtain ⟨rest, parts, drains⟩ := drain_listed listed
  rw [drop, drains]
  refine ⟨rest, _, _, rfl, parts, ?_, ?_, ?_, ?_, fun entry member => ?_⟩
  · have each : ∀ pn up (state : List (UnackedPayload × Nat) × ZtConnectionActor CC),
        (expiredPacket expiry.toRetransmit pn up state).2.search = state.2.search := by
      intro pn up state
      unfold expiredPacket
      dsimp only
      split
      · rfl
      · split <;> rfl
    have same := drain_keeps (fun state => state.2.search) each (doomed.map Prod.fst)
      self.unackedPackets ([], self)
    rw [drains] at same
    exact same
  · exact fold_subtracts (fun state => state.2.bytesInFlight)
      (expiredPacket_flight expiry.toRetransmit) doomed ([], self)
  · exact fold_view (fun state => state.2.mtuProbes)
      (fun pn up state => (expiredPacket_strikes expiry.toRetransmit pn up state).1) doomed ([], self)
  · have same := drain_keeps (fun state => state.2.mtuProbeFailures)
      (fun pn up state => (expiredPacket_strikes expiry.toRetransmit pn up state).2)
      (doomed.map Prod.fst) self.unackedPackets ([], self)
    rw [drains] at same
    exact same
  · rcases expiredPacket_foldl expiry.toRetransmit doomed ([], self) entry member with
      none | ⟨packet, gone, named, carried⟩
    · cases none
    · rw [again] at named
      obtain ⟨other, kept, number⟩ := List.mem_map.mp named
      obtain ⟨inside, reliable⟩ := List.mem_filter.mp kept
      -- Numbers are distinct, so the packet sent again is this one.
      have here := remove_eq_some_iff.mpr (listed.subset gone)
      have there := remove_eq_some_iff.mpr (listed.subset inside)
      rw [number, here] at there
      have same : other = packet := Prod.ext number (Option.some.inj there).symm
      exact ⟨packet, gone, same ▸ reliable, carried⟩

end ZtConnectionActor
end Zetta
