import Mathlib.Data.List.Perm.Subperm
import Zetta.Transport.Congestion

/-! Laws of acknowledgment processing: which packets leave the window, and where they go. -/

namespace Zetta

/--
A narrower selection of a list accounts for a wider one, with multiplicity,
exactly when it leaves nothing of it out.
-/
theorem subperm_filter_iff {α β : Type} (items : List α) (image : α → β) (wide narrow : α → Bool)
    (narrower : ∀ item, narrow item = true → wide item = true) :
    ((items.filter wide).map image).Subperm ((items.filter narrow).map image) ↔
      ∀ item ∈ items, wide item = true → narrow item = true := by
  constructor
  · intro covered item member chosen
    have nested : items.filter narrow = (items.filter wide).filter narrow := by
      rw [List.filter_filter]
      refine List.filter_congr fun other _ => ?_
      cases chosen : narrow other with
      | false => rfl
      | true => simp [narrower other chosen]
    -- The narrow selection is part of the wide one and is not shorter, so they are the same.
    have among : (items.filter narrow).Sublist (items.filter wide) :=
      nested ▸ List.filter_sublist
    have longer : (items.filter wide).length ≤ (items.filter narrow).length := by
      simpa using covered.length_le
    have same := among.eq_of_length (Nat.le_antisymm among.length_le longer)
    have selected : item ∈ items.filter narrow := same ▸ List.mem_filter.mpr ⟨member, chosen⟩
    exact (List.mem_filter.mp selected).2
  · intro whole
    have same : items.filter wide = items.filter narrow := by
      refine List.filter_congr fun item member => ?_
      rw [Bool.eq_iff_iff]
      exact ⟨whole item member, narrower item⟩
    rw [same]

/-- Whether one of an acknowledgment's ranges holds a packet number. -/
def acknowledged (ranges : List (Nat × Nat)) (pn : Nat) : Bool :=
  ranges.any fun range => range.1 ≤ pn && pn ≤ range.2

/-- Whether a packet's payload must reach the peer. -/
def UnackedPacket.isReliable (self : UnackedPacket) : Bool :=
  !self.isMtuProbe && !self.payload.isDatagram

/-- A payload with its count of retransmissions, as the sender queues it again. -/
def UnackedPacket.again (self : UnackedPacket) : UnackedPayload × Nat := (self.payload, self.retries)

namespace ZtConnectionActor

variable {CC : Type} [CongestionController CC]

/-- What key updates depend on, with the limit on the peer's streams. -/
def outer (self : ZtConnectionActor CC) : Nat × Nat × List SendOutcome × Nat × Nat :=
  (self.localMaxStreams, self.packetsSinceKeyUpdate, self.host.sends,
    self.config.keyUpdatePacketInterval, self.currentKeyEpoch)

/-- What acknowledgment processing leaves alone until it stores the new window. -/
def ackView (self : ZtConnectionActor CC) :
    Session × Host × (Nat × Nat × List SendOutcome × Nat × Nat) :=
  (self.toSession, self.host, self.outer)

/-- The actor without its accounts: probes, sizes, times, counts and the controller. -/
def essence (cc : CC) (self : ZtConnectionActor CC) : ZtConnectionActor CC :=
  { self with
    cc := cc
    mtuProbes := .empty
    rtt := 0
    rttvar := 0
    rttInitialized := false
    bytesInFlight := 0
    mtu := 0
    mtuMin := 0
    mtuMax := 0
    packetsLost := 0
    mtuProbeSuccesses := 0
    mtuProbeFailures := 0
    mtuBlackholeRecoveries := 0 }

omit [CongestionController CC] in
/-- The accounts are outside the view. -/
theorem ackView_of_essence {left right : ZtConnectionActor CC}
    (same : ∀ cc, left.essence cc = right.essence cc) : left.ackView = right.ackView := by
  have kept := congrArg ackView (same left.cc)
  exact kept

/-- Reporting a packet as received touches only the accounts. -/
theorem sackPacket_essence (cc : CC) (pn : Nat) (up : UnackedPacket)
    (state : AckTally × ZtConnectionActor CC) :
    (sackPacket pn up state).2.essence cc = state.2.essence cc := by
  unfold sackPacket
  dsimp only
  split
  · split
    · unfold recordMtuProbeSuccess
      dsimp only
      split <;> rfl
    · rfl
  · rfl

omit [CongestionController CC] in
/-- Giving a packet up as lost touches only the accounts. -/
theorem lostPacket_essence (cc : CC) (pn : Nat) (up : UnackedPacket)
    (state : LossTally × ZtConnectionActor CC) :
    (lostPacket pn up state).2.essence cc = state.2.essence cc := by
  unfold lostPacket
  dsimp only
  split
  · split <;> rfl
  · split <;> rfl

/-- One range takes the packets with its numbers out of the window. -/
theorem sackRange_iter (state : UnackedWindow × AckTally × ZtConnectionActor CC)
    (range : Nat × Nat) :
    (sackRange state range).1.iter =
      state.1.iter.filter fun entry => !(range.1 ≤ entry.1 && entry.1 ≤ range.2) := by
  -- Every stored number lies between the bounds the range was cut to.
  have stored : ∀ entry ∈ state.1.iter,
      state.1.basePn ≤ entry.1 ∧ entry.1 < state.1.basePn + state.1.deque.length := by
    intro entry member
    obtain ⟨reached, slot⟩ := UnackedWindow.mem_slots_iff.mp member
    obtain ⟨inside, -⟩ := List.getElem?_eq_some_iff.mp slot
    exact ⟨reached, by omega⟩
  unfold sackRange
  dsimp only
  split
  · rw [UnackedWindow.iter_drain]
    refine List.filter_congr fun entry member => ?_
    have bounds := stored entry member
    rw [Bool.eq_iff_iff]
    simp only [List.mem_range'_1, decide_eq_true_eq, Bool.not_eq_true', Bool.and_eq_false_imp,
      decide_eq_false_iff_not]
    omega
  · -- The range misses the window altogether.
    symm
    refine List.filter_eq_self.mpr fun entry member => ?_
    have bounds := stored entry member
    simp only [Bool.not_eq_true', Bool.and_eq_false_imp, decide_eq_true_eq, decide_eq_false_iff_not]
    omega

/-- A range touches only the accounts. -/
theorem sackRange_essence (cc : CC) (state : UnackedWindow × AckTally × ZtConnectionActor CC)
    (range : Nat × Nat) : (sackRange state range).2.2.essence cc = state.2.2.essence cc := by
  unfold sackRange
  dsimp only
  split
  · exact UnackedWindow.drain_keeps
      (fun state : AckTally × ZtConnectionActor CC => state.2.essence cc) (sackPacket_essence cc) _ _ _
  · rfl

/-- The first pass keeps exactly the packets outside every range. -/
theorem sackPass_iter (self : ZtConnectionActor CC) (ranges : List (Nat × Nat)) :
    (self.sackPass ranges).1.iter =
      self.unackedPackets.iter.filter fun entry => !acknowledged ranges entry.1 := by
  have walk : ∀ state : UnackedWindow × AckTally × ZtConnectionActor CC,
      (ranges.foldl sackRange state).1.iter =
        state.1.iter.filter fun entry => !acknowledged ranges entry.1 := by
    induction ranges with
    | nil => simp [acknowledged]
    | cons range rest ih =>
      intro state
      rw [List.foldl_cons, ih, sackRange_iter, List.filter_filter]
      refine List.filter_congr fun entry _ => ?_
      simp [acknowledged, Bool.and_comm]
  exact walk _

/-- The first pass touches only the accounts. -/
theorem sackPass_essence (cc : CC) (self : ZtConnectionActor CC) (ranges : List (Nat × Nat)) :
    (self.sackPass ranges).2.2.essence cc = self.essence cc := by
  have walk : ∀ state : UnackedWindow × AckTally × ZtConnectionActor CC,
      (ranges.foldl sackRange state).2.2.essence cc = state.2.2.essence cc := by
    induction ranges with
    | nil => exact fun _ => rfl
    | cons range rest ih =>
      intro state
      rw [List.foldl_cons, ih, sackRange_essence]
  exact walk _

omit [CongestionController CC] in
/-- The second pass keeps exactly the packets the peer's window still covers. -/
theorem cumulativePass_iter (largest : Nat) (unacked : UnackedWindow)
    (state : AckTally × ZtConnectionActor CC) :
    (cumulativePass largest unacked state).1.iter =
      unacked.iter.filter fun entry => !decide (entry.1 < largest - 2047) := by
  unfold cumulativePass
  dsimp only
  rw [UnackedWindow.iter_takeWhile_lt, UnackedWindow.iter_drain_where]

omit [CongestionController CC] in
/-- The second pass touches only its own counts. -/
theorem cumulativePass_view (largest : Nat) (unacked : UnackedWindow)
    (state : AckTally × ZtConnectionActor CC) :
    (cumulativePass largest unacked state).2.2 = state.2 := by
  have counts : ∀ pn up (state : AckTally × ZtConnectionActor CC),
      (cumulativePacket pn up state).2 = state.2 := fun _ _ _ => rfl
  exact UnackedWindow.drain_keeps Prod.snd counts _ _ _

/-- Whether the third pass gives a packet up. -/
def isSwept (self : ZtConnectionActor CC) (largest : Nat) (entry : Nat × UnackedPacket) : Bool :=
  self.isLost largest entry && decide (entry.1 < largest)

omit [CongestionController CC] in
/-- The numbers the third pass collects are those of the packets it gives up. -/
theorem lossPass_eq (largest : Nat) (fast : List (UnackedPayload × Nat)) (unacked : UnackedWindow)
    (self : ZtConnectionActor CC) :
    ∃ counted : ZtConnectionActor CC, (∀ cc, counted.essence cc = self.essence cc) ∧
      lossPass largest fast unacked self = UnackedWindow.drain lostPacket
        ((unacked.iter.filter (self.isSwept largest)).map Prod.fst) unacked
        (⟨fast, false⟩, counted) := by
  unfold lossPass
  dsimp only
  rw [UnackedWindow.iter_takeWhile_lt, List.filter_filter]
  refine ⟨_, ?_, rfl⟩
  exact fun _ => rfl

omit [CongestionController CC] in
/-- The third pass keeps exactly the packets it does not give up. -/
theorem lossPass_iter (largest : Nat) (fast : List (UnackedPayload × Nat))
    (unacked : UnackedWindow) (self : ZtConnectionActor CC) :
    (lossPass largest fast unacked self).1.iter =
      unacked.iter.filter fun entry => !self.isSwept largest entry := by
  obtain ⟨counted, -, pass⟩ := lossPass_eq largest fast unacked self
  rw [pass, UnackedWindow.iter_drain_where]

omit [CongestionController CC] in
/-- The third pass touches only the accounts. -/
theorem lossPass_essence (cc : CC) (largest : Nat) (fast : List (UnackedPayload × Nat))
    (unacked : UnackedWindow) (self : ZtConnectionActor CC) :
    (lossPass largest fast unacked self).2.2.essence cc = self.essence cc := by
  obtain ⟨counted, same, pass⟩ := lossPass_eq largest fast unacked self
  rw [pass, ← same]
  exact UnackedWindow.drain_keeps
    (fun state : LossTally × ZtConnectionActor CC => state.2.essence cc) (lostPacket_essence cc) _ _ _

omit [CongestionController CC] in
/-- Lost packets with reliable payloads are queued again, in order. -/
theorem lostPacket_foldl (doomed : List (Nat × UnackedPacket))
    (state : LossTally × ZtConnectionActor CC) :
    (doomed.foldl (fun state entry => lostPacket entry.1 entry.2 state) state).1.fastRetransmits =
      state.1.fastRetransmits ++
        (doomed.filter fun entry => entry.2.isReliable).map fun entry => entry.2.again := by
  induction doomed generalizing state with
  | nil => simp
  | cons entry rest ih =>
    rw [List.foldl_cons, ih]
    -- The three ways of giving a packet up: a probe, a datagram, a payload to repeat.
    cases probe : entry.2.isMtuProbe with
    | true =>
      have unreliable : entry.2.isReliable = false := by simp [UnackedPacket.isReliable, probe]
      simp only [lostPacket, probe, if_true, unreliable, List.filter_cons]
      split <;> rfl
    | false =>
      cases datagram : entry.2.payload.isDatagram with
      | true =>
        have unreliable : entry.2.isReliable = false := by
          simp [UnackedPacket.isReliable, datagram]
        simp [lostPacket, probe, datagram, unreliable]
      | false =>
        have reliable : entry.2.isReliable = true := by
          simp [UnackedPacket.isReliable, probe, datagram]
        simp [lostPacket, probe, datagram, reliable, UnackedPacket.again]

omit [CongestionController CC] in
/-- The third pass queues again the reliable payloads among the packets it gives up. -/
theorem lossPass_retransmits (largest : Nat) (fast : List (UnackedPayload × Nat))
    (unacked : UnackedWindow) (self : ZtConnectionActor CC) :
    (lossPass largest fast unacked self).2.1.fastRetransmits =
      fast ++ ((unacked.iter.filter (self.isSwept largest)).filter
        fun entry => entry.2.isReliable).map fun entry => entry.2.again := by
  obtain ⟨counted, -, pass⟩ := lossPass_eq largest fast unacked self
  rw [pass, UnackedWindow.state_drain lostPacket _ List.filter_sublist, lostPacket_foldl]

/-- The congestion window and the round-trip estimate are accounts. -/
theorem settleAck_essence (cc : CC) (self : ZtConnectionActor CC) (tally : AckTally)
    (lossDetected : Bool) (ackDelayUs : Nat) :
    (self.settleAck tally lossDetected ackDelayUs).essence cc = self.essence cc := by
  unfold settleAck updateRtt
  dsimp only
  repeat' split
  all_goals rfl

/-- So they are outside the session. -/
theorem settleAck_toSession (self : ZtConnectionActor CC) (tally : AckTally) (lossDetected : Bool)
    (ackDelayUs : Nat) :
    (self.settleAck tally lossDetected ackDelayUs).toSession = self.toSession := by
  have kept := congrArg ZtConnectionActor.toSession
    (settleAck_essence self.cc self tally lossDetected ackDelayUs)
  exact kept

omit [CongestionController CC] in
/-- Which packets are given up depends on the clock alone. -/
theorem isSwept_congr {self other : ZtConnectionActor CC}
    (same : ∀ cc, self.essence cc = other.essence cc) : self.isSwept = other.isSwept := by
  have host : self.host = other.host := by
    have kept := congrArg ZtConnectionActor.host (same self.cc)
    exact kept
  funext largest entry
  simp only [isSwept, isLost, host]

/-- Whether a packet is older than the numbers an acknowledgment can report on. -/
def isOutdated (largest : Nat) (entry : Nat × UnackedPacket) : Bool :=
  decide (entry.1 < largest - 2047)

/-- Whether a packet is still in the window when the third pass begins. -/
def isTracked (ranges : List (Nat × Nat)) (largest : Nat) (entry : Nat × UnackedPacket) : Bool :=
  !acknowledged ranges entry.1 && !isOutdated largest entry

/-- The connection as the third pass finds it. -/
theorem aged_essence (self : ZtConnectionActor CC) (largest : Nat) (ranges : List (Nat × Nat))
    (cc : CC) :
    (cumulativePass largest (self.sackPass ranges).1 (self.sackPass ranges).2).2.2.essence cc =
      self.essence cc := by
  rw [cumulativePass_view, sackPass_essence]

/-- The window as the third pass finds it. -/
theorem aged_iter (self : ZtConnectionActor CC) (largest : Nat) (ranges : List (Nat × Nat)) :
    (cumulativePass largest (self.sackPass ranges).1 (self.sackPass ranges).2).1.iter =
      self.unackedPackets.iter.filter (isTracked ranges largest) := by
  rw [cumulativePass_iter, sackPass_iter, List.filter_filter]
  exact List.filter_congr fun entry _ => Bool.and_comm _ _

/-- The window an acknowledgment stores is the one the third pass leaves. -/
theorem handleAck_window (self : ZtConnectionActor CC) (largest window delay : Nat)
    (ranges : List (Nat × Nat)) (fast : List (UnackedPayload × Nat)) :
    (self.handleAck largest window delay ranges fast).2.unackedPackets =
      (lossPass largest fast
        (cumulativePass largest (self.sackPass ranges).1 (self.sackPass ranges).2).1
        (cumulativePass largest (self.sackPass ranges).1 (self.sackPass ranges).2).2.2).1 := by
  unfold handleAck
  dsimp only
  rw [settleAck_toSession]

/-- Apart from accounts, an acknowledgment changes the packets in flight and the credit only. -/
theorem handleAck_essence (cc : CC) (self : ZtConnectionActor CC) (largest window delay : Nat)
    (ranges : List (Nat × Nat)) (fast : List (UnackedPayload × Nat)) :
    (self.handleAck largest window delay ranges fast).2.essence cc =
      { self.essence cc with
        unackedPackets := (self.handleAck largest window delay ranges fast).2.unackedPackets
        remoteWindow := window } := by
  rw [handleAck_window]
  unfold handleAck
  dsimp only
  -- Until the new window is stored, the passes touch the accounts only.
  have swept := (lossPass_essence cc largest fast
    (cumulativePass largest (self.sackPass ranges).1 (self.sackPass ranges).2).1
    (cumulativePass largest (self.sackPass ranges).1 (self.sackPass ranges).2).2.2).trans
      (self.aged_essence largest ranges cc)
  generalize lossPass largest fast _ _ = pass at swept ⊢
  -- Settling the tally does not touch what is stored.
  have settled := settleAck_essence cc { pass.2.2 with unackedPackets := pass.1 }
    (cumulativePass largest (self.sackPass ranges).1 (self.sackPass ranges).2).2.1
    pass.2.1.lossDetected delay
  have stored := settled.trans (congrArg (fun actor : ZtConnectionActor CC =>
    { actor with unackedPackets := pass.1 }) swept)
  exact congrArg (fun actor : ZtConnectionActor CC => { actor with remoteWindow := window }) stored

/-- Of the session, only these two change. -/
theorem handleAck_toSession (self : ZtConnectionActor CC) (largest window delay : Nat)
    (ranges : List (Nat × Nat)) (fast : List (UnackedPayload × Nat)) :
    (self.handleAck largest window delay ranges fast).2.toSession =
      { self.toSession with
        unackedPackets := (self.handleAck largest window delay ranges fast).2.unackedPackets
        remoteWindow := window } := by
  have kept := congrArg ZtConnectionActor.toSession
    (handleAck_essence self.cc self largest window delay ranges fast)
  exact kept

/-- An acknowledgment leaves alone what key updates depend on. -/
theorem handleAck_outer (self : ZtConnectionActor CC) (largest window delay : Nat)
    (ranges : List (Nat × Nat)) (fast : List (UnackedPayload × Nat)) :
    (self.handleAck largest window delay ranges fast).2.outer = self.outer := by
  have kept := congrArg outer (handleAck_essence self.cc self largest window delay ranges fast)
  exact kept

/-- The packets that stay in the window. -/
theorem handleAck_iter (self : ZtConnectionActor CC) (largest window delay : Nat)
    (ranges : List (Nat × Nat)) (fast : List (UnackedPayload × Nat)) :
    (self.handleAck largest window delay ranges fast).2.unackedPackets.iter =
      self.unackedPackets.iter.filter fun entry =>
        isTracked ranges largest entry && !self.isSwept largest entry := by
  unfold handleAck
  dsimp only
  rw [settleAck_toSession]
  dsimp only
  rw [lossPass_iter, aged_iter, List.filter_filter, isSwept_congr (self.aged_essence largest ranges)]
  exact List.filter_congr fun entry _ => Bool.and_comm _ _

/-- The payloads that are to be sent again. -/
theorem handleAck_retransmits (self : ZtConnectionActor CC) (largest window delay : Nat)
    (ranges : List (Nat × Nat)) (fast : List (UnackedPayload × Nat)) :
    (self.handleAck largest window delay ranges fast).1 =
      fast ++ (self.unackedPackets.iter.filter fun entry =>
        isTracked ranges largest entry && self.isSwept largest entry &&
          entry.2.isReliable).map fun entry => entry.2.again := by
  unfold handleAck
  dsimp only
  rw [lossPass_retransmits, aged_iter, isSwept_congr (self.aged_essence largest ranges)]
  simp only [List.filter_filter]
  congr 2
  refine List.filter_congr fun entry _ => ?_
  cases isTracked ranges largest entry <;> cases self.isSwept largest entry <;>
    cases entry.2.isReliable <;> rfl

/--
The reliable payloads that leave the window although the peer did not report their packets.

Each is listed with its count of retransmissions, once for every packet that carried it.
-/
def dropped (before after : UnackedWindow) (ranges : List (Nat × Nat)) :
    List (UnackedPayload × Nat) :=
  (before.iter.filter fun entry =>
    entry.2.isReliable && !acknowledged ranges entry.1 && decide (entry ∉ after.iter)).map
      fun entry => entry.2.again

/-- Which packets carry the payloads dropped: those outdated, and those given up as lost. -/
def isDropped (self : ZtConnectionActor CC) (ranges : List (Nat × Nat)) (largest : Nat)
    (entry : Nat × UnackedPacket) : Bool :=
  entry.2.isReliable && !acknowledged ranges entry.1 &&
    (isOutdated largest entry || self.isSwept largest entry)

/-- Which packets carry the payloads queued again. -/
def isRequeued (self : ZtConnectionActor CC) (ranges : List (Nat × Nat)) (largest : Nat)
    (entry : Nat × UnackedPacket) : Bool :=
  isTracked ranges largest entry && self.isSwept largest entry && entry.2.isReliable

/-- A dropped payload is one that is neither kept in the window nor reported. -/
theorem dropped_handleAck (self : ZtConnectionActor CC) (largest window delay : Nat)
    (ranges : List (Nat × Nat)) (fast : List (UnackedPayload × Nat)) :
    dropped self.unackedPackets (self.handleAck largest window delay ranges fast).2.unackedPackets
        ranges =
      (self.unackedPackets.iter.filter (self.isDropped ranges largest)).map
        fun entry => entry.2.again := by
  unfold dropped
  refine congrArg _ (List.filter_congr fun entry member => ?_)
  -- A packet of the old window stays exactly when it is tracked and not given up.
  have stays : entry ∈ (self.handleAck largest window delay ranges fast).2.unackedPackets.iter ↔
      (isTracked ranges largest entry && !self.isSwept largest entry) = true := by
    rw [handleAck_iter, List.mem_filter]
    exact and_iff_right member
  rw [decide_eq_decide.mpr (not_congr stays)]
  have table : ∀ reliable reported outdated swept : Bool,
      (reliable && !reported && decide ¬ (!reported && !outdated && !swept) = true) =
        (reliable && !reported && (outdated || swept)) := by decide
  exact table _ _ _ _

omit [CongestionController CC] in
/-- Everything queued again was dropped. -/
theorem isDropped_of_isRequeued {self : ZtConnectionActor CC} {ranges : List (Nat × Nat)}
    {largest : Nat} {entry : Nat × UnackedPacket}
    (requeued : self.isRequeued ranges largest entry = true) :
    self.isDropped ranges largest entry = true := by
  simp only [isRequeued, isTracked, Bool.and_eq_true] at requeued
  obtain ⟨⟨⟨unreported, -⟩, swept⟩, reliable⟩ := requeued
  simp [isDropped, unreported, swept, reliable]

/--
Every reliable payload that leaves the window without a report is queued again,
unless its packet is older than the 2048 numbers the acknowledgment can report on.

The payloads are compared with their multiplicity: a copy of the same payload in another packet
does not stand in for one that was dropped.
-/
theorem handleAck_requeues_iff (self : ZtConnectionActor CC) (largest window delay : Nat)
    (ranges : List (Nat × Nat)) (fast : List (UnackedPayload × Nat)) :
    (∃ requeued, (self.handleAck largest window delay ranges fast).1 = fast ++ requeued ∧
      (dropped self.unackedPackets
        (self.handleAck largest window delay ranges fast).2.unackedPackets ranges).Subperm requeued) ↔
      ∀ entry ∈ self.unackedPackets.iter, entry.1 < largest - 2047 →
        acknowledged ranges entry.1 = true ∨ entry.2.isReliable = false := by
  have appended := self.handleAck_retransmits largest window delay ranges fast
  have accounts := subperm_filter_iff self.unackedPackets.iter (fun entry => entry.2.again)
    (self.isDropped ranges largest) (self.isRequeued ranges largest)
    fun _ => isDropped_of_isRequeued
  rw [← dropped_handleAck self largest window delay ranges fast] at accounts
  constructor
  · intro ⟨requeued, split, covered⟩ entry member old
    have list := List.append_cancel_left (split.symm.trans appended)
    -- An outdated packet is never requeued, so it must not have been dropped either.
    have whole := accounts.mp (list ▸ covered) entry member
    have outdated : isOutdated largest entry = true := decide_eq_true old
    simp only [isDropped, isRequeued, isTracked, outdated] at whole
    cases seen : acknowledged ranges entry.1 with
    | true => exact .inl rfl
    | false =>
      right
      simpa [seen] using whole
  · intro reported
    refine ⟨_, appended, accounts.mpr fun entry member loses => ?_⟩
    simp only [isDropped, Bool.and_eq_true, Bool.or_eq_true, Bool.not_eq_true'] at loses
    obtain ⟨⟨reliable, unreported⟩, outdated | swept⟩ := loses
    · rcases reported entry member (of_decide_eq_true outdated) with seen | unreliable
      · simp [seen] at unreported
      · simp [unreliable] at reliable
    · cases old : isOutdated largest entry with
      | false => simp [isRequeued, isTracked, unreported, old, swept, reliable]
      | true =>
        rcases reported entry member (of_decide_eq_true old) with seen | unreliable
        · simp [seen] at unreported
        · simp [unreliable] at reliable

/-- A stream packet whose payload was sent once. -/
def oldStreamPacket : UnackedPacket := ⟨.stream 2 .bidirectional 0 [7], 0, 0, false, 40⟩

/--
A client that sent a stream packet under number zero and then 2048 packets it does not track,
such as acknowledgments of its own.
-/
def clientWithOldPacket : ZtConnectionActor RenoController :=
  { ZtConnectionActor.new RenoController.new ⟨.default, true, 0, [1], [2], [], none, none, []⟩
      ⟨0, [], [], 0, 0⟩ with
    state := .active
    nextPacketNumber := 2049
    unackedPackets := UnackedWindow.new.insert 0 oldStreamPacket }

/-- The peer reports only the last packet; the stream's bytes are forgotten and not sent again. -/
theorem handleAck_forgets_unreported :
    clientWithOldPacket.isAckValid 2048 [(2048, 2048)] = true ∧
      (0, oldStreamPacket) ∈ clientWithOldPacket.unackedPackets.iter ∧
      oldStreamPacket.isReliable = true ∧ acknowledged [(2048, 2048)] 0 = false ∧
      (clientWithOldPacket.handleAck 2048 1000 0 [(2048, 2048)] []).2.unackedPackets.iter = [] ∧
      (clientWithOldPacket.handleAck 2048 1000 0 [(2048, 2048)] []).1 = [] := by
  decide

end ZtConnectionActor
end Zetta
