import Zetta.Proofs.State.StreamAccount

/-! The credit a stream has advertised stays ahead of what was read, by most of its window. -/

namespace Zetta

namespace StreamState

/-- The offset up to which the window reaches, where numbers have no end. -/
def reach (stream : StreamState) : Nat := stream.expectedRxOffset + stream.windowSize

/-- The advertised credit ends within the last quarter of the window. -/
structure Credited (stream : StreamState) : Prop where
  enough : stream.expectedRxOffset + (stream.windowSize - stream.windowSize / 4) ≤
    stream.lastSentMaxData
  most : stream.lastSentMaxData ≤ stream.reach

/-- A new stream has advertised its whole window. -/
theorem new_credited (streamType : StreamType) (receiveWindow transmitWindow : Nat)
    (now : Instant) : (new streamType receiveWindow transmitWindow now).Credited := by
  constructor
  · show 0 + (receiveWindow - receiveWindow / 4) ≤ receiveWindow
    omega
  · show receiveWindow ≤ 0 + receiveWindow
    omega

/-- The window never draws back. -/
theorem Readied.reach_le {before after : StreamState} {reading : Reading}
    (readied : before.Readied reading after) : before.reach ≤ after.reach := by
  have expected := readied.expected
  have window := readied.window
  unfold reach
  omega

/-- A report that grants credit grants up to the end of the window, which is more than before. -/
theorem Credited.granted {stream : StreamState} (credited : stream.Credited)
    (accounted : stream.Accounted) {reading : Reading} {maxData : Nat}
    (fits : (stream.ready reading).reach < u64Size)
    (grant : stream.granted reading = some maxData) :
    maxData = (stream.ready reading).reach ∧ stream.lastSentMaxData < maxData := by
  have readied := accounted.readied reading
  have most := credited.most
  unfold StreamState.granted at grant
  dsimp only at grant
  split at grant
  · rename_i due
    have same : maxData = (stream.ready reading).reach :=
      (Option.some.inj grant).symm.trans (Nat.mod_eq_of_lt fits)
    -- Something was read, so the window reaches further than it did.
    have expected := readied.expected
    have window := readied.window
    refine ⟨same, ?_⟩
    rw [same]
    unfold reach at most ⊢
    omega
  · cases grant

/-- A report that grants nothing read nothing, or left less than a quarter unadvertised. -/
theorem Credited.withheld {stream : StreamState} {reading : Reading}
    (fits : (stream.ready reading).reach < u64Size)
    (nothing : stream.granted reading = none) :
    (stream.consume reading.bytesRead).1 = 0 ∨
      (stream.ready reading).reach - (stream.ready reading).lastSentMaxData <
        (stream.ready reading).windowSize / 4 := by
  unfold StreamState.granted at nothing
  dsimp only at nothing
  split at nothing
  · cases nothing
  · rename_i kept
    have same : wrappingAdd (stream.ready reading).expectedRxOffset (stream.ready reading).windowSize =
        (stream.ready reading).reach := Nat.mod_eq_of_lt fits
    rw [same] at kept
    omega

/-- A report keeps the credit where it belongs, as long as the window's end is a number. -/
theorem Credited.forward {stream : StreamState} (credited : stream.Credited)
    (accounted : stream.Accounted) {reading : Reading}
    (fits : (stream.forward reading).reach < u64Size) : (stream.forward reading).Credited := by
  have readied := accounted.readied reading
  have expected := readied.expected
  have window := readied.window
  have credit := readied.credit
  obtain ⟨enough, most⟩ := credited
  rw [forward_eq] at fits ⊢
  change (stream.ready reading).reach < u64Size at fits
  cases grant : stream.granted reading with
  | some maxData =>
    -- The whole window is advertised.
    obtain ⟨same, -⟩ := Credited.granted ⟨enough, most⟩ accounted fits grant
    constructor
    · show (stream.ready reading).expectedRxOffset + _ ≤ maxData
      rw [same]
      unfold reach
      dsimp only
      omega
    · exact same.le
  | none =>
    have held : (stream.ready reading).Credited := by
      rcases Credited.withheld fits grant with none | small
      · -- Nothing was read, so the window is the one it was.
        have same := readied.same none
        constructor
        · rw [credit, expected, same, none]
          exact enough
        · unfold reach at most ⊢
          rw [credit, expected, same, none]
          exact most
      · rw [credit] at small
        unfold reach at small most
        constructor
        · rw [credit]
          omega
        · unfold reach
          rw [credit]
          omega
    exact held

end StreamState

namespace StreamOp

open StreamState

/-- No operation draws the window back. -/
theorem reach_le_apply (op : StreamOp) {stream : StreamState} (accounted : stream.Accounted) :
    stream.reach ≤ (op.apply stream).reach := by
  rcases op.apply_cases stream with ⟨reading, rfl⟩ | ⟨-, -, idle⟩
  · show stream.reach ≤ (stream.forward reading).reach
    rw [forward_eq]
    exact (accounted.readied reading).reach_le
  · unfold reach
    rw [idle.expected, idle.window]

/-- Nor does a sequence of them. -/
theorem reach_le_run (ops : List StreamOp) {stream : StreamState} (accounted : stream.Accounted) :
    stream.reach ≤ (run ops stream).reach := by
  induction ops generalizing stream with
  | nil => exact le_rfl
  | cons op rest ih =>
    exact le_trans (op.reach_le_apply accounted) (ih (op.apply_accounted accounted))

/-- What one operation does to the credit. -/
theorem apply_credited (op : StreamOp) {stream : StreamState} (accounted : stream.Accounted)
    (credited : stream.Credited) (fits : (op.apply stream).reach < u64Size) :
    (op.apply stream).Credited ∧ op.grants stream = [] ∧
        (op.apply stream).lastSentMaxData = stream.lastSentMaxData ∨
      (op.apply stream).Credited ∧ op.grants stream = [(op.apply stream).lastSentMaxData] ∧
        stream.lastSentMaxData < (op.apply stream).lastSentMaxData := by
  rcases op.apply_cases stream with ⟨reading, rfl⟩ | ⟨-, none, idle⟩
  · have forwarded := credited.forward accounted fits
    have inner : (stream.ready reading).reach < u64Size := by
      change (stream.forward reading).reach < u64Size at fits
      rw [forward_eq] at fits
      exact fits
    have last : (stream.forward reading).lastSentMaxData =
        (stream.granted reading).getD (stream.ready reading).lastSentMaxData := by
      rw [forward_eq]
    show (stream.forward reading).Credited ∧ (stream.granted reading).toList = [] ∧
        (stream.forward reading).lastSentMaxData = stream.lastSentMaxData ∨
      (stream.forward reading).Credited ∧
        (stream.granted reading).toList = [(stream.forward reading).lastSentMaxData] ∧
        stream.lastSentMaxData < (stream.forward reading).lastSentMaxData
    cases grant : stream.granted reading with
    | none =>
      rw [grant] at last
      exact .inl ⟨forwarded, rfl, last.trans (accounted.readied reading).credit⟩
    | some maxData =>
      rw [grant] at last
      change (stream.forward reading).lastSentMaxData = maxData at last
      rw [last]
      exact .inr ⟨forwarded, rfl, (credited.granted accounted inner grant).2⟩
  · refine .inl ⟨⟨?_, ?_⟩, none, idle.credit⟩
    · rw [idle.expected, idle.window, idle.credit]
      exact credited.enough
    · unfold reach
      rw [idle.expected, idle.window, idle.credit]
      exact credited.most

/-- Over a whole run the credit stays where it belongs, and every grant is more than those before. -/
theorem run_credited {ops : List StreamOp} {stream : StreamState} (accounted : stream.Accounted)
    (credited : stream.Credited) (fits : (run ops stream).reach < u64Size) :
    (run ops stream).Credited ∧ (granted ops stream).Pairwise (· < ·) ∧
      ∀ maxData ∈ granted ops stream, stream.lastSentMaxData < maxData := by
  -- The induction is on the operations left, and later grants exceed the credit they start from.
  induction ops generalizing stream with
  | nil => exact ⟨credited, .nil, nofun⟩
  | cons op rest ih =>
    have next := op.apply_accounted accounted
    have now : (op.apply stream).reach < u64Size := lt_of_le_of_lt (reach_le_run rest next) fits
    rcases op.apply_credited accounted credited now with ⟨kept, none, same⟩ | ⟨kept, one, more⟩
    · obtain ⟨last, increasing, above⟩ := ih next kept fits
      simp only [granted, none, List.nil_append]
      exact ⟨last, increasing, same ▸ above⟩
    · obtain ⟨last, increasing, above⟩ := ih next kept fits
      simp only [granted, one, List.singleton_append, List.pairwise_cons, List.mem_cons]
      refine ⟨last, ⟨above, increasing⟩, ?_⟩
      rintro maxData (rfl | later)
      · exact more
      · exact more.trans (above maxData later)

/-- A window never shrinks. -/
theorem window_le_run (ops : List StreamOp) {stream : StreamState} (accounted : stream.Accounted) :
    stream.windowSize ≤ (run ops stream).windowSize := by
  induction ops generalizing stream with
  | nil => exact le_rfl
  | cons op rest ih =>
    refine le_trans ?_ (ih (op.apply_accounted accounted))
    rcases op.apply_cases stream with ⟨reading, rfl⟩ | ⟨-, -, idle⟩
    · show stream.windowSize ≤ (stream.forward reading).windowSize
      rw [forward_eq]
      exact (accounted.readied reading).window
    · exact idle.window.ge

/--
A stream always has credit left that was advertised and not used up by reading.

It is at least three quarters of the window, the window is never exceeded, and every grant is more
than the one before, as long as the end of the window is a 64-bit number.
-/
theorem credit_remains (streamType : StreamType) {receiveWindow : Nat} (transmitWindow : Nat)
    (now : Instant) (some : 1 ≤ receiveWindow) {ops : List StreamOp}
    (fits : (run ops (.new streamType receiveWindow transmitWindow now)).expectedRxOffset +
      (run ops (.new streamType receiveWindow transmitWindow now)).windowSize < u64Size) :
    let stream := run ops (.new streamType receiveWindow transmitWindow now)
    stream.expectedRxOffset < stream.lastSentMaxData ∧
      stream.windowSize - stream.windowSize / 4 ≤ stream.lastSentMaxData - stream.expectedRxOffset ∧
      stream.lastSentMaxData - stream.expectedRxOffset ≤ stream.windowSize ∧
      (granted ops (.new streamType receiveWindow transmitWindow now)).Pairwise (· < ·) := by
  have accounted := new_accounted streamType receiveWindow transmitWindow now
  have window : receiveWindow ≤ (run ops (.new streamType receiveWindow transmitWindow now)).windowSize :=
    window_le_run ops accounted
  obtain ⟨⟨enough, most⟩, increasing, -⟩ := run_credited accounted
    (new_credited streamType receiveWindow transmitWindow now) fits
  generalize run ops (.new streamType receiveWindow transmitWindow now) = stream at window enough most
  unfold reach at most
  refine ⟨?_, ?_, ?_, increasing⟩ <;> omega

/-- Data that is read in two parts: the first leaves the credit as it is, the second renews it. -/
theorem credit_remains_sample :
    granted [.receive 0 [1, 2, 3, 4], .forward ⟨0, 0, 0, 8, true⟩, .forward ⟨1, 0, 0, 8, true⟩,
        .forward ⟨3, 0, 0, 8, true⟩] (.new .bidirectional 8 0 0) = [12] ∧
      (granted [.receive 0 [1, 2, 3, 4], .forward ⟨0, 0, 0, 8, true⟩, .forward ⟨1, 0, 0, 8, true⟩,
        .forward ⟨3, 0, 0, 8, true⟩] (.new .bidirectional 8 0 0)).Pairwise (· < ·) :=
  ⟨by decide +kernel, (credit_remains .bidirectional 0 0 (by decide) (by decide +kernel)).2.2.2⟩

section Exhaustion

/-- A reading while the window is at its limit of one byte. -/
def lone (bytesRead : Nat) : Reading := ⟨bytesRead, 0, 0, 1, false⟩

/-- One byte arrives, moves to the application, is taken and is reported as read. -/
def bytePassed (offset : Nat) : List StreamOp :=
  [.receive offset [0], .forward (lone 0), .recv, .forward (lone 1)]

/-- A stream with a window of one byte, after some bytes passed through it one by one. -/
def passed (count credit : Nat) : StreamState :=
  { StreamState.new .bidirectional 1 0 0 with
    expectedRxOffset := count
    receiveBuffer := ⟨[0], 1, count, count, .empty⟩
    channel := ⟨List.replicate count [0], count, true⟩
    highestRxOffset := count
    lastSentMaxData := credit }

/-- The same stream with one more byte in its buffer. -/
def passing (count credit : Nat) : StreamState :=
  { passed count credit with
    receiveBuffer := ⟨[0], 1, count, count + 1, ⟨[(count, count + 1)], by simp⟩⟩
    bufferedBytes := 1
    highestRxOffset := count + 1 }

/-- The same stream with that byte in the channel. -/
def handed (count credit : Nat) : StreamState :=
  { passed count credit with
    receiveBuffer := ⟨[0], 1, count + 1, count + 1, .empty⟩
    channel := ⟨List.replicate (count + 1) [0], count, true⟩
    bufferedBytes := 1
    highestRxOffset := count + 1 }

variable {count : Nat} (credit : Nat) (fits : count + 1 < u64Size)

include fits

/-- The byte is within the window, and stored. -/
theorem receive_passed : (passed count credit).receive count [0] = passing count credit := by
  have sum : checkedAdd count 1 = some (count + 1) := checkedAdd_eq_some_iff.mpr ⟨rfl, fits⟩
  have wrap : wrappingAdd count 1 = count + 1 := Nat.mod_eq_of_lt fits
  have limit : saturatingAdd count 1 = count + 1 := by unfold saturatingAdd; omega
  have one : saturatingAdd 0 1 = 1 := by decide
  have ahead : ¬ count + 1 ≤ count := by omega
  simp [StreamState.receive, passed, passing, StreamState.new, sum, wrap, limit, one, ahead,
    StreamReceiveBuffer.write, StreamReceiveBuffer.addRange, StreamReceiveBuffer.touching,
    StreamReceiveBuffer.store, StreamReceiveBuffer.memory, Ring.storeLoop, Ring.copyInto,
    SortedMap.empty, SortedMap.insert, SortedMap.insertEntry, Nat.mod_one]

/-- It moves to the channel. -/
theorem forward_passing : (passing count credit).forward (lone 0) = handed count credit := by
  have same : saturatingAdd count 0 = count := by unfold saturatingAdd; omega
  simp [StreamState.forward, StreamState.granted, ready, considered, handOver, widen, consume, considerScaling,
    pumpAll, pump, finish, passing, handed, passed, lone, StreamState.new, Channel.tryReserve,
    Channel.send, appChannelCapacity, StreamReceiveBuffer.readContiguous, same,
    StreamReceiveBuffer.dropStale, StreamReceiveBuffer.trimFirst, Ring.load, Nat.mod_one,
    SortedMap.erase, SortedMap.empty, List.replicate_succ']

/-- Once it is taken and reported, credit for the next byte is granted. -/
theorem forward_handed : (StreamOp.forward (lone 1)).apply (recv.apply (handed count credit)) =
    passed (count + 1) (wrappingAdd (count + 1) 1) := by
  have next : saturatingAdd count 1 = count + 1 := by unfold saturatingAdd; omega
  have one : saturatingAdd 0 1 = 1 := by decide
  simp [apply, Channel.recv, StreamState.forward, StreamState.granted, ready, considered, handOver, widen,
    consume, considerScaling, pumpAll, pump, finish, handed, passed, lone, StreamState.new,
    Channel.tryReserve, appChannelCapacity, StreamReceiveBuffer.readContiguous, next, one,
    SortedMap.empty]

/-- So one more byte has passed. -/
theorem run_bytePassed : run (bytePassed count) (passed count credit) =
    passed (count + 1) (wrappingAdd (count + 1) 1) := by
  have received := receive_passed credit fits
  have moved := forward_passing credit fits
  show (StreamOp.forward (lone 1)).apply (recv.apply
    (((passed count credit).receive count [0]).forward (lone 0))) = _
  rw [received, moved]
  exact forward_handed credit fits

omit fits

/-- Any number of bytes can pass one by one, up to the last offset. -/
theorem run_passed (some : 1 ≤ count) (fits : count < u64Size) :
    ∃ ops, run ops (.new .bidirectional 1 0 0) = passed count (wrappingAdd count 1) := by
  induction count, some using Nat.le_induction with
  | base => exact ⟨bytePassed 0, rfl⟩
  | succ count some ih =>
    obtain ⟨ops, reached⟩ := ih (by omega)
    refine ⟨ops ++ bytePassed count, ?_⟩
    unfold run at reached ⊢
    rw [List.foldl_append, reached]
    exact run_bytePassed _ fits

end Exhaustion

/-- At the last offset the window ends past every number, and what is advertised falls to nothing. -/
theorem credit_exhausted : ∃ ops, (run ops (.new .bidirectional 1 0 0)).windowSize = 1 ∧
    (run ops (.new .bidirectional 1 0 0)).expectedRxOffset = u64Size - 1 ∧
    (run ops (.new .bidirectional 1 0 0)).lastSentMaxData = 0 := by
  obtain ⟨ops, reached⟩ := run_passed (show 1 ≤ u64Size - 1 by decide) (by decide)
  refine ⟨ops, ?_⟩
  rw [reached]
  exact ⟨rfl, rfl, by decide⟩

end StreamOp
end Zetta
