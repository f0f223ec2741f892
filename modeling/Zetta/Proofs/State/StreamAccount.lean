import Zetta.Lib.IntervalSize
import Zetta.Machine.Stream
import Zetta.Proofs.State.StreamState

/-! The receive accounts of a stream stay exact through every sequence of operations on it. -/

namespace Zetta

namespace StreamReceiveBuffer

open Intervals

/-- The bytes received that were not handed out, range by range. -/
def held (self : StreamReceiveBuffer) : Nat := size self.receivedRanges.entries

/-- No range is listed twice. -/
theorem ranges_nodup (self : StreamReceiveBuffer) : self.receivedRanges.entries.Nodup :=
  List.Nodup.of_map Prod.fst self.receivedRanges.keys_nodup

/-- The count a merge answers is what it adds to the bytes held. -/
theorem addRange_held {self : StreamReceiveBuffer} {start stop : Nat}
    (separated : Separated self.receivedRanges.entries) (proper : start < stop) :
    (self.addRange start stop).2.held = self.held + (self.addRange start stop).1 := by
  obtain ⟨low, high, merged, entries⟩ := addRange_entries separated proper
  have grown := size_merge merged separated proper self.ranges_nodup
    (self.addRange start stop).2.ranges_nodup entries
  -- The overlap is added up over the touching ranges only, and the others have none.
  have same : overlap (self.touching start stop) start stop =
      overlap self.receivedRanges.entries start stop := by
    apply overlap_filter
    intro range _ untouched touches
    simp [touches.1, touches.2] at untouched
  rw [← same] at grown
  exact grown

/-- The ranges lie between the heads, so they hold no more than fits there. -/
theorem WellFormed.held_le {self : StreamReceiveBuffer} (wf : self.WellFormed) :
    self.readHead + self.held ≤ self.writeHead := by
  have inside : points self.receivedRanges.entries ⊆ Finset.Ico self.readHead self.writeHead := by
    intro point member
    obtain ⟨range, stored, lower, upper⟩ := mem_points.mp member
    have bounds := wf.between range stored
    simp only [Finset.mem_Ico]
    omega
  have count := Finset.card_le_card inside
  rw [card_points wf.separated self.ranges_nodup, Nat.card_Ico] at count
  have heads := wf.heads
  unfold held
  omega

/-- An accepted write adds what it answers, and moves the write head to its end at most. -/
theorem write_held {self after : StreamReceiveBuffer} {offset added : Nat} {data : Bytes}
    (wf : self.WellFormed) (accepted : self.write offset data = some (added, after)) :
    after.held = self.held + added ∧ after.writeHead ≤ max self.writeHead (offset + data.length) := by
  unfold write at accepted
  split at accepted
  · cases accepted
    exact ⟨rfl, le_max_left _ _⟩
  · rename_i present
    have present : data ≠ [] := by simpa using present
    have positive := List.length_pos_iff.mpr present
    split at accepted
    · cases accepted
    · rename_i endOffset fits
      obtain ⟨rfl, -⟩ := checkedAdd_eq_some_iff.mp fits
      split at accepted
      · cases accepted
      · -- Storing the bytes leaves the ranges alone, and recording them leaves the heads alone.
        have ranges : Separated (self.store offset data).receivedRanges.entries := wf.separated
        have counted := addRange_held ranges (show offset < offset + data.length by omega)
        have answer := Option.some.inj accepted
        rw [answer] at counted
        refine ⟨counted, ?_⟩
        have same := congrArg (fun result : Nat × StreamReceiveBuffer => result.2.writeHead) answer
        exact (show max self.writeHead (offset + data.length) = after.writeHead from same).ge

/-- What a read hands out is no longer held, and the write head stays. -/
theorem readContiguous_held {self after : StreamReceiveBuffer} {chunk : Bytes}
    (wf : self.WellFormed) (handed : self.readContiguous = some (chunk, after)) :
    after.held + chunk.length = self.held ∧ after.writeHead = self.writeHead := by
  have drained := readContiguous_drained wf handed
  have covered : self.Covered self.readHead := by
    by_contra missing
    rw [(readContiguous_eq_none_iff wf).mpr missing] at handed
    cases handed
  obtain ⟨first, head, start, stop⟩ := wf.head_of_covered covered
  have entries := mem_afterFirst wf head start
  rw [readContiguous_eq wf head start] at handed
  cases handed
  refine ⟨?_, rfl⟩
  -- The ranges left are those after the first one.
  obtain ⟨rest, list⟩ : ∃ rest, self.receivedRanges.entries = first :: rest :=
    List.head?_eq_some_iff.mp head
  have distinct := self.ranges_nodup
  rw [list, List.nodup_cons] at distinct
  have same : (self.afterFirst first).receivedRanges.entries.Perm rest := by
    rw [List.perm_ext_iff_of_nodup (self.afterFirst first).ranges_nodup distinct.2]
    intro range
    rw [entries range, list, List.mem_cons]
    constructor
    · rintro ⟨rfl | later, different⟩
      · exact absurd rfl different
      · exact later
    · intro later
      exact ⟨.inr later, fun equal => distinct.1 (equal ▸ later)⟩
  have sizes : (self.afterFirst first).held = size rest := (same.map _).sum_eq
  have whole : self.held = (first.2 - first.1) + size rest := by
    unfold held size
    rw [list, List.map_cons, List.sum_cons]
  have moved : first.2 = self.readHead + _ := drained.readHead
  omega

/-- A change of capacity leaves the ranges and the heads alone. -/
theorem resize_held (self : StreamReceiveBuffer) (newCapacity : Nat) :
    (self.resize newCapacity).held = self.held ∧
      (self.resize newCapacity).readHead = self.readHead ∧
      (self.resize newCapacity).writeHead = self.writeHead := by
  unfold resize
  split
  · exact ⟨rfl, rfl, rfl⟩
  · split <;> exact ⟨rfl, rfl, rfl⟩

end StreamReceiveBuffer

namespace StreamState

/--
The receive accounts of a stream.

They hold whatever the peer sends and whatever the application claims to have read.
-/
structure Accounted (stream : StreamState) : Prop where
  buffer : stream.receiveBuffer.WellFormed
  capacity : stream.receiveBuffer.capacity = stream.windowSize
  fits : stream.receiveBuffer.writeHead < u64Size
  /-- Nothing lies past the credit, counted from what the application has read. -/
  window : stream.receiveBuffer.writeHead ≤ stream.expectedRxOffset + stream.windowSize
  /-- Every byte received is read, handed out or held, and counted once. -/
  exact : stream.bufferedBytes + stream.expectedRxOffset =
    stream.receiveBuffer.readHead + stream.receiveBuffer.held
  delivered : stream.channel.sent.flatten.length = stream.receiveBuffer.readHead
  highest : stream.receiveBuffer.writeHead ≤ stream.highestRxOffset
  final : ∀ finalSize, stream.finalRxOffset = some finalSize → stream.highestRxOffset ≤ finalSize
  /-- The channel is closed only at the final size. -/
  closed : stream.appTx = false → stream.finalRxOffset = some stream.receiveBuffer.readHead

/-- A new stream has nothing to account for. -/
theorem new_accounted (streamType : StreamType) (receiveWindow transmitWindow : Nat)
    (now : Instant) : (new streamType receiveWindow transmitWindow now).Accounted where
  buffer := StreamReceiveBuffer.new_wellFormed receiveWindow
  capacity := rfl
  fits := show 0 < u64Size by decide
  window := Nat.zero_le _
  exact := rfl
  delivered := rfl
  highest := Nat.le_refl _
  final := nofun
  closed := nofun

/-- What a frame with data does to a stream: nothing, or it is noted, or its data is stored. -/
inductive Takes (stream : StreamState) (stop : Nat) : StreamState → Prop
  | refused : Takes stream stop stream
  | noted (final : ∀ finalSize, stream.finalRxOffset = some finalSize → stop ≤ finalSize) :
      Takes stream stop { stream with highestRxOffset := max stream.highestRxOffset stop }
  | stored {start added : Nat} {text : Bytes} {receiveBuffer : StreamReceiveBuffer}
      (final : ∀ finalSize, stream.finalRxOffset = some finalSize → stop ≤ finalSize)
      (fits : stop < u64Size) (credit : stop ≤ stream.expectedRxOffset + stream.windowSize)
      (ahead : stream.receiveBuffer.readHead ≤ start) (ends : start + text.length = stop)
      (accepted : stream.receiveBuffer.write start text = some (added, receiveBuffer)) :
      Takes stream stop { stream with
        highestRxOffset := max stream.highestRxOffset stop
        receiveBuffer := receiveBuffer
        bufferedBytes := saturatingAdd stream.bufferedBytes added }

/-- Receiving data takes it in one of these ways. -/
theorem receive_takes (self : StreamState) (offset : Nat) (data : Bytes) :
    self.Takes (offset + data.length) (self.receive offset data) := by
  unfold receive
  split
  · exact .refused
  rename_i endOffset sum
  obtain ⟨rfl, fits⟩ := checkedAdd_eq_some_iff.mp sum
  split
  · exact .refused
  rename_i within
  have final : ∀ finalSize, self.finalRxOffset = some finalSize →
      offset + data.length ≤ finalSize := by
    intro finalSize known
    simpa [known] using within
  dsimp only
  split
  · exact .noted final
  rename_i past
  split
  · exact .noted final
  rename_i credit
  split
  · exact .noted final
  · rename_i added receiveBuffer accepted
    refine .stored final fits (le_trans (not_lt.mp credit) (saturatingAdd_le _ _)) (le_max_right _ _)
      ?_ accepted
    -- Cutting off what lies before the read head leaves the end where it is.
    rw [List.length_drop]
    omega

/-- Received data is accounted for. -/
theorem Accounted.receive {stream : StreamState} (accounted : stream.Accounted) (offset : Nat)
    (data : Bytes) : (stream.receive offset data).Accounted := by
  have takes := stream.receive_takes offset data
  generalize stream.receive offset data = after at takes ⊢
  generalize offset + data.length = stop at takes
  cases takes with
  | refused => exact accounted
  | noted final =>
    exact { accounted with
      highest := le_trans accounted.highest (le_max_left _ _)
      final := fun finalSize known => max_le (accounted.final finalSize known) (final finalSize known) }
  | @stored start added text receiveBuffer final fits credit ahead ends accepted =>
    have written := StreamReceiveBuffer.write_written accounted.buffer ahead accepted
    obtain ⟨held, head⟩ := StreamReceiveBuffer.write_held accounted.buffer accepted
    rw [ends] at head
    have below := written.wellFormed.held_le
    have fitsHead : receiveBuffer.writeHead < u64Size :=
      lt_of_le_of_lt head (max_lt accounted.fits fits)
    have readHead := written.readHead
    have before := accounted.exact
    exact {
      buffer := written.wellFormed
      capacity := written.capacity.trans accounted.capacity
      fits := fitsHead
      window := le_trans head (max_le accounted.window credit)
      exact := by
        -- What is counted stays below the write head, so the count does not saturate.
        have counted : saturatingAdd stream.bufferedBytes added = stream.bufferedBytes + added := by
          unfold saturatingAdd
          omega
        dsimp only
        rw [counted]
        omega
      delivered := by
        rw [accounted.delivered]
        exact readHead.symm
      highest := le_trans head (max_le_max accounted.highest le_rfl)
      final := fun finalSize known => max_le (accounted.final finalSize known) (final finalSize known)
      closed := fun shut => by
        rw [accounted.closed shut]
        exact congrArg some readHead.symm }

/-- A final size that is accepted is not below anything received. -/
theorem Accounted.finalise {stream : StreamState} (accounted : stream.Accounted) (finalSize : Nat) :
    (stream.finalise finalSize).Accounted := by
  unfold StreamState.finalise
  split
  · exact accounted
  · rename_i consistent
    obtain ⟨high, agrees⟩ := not_or.mp consistent
    exact { accounted with
      final := fun other known => by
        cases known
        exact not_lt.mp high
      closed := fun shut => by
        -- The channel was closed at a final size, and the new one is the same.
        have known := accounted.closed shut
        rw [known] at agrees
        have same : stream.receiveBuffer.readHead = finalSize := by simpa using agrees
        exact congrArg some same.symm }

/-- A report is taken as far as bytes were counted, and the offset moves by as much. -/
theorem Accounted.consume_expected {stream : StreamState} (accounted : stream.Accounted)
    (bytesRead : Nat) : (stream.consume bytesRead).2.expectedRxOffset =
      stream.expectedRxOffset + (stream.consume bytesRead).1 := by
  have exact := accounted.exact
  have below := accounted.buffer.held_le
  have fits := accounted.fits
  have most : (stream.consume bytesRead).1 ≤ stream.bufferedBytes := Nat.min_le_right _ _
  show saturatingAdd stream.expectedRxOffset (stream.consume bytesRead).1 = _
  unfold saturatingAdd
  omega

/-- Counting bytes as read moves them from one account to the other. -/
theorem Accounted.consume {stream : StreamState} (accounted : stream.Accounted) (bytesRead : Nat) :
    (stream.consume bytesRead).2.Accounted := by
  have expected := accounted.consume_expected bytesRead
  have most : (stream.consume bytesRead).1 ≤ stream.bufferedBytes := Nat.min_le_right _ _
  have left : (stream.consume bytesRead).2.bufferedBytes =
      stream.bufferedBytes - (stream.consume bytesRead).1 := rfl
  exact { accounted with
    window := by
      have window := accounted.window
      rw [expected]
      show stream.receiveBuffer.writeHead ≤ _ + stream.windowSize
      omega
    exact := by
      have exact := accounted.exact
      rw [expected, left]
      exact (show _ = stream.receiveBuffer.readHead + stream.receiveBuffer.held by omega) }

/-- What a forwarding round moves is no longer held, and the write head stays. -/
theorem pumpAll_held {self : StreamState} (wf : self.receiveBuffer.WellFormed) :
    self.pumpAll.2.receiveBuffer.held + self.pumpAll.1.flatten.length = self.receiveBuffer.held ∧
      self.pumpAll.2.receiveBuffer.writeHead = self.receiveBuffer.writeHead ∧
      (self.appTx = false → self.pumpAll.1 = []) := by
  rw [pumpAll_eq wf]
  split
  · rename_i room
    have opened : self.appTx = true := (Bool.and_eq_true_iff.mp room).1
    cases read : self.receiveBuffer.readContiguous with
    | none => exact ⟨rfl, rfl, fun _ => rfl⟩
    | some answer =>
      obtain ⟨held, head⟩ := StreamReceiveBuffer.readContiguous_held wf read
      refine ⟨by simpa [moved] using held, head, fun shut => ?_⟩
      rw [opened] at shut
      cases shut
  · exact ⟨rfl, rfl, fun _ => rfl⟩

/-- Moving data to the application hands out what was held. -/
theorem Accounted.pumpAll {stream : StreamState} (accounted : stream.Accounted) :
    stream.pumpAll.2.Accounted := by
  have forwarded := pumpAll_forwarded accounted.buffer
  obtain ⟨held, head, stopped⟩ := pumpAll_held accounted.buffer
  have rest := forwarded.rest
  have sent := forwarded.sent
  have readHead := forwarded.readHead
  generalize stream.pumpAll.2 = after at *
  generalize stream.pumpAll.1 = chunks at *
  obtain ⟨buffer, channel, rfl⟩ : ∃ buffer channel, after = { stream with
      receiveBuffer := buffer, channel := channel } := ⟨_, _, rest⟩
  exact {
    buffer := forwarded.wellFormed
    capacity := forwarded.capacity.trans accounted.capacity
    fits := head ▸ accounted.fits
    window := head ▸ accounted.window
    exact := by
      have exact := accounted.exact
      dsimp only at held readHead ⊢
      omega
    delivered := by
      have delivered := accounted.delivered
      dsimp only at sent readHead ⊢
      rw [sent, List.flatten_append, List.length_append, delivered, readHead]
    highest := head ▸ accounted.highest
    final := accounted.final
    closed := fun shut => by
      -- A closed channel takes nothing, so the read head has not moved.
      have nothing := stopped shut
      rw [nothing] at readHead
      rw [accounted.closed shut]
      exact congrArg some readHead.symm }

/-- The channel is closed when everything up to the final size was handed out, and no earlier. -/
theorem Accounted.finish {stream : StreamState} (accounted : stream.Accounted) :
    stream.finish.Accounted := by
  unfold StreamState.finish
  split
  · rename_i finalSize known
    split
    · rename_i reached
      exact { accounted with
        closed := fun _ => by
          -- Nothing beyond the final size was received, so the read head is not past it.
          have final := accounted.final finalSize known
          have highest := accounted.highest
          have heads := accounted.buffer.heads
          have same : finalSize = stream.receiveBuffer.readHead := by omega
          exact same ▸ known }
    · exact accounted
  · exact accounted

/-- Considering a larger window changes what the next consideration needs, and nothing else. -/
theorem considerScaling_eq (stream : StreamState) (consumed : Nat) (rtt : Duration) (most : Nat)
    (now : Instant) :
    (∃ bytes last, (stream.considerScaling consumed rtt most now).2 =
        { stream with bytesReadInEpoch := bytes, lastWindowUpdate := last }) ∧
      ∀ newWindow, (stream.considerScaling consumed rtt most now).1 = some newWindow →
        0 < consumed ∧ stream.windowSize < newWindow ∧ newWindow ≤ most := by
  unfold considerScaling
  split
  · rename_i some
    dsimp only
    split
    · refine ⟨⟨_, _, rfl⟩, fun newWindow asked => ?_⟩
      dsimp only at asked
      split at asked
      · rename_i scaleUp
        cases asked
        exact ⟨some, scaleUp.2, min_le_right _ _⟩
      · cases asked
    · exact ⟨⟨_, _, rfl⟩, fun _ asked => nomatch asked⟩
  · exact ⟨⟨stream.bytesReadInEpoch, stream.lastWindowUpdate, rfl⟩, fun _ asked => nomatch asked⟩

/-- A larger window is set, or the stream stays as it is. -/
theorem widen_cases (stream : StreamState) (newWindow : Option Nat) (room : Bool) :
    stream.widen newWindow room = stream ∨ ∃ size, newWindow = some size ∧ room = true ∧
      stream.widen newWindow room =
        { stream with receiveBuffer := stream.receiveBuffer.resize size, windowSize := size } := by
  unfold widen
  split
  · exact .inl rfl
  · rename_i size
    split
    · rename_i allowed
      exact .inr ⟨size, rfl, allowed, rfl⟩
    · exact .inl rfl

/-- A window that grows leaves the accounts as they are. -/
theorem Accounted.widen {stream : StreamState} (accounted : stream.Accounted)
    {newWindow : Option Nat} (larger : ∀ size, newWindow = some size → stream.windowSize < size)
    (room : Bool) : (stream.widen newWindow room).Accounted := by
  rcases stream.widen_cases newWindow room with same | ⟨size, asked, -, wider⟩
  · rw [same]
    exact accounted
  · rw [wider]
    have grows := larger size asked
    have capacity := accounted.capacity
    have resized := StreamReceiveBuffer.resize_resized accounted.buffer
      (show stream.receiveBuffer.capacity ≤ size by omega)
    obtain ⟨held, readHead, writeHead⟩ := stream.receiveBuffer.resize_held size
    exact {
      buffer := resized.wellFormed
      capacity := stream.receiveBuffer.resize_capacity size
      fits := writeHead ▸ accounted.fits
      window := by
        have window := accounted.window
        dsimp only
        omega
      exact := by
        have exact := accounted.exact
        dsimp only
        omega
      delivered := accounted.delivered.trans readHead.symm
      highest := writeHead ▸ accounted.highest
      final := accounted.final
      closed := fun shut => (accounted.closed shut).trans (congrArg some readHead.symm) }

/-- Two states of a stream that agree on its offsets, its credit and its final size. -/
structure Alike (before after : StreamState) : Prop where
  expected : after.expectedRxOffset = before.expectedRxOffset
  window : after.windowSize = before.windowSize
  credit : after.lastSentMaxData = before.lastSentMaxData
  final : after.finalRxOffset = before.finalRxOffset
  streamType : after.streamType = before.streamType

/-- Moving data to the application leaves them alone. -/
theorem pump_alike (fuel : Nat) (self : StreamState) : self.Alike (self.pump fuel).2 := by
  induction fuel generalizing self with
  | zero => exact ⟨rfl, rfl, rfl, rfl, rfl⟩
  | succ fuel ih =>
    unfold pump
    split
    · split
      · exact ⟨rfl, rfl, rfl, rfl, rfl⟩
      · -- The rest of the round starts from a stream that differs in its buffer and channel only.
        rename_i chunk receiveBuffer _
        have rest := ih { self with receiveBuffer := receiveBuffer, channel := self.channel.send chunk }
        exact ⟨rest.expected, rest.window, rest.credit, rest.final, rest.streamType⟩
    · exact ⟨rfl, rfl, rfl, rfl, rfl⟩

/-- Before a larger window, a report counts bytes as read, moves data and may close the channel. -/
theorem considered_eq (self : StreamState) (reading : Reading) : ∃ appTx bytes last,
    (self.considered reading).2 = { (self.consume reading.bytesRead).2.pumpAll.2 with
      appTx := appTx, bytesReadInEpoch := bytes, lastWindowUpdate := last } := by
  obtain ⟨⟨bytes, last, considered⟩, -⟩ := (self.handOver reading.bytesRead).2.considerScaling_eq
    (self.consume reading.bytesRead).1 reading.rtt reading.maxStreamWindow reading.now
  refine ⟨(self.handOver reading.bytesRead).2.appTx, bytes, last, ?_⟩
  show ((self.handOver reading.bytesRead).2.considerScaling _ _ _ _).2 = _
  rw [considered]
  show ({ (self.consume reading.bytesRead).2.pumpAll.2.finish with
    bytesReadInEpoch := bytes, lastWindowUpdate := last } : StreamState) = _
  rw [finish_eq]
  rfl

/-- None of that touches the offsets beyond what was read, nor the credit or the final size. -/
theorem considered_alike (self : StreamState) (reading : Reading) :
    (self.consume reading.bytesRead).2.Alike (self.considered reading).2 := by
  have moved : (self.consume reading.bytesRead).2.Alike (self.consume reading.bytesRead).2.pumpAll.2 :=
    pump_alike _ _
  obtain ⟨appTx, bytes, last, considered⟩ := self.considered_eq reading
  rw [considered]
  exact ⟨moved.expected, moved.window, moved.credit, moved.final, moved.streamType⟩

/-- What a report leaves before credit is granted, as far as credit and the final size go. -/
structure Readied (before : StreamState) (reading : Reading) (after : StreamState) : Prop where
  accounted : after.Accounted
  expected : after.expectedRxOffset = before.expectedRxOffset + (before.consume reading.bytesRead).1
  window : before.windowSize ≤ after.windowSize
  /-- Without a byte read the window is not even considered. -/
  same : (before.consume reading.bytesRead).1 = 0 → after.windowSize = before.windowSize
  credit : after.lastSentMaxData = before.lastSentMaxData
  final : after.finalRxOffset = before.finalRxOffset
  streamType : after.streamType = before.streamType
  sent : after.channel.sent = before.channel.sent ++ (before.handOver reading.bytesRead).1

/-- Every report goes through the same stages. -/
theorem Accounted.readied {stream : StreamState} (accounted : stream.Accounted) (reading : Reading) :
    stream.Readied reading (stream.ready reading) := by
  have expected := accounted.consume_expected reading.bytesRead
  have finished : (stream.handOver reading.bytesRead).2.Accounted :=
    (accounted.consume reading.bytesRead).pumpAll.finish
  have alike := stream.considered_alike reading
  obtain ⟨⟨bytes, last, considered⟩, asks⟩ := (stream.handOver reading.bytesRead).2.considerScaling_eq
    (stream.consume reading.bytesRead).1 reading.rtt reading.maxStreamWindow reading.now
  have kept : (stream.considered reading).2.Accounted := by
    show ((stream.handOver reading.bytesRead).2.considerScaling _ _ _ _).2.Accounted
    rw [considered]
    exact { finished with }
  have asks : ∀ size, (stream.considered reading).1 = some size →
      0 < (stream.consume reading.bytesRead).1 ∧ (stream.considered reading).2.windowSize < size := by
    intro size asked
    have larger := asks size asked
    refine ⟨larger.1, ?_⟩
    show ((stream.handOver reading.bytesRead).2.considerScaling _ _ _ _).2.windowSize < size
    rw [considered]
    exact larger.2.1
  have widened := kept.widen (fun size asked => (asks size asked).2) reading.room
  have window : (stream.considered reading).2.windowSize = stream.windowSize := alike.window
  have sent : (stream.considered reading).2.channel.sent =
      stream.channel.sent ++ (stream.handOver reading.bytesRead).1 := by
    obtain ⟨appTx, epoch, update, done⟩ := stream.considered_eq reading
    rw [done]
    exact (pumpAll_forwarded (accounted.consume reading.bytesRead).buffer).sent
  show stream.Readied reading ((stream.considered reading).2.widen _ _)
  rcases (stream.considered reading).2.widen_cases (stream.considered reading).1 reading.room with
    plain | ⟨size, asked, -, wider⟩
  · rw [plain] at widened ⊢
    exact ⟨widened, alike.expected.trans expected, window.ge, fun _ => window, alike.credit,
      alike.final, alike.streamType, sent⟩
  · obtain ⟨some, larger⟩ := asks size asked
    rw [wider] at widened ⊢
    refine ⟨widened, alike.expected.trans expected, ?_, fun none => ?_, alike.credit, alike.final,
      alike.streamType, sent⟩
    · exact le_trans window.ge larger.le
    · omega

/-- A report leaves the stream ready, with the credit that was granted noted down. -/
theorem forward_eq (stream : StreamState) (reading : Reading) :
    stream.forward reading = { stream.ready reading with
      lastSentMaxData := (stream.granted reading).getD (stream.ready reading).lastSentMaxData } := by
  unfold forward
  cases stream.granted reading <;> rfl

/-- So its accounts stay exact. -/
theorem Accounted.forward {stream : StreamState} (accounted : stream.Accounted) (reading : Reading) :
    (stream.forward reading).Accounted := by
  rw [forward_eq]
  exact { (accounted.readied reading).accounted with }

end StreamState

namespace StreamOp

open StreamState

/-- No operation upsets the accounts. -/
theorem apply_accounted (op : StreamOp) {stream : StreamState} (accounted : stream.Accounted) :
    (op.apply stream).Accounted := by
  cases op with
  | receive offset data => exact accounted.receive offset data
  | finalise finalSize => exact accounted.finalise finalSize
  | forward reading => exact accounted.forward reading
  | extend maxData => exact { accounted with }
  | stop errorCode => exact { accounted with }
  | send length => exact { accounted with }
  | recv =>
    have same : stream.channel.recv.sent = stream.channel.sent := by
      unfold Channel.recv
      split <;> rfl
    exact { accounted with delivered := (congrArg (·.flatten.length) same).trans accounted.delivered }
  | dropReceiver => exact { accounted with }

/-- Nothing was read or moved to the application between two states of a stream. -/
structure Idle (before after : StreamState) : Prop where
  expected : after.expectedRxOffset = before.expectedRxOffset
  window : after.windowSize = before.windowSize
  credit : after.lastSentMaxData = before.lastSentMaxData
  sent : after.channel.sent = before.channel.sent

/-- What an operation does to the counters: a report of the application, or nothing. -/
theorem apply_cases (op : StreamOp) (stream : StreamState) :
    (∃ reading, op = .forward reading) ∨
      op.reads = 0 ∧ op.grants stream = [] ∧ Idle stream (op.apply stream) := by
  cases op with
  | receive offset data =>
    refine .inr ⟨rfl, rfl, ?_⟩
    have takes := stream.receive_takes offset data
    show Idle stream (stream.receive offset data)
    generalize stream.receive offset data = after at takes ⊢
    cases takes <;> exact ⟨rfl, rfl, rfl, rfl⟩
  | finalise finalSize =>
    refine .inr ⟨rfl, rfl, ?_⟩
    show Idle stream (stream.finalise finalSize)
    unfold StreamState.finalise
    split <;> exact ⟨rfl, rfl, rfl, rfl⟩
  | forward reading => exact .inl ⟨reading, rfl⟩
  | recv =>
    refine .inr ⟨rfl, rfl, rfl, rfl, rfl, ?_⟩
    show stream.channel.recv.sent = stream.channel.sent
    unfold Channel.recv
    split <;> rfl
  | extend | stop | send | dropReceiver => exact .inr ⟨rfl, rfl, rfl, rfl, rfl, rfl⟩

/-- What a report leaves is of the same type, and of the same final size. -/
theorem forward_alike (stream : StreamState) (reading : Reading) :
    (stream.forward reading).streamType = stream.streamType ∧
      (stream.forward reading).finalRxOffset = stream.finalRxOffset := by
  have alike := stream.considered_alike reading
  rw [forward_eq]
  unfold ready
  rcases (stream.considered reading).2.widen_cases (stream.considered reading).1 reading.room with
    same | ⟨size, -, -, wider⟩
  · rw [same]
    exact ⟨alike.streamType, alike.final⟩
  · rw [wider]
    exact ⟨alike.streamType, alike.final⟩

/-- No operation changes the type of a stream, or a final size once it is known. -/
theorem apply_fixed (op : StreamOp) (stream : StreamState) :
    (op.apply stream).streamType = stream.streamType ∧ ∀ finalSize,
      stream.finalRxOffset = some finalSize → (op.apply stream).finalRxOffset = some finalSize := by
  cases op with
  | receive offset data =>
    have takes := stream.receive_takes offset data
    show (stream.receive offset data).streamType = _ ∧ ∀ finalSize, _ →
      (stream.receive offset data).finalRxOffset = _
    generalize stream.receive offset data = after at takes ⊢
    cases takes <;> exact ⟨rfl, fun _ => id⟩
  | finalise declared =>
    show (stream.finalise declared).streamType = _ ∧ ∀ finalSize, _ →
      (stream.finalise declared).finalRxOffset = _
    unfold StreamState.finalise
    split
    · exact ⟨rfl, fun _ => id⟩
    · rename_i consistent
      refine ⟨rfl, fun finalSize known => ?_⟩
      -- A size that differs from the one known is refused.
      rw [known] at consistent
      have same : finalSize = declared := by
        by_contra other
        exact consistent (.inr (decide_eq_true other))
      rw [same]
  | forward reading =>
    obtain ⟨type, final⟩ := forward_alike stream reading
    exact ⟨type, fun _ known => final.trans known⟩
  | extend | stop | send | recv | dropReceiver => exact ⟨rfl, fun _ => id⟩

/-- Nor does any number of them. -/
theorem run_fixed (ops : List StreamOp) (stream : StreamState) :
    (run ops stream).streamType = stream.streamType ∧ ∀ finalSize,
      stream.finalRxOffset = some finalSize → (run ops stream).finalRxOffset = some finalSize := by
  induction ops generalizing stream with
  | nil => exact ⟨rfl, fun _ => id⟩
  | cons op rest ih =>
    obtain ⟨type, final⟩ := op.apply_fixed stream
    obtain ⟨types, finals⟩ := ih (op.apply stream)
    exact ⟨types.trans type, fun finalSize known => finals finalSize (final finalSize known)⟩

/-- An honest report is counted in full. -/
theorem apply_expected (op : StreamOp) {stream : StreamState} (accounted : stream.Accounted)
    (honest : stream.expectedRxOffset + op.reads ≤ stream.channel.sent.flatten.length) :
    (op.apply stream).expectedRxOffset = stream.expectedRxOffset + op.reads ∧
      (op.apply stream).expectedRxOffset ≤ (op.apply stream).channel.sent.flatten.length := by
  rcases op.apply_cases stream with ⟨reading, rfl⟩ | ⟨none, -, idle⟩
  · have readied := accounted.readied reading
    have exact := accounted.exact
    have delivered := accounted.delivered
    have whole : (stream.consume reading.bytesRead).1 = reading.bytesRead := by
      show min reading.bytesRead stream.bufferedBytes = reading.bytesRead
      change stream.expectedRxOffset + reading.bytesRead ≤ _ at honest
      omega
    have expected := readied.expected
    rw [whole] at expected
    show (stream.forward reading).expectedRxOffset = _ ∧
      (stream.forward reading).expectedRxOffset ≤ (stream.forward reading).channel.sent.flatten.length
    rw [forward_eq]
    refine ⟨expected, ?_⟩
    -- What was moved before is still among what was moved.
    dsimp only
    rw [expected, readied.sent, List.flatten_append, List.length_append]
    exact le_trans honest (Nat.le_add_right _ _)
  · rw [none] at honest ⊢
    rw [idle.expected, idle.sent]
    exact ⟨rfl, honest⟩

end StreamOp
end Zetta
