import Zetta.Proofs.State.StreamAccount
import Zetta.Proofs.Transport.Holdings
import Zetta.Proofs.Transport.Nonces

/-! The receive memory of a connection stays within its limit, whatever the peer sends. -/

namespace Zetta

/-- The memory of a stream's receive buffer. -/
def StreamState.memory (self : StreamState) : Nat := self.receiveBuffer.allocatedSize

/-- A stream whose buffer is as large as its window, which is within the limit. -/
structure StreamState.Bounded (largest : Nat) (stream : StreamState) : Prop where
  buffer : stream.receiveBuffer.WellFormed
  capacity : stream.receiveBuffer.capacity = stream.windowSize
  window : stream.windowSize ≤ largest

/-- A bounded stream holds no memory, or as much as its window. -/
theorem StreamState.Bounded.memory_eq {largest : Nat} {stream : StreamState}
    (bounded : stream.Bounded largest) : stream.memory = 0 ∨ stream.memory = stream.windowSize := by
  rw [← bounded.capacity]
  exact bounded.buffer.allocatedSize_eq

/-- Moving data to the application frees no memory. -/
theorem StreamState.pumpAll_memory {stream : StreamState} (wf : stream.receiveBuffer.WellFormed) :
    stream.pumpAll.2.memory = stream.memory := by
  rw [pumpAll_eq wf]
  split
  · cases read : stream.receiveBuffer.readContiguous with
    | none => rfl
    | some answer => exact congrArg List.length (StreamReceiveBuffer.readContiguous_buffer read)
  · rfl

/-- Nor does considering a larger window. -/
theorem StreamState.Bounded.considered {largest : Nat} {stream : StreamState}
    (bounded : stream.Bounded largest) (reading : Reading) :
    (stream.considered reading).2.Bounded largest ∧
      (stream.considered reading).2.memory = stream.memory := by
  have window := (stream.considered_alike reading).window
  have wf : (stream.consume reading.bytesRead).2.receiveBuffer.WellFormed := bounded.buffer
  have moved := pumpAll_forwarded wf
  have memory := pumpAll_memory wf
  obtain ⟨appTx, bytes, last, considered⟩ := stream.considered_eq reading
  rw [considered] at window ⊢
  refine ⟨⟨moved.wellFormed, ?_, ?_⟩, memory⟩
  · rw [window]
    exact moved.capacity.trans bounded.capacity
  · rw [window]
    exact bounded.window

namespace Books

/-- Adding up with saturation is adding up, cut off at the end of the machine word. -/
theorem allocated_eq (books : Books) :
    books.allocated = min (books.streams.total StreamState.memory) (u64Size - 1) := by
  have folds : ∀ (streams : List StreamState) (start : Nat), start ≤ u64Size - 1 →
      streams.foldl (fun total stream => saturatingAdd total stream.receiveBuffer.allocatedSize) start =
        min (start + (streams.map StreamState.memory).sum) (u64Size - 1) := by
    intro streams
    induction streams with
    | nil =>
      intro start small
      simpa using small
    | cons stream rest ih =>
      intro start small
      have next : saturatingAdd start stream.receiveBuffer.allocatedSize ≤ u64Size - 1 :=
        min_le_right _ _
      rw [List.foldl_cons, ih _ next, List.map_cons, List.sum_cons]
      unfold saturatingAdd StreamState.memory
      omega
  have sum := folds books.streams.values 0 (Nat.zero_le _)
  rw [Nat.zero_add] at sum
  exact sum

/-- The streams are bounded one by one, and their memory together. -/
structure Capped (books : Books) : Prop where
  streams : ∀ id stream, books.streams.find? id = some stream →
    stream.Bounded books.config.maxStreamWindow
  total : books.allocated ≤ books.config.maxConnectionBuffer

/-- A stream put in the place of another, or of none, with as much memory as fits. -/
theorem Capped.insert {books : Books} (capped : books.Capped) {id : Nat} {next : StreamState}
    (bounded : next.Bounded books.config.maxStreamWindow)
    (fits : ∃ more, next.memory ≤ (books.streams.find? id).elim 0 StreamState.memory + more ∧
      saturatingAdd books.allocated more ≤ books.config.maxConnectionBuffer) :
    Capped { books with streams := books.streams.insert id next } := by
  obtain ⟨more, enough, within⟩ := fits
  constructor
  · intro other stream found
    by_cases same : id = other
    · subst same
      rw [SortedMap.find?_insert_self] at found
      cases found
      exact bounded
    · rw [SortedMap.find?_insert_of_ne _ _ same] at found
      exact capped.streams other stream found
  · have sums := SortedMap.total_insert StreamState.memory books.streams id next
    rw [allocated_eq]
    rw [saturatingAdd, allocated_eq] at within
    dsimp only at sums ⊢
    omega

/-- A stream that takes no more memory than the one it replaces. -/
theorem Capped.replace {books : Books} (capped : books.Capped) {id : Nat} {stream next : StreamState}
    (found : books.streams.find? id = some stream)
    (bounded : next.Bounded books.config.maxStreamWindow) (less : next.memory ≤ stream.memory) :
    Capped { books with streams := books.streams.insert id next } := by
  refine capped.insert bounded ⟨0, ?_, ?_⟩
  · rw [found]
    exact less
  · have total := capped.total
    rw [allocated_eq] at total ⊢
    unfold saturatingAdd
    omega

/-- A new stream has no memory yet. -/
theorem Capped.opened {books : Books} (capped : books.Capped)
    (window : books.config.initialStreamWindow ≤ books.config.maxStreamWindow) (id : Nat)
    (streamType : StreamType) (transmitWindow : Nat) (now : Instant) :
    Capped { books with
      streams := books.streams.insert id
        (.new streamType books.config.initialStreamWindow transmitWindow now) } := by
  refine capped.insert ⟨StreamReceiveBuffer.new_wellFormed _, rfl, window⟩ ⟨0, Nat.zero_le _, ?_⟩
  have total := capped.total
  rw [allocated_eq] at total ⊢
  unfold saturatingAdd
  omega

/-- Data received takes no memory, or the first write allocates the whole buffer. -/
theorem Capped.received {books : Books} (capped : books.Capped) {id : Nat} {stream : StreamState}
    (found : books.streams.find? id = some stream) (offset : Nat) (data : Bytes)
    (budget : stream.receiveBuffer.allocatedSize = 0 →
      saturatingAdd books.allocated stream.windowSize ≤ books.config.maxConnectionBuffer) :
    Capped { books with streams := books.streams.insert id (stream.receive offset data) } := by
  have old := capped.streams id stream found
  have takes := stream.receive_takes offset data
  generalize stream.receive offset data = next at takes ⊢
  cases takes with
  | refused | noted => exact capped.replace found ⟨old.buffer, old.capacity, old.window⟩ le_rfl
  | @stored start added text receiveBuffer _ _ _ ahead _ accepted =>
    have written := StreamReceiveBuffer.write_written old.buffer ahead accepted
    have bounded : StreamState.Bounded books.config.maxStreamWindow { stream with
        highestRxOffset := max stream.highestRxOffset (offset + data.length)
        receiveBuffer := receiveBuffer
        bufferedBytes := saturatingAdd stream.bufferedBytes added } :=
      ⟨written.wellFormed, written.capacity.trans old.capacity, old.window⟩
    have most := bounded.memory_eq
    rcases old.memory_eq with none | full
    · refine capped.insert bounded ⟨stream.windowSize, ?_, budget none⟩
      dsimp only at most ⊢
      omega
    · refine capped.replace found bounded ?_
      dsimp only at most ⊢
      omega

/-- A window that grows takes the memory it was granted. -/
theorem Capped.forwarded {books : Books} (capped : books.Capped) {id : Nat} {stream : StreamState}
    (found : books.streams.find? id = some stream) {reading : Reading}
    (most : reading.maxStreamWindow = books.config.maxStreamWindow)
    (budget : reading.room = true → ∀ newWindow, (stream.considered reading).1 = some newWindow →
      saturatingAdd ({ books with
          streams := books.streams.insert id (stream.considered reading).2 } : Books).allocated
        (newWindow - (stream.considered reading).2.windowSize) ≤ books.config.maxConnectionBuffer) :
    Capped { books with streams := books.streams.insert id (stream.forward reading) } := by
  obtain ⟨seen, kept⟩ := (capped.streams id stream found).considered reading
  have between := capped.replace found seen kept.le
  obtain ⟨⟨bytes, last, considered⟩, asks⟩ := (stream.handOver reading.bytesRead).2.considerScaling_eq
    (stream.consume reading.bytesRead).1 reading.rtt reading.maxStreamWindow reading.now
  have window := congrArg StreamState.windowSize considered
  change (stream.considered reading).2.windowSize =
    (stream.handOver reading.bytesRead).2.windowSize at window
  rw [StreamState.forward_eq]
  unfold StreamState.ready
  rcases (stream.considered reading).2.widen_cases (stream.considered reading).1 reading.room with
    same | ⟨newWindow, asked, room, wider⟩
  · rw [same]
    exact capped.replace found ⟨seen.buffer, seen.capacity, seen.window⟩ kept.le
  · rw [wider]
    obtain ⟨-, larger, within⟩ := asks newWindow asked
    rw [← window] at larger
    have grows : (stream.considered reading).2.receiveBuffer.capacity ≤ newWindow :=
      seen.capacity ▸ larger.le
    have resized := StreamReceiveBuffer.resize_resized seen.buffer grows
    have capacity := (stream.considered reading).2.receiveBuffer.resize_capacity newWindow
    -- The larger buffer takes the place of the one that was considered.
    rw [← SortedMap.insert_insert books.streams id (stream.considered reading).2]
    apply between.insert ⟨resized.wellFormed, capacity, most ▸ within⟩
    refine ⟨newWindow - (stream.considered reading).2.windowSize, ?_, budget room newWindow asked⟩
    · rw [SortedMap.find?_insert_self]
      show ((stream.considered reading).2.receiveBuffer.resize newWindow).allocatedSize ≤
        (stream.considered reading).2.memory + (newWindow - (stream.considered reading).2.windowSize)
      rcases seen.memory_eq with none | full
      · rw [StreamReceiveBuffer.resize_unallocated newWindow none]
        exact Nat.zero_le _
      · have size := resized.wellFormed.allocatedSize_eq
        omega

/-- Whatever happens to the table of streams, its memory stays within the limit. -/
theorem Capped.table {licence : Licence} {books : Books} {streams : SortedMap Nat StreamState}
    (capped : books.Capped) (step : TableStep licence books streams) : Capped { books with streams := streams } := by
  cases step with
  | @tended id stream op found affords =>
    have old := capped.streams id stream found
    cases affords with
    | receive offset data budget => exact capped.received found offset data budget
    | forward reading most budget => exact capped.forwarded found most budget
    | finalise finalSize =>
      show Capped { books with streams := books.streams.insert id (stream.finalise finalSize) }
      unfold StreamState.finalise
      split <;> exact capped.replace found ⟨old.buffer, old.capacity, old.window⟩ le_rfl
    | extend | stop | send | recv | dropReceiver =>
      exact capped.replace found ⟨old.buffer, old.capacity, old.window⟩ le_rfl
  | dropped id =>
    constructor
    · intro other stream found
      rw [SortedMap.find?_erase] at found
      split at found
      · cases found
      · exact capped.streams other stream found
    · have less := SortedMap.total_erase_le StreamState.memory books.streams id
      have total := capped.total
      rw [allocated_eq] at total ⊢
      dsimp only
      omega

/-- Deeds change the streams by such steps only. -/
theorem capped_keeps [Hkdf] (licence : Licence) : Books.Keeps licence fun books =>
    books.config.initialStreamWindow ≤ books.config.maxStreamWindow ∧ books.Capped where
  host _ _ held := ⟨held.1, held.2.streams, held.2.total⟩
  deed := by
    rintro before after deed ⟨window, capped⟩
    cases deed with
    | table step => exact ⟨window, capped.table step⟩
    | openLocal | openPeer =>
      have opened := capped.opened window
      exact ⟨window, (opened _ _ _ _).streams, (opened _ _ _ _).total⟩
    | post _ _ _ offers | postLong _ offers | dispatch _ _ _ _ offers | paced _ _ _ _ offers
    | probe _ _ _ _ _ _ _ offers => cases offers <;> exact ⟨window, capped.streams, capped.total⟩
    | requeue _ fails | forsake _ fails => cases fails; exact ⟨window, capped.streams, capped.total⟩
    | _ => exact ⟨window, capped.streams, capped.total⟩

/-- Deeds leave the configuration alone. -/
theorem config_keeps [Hkdf] (licence : Licence) (config : ZtConfig) :
    Books.Keeps licence fun books => books.config = config where
  host _ _ same := same
  deed deed same := deed.fixed.2.1.trans same

end Books

namespace ZtConnectionActor

open Books

variable {CC : Type} [CongestionController CC] [Hkdf] [HandshakeCrypto]

/-- In every state of a run the receive memory is bounded as the actor's configuration says. -/
theorem Created.capped [EndpointCrypto] {actor : ZtConnectionActor CC} (created : Created actor)
    (valid : actor.config.validate = .ok ()) (host : Host) (events : List (Event × Host)) (turn : Host)
    {self : ZtConnectionActor CC}
    (reached : Does Licence.free { (actor.start host).turns events with host := turn } self) :
    self.config = actor.config ∧ (self.books []).Capped := by
  have new : (actor.books []).Capped := by
    cases created <;> exact ⟨nofun, Nat.zero_le _⟩
  have config := config_keeps Licence.free actor.config
  have keeps := capped_keeps Licence.free
  exact ⟨config.does reached (config.turns events (config.start rfl)),
    (keeps.does reached (keeps.turns events (keeps.start ⟨ZtConfig.window_le valid, new⟩))).2⟩

/--
In every state of a run, and after any of the deeds of a turn, the receive memory of all streams is
within the connection's limit, every buffer is as large as its stream's window, and no window is
larger than the configuration allows.
-/
theorem receiveMemory_capped [EndpointCrypto] {actor : ZtConnectionActor CC} (created : Created actor)
    (valid : actor.config.validate = .ok ()) (host : Host) (events : List (Event × Host)) (turn : Host)
    {self : ZtConnectionActor CC}
    (reached : Does Licence.free { (actor.start host).turns events with host := turn } self) :
    self.totalAllocatedBufferSize ≤ actor.config.maxConnectionBuffer ∧
      (actor.config.maxConnectionBuffer < u64Size - 1 →
        (self.streams.values.map fun stream => stream.receiveBuffer.allocatedSize).sum ≤
          actor.config.maxConnectionBuffer) ∧
      ∀ id stream, self.streams.find? id = some stream →
        stream.receiveBuffer.capacity = stream.windowSize ∧
          stream.windowSize ≤ actor.config.maxStreamWindow := by
  obtain ⟨config, capped⟩ := created.capped valid host events turn reached
  change (self.books []).config = actor.config at config
  have total := capped.total
  rw [config] at total
  refine ⟨total, fun small => ?_, fun id stream found => ?_⟩
  · -- Below the end of the machine word the sum is not cut off.
    rw [allocated_eq] at total
    show self.streams.total StreamState.memory ≤ _
    have sum : (self.books []).streams.total StreamState.memory =
      self.streams.total StreamState.memory := rfl
    omega
  · have bounded := capped.streams id stream found
    rw [config] at bounded
    exact ⟨bounded.capacity, bounded.window⟩

end ZtConnectionActor

open Meeting in
/-- A server that has opened a stream holds its buffer at the size of its window, within the limits. -/
theorem opened_stream_capped :
    ∃ stream, ((server.start (hostTaking 0)).turns
        [(.openStream .bidirectional, hostTaking 2)]).streams.find? 1 = some stream ∧
      stream.receiveBuffer.capacity = stream.windowSize ∧ stream.windowSize ≤ 16 * 1024 * 1024 := by
  have created : ZtConnectionActor.Created server := .server identity acceptance
  have valid : server.config.validate = .ok () := ZtConfig.default_valid
  -- The state reached is kept abstract, so that it is not evaluated here.
  have whole : ∀ self : ZtConnectionActor RenoController,
      self = (server.start (hostTaking 0)).turns [(.openStream .bidirectional, hostTaking 2)] →
      ∀ stream, self.streams.find? 1 = some stream →
      stream.receiveBuffer.capacity = stream.windowSize ∧
        stream.windowSize ≤ server.config.maxStreamWindow := by
    intro self same stream found
    have reached : Does Licence.free { (server.start (hostTaking 0)).turns
        [(.openStream .bidirectional, hostTaking 2)] with host := self.host } self := by
      rw [← same]
      exact Does.refl self
    have capped := ZtConnectionActor.receiveMemory_capped created valid (hostTaking 0)
      [(.openStream .bidirectional, hostTaking 2)] self.host reached
    exact capped.2.2 1 stream found
  have opened : (((server.start (hostTaking 0)).turns
      [(.openStream .bidirectional, hostTaking 2)]).streams.find? 1).isSome = true := by decide +kernel
  obtain ⟨stream, found⟩ := Option.isSome_iff_exists.mp opened
  exact ⟨stream, found, whole _ rfl stream found⟩

end Zetta
