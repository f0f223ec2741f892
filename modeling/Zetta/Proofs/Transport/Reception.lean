import Zetta.Proofs.Transport.StreamTable

/-! The receive side of every stream of a connection: its accounts, its final size and its end. -/

namespace Zetta

namespace StreamState

/-- Ranges in the order they are stored end before the next one starts. -/
theorem ranges_apart {held : StreamReceiveBuffer} (wf : held.WellFormed) :
    held.receivedRanges.entries.Pairwise fun left right => left.2 < right.1 := by
  refine List.Pairwise.imp_of_mem ?_ held.receivedRanges.sorted
  intro left right leftMember rightMember before
  have size := wf.separated.nonempty left leftMember
  have other := wf.separated.nonempty right rightMember
  rcases wf.separated.apart left leftMember right rightMember with rfl | gap | back
  · exact absurd before (lt_irrefl _)
  · exact gap
  · -- The one stored first starts first.
    exact absurd before (by omega)

/-- The bytes of a stream that were received and not reported as read, each counted once. -/
def unread (stream : StreamState) : Nat :=
  stream.receiveBuffer.readHead - stream.expectedRxOffset +
    (stream.receiveBuffer.receivedRanges.entries.map fun range => range.2 - range.1).sum

/-- What the receive side of a stream keeps exact. -/
structure Exact (stream : StreamState) : Prop where
  apart : stream.receiveBuffer.receivedRanges.entries.Pairwise fun left right => left.2 < right.1
  nonempty : ∀ range ∈ stream.receiveBuffer.receivedRanges.entries, range.1 < range.2
  ahead : ∀ range ∈ stream.receiveBuffer.receivedRanges.entries,
    stream.receiveBuffer.readHead ≤ range.1
  read : stream.expectedRxOffset ≤ stream.receiveBuffer.readHead
  heads : stream.receiveBuffer.readHead ≤ stream.receiveBuffer.writeHead
  window : stream.receiveBuffer.writeHead ≤ stream.expectedRxOffset + stream.windowSize
  count : stream.bufferedBytes + stream.expectedRxOffset = stream.receiveBuffer.readHead +
    (stream.receiveBuffer.receivedRanges.entries.map fun range => range.2 - range.1).sum

/-- The accounts of a stream are exact while no more was reported than was handed over. -/
theorem Accounted.exactly {stream : StreamState} (accounted : stream.Accounted)
    (read : stream.expectedRxOffset ≤ stream.channel.sent.flatten.length) : stream.Exact where
  apart := ranges_apart accounted.buffer
  nonempty := accounted.buffer.separated.nonempty
  ahead range member := (accounted.buffer.between range member).1
  read := accounted.delivered ▸ read
  heads := accounted.buffer.heads.1
  window := accounted.window
  count := accounted.exact

/-- So what is counted as buffered is what was received and not read. -/
theorem Exact.buffered {stream : StreamState} (exact_ : stream.Exact) :
    stream.bufferedBytes = stream.unread := by
  have count := exact_.count
  have read := exact_.read
  unfold unread
  omega

end StreamState

namespace Books

/-- The application reports no more of a stream as read than was handed to it. -/
def honestLicence : Licence :=
  { Licence.free with
    reads := fun books id bytesRead => ∀ stream, books.streams.find? id = some stream →
      stream.expectedRxOffset + bytesRead ≤ stream.channel.sent.flatten.length }

/-- With honest reports every account in the table stays exact. -/
theorem honest_keeps [Hkdf] : Books.Keeps honestLicence fun books =>
    ∀ id stream, books.streams.find? id = some stream →
      stream.Accounted ∧ stream.expectedRxOffset ≤ stream.channel.sent.flatten.length := by
  apply each_keeps
  · intro streamType receiveWindow transmitWindow now
    exact ⟨StreamState.new_accounted streamType receiveWindow transmitWindow now, Nat.zero_le _⟩
  · rintro books id stream op found may ⟨accounted, read⟩
    have honest : stream.expectedRxOffset + op.reads ≤ stream.channel.sent.flatten.length := by
      rcases may with none | reported
      · rw [none]
        exact read
      · exact reported stream found
    exact ⟨op.apply_accounted accounted, (op.apply_expected accounted honest).2⟩

/-- Whatever is reported, the accounts hold. -/
theorem accounted_keeps [Hkdf] : Books.Keeps Licence.free fun books =>
    ∀ id stream, books.streams.find? id = some stream → stream.Accounted := by
  apply each_keeps
  · exact StreamState.new_accounted
  · intro books id stream op _ _ accounted
    exact op.apply_accounted accounted

end Books

namespace ZtConnectionActor

open Books

variable {CC : Type} [Hkdf] [HandshakeCrypto] [CongestionController CC]

/-- A report of bytes read covers no more of a stream than was handed to the application. -/
def Truthful (self : ZtConnectionActor CC) (event : Event) (_ : Host) : Prop :=
  ∀ streamId bytesRead stream, event = .streamDataRead streamId bytesRead →
    self.streams.find? streamId.toNat = some stream →
    stream.expectedRxOffset + bytesRead ≤ stream.channel.sent.flatten.length

omit [Hkdf] [HandshakeCrypto] [CongestionController CC] in
/-- Whether a report is truthful can be told from the state it finds. -/
theorem Truthful.of_all {self : ZtConnectionActor CC} {streamId : UInt32} {bytesRead : Nat} {host : Host}
    (enough : ((self.streams.find? streamId.toNat).all fun stream =>
      stream.expectedRxOffset + bytesRead ≤ stream.channel.sent.flatten.length) = true) :
    self.Truthful (.streamDataRead streamId bytesRead) host := by
  rintro _ _ stream ⟨⟩ found
  rw [found] at enough
  exact of_decide_eq_true enough

omit [Hkdf] [HandshakeCrypto] [CongestionController CC] in
/-- Such a turn reports honestly. -/
theorem Truthful.covers {self : ZtConnectionActor CC} {event : Event} {host : Host}
    (truthful : self.Truthful event host) : honestLicence.Covers event { self with host := host } :=
  { Licence.free_covers event { self with host := host } with
    receives := fun packet _ _ => Licence.receives_any (fun _ => trivial) (fun _ => trivial)
      (fun _ => trivial) (fun _ => trivial) (fun _ => trivial) packet
    reads := fun streamId bytesRead reads _ stream found =>
      truthful streamId bytesRead stream reads found }

omit [CongestionController CC] in
/-- An actor starts without streams. -/
theorem Created.streamless [EndpointCrypto] {actor : ZtConnectionActor CC} (created : Created actor)
    (id : Nat) : actor.streams.find? id = none := by
  cases created <;> rfl

/--
In every run whose reports of bytes read stay within what was handed to the application, the ranges a
stream holds are in order, apart and at or above its read head, its counters are in order, and the
bytes counted as buffered are those received and not read, each once. So is the window advertised to
the peer.
-/
theorem receiveAccounts_exact [EndpointCrypto] {actor : ZtConnectionActor CC} (created : Created actor)
    (host : Host) {events : List (Event × Host)}
    (truthful : Throughout Truthful (actor.start host) events) :
    (∀ id stream, ((actor.start host).turns events).streams.find? id = some stream → stream.Exact) ∧
      ((actor.start host).turns events).refreshLocalWindow.localWindow =
        ((actor.start host).turns events).config.initialMaxData -
          (((actor.start host).turns events).streams.values.map StreamState.unread).sum := by
  have step : ∀ (self : ZtConnectionActor CC) event turn, self.Truthful event turn →
      (∀ id stream, (self.books []).streams.find? id = some stream → stream.Accounted ∧
        stream.expectedRxOffset ≤ stream.channel.sent.flatten.length) →
      ∀ id stream, ((self.step event turn).books []).streams.find? id = some stream →
        stream.Accounted ∧ stream.expectedRxOffset ≤ stream.channel.sent.flatten.length :=
    fun self event turn truthful held => honest_keeps.step truthful.covers held
  have start : ∀ id stream, ((actor.start host).books []).streams.find? id = some stream →
      stream.Accounted ∧ stream.expectedRxOffset ≤ stream.channel.sent.flatten.length := by
    refine honest_keeps.start fun id stream found => ?_
    have none : actor.streams.find? id = none := created.streamless id
    exact absurd (none.symm.trans found) nofun
  have held := turns_invariant step truthful start
  generalize (actor.start host).turns events = self at held
  have exact_ : ∀ id stream, self.streams.find? id = some stream → stream.Exact :=
    fun id stream found => (held id stream found).1.exactly (held id stream found).2
  refine ⟨exact_, congrArg (self.config.initialMaxData - List.sum ·) (List.map_congr_left ?_)⟩
  intro stream stored
  -- Every stream listed is in the table under its id.
  obtain ⟨entry, member, rfl⟩ := List.mem_map.mp stored
  exact (exact_ entry.1 entry.2 ((SortedMap.find?_eq_some_iff _ _ _).mpr member)).buffered

end ZtConnectionActor

open Meeting in
/-- Data with a gap in it, of which two bytes are read. -/
def Meeting.gapped : List (Event × Host) :=
  [(.incomingPacket (message 2 [.stream 0 .bidirectional 0 [1, 2, 3], .stream 0 .bidirectional 5 [6]]) 5,
      hostTaking 3),
    (.streamDataRead 0 2, hostTaking 3)]

open Meeting in
/-- One byte handed over and one beyond the gap are left of it. -/
theorem gapped_exact :
    ∃ stream, ((narrowServer.start (hostTaking 0)).turns gapped).streams.find? 0 = some stream ∧
      stream.bufferedBytes = 2 ∧ stream.Exact := by
  have created : ZtConnectionActor.Created narrowServer := .server _ acceptance
  have truthful : (narrowServer.start (hostTaking 0)).Throughout ZtConnectionActor.Truthful gapped := by
    have other : (narrowServer.start (hostTaking 0)).Truthful (.incomingPacket (message 2
        [.stream 0 .bidirectional 0 [1, 2, 3], .stream 0 .bidirectional 5 [6]]) 5) (hostTaking 3) := nofun
    exact ⟨other, .of_all (by decide +kernel), trivial⟩
  have exact_ := (ZtConnectionActor.receiveAccounts_exact created (hostTaking 0) truthful).1
  have counted : (((narrowServer.start (hostTaking 0)).turns gapped).streams.find? 0).map
      StreamState.bufferedBytes = some 2 := by decide +kernel
  obtain ⟨stream, found, buffered⟩ := Option.map_eq_some_iff.mp counted
  exact ⟨stream, found, buffered, exact_ 0 stream found⟩

namespace ZtConnectionActor

open Books

variable {CC : Type} [Hkdf] [HandshakeCrypto] [CongestionController CC]

/-- What is known of the end of a stream. -/
structure Ending (stream : StreamState) : Prop where
  order : ∀ finalSize, stream.finalRxOffset = some finalSize →
    stream.receiveBuffer.readHead ≤ stream.highestRxOffset ∧ stream.highestRxOffset ≤ finalSize
  /-- The channel is closed only once everything was handed over. -/
  closed : stream.appTx = false →
    stream.finalRxOffset = some stream.channel.sent.flatten.length
  /-- Nothing at or beyond the final size was handed over. -/
  delivered : ∀ finalSize, stream.finalRxOffset = some finalSize →
    stream.channel.sent.flatten.length ≤ finalSize

/--
In every run, whatever the peer sends and the application reads, the final size of a live stream does
not change once it is known, nothing is received or handed over beyond it, and the channel to the
application is closed only when exactly that many bytes were handed over.
-/
theorem finalSize_kept [EndpointCrypto] {actor : ZtConnectionActor CC} (created : Created actor)
    (host : Host) (events : List (Event × Host)) {id : Nat} {stream : StreamState}
    (live : ((actor.start host).turns events).streams.find? id = some stream) :
    Ending stream ∧ ∀ finalSize, stream.finalRxOffset = some finalSize → ∀ more last,
      (((actor.start host).turns events).turns more).streams.find? id = some last →
      id ∉ (((actor.start host).turns events).turns more).createdIds.drop
        ((actor.start host).turns events).createdIds.length →
      last.finalRxOffset = some finalSize := by
  have start : ∀ id stream, ((actor.start host).books []).streams.find? id = some stream →
      stream.Accounted := by
    refine accounted_keeps.start fun id stream found => ?_
    have none : actor.streams.find? id = none := created.streamless id
    exact absurd (none.symm.trans found) nofun
  have accounted : stream.Accounted := accounted_keeps.turns events start id stream live
  have heads := accounted.buffer.heads
  have highest := accounted.highest
  have delivered := accounted.delivered
  refine ⟨⟨fun finalSize known => ?_, fun shut => ?_, fun finalSize known => ?_⟩,
    fun finalSize known more last after kept => ?_⟩
  · exact ⟨heads.1.trans highest, accounted.final finalSize known⟩
  · rw [delivered]
    exact accounted.closed shut
  · have final := accounted.final finalSize known
    omega
  · obtain ⟨ops, run⟩ := turns_descends live after kept
    rw [run]
    exact (StreamOp.run_fixed ops stream).2 finalSize known

end ZtConnectionActor

open Meeting in
/-- A stream whose bytes were all handed over is closed at its final size. -/
theorem finished_stream_kept :
    ∃ stream, ((narrowServer.start (hostTaking 0)).turns
        [(.incomingPacket (message 2 [.stream 0 .bidirectional 0 [1, 2, 3], .streamClose 0 3]) 5,
          hostTaking 3)]).streams.find? 0 = some stream ∧
      stream.appTx = false ∧ stream.finalRxOffset = some 3 ∧ ZtConnectionActor.Ending stream := by
  have created : ZtConnectionActor.Created narrowServer := .server _ acceptance
  have known : (((narrowServer.start (hostTaking 0)).turns
      [(.incomingPacket (message 2 [.stream 0 .bidirectional 0 [1, 2, 3], .streamClose 0 3]) 5,
        hostTaking 3)]).streams.find? 0).map (fun stream => (stream.appTx, stream.finalRxOffset)) =
      some (false, some 3) := by decide +kernel
  obtain ⟨stream, found, both⟩ := Option.map_eq_some_iff.mp known
  have ending := (ZtConnectionActor.finalSize_kept created (hostTaking 0) _ found).1
  exact ⟨stream, found, congrArg Prod.fst both, congrArg Prod.snd both, ending⟩

end Zetta
