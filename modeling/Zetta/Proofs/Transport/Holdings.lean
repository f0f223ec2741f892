import Zetta.Proofs.Transport.Handling

/-! The payloads a connection holds, and where each of them comes from. -/

namespace Zetta

/-- A payload is queued, in flight or in hand. -/
def Books.Holds (self : Books) (payload : UnackedPayload) : Prop :=
  (∃ entry ∈ self.unpacedQueue, entry.1 = payload) ∨ (∃ entry ∈ self.hand, entry.1 = payload) ∨
    ∃ entry ∈ self.unackedPackets.iter, entry.2.payload = payload

/-- A payload the connection did not hold before. -/
inductive Books.Fresh (licence : Licence) (self : Books) : UnackedPayload → Prop
  | issued {payload : UnackedPayload} (may : payload.len = 0 ∨ licence.issues self payload)
      (small : payload.len ≤ self.search.mtu - 64) (searches : payload.isProbe = false)
      (unstreamed : payload.isStream = false) : Fresh licence self payload
  | written {id offset : Nat} {streamType : StreamType} {data : Bytes} {stream : StreamState}
      (may : licence.writes self (.stream id streamType offset data))
      (found : self.streams.find? id = some stream) (kind : stream.streamType = streamType)
      (sendable : streamType ≠ .unidirectionalIn) :
      Fresh licence self (.stream id streamType offset data)
  | probed {target : Nat} (may : licence.probes self) (wide : self.search.low + 10 < self.search.high)
      (halfway : target = self.search.low + (self.search.high - self.search.low) / 2) :
      Fresh licence self (.mtuProbe target)

/-- Windows with the same contents hold the same payloads under the same numbers and marks. -/
theorem UnackedWindow.mem_of_contents {left right : UnackedWindow} {entry : Nat × UnackedPacket}
    (same : left.contents = right.contents) (member : entry ∈ left.iter) :
    ∃ other ∈ right.iter, other.1 = entry.1 ∧ other.2.payload = entry.2.payload ∧
      other.2.isMtuProbe = entry.2.isMtuProbe := by
  have listed : (entry.1, entry.2.payload, entry.2.isMtuProbe, entry.2.sentBytes) ∈ left.contents :=
    List.mem_map.mpr ⟨entry, member, rfl⟩
  rw [same] at listed
  obtain ⟨other, stored, equal⟩ := List.mem_map.mp listed
  exact ⟨other, stored, congrArg (·.1) equal, congrArg (·.2.1) equal, congrArg (·.2.2.1) equal⟩

/-- What is in a window after a packet was put into it. -/
theorem mem_inserted {window : UnackedWindow} {number : Nat} {packet : UnackedPacket}
    {payload : UnackedPayload}
    (member : ∃ entry ∈ (window.insert number packet).iter, entry.2.payload = payload) :
    packet.payload = payload ∨ ∃ entry ∈ window.iter, entry.2.payload = payload := by
  obtain ⟨entry, stored, rfl⟩ := member
  rcases UnackedWindow.mem_iter_insert stored with rfl | old
  · exact .inl rfl
  · exact .inr ⟨entry, old, rfl⟩

/-- Every payload held after a deed was held before it, or is fresh. -/
theorem Deed.origin [Hkdf] {licence : Licence} {before after : Books} (deed : Deed licence before after)
    {payload : UnackedPayload} (held : after.Holds payload) :
    before.Holds payload ∨ before.Fresh licence payload := by
  cases deed with
  | hear | note | count | draw | rotate | follow | phase | openLocal | openPeer | grant | table | push
  | take => exact .inl held
  | post _ _ _ offers | postLong _ offers => cases offers <;> exact .inl held
  | issue may small searches unstreamed =>
    rcases held with queued | ⟨entry, member, rfl⟩ | flying
    · exact .inl (.inl queued)
    · rcases List.mem_cons.mp member with rfl | old
      · exact .inr (.issued may small searches unstreamed)
      · exact .inl (.inr (.inl ⟨entry, old, rfl⟩))
    · exact .inl (.inr (.inr flying))
  | dispatch now inHand _ _ offers =>
    -- What was in hand is now in flight.
    refine .inl ?_
    cases offers <;>
    · rcases held with queued | ⟨entry, member, rfl⟩ | flying
      · exact .inl queued
      · exact .inr (.inl ⟨entry, inHand ▸ List.mem_cons_of_mem _ member, rfl⟩)
      · rcases mem_inserted flying with rfl | old
        · exact .inr (.inl ⟨_, inHand ▸ List.mem_cons_self, rfl⟩)
        · exact .inr (.inr old)
  | requeue inHand fails =>
    -- What was in hand is now queued.
    refine .inl ?_
    cases fails
    rcases held with ⟨entry, member, rfl⟩ | ⟨entry, member, rfl⟩ | flying
    · rcases List.mem_cons.mp member with rfl | old
      · exact .inr (.inl ⟨_, inHand ▸ List.mem_cons_self, rfl⟩)
      · exact .inl ⟨entry, old, rfl⟩
    · exact .inr (.inl ⟨entry, inHand ▸ List.mem_cons_of_mem _ member, rfl⟩)
    · exact .inr (.inr flying)
  | forsake inHand fails =>
    refine .inl ?_
    cases fails
    rcases held with queued | ⟨entry, member, rfl⟩ | flying
    · exact .inl queued
    · exact .inr (.inl ⟨entry, inHand ▸ List.mem_cons_of_mem _ member, rfl⟩)
    · exact .inr (.inr flying)
  | write may found kind sendable =>
    rcases held with ⟨entry, member, rfl⟩ | others
    · rcases List.mem_append.mp member with old | new
      · exact .inl (.inl ⟨entry, old, rfl⟩)
      · rw [List.mem_singleton.mp new]
        exact .inr (.written may found kind sendable)
    · exact .inl (.inr others)
  | paced now front _ _ offers =>
    -- What was queued is now in flight.
    refine .inl ?_
    cases offers <;>
    · rcases held with ⟨entry, member, rfl⟩ | inHand | flying
      · exact .inl ⟨entry, front ▸ List.mem_cons_of_mem _ member, rfl⟩
      · exact .inr (.inl inHand)
      · rcases mem_inserted flying with rfl | old
        · exact .inl ⟨_, front ▸ List.mem_cons_self, rfl⟩
        · exact .inr (.inr old)
  | @retry _ retries _ front =>
    refine .inl ?_
    rcases held with ⟨entry, member, rfl⟩ | others
    · rcases List.mem_cons.mp member with rfl | old
      · exact .inl ⟨(_, retries), front ▸ List.mem_cons_self, rfl⟩
      · exact .inl ⟨entry, front ▸ List.mem_cons_of_mem _ old, rfl⟩
    · exact .inr others
  | probe now may wide halfway _ _ _ offers =>
    cases offers <;>
    · rcases held with queued | inHand | flying
      · exact .inl (.inl queued)
      · exact .inl (.inr (.inl inHand))
      · rcases mem_inserted flying with rfl | old
        · exact .inr (.probed may wide halfway)
        · exact .inl (.inr (.inr old))
  | complete =>
    rcases held with queued | inHand | ⟨entry, member, -⟩
    · exact .inl (.inl queued)
    · exact .inl (.inr (.inl inHand))
    · cases member
  | rescan _ same =>
    refine .inl ?_
    rcases held with queued | inHand | ⟨entry, member, rfl⟩
    · exact .inl queued
    · exact .inr (.inl inHand)
    · obtain ⟨old, stored, -, payload, -⟩ := UnackedWindow.mem_of_contents same member
      exact .inr (.inr ⟨old, stored, payload⟩)
  | settle split _ _ _ reliable =>
    refine .inl ?_
    rcases held with queued | ⟨entry, member, rfl⟩ | ⟨entry, member, rfl⟩
    · exact .inl queued
    · rcases List.mem_append.mp member with again | old
      · obtain ⟨packet, left, -, -, carried⟩ := reliable entry again
        exact .inr (.inr ⟨packet, split.mem_iff.mpr (List.mem_append_left _ left), carried.symm⟩)
      · exact .inr (.inl ⟨entry, old, rfl⟩)
    · exact .inr (.inr ⟨entry, split.mem_iff.mpr (List.mem_append_right _ member), rfl⟩)

/-- What a packet is that goes out in a deed. -/
inductive Books.Sends (self : Books) (record : SentRecord) : Prop
  | long (long : record.packet.header.isLong = true)
  | loose {frame : Frame} {number : Nat} (loose : frame.isData = false)
      (seals : self.Seals .data number (Books.frameText frame) record)
  | carries {payload : UnackedPayload} (held : self.Holds payload) (builds : self.Builds payload record)
  | probes {target : Nat}
      (seals : self.Seals .mtuProbe self.nextPacketNumber (Books.probeText target) record)

/-- Offering a packet to the socket writes at most that packet down. -/
theorem Books.Offers.sent {before after : Books} {offered record : SentRecord}
    (offers : before.Offers offered after) (member : .sent record ∈ after.log) :
    .sent record ∈ before.log ∨ record = offered := by
  cases offers with
  | taken =>
    rcases List.mem_append.mp member with old | new
    · exact .inl old
    · cases List.mem_singleton.mp new
      exact .inr rfl
  | held => exact .inl member

/-- An effect that is no packet leaves the packets written down as they are. -/
theorem Books.sent_of_append {log : List Effect} {effect : Effect} {record : SentRecord}
    (member : .sent record ∈ log ++ [effect]) (other : effect ≠ .sent record) : .sent record ∈ log := by
  rcases List.mem_append.mp member with old | new
  · exact old
  · exact absurd (List.mem_singleton.mp new).symm other

/-- What a deed can write down. -/
inductive Books.Notes (licence : Licence) (self : Books) : Effect → Prop
  | sent {record : SentRecord} (sends : self.Sends record) : Notes licence self (.sent record)
  | issued {payload : UnackedPayload} (fresh : self.Fresh licence payload) :
      Notes licence self (.issued payload)
  | created (id : Nat) : Notes licence self (.created id)
  | aside {effect : Effect} (aside : effect.isAside = true) : Notes licence self effect

/-- The history grew by effects of a kind. -/
def Books.Grown (kind : Effect → Prop) (log : List Effect) (self : Books) : Prop :=
  ∃ more, self.log = log ++ more ∧ ∀ effect ∈ more, kind effect

namespace Books.Grown

variable {kind : Effect → Prop} {log : List Effect} {before after : Books}

/-- At first it did not grow at all. -/
theorem refl (same : after.log = log) : Grown kind log after :=
  ⟨[], same.trans (List.append_nil _).symm, nofun⟩

/-- It may grow by one more effect. -/
theorem snoc (grown : Grown kind log before) {effect : Effect} (last : kind effect)
    (more : after.log = before.log ++ [effect]) : Grown kind log after := by
  obtain ⟨earlier, same, each⟩ := grown
  refine ⟨earlier ++ [effect], by rw [more, same, List.append_assoc], ?_⟩
  exact List.forall_mem_append.mpr ⟨each, List.forall_mem_singleton.mpr last⟩

/-- Or by several. -/
theorem trans (first : Grown kind log before) (second : Grown kind before.log after) :
    Grown kind log after := by
  obtain ⟨earlier, start, each⟩ := first
  obtain ⟨later, rest, others⟩ := second
  refine ⟨earlier ++ later, by rw [rest, start, List.append_assoc], ?_⟩
  exact List.forall_mem_append.mpr ⟨each, others⟩

/-- Handing a packet to the socket writes at most that packet down. -/
theorem offered {record : SentRecord} (offers : before.Offers record after)
    (own : kind (.sent record)) : Grown kind before.log after := by
  cases offers with
  | taken => exact (refl rfl : Grown kind before.log before).snoc own rfl
  | held => exact refl rfl

end Books.Grown

/-- Every deed writes down only what it does. -/
theorem Deed.logged [Hkdf] {licence : Licence} {before after : Books}
    (deed : Deed licence before after) :
    after.Grown (before.Notes licence) before.log := by
  have start : before.Grown (before.Notes licence) before.log := .refl rfl
  cases deed with
  | hear | count | draw | retry | follow | phase | complete | grant | table | push | take | rescan
  | settle => exact .refl rfl
  | requeue _ fails | forsake _ fails => cases fails; exact .refl rfl
  | note aside => exact start.snoc (.aside aside) rfl
  | rotate => exact start.snoc (.aside rfl) rfl
  | issue may small searches unstreamed =>
    exact start.snoc (.issued (.issued may small searches unstreamed)) rfl
  | write may found kind sendable => exact start.snoc (.issued (.written may found kind sendable)) rfl
  | openLocal | openPeer => exact start.snoc (.created _) rfl
  | post loose _ seals offers => exact .offered offers (.sent (.loose loose seals))
  | postLong long offers => exact .offered offers (.sent (.long long))
  | dispatch _ inHand _ builds offers =>
    have held : before.Holds _ := .inr (.inl ⟨_, inHand ▸ List.mem_cons_self, rfl⟩)
    have offered := Books.Grown.offered offers (.sent (.carries held builds) : before.Notes licence _)
    exact offered
  | paced _ front _ builds offers =>
    have held : before.Holds _ := .inl ⟨_, front ▸ List.mem_cons_self, rfl⟩
    have offered := Books.Grown.offered offers (.sent (.carries held builds) : before.Notes licence _)
    exact offered
  | probe _ may wide halfway _ seals _ offers =>
    have offered := Books.Grown.offered offers (.sent (.probes seals) : before.Notes licence _)
    exact offered.snoc (.issued (.probed may wide halfway)) rfl

/-- What every deed may write down, a run of them may. -/
theorem Books.grown_keeps [Hkdf] {licence : Licence} {kind : Effect → Prop} (log : List Effect)
    (allowed : ∀ (books : Books) (effect : Effect), books.Notes licence effect → kind effect) :
    Books.Keeps licence (Books.Grown kind log) where
  host _ _ grown := grown
  deed := by
    intro before after deed grown
    obtain ⟨more, same, each⟩ := deed.logged
    exact grown.trans ⟨more, same, fun effect member => allowed before effect (each effect member)⟩

/-- Every packet that went out by the end of a deed went out before it, or in it. -/
theorem Deed.sent [Hkdf] {licence : Licence} {before after : Books} (deed : Deed licence before after)
    {record : SentRecord} (member : .sent record ∈ after.log) :
    .sent record ∈ before.log ∨ before.Sends record := by
  obtain ⟨more, grown, each⟩ := deed.logged
  rw [grown] at member
  rcases List.mem_append.mp member with old | new
  · exact .inl old
  · cases each _ new with
    | sent sends => exact .inr sends
    | aside aside => cases aside

/-- What a deed can do to the keys. -/
inductive Books.KeyStep [Hkdf] (before after : Books) : Prop
  | kept (crypto : after.crypto = before.crypto) (epoch : after.currentKeyEpoch = before.currentKeyEpoch)
      (secret : after.ephemeralSecret = before.ephemeralSecret) (dcid : after.dcid = before.dcid)
  | moved {crypto : CryptoContext} (held : before.crypto = some crypto)
      (rotated : after.crypto = some crypto.rotateKeys)
      (epoch : after.currentKeyEpoch = before.currentKeyEpoch + 1)
      (secret : after.ephemeralSecret = before.ephemeralSecret) (dcid : after.dcid = before.dcid)
  /-- A client's handshake ends. -/
  | installed (master : Bytes) (held : before.ephemeralSecret.isSome = true)
      (fresh : after.crypto = some ((CryptoContext.withSecret master true).applyEpochKeys 0))
      (epoch : after.currentKeyEpoch = before.currentKeyEpoch) (secret : after.ephemeralSecret = none)

/-- Keys are installed once and then moved on. -/
theorem Deed.keyStep [Hkdf] {licence : Licence} {before after : Books}
    (deed : Deed licence before after) : before.KeyStep after := by
  cases deed with
  | hear | note | count | draw | issue | write | retry | phase | openLocal | openPeer | grant | table
  | push | take | rescan | settle => exact .kept rfl rfl rfl rfl
  | post _ _ _ offers | postLong _ offers | dispatch _ _ _ _ offers | paced _ _ _ _ offers
  | probe _ _ _ _ _ _ _ offers => cases offers <;> exact .kept rfl rfl rfl rfl
  | requeue _ fails | forsake _ fails => cases fails; exact .kept rfl rfl rfl rfl
  | rotate keys | follow keys => exact .moved keys rfl rfl rfl rfl
  | complete master _ _ held =>
    exact .installed master (Option.isSome_iff_exists.mpr ⟨_, held⟩) rfl rfl rfl

/-- Client and server stay what they are, under the same configuration and the same base MTU. -/
theorem Deed.fixed [Hkdf] {licence : Licence} {before after : Books} (deed : Deed licence before after) :
    after.isClient = before.isClient ∧ after.config = before.config ∧ after.baseMtu = before.baseMtu := by
  cases deed with
  | post _ _ _ offers | postLong _ offers | dispatch _ _ _ _ offers | paced _ _ _ _ offers
  | probe _ _ _ _ _ _ _ offers => cases offers <;> exact ⟨rfl, rfl, rfl⟩
  | requeue _ fails | forsake _ fails => cases fails; exact ⟨rfl, rfl, rfl⟩
  | _ => exact ⟨rfl, rfl, rfl⟩

/-- Probes are told apart: they are in the window only, and marked there. -/
structure Books.Marked (books : Books) : Prop where
  queue : ∀ entry ∈ books.unpacedQueue, entry.1.isProbe = false
  hand : ∀ entry ∈ books.hand, entry.1.isProbe = false
  window : ∀ entry ∈ books.unackedPackets.iter, entry.2.isMtuProbe = entry.2.payload.isProbe

/-- A packet launched is marked as its payload says. -/
theorem Books.Marked.launched {window : UnackedWindow} {number : Nat} {packet : UnackedPacket}
    (marked : ∀ entry ∈ window.iter, entry.2.isMtuProbe = entry.2.payload.isProbe)
    (own : packet.isMtuProbe = packet.payload.isProbe) :
    ∀ entry ∈ (window.insert number packet).iter, entry.2.isMtuProbe = entry.2.payload.isProbe := by
  intro entry member
  rcases UnackedWindow.mem_iter_insert member with rfl | old
  · exact own
  · exact marked entry old

/-- No deed confuses a probe with another payload. -/
theorem Books.marked_keeps [Hkdf] (licence : Licence) : Books.Keeps licence Books.Marked where
  host _ _ marked := ⟨marked.queue, marked.hand, marked.window⟩
  deed := by
    intro before after deed marked
    obtain ⟨queue, hand, window⟩ := marked
    cases deed with
    | hear | note | count | draw | rotate | follow | phase | openLocal | openPeer | grant | table | push
    | take => exact ⟨queue, hand, window⟩
    | post _ _ _ offers | postLong _ offers => cases offers <;> exact ⟨queue, hand, window⟩
    | issue _ _ searches => exact ⟨queue, List.forall_mem_cons.mpr ⟨searches, hand⟩, window⟩
    | dispatch now inHand _ _ offers =>
      rw [inHand] at hand
      obtain ⟨-, others⟩ := List.forall_mem_cons.mp hand
      cases offers <;> exact ⟨queue, others, Marked.launched window rfl⟩
    | requeue inHand fails =>
      rw [inHand] at hand
      obtain ⟨own, others⟩ := List.forall_mem_cons.mp hand
      cases fails
      exact ⟨List.forall_mem_cons.mpr ⟨own, queue⟩, others, window⟩
    | forsake inHand fails =>
      rw [inHand] at hand
      cases fails
      exact ⟨queue, (List.forall_mem_cons.mp hand).2, window⟩
    | write may =>
      exact ⟨List.forall_mem_append.mpr ⟨queue, List.forall_mem_singleton.mpr rfl⟩, hand, window⟩
    | paced now front _ _ offers =>
      rw [front] at queue
      obtain ⟨-, others⟩ := List.forall_mem_cons.mp queue
      cases offers <;> exact ⟨others, hand, Marked.launched window rfl⟩
    | retry front =>
      rw [front] at queue
      exact ⟨List.forall_mem_cons.mpr (List.forall_mem_cons.mp queue), hand, window⟩
    | probe now _ _ _ _ _ _ offers => cases offers <;> exact ⟨queue, hand, Marked.launched window rfl⟩
    | complete => exact ⟨queue, hand, nofun⟩
    | rescan _ same =>
      refine ⟨queue, hand, fun entry member => ?_⟩
      obtain ⟨old, stored, -, payload, mark⟩ := UnackedWindow.mem_of_contents same member
      rw [← payload, ← mark]
      exact window old stored
    | settle split _ _ _ reliable =>
      refine ⟨queue, List.forall_mem_append.mpr ⟨fun entry member => ?_, hand⟩, fun entry member => ?_⟩
      · -- A payload taken from a packet that was no probe is none either.
        obtain ⟨packet, left, plain, -, carried⟩ := reliable entry member
        rw [carried, ← window packet (split.mem_iff.mpr (List.mem_append_left _ left))]
        exact plain
      · exact window entry (split.mem_iff.mpr (List.mem_append_right _ member))

/-- What is queued or in hand is no probe. -/
theorem Books.Marked.plain {books : Books} (marked : books.Marked) {payload : UnackedPayload}
    (held : ∃ entry ∈ books.unpacedQueue ++ books.hand, entry.1 = payload) : payload.isProbe = false := by
  obtain ⟨entry, member, rfl⟩ := held
  rcases List.mem_append.mp member with queued | inHand
  · exact marked.queue entry queued
  · exact marked.hand entry inHand

/-- The part of the books that is about packets in flight. -/
structure Flight where
  window : UnackedWindow
  bytes : Nat
  number : Nat
  search : MtuSearch
  probes : SortedMap Nat Nat
  failures : Nat

namespace Books

/-- What the books say about packets in flight. -/
def flight (self : Books) : Flight :=
  ⟨self.unackedPackets, self.bytesInFlight, self.nextPacketNumber, self.search, self.mtuProbes,
    self.probeFailures⟩

/-- What a deed does to the packets in flight. -/
inductive FlightStep (licence : Licence) (before after : Books) : Prop
  | kept {number : Nat} (later : before.nextPacketNumber ≤ number)
      (same : after.flight = { before.flight with number := number })
  | launched {packet : UnackedPacket}
      (held : ∃ entry ∈ before.unpacedQueue ++ before.hand, entry.1 = packet.payload)
      (mark : packet.isMtuProbe = packet.payload.isProbe)
      (same : after.flight = { before.flight with
        window := before.unackedPackets.insert before.nextPacketNumber packet
        bytes := before.bytesInFlight + packet.sentBytes
        number := before.nextPacketNumber + 1 })
  | probed {now : Instant} {target size : Nat} (may : licence.probes before)
      (wide : before.search.low + 10 < before.search.high)
      (halfway : target = before.search.low + (before.search.high - before.search.low) / 2)
      (keys : before.crypto.isSome = true) (small : size ≤ maxUdpPayload)
      (same : after.flight = { before.flight with
        window := before.unackedPackets.insert before.nextPacketNumber ⟨.mtuProbe target, now, 0, true, size⟩
        bytes := saturatingAdd before.bytesInFlight size
        number := before.nextPacketNumber + 1
        probes := before.mtuProbes.insert before.nextPacketNumber target })
  | completed (secret : before.ephemeralSecret.isSome = true)
      (same : after.flight = { before.flight with window := .new, bytes := 0 })
  | rescanned {window : UnackedWindow} (extent : window.extent = before.unackedPackets.extent)
      (contents : window.contents = before.unackedPackets.contents)
      (same : after.flight = { before.flight with window := window })
  | settled {window : UnackedWindow} {gone : List (Nat × UnackedPacket)}
      {outcomes : List ProbeOutcome} {search : MtuSearch} {probes : SortedMap Nat Nat} {failures : Nat}
      (parts : before.unackedPackets.iter.Perm (gone ++ window.iter))
      (extent : window.extent = before.unackedPackets.extent)
      (known : (outcomes.map ProbeOutcome.target).Sublist (probeTargets gone))
      (learned : search = outcomes.foldl MtuSearch.learn before.search ∨
        licence.recovers before ∧ before.baseMtu < before.search.mtu ∧
          search = (outcomes.foldl MtuSearch.learn before.search).recover before.baseMtu)
      (fates : before.Fates licence gone probes failures)
      (same : after.flight =
        ⟨window, before.bytesInFlight - bytesOf gone, before.nextPacketNumber, search, probes, failures⟩)

/-- Sealing a packet takes keys. -/
theorem Seals.keys {books : Books} {pType : PacketType} {number : Nat} {text : PacketHeader → Bytes}
    {record : SentRecord} (seals : books.Seals pType number text record) :
    books.crypto.isSome = true := by
  obtain ⟨crypto, _, held, -⟩ := seals
  rw [held]
  rfl

/-- The receiver of a sealed packet finds the frames of its text. -/
theorem Seals.frames {books : Books} {pType : PacketType} {number : Nat} {text : PacketHeader → Bytes}
    {record : SentRecord} (seals : books.Seals pType number text record) :
    record.packet.frames = (Frame.decodeFrames (text record.packet.header)).1 := by
  obtain ⟨crypto, pnLen, -, -, -, -, packet⟩ := seals
  rw [packet]
  rfl

end Books

/-- Every deed is one of these, as far as packets in flight go. -/
theorem Deed.flightStep [Hkdf] {licence : Licence} {before after : Books}
    (deed : Deed licence before after) : before.FlightStep licence after := by
  cases deed with
  | hear | note | count | issue | write | retry | rotate | follow | phase | openLocal | openPeer | grant
  | table | push | take => exact .kept le_rfl rfl
  | draw => exact .kept (Nat.le_succ _) rfl
  | post _ _ _ offers | postLong _ offers => cases offers <;> exact .kept le_rfl rfl
  | requeue _ fails | forsake _ fails =>
    -- A failed payload may have used up a number.
    cases fails with
    | mk drawn =>
      rcases drawn with rfl | ⟨rfl, -⟩
      · exact .kept le_rfl rfl
      · exact .kept (Nat.le_succ _) rfl
  | @dispatch offered payload retries rest record now inHand _ _ offers =>
    have held : ∃ entry ∈ before.unpacedQueue ++ before.hand, entry.1 = payload :=
      ⟨_, List.mem_append_right _ (inHand ▸ List.mem_cons_self), rfl⟩
    cases offers <;> exact @Books.FlightStep.launched licence before _
      ⟨payload, now, retries, payload.isProbe, record.packet.size⟩ held rfl rfl
  | @paced offered payload retries rest record now front _ _ offers =>
    have held : ∃ entry ∈ before.unpacedQueue ++ before.hand, entry.1 = payload :=
      ⟨_, List.mem_append_left _ (front ▸ List.mem_cons_self), rfl⟩
    cases offers <;> exact @Books.FlightStep.launched licence before _
      ⟨payload, now, retries, payload.isProbe, record.packet.size⟩ held rfl rfl
  | probe now may wide halfway _ seals small offers =>
    have keys := seals.keys
    cases offers <;> exact .probed may wide halfway keys small rfl
  | complete _ _ _ held => exact .completed (Option.isSome_iff_exists.mpr ⟨_, held⟩) rfl
  | rescan extent same => exact .rescanned extent same rfl
  | settle parts extent known learned _ fates => exact .settled parts extent known learned fates rfl

end Zetta
