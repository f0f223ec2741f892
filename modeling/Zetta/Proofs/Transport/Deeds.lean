import Zetta.Machine.Books
import Zetta.Proofs.Transport.Conduct
import Zetta.Proofs.Transport.Size

/-! Every handler of the actor is a sequence of deeds, whatever the peer sends. -/

namespace Zetta

namespace Books

variable [Hkdf] {licence : Licence} {books after : Books}

/-- The keys stay, or the count of packets moves them on. -/
inductive Rotates (self : Books) : Books → Prop
  | stays : Rotates self self
  | moves {crypto : CryptoContext} (keys : self.crypto = some crypto) (active : self.state = .active) :
      Rotates self { self with
        crypto := some crypto.rotateKeys
        currentKeyEpoch := self.currentKeyEpoch + 1
        log := self.log ++ [.rotated self.currentKeyEpoch] }

/-- A payload goes out in a packet of its own, and the packet is counted. -/
def Launches (self : Books) (payload : UnackedPayload) (retries : Nat) (after : Books) : Prop :=
  ∃ record offered now, self.nextPacketNumber + 1 < u64Size ∧ self.Builds payload record ∧
    self.Offers record offered ∧
    (offered.launch ⟨payload, now, retries, payload.isProbe, record.packet.size⟩).Rotates after

/-- A payload in hand that goes out. -/
theorem Launches.dispatched {payload : UnackedPayload} {retries : Nat}
    {rest : List (UnackedPayload × Nat)} (launches : books.Launches payload retries after)
    (held : books.hand = (payload, retries) :: rest) :
    Relation.ReflTransGen (Deed licence) books { after with hand := rest } := by
  obtain ⟨record, offered, now, fits, builds, offers, rotates⟩ := launches
  have sent : Deed licence books _ := .dispatch now held fits builds offers
  -- Counting the packet is at most one more deed, which does not look at the hand.
  cases rotates with
  | stays => exact .single sent
  | moves keys active => exact .tail (.single sent) (.rotate keys active)

/-- The payload at the front of the queue goes out. -/
theorem Launches.paced {payload : UnackedPayload} {retries : Nat}
    {rest : List (UnackedPayload × Nat)} (launches : books.Launches payload retries after)
    (front : books.unpacedQueue = (payload, retries) :: rest) :
    Relation.ReflTransGen (Deed licence) books
      { after with unpacedQueue := rest, queuedBytes := after.queuedBytes - payload.len } := by
  obtain ⟨record, offered, now, fits, builds, offers, rotates⟩ := launches
  have sent : Deed licence books _ := .paced now front fits builds offers
  cases rotates with
  | stays => exact .single sent
  | moves keys active => exact .tail (.single sent) (.rotate keys active)

/-- A payload that fails to go out uses up a number and answers at most. -/
theorem Fails.run {failed : Books} {payload : UnackedPayload}
    (fails : books.Fails payload failed) : Relation.ReflTransGen (Deed licence) books failed := by
  cases fails with
  | mk drawn fewer fault =>
    rcases drawn with rfl | ⟨rfl, fits⟩
    · exact .single (.hear fewer)
    · exact .tail (.single (.draw fits)) (.hear fewer)

/-- Sending leaves the queue alone. -/
theorem Launches.queue {payload : UnackedPayload} {retries : Nat}
    (launches : books.Launches payload retries after) :
    after.unpacedQueue = books.unpacedQueue := by
  obtain ⟨record, offered, now, fits, builds, offers, rotates⟩ := launches
  cases rotates <;> cases offers <;> rfl

end Books

namespace ZtConnectionActor

open Program

variable {CC : Type} [Hkdf] {licence : Licence}

section Packets

omit [Hkdf]

/-- What the socket does with a packet, and why it may refuse it. -/
theorem sendmsgVectored_exact (packet : Packet) (epoch : Nat) (self : ZtConnectionActor CC) :
    (∃ after : ZtConnectionActor CC, exec (sendmsgVectored packet epoch) self = (.ok (), after) ∧
        (∀ hand, (self.books hand).Offers ⟨packet, epoch, self.addr⟩ (after.books hand)) ∧
        (self.state ≠ .handshaking → packet.size ≤ maxUdpPayload)) ∨
      ∃ host blocked, exec (sendmsgVectored packet epoch) self =
          (.error .io, { self with host := host, socketBlocked := blocked }) ∧
        host.sends <:+ self.host.sends ∧
        (self.host.sends.head? ≠ some .sent ∨ maxUdpPayload < packet.size) := by
  have handed := self.sendmsgVectored_handed packet epoch
  generalize exec (sendmsgVectored packet epoch) self = result at handed ⊢
  cases handed with
  | limited state =>
    exact .inl ⟨self, rfl, fun hand => .held List.suffix_rfl, fun settled => absurd state settled⟩
  | taken answers affords fits =>
    exact .inl ⟨_, rfl, fun hand => .taken answers affords fits, fun _ => fits⟩
  | refused blocked fault => exact .inr ⟨_, blocked, rfl, List.drop_suffix 1 _, fault⟩

/-- A packet sealed under the connection's keys is one the books know. -/
theorem shortHeader_seals {self : ZtConnectionActor CC} {crypto : CryptoContext}
    (keys : self.crypto = some crypto) (pType : PacketType) (number : Nat)
    (text : PacketHeader → Bytes) (addr : Address) (hand : List (UnackedPayload × Nat)) :
    (self.books hand).Seals pType number text
      ⟨sealedPacket crypto (self.shortHeader pType number) (text (self.shortHeader pType number)),
        crypto.epoch, addr⟩ :=
  ⟨crypto, self.pnLen number, keys, (self.pnLen_bounds number).1, (self.pnLen_bounds number).2, rfl,
    rfl⟩

/-- A packet too large for a datagram carries a payload that is nearly as large. -/
theorem payload_large {self : ZtConnectionActor CC} {crypto : CryptoContext} {payload : UnackedPayload}
    {number : Nat} (counts : payload.len ≠ 0)
    (large : maxUdpPayload < (sealedPacket crypto (self.shortHeader .data number)
      (Books.payloadText payload (self.shortHeader .data number))).size) :
    maxUdpPayload < payload.len + self.dcid.length + 64 := by
  obtain ⟨positive, most⟩ := self.pnLen_bounds number
  have header : (self.shortHeader .data number).encode.length = 2 + self.dcid.length + self.pnLen number :=
    PacketHeader.encode_length_short rfl positive most
  have frame := UnackedPayload.frame_length_le counts (self.shortHeader .data number).encode.length
  rw [sealedPacket_size, header, Books.payloadText, Books.frameText, padShort_length] at large
  omega

end Packets

/-- Counting a packet may move the keys on. -/
theorem notePacketSent_rotates (self : ZtConnectionActor CC) (hand : List (UnackedPayload × Nat)) :
    (self.books hand).Rotates (self.notePacketSent.books hand) := by
  unfold notePacketSent
  split
  · exact .stays
  · rename_i active
    split
    · exact .stays
    · rename_i crypto keys
      dsimp only
      split
      · exact .moves keys (not_not.mp active)
      · exact .stays

/-- A number was taken, and nothing else of the books changed. -/
structure Draws (before after : ZtConnectionActor CC) : Prop where
  fits : before.nextPacketNumber + 1 < u64Size
  same : ∀ hand, after.books hand =
    { before.books hand with nextPacketNumber := before.nextPacketNumber + 1 }

omit [Hkdf] in
/-- A number is taken, or none is left. -/
theorem getNextPacketNumber_draws (self : ZtConnectionActor CC) :
    (u64Size ≤ self.nextPacketNumber + 1 ∧
        exec getNextPacketNumber self = (.error .packetNumberOverflow, self)) ∨
      ∃ after, exec getNextPacketNumber self = (.ok self.nextPacketNumber, after) ∧
        Draws self after := by
  rcases self.getNextPacketNumber_exact with spent | ⟨fits, taken⟩
  · exact .inl spent
  · exact .inr ⟨_, taken, fits, fun _ => rfl⟩

omit [Hkdf] in
/-- Once the number is taken, a failure leaves the books as they are otherwise. -/
theorem Draws.fails {before after broken : ZtConnectionActor CC} (draws : Draws before after)
    {payload : UnackedPayload} {rest : List SendOutcome} (fewer : rest <:+ after.host.sends)
    (same : ∀ hand, broken.books hand = { after.books hand with sends := rest })
    (fault : ∀ hand, (before.books hand).Faults payload) (hand : List (UnackedPayload × Nat)) :
    (before.books hand).Fails payload (broken.books hand) := by
  rw [same hand, draws.same hand]
  have answers : after.host.sends = before.host.sends := congrArg Books.sends (draws.same hand)
  rw [answers] at fewer
  exact .mk (.inr ⟨rfl, draws.fits⟩) fewer (fault hand)

omit [Hkdf] in
/-- What remembering a packet changes in the books. -/
theorem track_books (self : ZtConnectionActor CC) (pn : Nat) (payload : UnackedPayload)
    (retries sentBytes : Nat) (isMtuProbe : Bool) (hand : List (UnackedPayload × Nat)) :
    ({ self.track pn payload retries sentBytes isMtuProbe with
        bytesInFlight := self.bytesInFlight + sentBytes } : ZtConnectionActor CC).books hand =
      { self.books hand with
        unackedPackets := (self.books hand).unackedPackets.insert pn
          ⟨payload, self.host.now, retries, isMtuProbe, sentBytes⟩
        bytesInFlight := (self.books hand).bytesInFlight + sentBytes } := rfl

omit [Hkdf] in
/-- The socket does not look at the counter, so it can be asked before the number is taken. -/
theorem Draws.offers {before after : ZtConnectionActor CC} (draws : Draws before after)
    {record : SentRecord} {hand : List (UnackedPayload × Nat)} {result : Books}
    (offers : (after.books hand).Offers record result) :
    ∃ offered, (before.books hand).Offers record offered ∧
      result = { offered with nextPacketNumber := before.nextPacketNumber + 1 } ∧
      offered.nextPacketNumber = before.nextPacketNumber := by
  rw [draws.same hand] at offers
  cases offers with
  | taken answers affords fits => exact ⟨_, .taken answers affords fits, rfl, rfl⟩
  | held fewer => exact ⟨_, .held fewer, rfl, rfl⟩

/-- Taking a number is a deed. -/
theorem Draws.does {before after : ZtConnectionActor CC} (draws : Draws before after) :
    Does licence before after := by
  refine .single fun hand => ?_
  rw [draws.same hand]
  exact .draw draws.fits

/-- A packet made after the number was taken is one the books before it can build. -/
theorem Draws.launches {before after sent : ZtConnectionActor CC} (draws : Draws before after)
    {payload : UnackedPayload} {retries size : Nat} {isMtuProbe : Bool} {record : SentRecord}
    {hand : List (UnackedPayload × Nat)} (builds : (before.books hand).Builds payload record)
    (offers : (after.books hand).Offers record (sent.books hand)) (sized : size = record.packet.size)
    (flagged : isMtuProbe = payload.isProbe) :
    (before.books hand).Launches payload retries ((sent.trackSent before.nextPacketNumber payload retries
      size isMtuProbe).books hand) := by
  subst sized flagged
  obtain ⟨offered, early, late⟩ := draws.offers offers
  refine ⟨record, offered, sent.host.now, draws.fits, builds, early, ?_⟩
  unfold trackSent
  have counted := notePacketSent_rotates { sent.track before.nextPacketNumber payload retries
    record.packet.size payload.isProbe with
      bytesInFlight := sent.bytesInFlight + record.packet.size } hand
  rw [track_books, late.1] at counted
  rw [Books.launch, late.2]
  exact counted

/-- A payload in a packet with a short header goes out, or fails to for one of the known reasons. -/
theorem sendDataPacket_spec (self : ZtConnectionActor CC) {payload : UnackedPayload}
    (ordinary : ∀ cookie, payload ≠ .initial cookie) (retries : Nat) :
    (∃ error, (exec (sendDataPacket payload retries) self).1 = .error error ∧
        ∀ hand, (self.books hand).Fails payload
          ((exec (sendDataPacket payload retries) self).2.books hand)) ∨
      (exec (sendDataPacket payload retries) self).1 = .ok () ∧
        ∀ hand, (self.books hand).Launches payload retries
          ((exec (sendDataPacket payload retries) self).2.books hand) := by
  unfold sendDataPacket
  rcases self.getNextPacketNumber_draws with ⟨spent, failed⟩ | ⟨after, taken, draws⟩
  · rw [exec_bind_error failed]
    exact .inl ⟨_, rfl, fun hand => .mk (.inl rfl) List.suffix_rfl (.inr (.inl spent))⟩
  rw [exec_bind_ok taken, exec_bind_get]
  dsimp only
  have answers : after.host.sends = self.host.sends := congrArg Books.sends (draws.same [])
  have held : after.crypto = self.crypto := congrArg Books.crypto (draws.same [])
  have ids : after.dcid = self.dcid := congrArg Books.dcid (draws.same [])
  rcases protectPacket_cases (after.shortHeader .data self.nextPacketNumber)
      (padShort (after.shortHeader .data self.nextPacketNumber).pnLen
        (payload.frame (after.shortHeader .data self.nextPacketNumber).encode.length).encode) after with
    ⟨error, rest, encryptions, fewer, reason, -, unsealed⟩ | ⟨crypto, keys, sealed⟩
  · -- Without keys, or if sealing fails, nothing reaches the socket.
    rw [exec_bind_error unsealed]
    refine .inl ⟨error, rfl, draws.fails fewer (fun _ => rfl) fun hand => ?_⟩
    rcases reason with none | unready
    · exact .inr (.inr (.inl (held.symm.trans none)))
    · rw [answers] at unready
      exact .inr (.inr (.inr (.inl unready)))
  rw [exec_bind_ok sealed]
  dsimp only
  generalize sealing crypto _ _ = encryption
  rcases sendmsgVectored_exact (sealedPacket crypto (after.shortHeader .data self.nextPacketNumber)
      (padShort (after.shortHeader .data self.nextPacketNumber).pnLen
        (payload.frame (after.shortHeader .data self.nextPacketNumber).encode.length).encode))
      crypto.epoch (after.encrypting encryption) with
    ⟨sent, posted, offers, -⟩ | ⟨host, blocked, refused, fewer, reason⟩
  · rw [exec_bind_ok posted, exec_modify]
    refine .inr ⟨rfl, fun hand => ?_⟩
    have seals := shortHeader_seals keys .data self.nextPacketNumber (Books.payloadText payload)
      after.addr hand
    have builds : (self.books hand).Builds payload _ := .data ordinary (by
      rw [draws.same hand] at seals
      exact seals)
    have offered := offers hand
    generalize made : (⟨_, crypto.epoch, after.addr⟩ : SentRecord) = record at builds
    have sized := congrArg (fun record : SentRecord => record.packet.size) made
    refine draws.launches builds (made ▸ offered) sized ?_
    cases payload <;> rfl
  · rw [exec_bind_error refused]
    refine .inl ⟨_, rfl, draws.fails fewer (fun _ => rfl) fun hand => ?_⟩
    rcases reason with unready | large
    · have unready : self.host.sends.head? ≠ some .sent := by
        rw [← answers]
        exact unready
      exact .inr (.inr (.inr (.inl unready)))
    · by_cases counts : payload.len = 0
      · exact .inl counts
      · have large := payload_large counts large
        rw [ids] at large
        exact .inr (.inr (.inr (.inr large)))

omit [Hkdf] in
/-- What the socket does with a packet shows in the books, whether or not it takes it. -/
theorem sendmsgVectored_offers (packet : Packet) (epoch : Nat) (self : ZtConnectionActor CC)
    (hand : List (UnackedPayload × Nat)) :
    (self.books hand).Offers ⟨packet, epoch, self.addr⟩
      ((exec (sendmsgVectored packet epoch) self).2.books hand) := by
  rcases sendmsgVectored_exact packet epoch self with
    ⟨after, sent, offers, -⟩ | ⟨host, blocked, refused, fewer, -⟩
  · rw [sent]
    exact offers hand
  · rw [refused]
    exact .held fewer

/-- Counting a packet is at most one deed. -/
theorem notePacketSent_does (self : ZtConnectionActor CC) : Does licence self self.notePacketSent := by
  intro hand
  have rotates := self.notePacketSent_rotates hand
  generalize self.notePacketSent.books hand = after at rotates ⊢
  cases rotates with
  | stays => exact .refl
  | moves keys active => exact .single (.rotate keys active)

/-- A frame sealed under the number just taken can be handed to the socket, or sealing failed. -/
theorem protectPacket_does (self : ZtConnectionActor CC) {number : Nat} (frame : Frame)
    (drawn : number + 1 = self.nextPacketNumber) (loose : frame.isData = false) :
    (∃ error broken, exec (protectPacket (self.shortHeader .data number)
          (padShort (self.shortHeader .data number).pnLen frame.encode)) self = (.error error, broken) ∧
        Does licence self broken) ∨
      ∃ packet epoch sealed, exec (protectPacket (self.shortHeader .data number)
          (padShort (self.shortHeader .data number).pnLen frame.encode)) self =
            (.ok (packet, epoch), sealed) ∧
        (∀ hand, sealed.books hand = self.books hand) ∧
        ∀ ready : ZtConnectionActor CC, (∀ hand, ready.books hand = self.books hand) →
          Does licence self (exec (sendmsgVectored packet epoch) ready).2 := by
  rcases protectPacket_cases (self.shortHeader .data number)
      (padShort (self.shortHeader .data number).pnLen frame.encode) self with
    ⟨error, rest, encryptions, fewer, -, -, unsealed⟩ | ⟨crypto, keys, sealed⟩
  · exact .inl ⟨error, _, unsealed, .single fun hand => .hear fewer⟩
  · refine .inr ⟨_, _, _, sealed, fun _ => rfl, fun ready same => .single fun hand => ?_⟩
    have offers := sendmsgVectored_offers (sealedPacket crypto (self.shortHeader .data number)
      (padShort (self.shortHeader .data number).pnLen frame.encode)) crypto.epoch ready hand
    rw [same hand] at offers
    exact .post loose drawn
      (shortHeader_seals keys .data number (Books.frameText frame) ready.addr hand) offers

omit [Hkdf] in
/-- The number just taken is the last one before the counter. -/
theorem Draws.drawn {before after : ZtConnectionActor CC} (draws : Draws before after) :
    before.nextPacketNumber + 1 = after.nextPacketNumber :=
  (congrArg Books.nextPacketNumber (draws.same [])).symm

/-- A frame sent at once. -/
theorem sendFrameImmediate_does (self : ZtConnectionActor CC) {frame : Frame}
    (loose : frame.isData = false) (toAddr : Address) :
    Does licence self (exec (sendFrameImmediate frame toAddr) self).2 := by
  unfold sendFrameImmediate
  rcases self.getNextPacketNumber_draws with ⟨-, failed⟩ | ⟨after, taken, draws⟩
  · rw [exec_bind_error failed]
    exact .refl self
  rw [exec_bind_ok taken, exec_bind_get]
  dsimp only
  refine draws.does.trans ?_
  rcases after.protectPacket_does frame draws.drawn loose with
    ⟨error, broken, unsealed, does⟩ | ⟨packet, epoch, sealed, made, same, posts⟩
  · rw [exec_bind_error unsealed]
    exact does
  · rw [exec_bind_ok made]
    dsimp only
    rw [exec_bind_modify, exec_bind_attempt, exec_bind_modify]
    have sent := posts { sealed with addr := toAddr } same
    -- The address is put back whatever the socket said.
    split <;> exact sent.trans (.of_same fun _ => rfl)

/-- The acknowledgments, in a packet of their own. -/
theorem flushAcks_does (self : ZtConnectionActor CC) : Does licence self (exec flushAcks self).2 := by
  unfold flushAcks
  rw [exec_bind_get]
  split
  · exact .refl self
  rcases self.getNextPacketNumber_draws with ⟨-, failed⟩ | ⟨after, taken, draws⟩
  · rw [exec_bind_error failed]
    exact .refl self
  rw [exec_bind_ok taken, exec_bind_modify, exec_bind_get]
  dsimp only
  refine draws.does.trans (.trans (.of_same fun _ => rfl : Does licence after after.refreshLocalWindow) ?_)
  have drawn : self.nextPacketNumber + 1 = after.refreshLocalWindow.nextPacketNumber := draws.drawn
  generalize after.refreshLocalWindow = ready at drawn ⊢
  rcases ready.protectPacket_does ready.ackFrame drawn rfl with
    ⟨error, broken, unsealed, does⟩ | ⟨packet, epoch, sealed, made, same, posts⟩
  · rw [exec_bind_error unsealed]
    exact does
  · rw [exec_bind_ok made]
    dsimp only
    rw [exec_bind_attempt]
    refine (posts sealed same).trans ?_
    generalize exec (sendmsgVectored packet epoch) sealed = result
    obtain ⟨outcome, sent⟩ := result
    -- Only a packet the socket took is counted.
    cases outcome with
    | error error => exact .of_same fun _ => rfl
    | ok done =>
      dsimp only
      rw [exec_bind_modify, exec_modify]
      exact sent.notePacketSent_does.trans (.of_same fun _ => rfl)

omit [Hkdf] in
/-- What remembering a probe changes in the books. -/
theorem probing_books (self : ZtConnectionActor CC) (pn target size : Nat)
    (hand : List (UnackedPayload × Nat)) :
    ({ (self.note (.issued (.mtuProbe target))).track pn (.mtuProbe target) 0 size true with
        bytesInFlight := saturatingAdd self.bytesInFlight size
        mtuProbes := self.mtuProbes.insert pn target } : ZtConnectionActor CC).books hand =
      { self.books hand with
        unackedPackets := (self.books hand).unackedPackets.insert pn
          ⟨.mtuProbe target, self.host.now, 0, true, size⟩
        bytesInFlight := saturatingAdd (self.books hand).bytesInFlight size
        mtuProbes := (self.books hand).mtuProbes.insert pn target
        log := (self.books hand).log ++ [.issued (.mtuProbe target)] } := rfl

/-- A probe for a larger MTU, if one may be sent. -/
theorem sendMtuProbe_does (self : ZtConnectionActor CC)
    (may : ∀ hand, licence.probes (self.books hand)) :
    Does licence self (exec sendMtuProbe self).2 := by
  unfold sendMtuProbe
  rw [exec_bind_get]
  split
  · exact .refl self
  rename_i active
  split
  · exact .refl self
  rename_i wide
  rcases self.getNextPacketNumber_draws with ⟨-, failed⟩ | ⟨after, taken, draws⟩
  · rw [exec_bind_error failed]
    exact .refl self
  rw [exec_bind_ok taken, exec_bind_modify, exec_bind_get]
  dsimp only
  generalize halfway : self.mtuMin + (self.mtuMax - self.mtuMin) / 2 = target
  rcases protectPacket_cases (after.refreshLocalWindow.shortHeader .mtuProbe self.nextPacketNumber)
      (Books.probeText target
        (after.refreshLocalWindow.shortHeader .mtuProbe self.nextPacketNumber))
      after.refreshLocalWindow with
    ⟨error, rest, encryptions, fewer, -, -, unsealed⟩ | ⟨crypto, keys, sealed⟩
  · erw [exec_bind_error unsealed]
    exact draws.does.trans (.single fun hand => .hear fewer)
  erw [exec_bind_ok sealed]
  dsimp only
  rw [exec_bind_attempt]
  generalize sealing crypto _ _ = encryption
  rcases sendmsgVectored_exact (sealedPacket crypto
      (after.refreshLocalWindow.shortHeader .mtuProbe self.nextPacketNumber) (Books.probeText target
        (after.refreshLocalWindow.shortHeader .mtuProbe self.nextPacketNumber))) crypto.epoch
      (after.refreshLocalWindow.encrypting encryption) with
    ⟨sent, posted, offers, small⟩ | ⟨host, blocked, refused, fewer, -⟩
  · erw [posted]
    dsimp only
    rw [exec_modify]
    intro hand
    have seals := shortHeader_seals keys .mtuProbe self.nextPacketNumber (Books.probeText target)
      after.addr hand
    have same : after.refreshLocalWindow.books hand = after.books hand := rfl
    rw [same, draws.same hand] at seals
    obtain ⟨offered, early, late⟩ := draws.offers (offers hand)
    have state : after.state = self.state := congrArg Books.state (draws.same [])
    have settled : after.state ≠ .handshaking := by
      rw [state, not_not.mp active]
      decide
    refine .trans (.single ?_) (notePacketSent_does _ hand)
    have probed : Deed licence (self.books hand) _ :=
      .probe sent.host.now (may hand) (not_le.mp wide) halfway.symm draws.fits seals (small settled) early
    rw [Books.launch, late.2] at probed
    have whole := probing_books sent self.nextPacketNumber target (sealedPacket crypto
      (after.refreshLocalWindow.shortHeader .mtuProbe self.nextPacketNumber) (Books.probeText target
        (after.refreshLocalWindow.shortHeader .mtuProbe self.nextPacketNumber))).size hand
    rw [late.1] at whole
    exact (congrArg (Deed licence (self.books hand)) whole).mpr probed
  · erw [refused]
    exact draws.does.trans (.single fun hand => .hear fewer)

section Payloads

variable [HandshakeCrypto]

/-- An Initial payload goes out, even if the socket does not take it, or cannot be made. -/
theorem sendInitialPacketInternal_spec (self : ZtConnectionActor CC) (cookie : Option Bytes)
    (retries : Nat) :
    (∃ error, (exec (sendInitialPacketInternal cookie retries) self).1 = .error error ∧
        ∀ hand, (self.books hand).Fails (.initial cookie)
          ((exec (sendInitialPacketInternal cookie retries) self).2.books hand)) ∨
      (exec (sendInitialPacketInternal cookie retries) self).1 = .ok () ∧
        ∀ hand, (self.books hand).Launches (.initial cookie) retries
          ((exec (sendInitialPacketInternal cookie retries) self).2.books hand) := by
  unfold sendInitialPacketInternal
  -- An Initial counts no bytes, so any failure of it is a known one.
  have known : ∀ hand, (self.books hand).Faults (.initial cookie) := fun _ => .inl rfl
  rcases self.getNextPacketNumber_draws with ⟨spent, failed⟩ | ⟨after, taken, draws⟩
  · rw [exec_bind_error failed]
    exact .inl ⟨_, rfl, fun hand => .mk (.inl rfl) List.suffix_rfl (known hand)⟩
  rw [exec_bind_ok taken, exec_bind_get]
  dsimp only
  rw [exec_bind_modify]
  split
  · exact .inl ⟨_, rfl, draws.fails List.suffix_rfl (fun _ => rfl) known⟩
  · rename_i signingKey held
    generalize noted : ({ after with cookie := cookie.or after.cookie } : ZtConnectionActor CC) = ready
    have same : Draws self ready := ⟨draws.fits, fun hand => noted ▸ draws.same hand⟩
    rcases sealWith_exact (.initial after.dcid true)
        (after.initialHeader self.nextPacketNumber (after.pnLen self.nextPacketNumber))
        (after.initialPayload signingKey cookie (after.initialHeader self.nextPacketNumber
          (after.pnLen self.nextPacketNumber)).encode.length) ready with
      ⟨error, rest, answers, failed⟩ | ⟨-, sealed⟩
    · erw [exec_bind_error failed]
      refine .inl ⟨error, rfl, same.fails ?_ (fun _ => rfl) known⟩
      rw [answers]
      exact List.suffix_cons _ _
    · erw [exec_bind_ok sealed]
      rw [exec_bind_modify, exec_bind_attempt, exec_modify]
      refine .inr ⟨rfl, fun hand => ?_⟩
      generalize sealing _ _ _ = encryption
      have offers := sendmsgVectored_offers (sealedPacket (.initial after.dcid true)
        (after.initialHeader self.nextPacketNumber (after.pnLen self.nextPacketNumber))
        (after.initialPayload signingKey cookie (after.initialHeader self.nextPacketNumber
          (after.pnLen self.nextPacketNumber)).encode.length)) (CryptoContext.initial after.dcid true).epoch
        { ready.encrypting encryption with handshakePacket := some ⟨sealedPacket (.initial after.dcid true)
          (after.initialHeader self.nextPacketNumber (after.pnLen self.nextPacketNumber))
          (after.initialPayload signingKey cookie (after.initialHeader self.nextPacketNumber
            (after.pnLen self.nextPacketNumber)).encode.length), rfl, rfl⟩ } hand
      exact same.launches (.initial cookie rfl) offers rfl rfl

/-- A payload goes out in a packet made for it, or fails to for one of the known reasons. -/
theorem sendPayloadWithRetries_spec (self : ZtConnectionActor CC) (payload : UnackedPayload)
    (retries : Nat) :
    (∃ error, (exec (sendPayloadWithRetries payload retries) self).1 = .error error ∧
        ∀ hand, (self.books hand).Fails payload
          ((exec (sendPayloadWithRetries payload retries) self).2.books hand)) ∨
      (exec (sendPayloadWithRetries payload retries) self).1 = .ok () ∧
        ∀ hand, (self.books hand).Launches payload retries
          ((exec (sendPayloadWithRetries payload retries) self).2.books hand) := by
  unfold sendPayloadWithRetries
  split
  · exact self.sendInitialPacketInternal_spec _ retries
  · rename_i ordinary
    exact self.sendDataPacket_spec (fun cookie same => ordinary cookie same) retries

/-- A payload in hand goes out, or to the front of the queue. -/
theorem retransmitPayload_does (self : ZtConnectionActor CC) (payload : UnackedPayload)
    (retries : Nat) (hand : List (UnackedPayload × Nat)) :
    Relation.ReflTransGen (Deed licence) (self.books ((payload, retries) :: hand))
      ((exec (retransmitPayload payload retries) self).2.books hand) := by
  unfold retransmitPayload
  rw [exec_bind_attempt]
  rcases self.sendPayloadWithRetries_spec payload retries with ⟨error, failed, fails⟩ | ⟨sent, launches⟩
  · rw [failed]
    have fails := fails ((payload, retries) :: hand)
    generalize (exec (sendPayloadWithRetries payload retries) self).2 = after at fails ⊢
    exact .single (.requeue rfl fails)
  · rw [sent]
    exact (launches ((payload, retries) :: hand)).dispatched rfl

/-- Payloads in hand go out one after the other. -/
theorem retransmitAll_does [CongestionController CC] (payloads : List (UnackedPayload × Nat))
    (self : ZtConnectionActor CC) (hand : List (UnackedPayload × Nat)) :
    Relation.ReflTransGen (Deed licence) (self.books (payloads ++ hand))
      ((exec (retransmitAll payloads) self).2.books hand) := by
  -- The induction is on the payloads left, which are all that is in hand for it.
  induction payloads generalizing self with
  | nil => exact .refl
  | cons entry rest ih =>
    obtain ⟨payload, retries⟩ := entry
    unfold retransmitAll
    rw [exec_bind_attempt]
    exact (self.retransmitPayload_does payload retries (rest ++ hand)).trans (ih _)

/-- A payload is issued and goes out, or to the front of the queue. -/
theorem sendPayload_does (self : ZtConnectionActor CC) {payload : UnackedPayload}
    (may : ∀ hand, payload.len = 0 ∨ licence.issues (self.books hand) payload)
    (small : payload.len ≤ self.mtu - 64) (searches : payload.isProbe = false)
    (unstreamed : payload.isStream = false) :
    Does licence self (exec (sendPayload payload) self).2 := by
  unfold sendPayload
  rw [exec_bind_modify]
  intro hand
  have issued : Deed licence (self.books hand)
      ((self.note (.issued payload)).books ((payload, 0) :: hand)) :=
    .issue (may hand) small searches unstreamed
  exact .head issued (retransmitPayload_does _ payload 0 hand)

/-- A payload that counts no bytes can always be issued. -/
theorem sendControl_does (self : ZtConnectionActor CC) {payload : UnackedPayload}
    (control : payload.len = 0) (searches : payload.isProbe = false)
    (unstreamed : payload.isStream = false) :
    Does licence self (exec (sendPayload payload) self).2 :=
  self.sendPayload_does (fun _ => .inl control) (control ▸ Nat.zero_le _) searches unstreamed

/-- The first Initial, or the one after a Retry, goes out or is given up. -/
theorem sendInitialPacket_does (self : ZtConnectionActor CC) (cookie : Option Bytes) :
    Does licence self (exec (sendInitialPacket cookie) self).2 := by
  unfold sendInitialPacket
  rw [exec_bind_modify]
  intro hand
  have issued : Deed licence (self.books hand)
      ((self.note (.issued (.initial cookie))).books ((.initial cookie, 0) :: hand)) :=
    .issue (.inl rfl) (Nat.zero_le _) rfl rfl
  refine .head issued ?_
  generalize self.note (.issued (.initial cookie)) = noted
  rcases noted.sendInitialPacketInternal_spec cookie 0 with ⟨error, failed, fails⟩ | ⟨sent, launches⟩
  · have fails := fails ((.initial cookie, 0) :: hand)
    generalize (exec (sendInitialPacketInternal cookie 0) noted).2 = after at fails ⊢
    exact .single (.forsake rfl fails)
  · exact (launches ((.initial cookie, 0) :: hand)).dispatched rfl

/-- The connection starts closing, if it may. -/
theorem initiateClose_does (self : ZtConnectionActor CC)
    (may : ∀ hand, licence.closes (self.books hand)) :
    Does licence self (exec initiateClose self).2 := by
  unfold initiateClose
  rw [exec_bind_modify]
  refine Does.trans (.single fun hand => ?_) (sendControl_does _ rfl rfl rfl)
  exact .phase (.closing (may hand))

/-- The same with an error code and a reason. -/
theorem initiateCloseWithError_does (self : ZtConnectionActor CC) (errorCode : Nat) (reason : Bytes)
    (may : ∀ hand, licence.closes (self.books hand)) :
    Does licence self (exec (initiateCloseWithError errorCode reason) self).2 := by
  unfold initiateCloseWithError
  rw [exec_bind_modify]
  refine Does.trans (.single fun hand => ?_) (sendControl_does _ rfl rfl rfl)
  exact .phase (.closing (may hand))

omit [HandshakeCrypto] in
/-- A failed send from the queue is counted, or closes the connection. -/
theorem pacedSendFailed_does (self : ZtConnectionActor CC) (error : ZtError)
    (may : ∀ books, licence.shuts books) : Does licence self (self.pacedSendFailed error).2 := by
  unfold pacedSendFailed
  split
  · exact .refl self
  · split
    · exact .single fun _ => .phase (.closed (may _))
    · split
      · exact .refl self
      · rename_i payload retries rest queue
        have counted : Does licence self
            { self with unpacedQueue := (payload, retries + 1) :: rest } :=
          .single fun _ => .retry queue
        dsimp only
        split
        · exact counted.trans (.single fun _ => .phase (.closed (may _)))
        · exact counted

/-- Sending from the front of the queue, round by round. -/
theorem flushLoop_does (fuel : Nat) (self : ZtConnectionActor CC)
    (may : ∀ books, licence.shuts books) : Does licence self (exec (flushLoop fuel) self).2 := by
  -- The induction is on the rounds left.
  induction fuel generalizing self with
  | zero => exact .refl self
  | succ fuel ih =>
    unfold flushLoop
    rw [exec_bind_get]
    split
    · exact .refl self
    · rename_i payload retries rest queue
      dsimp only
      rw [exec_bind_set]
      have asked : ∀ hand, self.nextPace.2.books hand = self.books hand := by
        intro hand
        unfold nextPace
        split <;> rfl
      have front : self.nextPace.2.unpacedQueue = (payload, retries) :: rest :=
        (congrArg Books.unpacedQueue (asked [])).trans queue
      refine Does.trans (.of_same asked) ?_
      generalize self.nextPace.2 = asking at front
      split
      · exact .refl _
      · rw [exec_bind_attempt]
        rcases asking.sendPayloadWithRetries_spec payload retries with
          ⟨error, failed, fails⟩ | ⟨sent, launches⟩
        · rw [failed]
          generalize (exec (sendPayloadWithRetries payload retries) asking).2 = after at fails ⊢
          dsimp only
          rw [exec_bind_get]
          exact Does.trans (fun hand => (fails hand).run) (after.pacedSendFailed_does error may)
        · -- The payload leaves the queue and the next round starts.
          rw [sent]
          generalize (exec (sendPayloadWithRetries payload retries) asking).2 = after at launches ⊢
          dsimp only
          rw [exec_bind_modify]
          have popped : Does licence asking { after with
              unpacedQueue := after.unpacedQueue.tail
              queuedBytes := after.queuedBytes - payload.len } := by
            intro hand
            have run : Relation.ReflTransGen (Deed licence) (asking.books hand) _ :=
              (launches hand).paced front
            have same : after.unpacedQueue.tail = rest := by
              have kept : after.unpacedQueue = asking.unpacedQueue := (launches hand).queue
              rw [kept, front, List.tail_cons]
            rw [← same] at run
            exact run
          exact popped.trans (ih _)

/-- Sending what the pacer allows. -/
theorem flushPacingQueue_does (self : ZtConnectionActor CC) (may : ∀ books, licence.shuts books) :
    Does licence self (exec flushPacingQueue self).2 := by
  unfold flushPacingQueue
  rw [exec_bind_get]
  split
  · exact .refl self
  · exact flushLoop_does _ self may

end Payloads

end ZtConnectionActor
end Zetta
