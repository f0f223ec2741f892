import Zetta.Proofs.Transport.Holdings
import Zetta.Proofs.Transport.Nonces

/-! The bytes queued are counted right as long as no payload that counts bytes falls back to the queue. -/

namespace Zetta

namespace Books

/-- The bytes of the payloads in a queue. -/
def queueBytes (queue : List (UnackedPayload × Nat)) : Nat :=
  (queue.map fun entry => entry.1.len).sum

/-- A payload that counts bytes can be sealed, and fits a datagram. -/
def Ready (self : Books) (payload : UnackedPayload) : Prop :=
  self.crypto.isSome = true ∧ payload.len + self.dcid.length + 64 ≤ maxUdpPayload

/-- Data is accepted only if it can be sent at once. -/
def readyLicence : Licence :=
  { Licence.free with issues := Ready, writes := Ready }

/-- Every payload held is a probe, counts no bytes, or can be sent. -/
structure Furnished (books : Books) : Prop where
  /-- A client has no keys while its handshake is under way. -/
  secret : books.ephemeralSecret.isSome = true → books.crypto = none
  payloads : ∀ payload, books.Holds payload →
    payload.isProbe = true ∨ payload.len = 0 ∨ books.Ready payload

/-- Keys, once installed, stay, and so does the connection id they were installed with. -/
theorem Furnished.keeps_keys [Hkdf] {licence : Licence} {before after : Books}
    (furnished : before.Furnished) (deed : Deed licence before after)
    (keys : before.crypto.isSome = true) :
    after.crypto.isSome = true ∧ after.dcid = before.dcid := by
  cases deed.keyStep with
  | kept crypto _ _ dcid => exact ⟨crypto ▸ keys, dcid⟩
  | moved _ rotated _ _ dcid => exact ⟨rotated ▸ rfl, dcid⟩
  | installed _ held =>
    -- The handshake of a client completes only before there are keys.
    rw [furnished.secret held] at keys
    cases keys

/-- A secret is held after a deed only if it was held before, and then no keys were installed. -/
theorem Furnished.keeps_secret [Hkdf] {licence : Licence} {before after : Books}
    (furnished : before.Furnished) (deed : Deed licence before after) :
    after.ephemeralSecret.isSome = true → after.crypto = none := by
  cases deed.keyStep with
  | kept crypto _ secret =>
    rw [crypto, secret]
    exact furnished.secret
  | moved keys _ _ secret =>
    rw [secret]
    intro held
    rw [furnished.secret held] at keys
    cases keys
  | installed _ _ _ _ secret =>
    rw [secret]
    exact nofun

/-- Data that could be sent when it was accepted can be sent whenever it is held. -/
theorem furnished_keeps [Hkdf] : Books.Keeps readyLicence Furnished where
  host _ _ furnished := ⟨furnished.secret, furnished.payloads⟩
  deed := by
    intro before after deed furnished
    refine ⟨furnished.keeps_secret deed, fun payload held => ?_⟩
    have carries : before.Ready payload → after.Ready payload := by
      rintro ⟨keys, fits⟩
      obtain ⟨still, same⟩ := furnished.keeps_keys deed keys
      exact ⟨still, by rw [same]; exact fits⟩
    rcases deed.origin held with old | fresh
    · rcases furnished.payloads payload old with probe | empty | ready
      · exact .inl probe
      · exact .inr (.inl empty)
      · exact .inr (.inr (carries ready))
    · cases fresh with
      | issued may =>
        rcases may with empty | ready
        · exact .inr (.inl empty)
        · exact .inr (.inr (carries ready))
      | written ready => exact .inr (.inr (carries ready))
      | probed => exact .inl rfl

/-- The socket takes every packet it is handed. -/
def Willing (self : Books) : Prop := ∀ answer ∈ self.sends, answer = .sent

/-- The counter is right, unless the socket's answers or the packet numbers have run out. -/
def Tallied (self : Books) : Prop :=
  self.queuedBytes = queueBytes self.unpacedQueue ∨ self.sends = [] ∨ u64Size ≤ self.nextPacketNumber + 1

/-- Answers of the socket are only used up, and numbers only taken. -/
structure Spends (before after : Books) : Prop where
  sends : after.sends <:+ before.sends
  number : before.nextPacketNumber ≤ after.nextPacketNumber

/-- Handing a packet to the socket takes no number. -/
theorem Offers.spends {before after : Books} {record : SentRecord} (offers : before.Offers record after) :
    after.sends <:+ before.sends ∧ after.nextPacketNumber = before.nextPacketNumber := by
  cases offers with
  | taken answers => exact ⟨answers ▸ List.suffix_cons _ _, rfl⟩
  | held fewer => exact ⟨fewer, rfl⟩

/-- A payload that fails to go out takes a number at most. -/
theorem Fails.spends {before after : Books} {payload : UnackedPayload}
    (fails : before.Fails payload after) : before.Spends after := by
  cases fails with
  | mk drawn fewer =>
    refine ⟨fewer, ?_⟩
    rcases drawn with rfl | ⟨rfl, -⟩
    · exact le_rfl
    · exact Nat.le_succ _

end Books

/-- No deed gives answers of the socket back, or numbers. -/
theorem Deed.spends [Hkdf] {licence : Licence} {before after : Books}
    (deed : Deed licence before after) : before.Spends after := by
  cases deed with
  | hear fewer => exact ⟨fewer, le_rfl⟩
  | note | count | issue | write | retry | rotate | follow | phase | complete | openLocal | openPeer
  | grant | table | push | take | rescan | settle => exact ⟨List.suffix_rfl, le_rfl⟩
  | draw => exact ⟨List.suffix_rfl, Nat.le_succ _⟩
  | post _ _ _ offers | postLong _ offers => exact ⟨offers.spends.1, offers.spends.2.ge⟩
  | dispatch _ _ _ _ offers | paced _ _ _ _ offers | probe _ _ _ _ _ _ _ offers =>
    obtain ⟨fewer, same⟩ := offers.spends
    exact ⟨fewer, same.ge.trans (Nat.le_succ _)⟩
  | requeue _ fails | forsake _ fails => exact ⟨fails.spends.sends, fails.spends.number⟩

namespace Books

/-- Every reason for a payload that counts bytes to fail is ruled out, or ends the turn. -/
theorem Faults.exhausted {books : Books} {payload : UnackedPayload} (fault : books.Faults payload)
    (willing : books.Willing) (counts : payload.len ≠ 0) (ready : books.Ready payload) :
    books.sends = [] ∨ u64Size ≤ books.nextPacketNumber + 1 := by
  rcases fault with empty | full | bare | unsent | large
  · exact absurd empty counts
  · exact .inr full
  · rw [Ready, bare] at ready
    cases ready.1
  · -- The first answer, if there is one, is that the packet was sent.
    cases answers : books.sends with
    | nil => exact .inl rfl
    | cons answer rest =>
      rw [answers, willing answer (answers ▸ List.mem_cons_self)] at unsent
      exact absurd rfl unsent
  · exact absurd large (Nat.not_lt.mpr ready.2)

/-- What the count of the queue rests on, in the course of a turn. -/
structure Queued (books : Books) : Prop where
  willing : books.Willing
  marked : books.Marked
  furnished : books.Furnished
  tallied : books.Tallied


/-- What has run out stays so. -/
theorem Spends.exhausted {before after : Books} (spends : before.Spends after)
    (out : before.sends = [] ∨ u64Size ≤ before.nextPacketNumber + 1) :
    after.sends = [] ∨ u64Size ≤ after.nextPacketNumber + 1 := by
  rcases out with silent | full
  · exact .inl (List.suffix_nil.mp (silent ▸ spends.sends))
  · exact .inr (full.trans (Nat.succ_le_succ spends.number))

/-- One more payload in front. -/
theorem queueBytes_cons (entry : UnackedPayload × Nat) (queue : List (UnackedPayload × Nat)) :
    queueBytes (entry :: queue) = entry.1.len + queueBytes queue := List.sum_cons

/-- A payload that falls back to the queue counts no bytes, or the turn has run out of answers. -/
theorem Queued.fallback {books : Books} {payload : UnackedPayload} {retries : Nat}
    {rest : List (UnackedPayload × Nat)} (queued : books.Queued)
    (inHand : books.hand = (payload, retries) :: rest) (fault : books.Faults payload) :
    payload.len = 0 ∨ books.sends = [] ∨ u64Size ≤ books.nextPacketNumber + 1 := by
  have first : (payload, retries) ∈ books.hand := inHand ▸ List.mem_cons_self
  rcases queued.furnished.payloads payload (.inr (.inl ⟨_, first, rfl⟩)) with probe | empty | ready
  · rw [queued.marked.hand _ first] at probe
    cases probe
  · exact .inl empty
  · by_cases counts : payload.len = 0
    · exact .inl counts
    · exact .inr (fault.exhausted queued.willing counts ready)

/-- Every deed keeps the count of the queue, as far as it depends on the queue. -/
theorem Queued.tally [Hkdf] {licence : Licence} {before after : Books} (queued : before.Queued)
    (deed : Deed licence before after)
    (sum : before.queuedBytes = queueBytes before.unpacedQueue) : after.Tallied := by
  have spends := deed.spends
  cases deed with
  | hear | note | count | draw | issue | rotate | follow | phase | complete | openLocal | openPeer
  | grant | table | push | take | rescan | settle => exact .inl sum
  | post _ _ _ offers | postLong _ offers | dispatch _ _ _ _ offers | probe _ _ _ _ _ _ _ offers =>
    cases offers <;> exact .inl sum
  | forsake _ fails => cases fails; exact .inl sum
  | @requeue _ payload _ _ inHand fails =>
    -- The counter is left alone, so a payload that counts must not come here.
    cases fails with
    | mk _ _ fault =>
      rcases queued.fallback inHand fault with empty | out
      · refine .inl ?_
        dsimp only
        rw [queueBytes_cons, empty, Nat.zero_add]
        exact sum
      · exact .inr (spends.exhausted out)
  | @write id offset streamType data =>
    refine .inl ?_
    dsimp only
    rw [sum, queueBytes, queueBytes, List.map_append, List.sum_append]
    rfl
  | paced _ front _ _ offers =>
    rw [front, queueBytes_cons] at sum
    have left : ∀ bytes others : Nat, before.queuedBytes = bytes + others →
        before.queuedBytes - bytes = others := by omega
    cases offers <;> exact .inl (left _ _ sum)
  | retry front =>
    rw [front, queueBytes_cons] at sum
    exact .inl (sum.trans (queueBytes_cons _ _).symm)

/-- One deed of a turn that may accept only what can be sent. -/
theorem Queued.deed [Hkdf] {before after : Books} (queued : before.Queued)
    (deed : Deed readyLicence before after) : after.Queued where
  willing := fun answer member => queued.willing answer (deed.spends.sends.subset member)
  marked := (marked_keeps readyLicence).deed deed queued.marked
  furnished := furnished_keeps.deed deed queued.furnished
  tallied := by
    rcases queued.tallied with sum | out
    · exact queued.tally deed sum
    · exact .inr (deed.spends.exhausted out)

/-- All deeds of a turn. -/
theorem Queued.run [Hkdf] {before after : Books} (queued : before.Queued)
    (deeds : Relation.ReflTransGen (Deed readyLicence) before after) : after.Queued := by
  induction deeds with
  | refl => exact queued
  | tail _ deed ih => exact ih.deed deed

/-- Nothing that counts bytes is accepted or probed. -/
def silentLicence : Licence :=
  { Licence.free with
    probes := fun _ => False
    issues := fun _ _ => False
    writes := fun _ _ => False }

/-- Nothing that counts bytes is held, and the counter is right. -/
structure Bare (books : Books) : Prop where
  payloads : ∀ payload, books.Holds payload → payload.len = 0
  sum : books.queuedBytes = queueBytes books.unpacedQueue

/-- As long as nothing is accepted, whatever falls back to the queue counts no bytes. -/
theorem bare_keeps [Hkdf] : Books.Keeps silentLicence Bare where
  host _ _ bare := ⟨bare.payloads, bare.sum⟩
  deed := by
    intro before after deed bare
    constructor
    · intro payload held
      rcases deed.origin held with old | fresh
      · exact bare.payloads payload old
      · cases fresh with
        | issued may => exact may.resolve_right id
        | written may => exact absurd may id
        | probed may => exact absurd may id
    · cases deed with
      | hear | note | count | draw | issue | rotate | follow | phase | complete | openLocal | openPeer
      | grant | table | push | take | rescan | settle => exact bare.sum
      | post _ _ _ offers | postLong _ offers | dispatch _ _ _ _ offers => cases offers <;> exact bare.sum
      | probe _ may => exact absurd may id
      | write may => exact absurd may id
      | forsake _ fails => cases fails; exact bare.sum
      | requeue inHand fails =>
        have empty := bare.payloads _ (.inr (.inl ⟨_, inHand ▸ List.mem_cons_self, rfl⟩))
        cases fails
        dsimp only
        rw [queueBytes_cons, empty, Nat.zero_add]
        exact bare.sum
      | paced _ front _ _ offers =>
        have sum := bare.sum
        rw [front, queueBytes_cons] at sum
        have left : ∀ bytes others : Nat, before.queuedBytes = bytes + others →
            before.queuedBytes - bytes = others := by omega
        cases offers <;> exact left _ _ sum
      | retry front =>
        have sum := bare.sum
        rw [front, queueBytes_cons] at sum
        exact sum.trans (queueBytes_cons _ _).symm

end Books

namespace ZtConnectionActor

open Books

variable {CC : Type} [CongestionController CC] [Hkdf] [HandshakeCrypto]

/-- There are keys to seal some data, and it fits a datagram. -/
def Sendable (self : ZtConnectionActor CC) (data : Bytes) : Prop :=
  self.crypto.isSome = true ∧ data.length + self.dcid.length + 64 ≤ maxUdpPayload

/--
A turn in which no payload that counts bytes falls back to the queue.

Data is accepted only when there are keys to seal it and it fits a datagram, the socket takes every
packet it is handed, and the packet numbers do not run out.
-/
structure Unhindered (actor : ZtConnectionActor CC) (event : Event) (host : Host) : Prop where
  datagrams : ∀ data, event = .sendDatagram data → actor.Sendable data
  writes : ∀ streamId data, event = .outgoingData streamId data → actor.Sendable data
  willing : ∀ answer ∈ host.sends, answer = .sent
  /-- There are more answers than packets. -/
  spare : (actor.step event host).host.sends ≠ []
  numbers : (actor.step event host).nextPacketNumber + 1 < u64Size

/-- What a turn may accept under that condition. -/
theorem Unhindered.covers {actor : ZtConnectionActor CC} {event : Event} {host : Host}
    (unhindered : actor.Unhindered event host) :
    readyLicence.Covers event { actor with host := host } where
  probes _ _ := trivial
  recovers _ _ _ _ _ := trivial
  issues data sending _ _ := unhindered.datagrams data sending
  writes streamId data writing _ _ _ := unhindered.writes streamId data writing
  closes _ _ := trivial
  receives packet _ _ := Licence.receives_any (fun _ => trivial) (fun _ => trivial) (fun _ => trivial)
    (fun _ => trivial) (fun _ => trivial) packet
  shuts _ := trivial
  opens _ _ _ := trivial
  reads _ _ _ _ := trivial

/-- What the count of the queue rests on between two turns. -/
structure Counted (actor : ZtConnectionActor CC) : Prop where
  marked : (actor.books []).Marked
  furnished : (actor.books []).Furnished
  sum : actor.queuedBytes = queueBytes actor.unpacedQueue

/-- One turn. -/
theorem Counted.step {self : ZtConnectionActor CC} {event : Event} {host : Host}
    (unhindered : self.Unhindered event host) (counted : self.Counted) :
    (self.step event host).Counted := by
  refine ⟨(marked_keeps _).step unhindered.covers counted.marked,
    furnished_keeps.step unhindered.covers counted.furnished, ?_⟩
  rcases step_does unhindered.covers with same | ⟨-, does⟩
  · have sum := counted.sum
    have bytes := congrArg Books.queuedBytes (same [])
    have queue := congrArg Books.unpacedQueue (same [])
    dsimp only [books] at bytes queue
    rw [bytes, queue]
    exact sum
  · -- Within the turn the count may be off only when answers or numbers have run out.
    have queued : (({ self with host := host } : ZtConnectionActor CC).books []).Queued :=
      ⟨unhindered.willing, ⟨counted.marked.queue, counted.marked.hand, counted.marked.window⟩,
        ⟨counted.furnished.secret, counted.furnished.payloads⟩, .inl counted.sum⟩
    rcases (queued.run (does [])).tallied with sum | silent | full
    · exact sum
    · exact absurd silent unhindered.spare
    · exact absurd full (Nat.not_le.mpr unhindered.numbers)

omit [CongestionController CC] in
/-- A new actor holds nothing. -/
theorem Created.holds_nothing [EndpointCrypto] {actor : ZtConnectionActor CC} (created : Created actor)
    (payload : UnackedPayload) : ¬ (actor.books []).Holds payload := by
  cases created <;>
  · rintro (⟨_, member, -⟩ | ⟨_, member, -⟩ | ⟨_, member, -⟩) <;> cases member

omit [CongestionController CC] in
/-- An actor that has just started. -/
theorem Created.counted [EndpointCrypto] {actor : ZtConnectionActor CC} (created : Created actor)
    (host : Host) : (actor.start host).Counted := by
  have marked : (actor.books []).Marked := by
    cases created <;> exact ⟨nofun, nofun, nofun⟩
  have furnished : (actor.books []).Furnished := by
    refine ⟨?_, fun payload held => absurd held (created.holds_nothing payload)⟩
    cases created with
    | client => exact fun _ => rfl
    | server => exact nofun
  have bare : (actor.books []).Bare := by
    refine ⟨fun payload held => absurd held (created.holds_nothing payload), ?_⟩
    cases created <;> rfl
  exact ⟨(marked_keeps readyLicence).start marked, furnished_keeps.start furnished,
    (bare_keeps.start bare).sum⟩

end ZtConnectionActor

end Zetta
