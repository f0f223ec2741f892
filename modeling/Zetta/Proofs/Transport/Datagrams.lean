import Mathlib.Data.List.Flatten
import Zetta.Proofs.Protocol.Decode
import Zetta.Proofs.State.PacketWindow
import Zetta.Proofs.Transport.Holdings
import Zetta.Proofs.Transport.KeyUpdate
import Zetta.Proofs.Transport.Nonces

/-! A datagram goes out at most once, and is handed to the peer's application at most once. -/

namespace Zetta

/-- Whether a packet after the handshake starts with a datagram. -/
def SentRecord.startsWith (self : SentRecord) (data : Bytes) : Bool :=
  !self.packet.header.isLong && self.packet.header.pType.isProtected &&
    self.packet.frames.head? == some (.datagram data)

/-- Whether an effect is such a packet going out. -/
def Effect.carries (data : Bytes) : Effect → Bool
  | sent record => record.startsWith data
  | _ => false

/-- A packet with a long header does not start with a datagram. -/
theorem SentRecord.startsWith_long {record : SentRecord} (long : record.packet.header.isLong = true)
    (data : Bytes) : record.startsWith data = false := by
  simp [startsWith, long]

/-- A packet with one frame carries a datagram only if it starts with it. -/
theorem SentRecord.datagrams_count_le {record : SentRecord}
    (plain : record.packet.header.pType.isProtected = true → record.packet.IsPlain)
    (short : record.packet.header.pType.isProtected = true → record.packet.header.isLong = false)
    (data : Bytes) :
    record.datagrams.count data ≤ if record.startsWith data = true then 1 else 0 := by
  unfold SentRecord.datagrams SentRecord.startsWith
  split
  · rename_i kind
    rw [short kind, kind]
    -- What is not padding stands first, and padding is no datagram.
    have blank : ∀ frames : List Frame, (∀ frame ∈ frames, frame.isPadding = true) →
        frames.filterMap Frame.datagram? = [] := by
      intro frames padding
      refine List.filterMap_eq_nil_iff.mpr fun frame member => ?_
      have pads := padding frame member
      cases frame with
      | padding => rfl
      | _ => cases pads
    rcases plain kind with padding | ⟨first, rest, frames, padding⟩
    · rw [blank _ padding]
      exact Nat.zero_le _
    · rw [frames, List.filterMap_cons, blank rest padding]
      cases first with
      | datagram carried =>
        by_cases same : carried = data
        · simp [Frame.datagram?, same]
        · simp [Frame.datagram?, same]
      | _ => exact Nat.zero_le _
  · exact Nat.zero_le _

/-- So the packets that went out carry a datagram as often as they start with it, at most. -/
theorem Session.carriedCount_le {session : Session} (plain : session.Plain)
    (short : ∀ record, .sent record ∈ session.log → record.packet.header.pType.isProtected = true →
      record.packet.header.isLong = false) (data : Bytes) :
    session.carriedCount data ≤ session.log.countP (Effect.carries data) := by
  have each : ∀ record, .sent record ∈ session.log →
      record.datagrams.count data ≤ if record.startsWith data = true then 1 else 0 :=
    fun record member => record.datagrams_count_le (plain record member) (short record member) data
  unfold Session.carriedCount Session.sentRecords
  generalize session.log = log at each
  -- The induction is on the history, one effect at a time.
  induction log with
  | nil => exact Nat.le_refl _
  | cons effect rest ih =>
    have later := ih fun record member => each record (List.mem_cons_of_mem _ member)
    cases effect with
    | sent record =>
      have first := each record List.mem_cons_self
      rw [List.filterMap_cons_some (show (Effect.sent record).sent? = some record from rfl),
        List.flatMap_cons, List.count_append]
      by_cases starts : record.startsWith data = true
      · rw [if_pos starts] at first
        rw [List.countP_cons_of_pos (show Effect.carries data (.sent record) = true from starts)]
        omega
      · rw [if_neg starts] at first
        rw [List.countP_cons_of_neg (show ¬ Effect.carries data (.sent record) = true from starts)]
        omega
    | _ =>
      rw [List.filterMap_cons_none rfl, List.countP_cons_of_neg Bool.false_ne_true]
      exact later

namespace Books

/-- How often a datagram waits among some payloads. -/
def waiting (data : Bytes) (payloads : List (UnackedPayload × Nat)) : Nat :=
  payloads.countP fun entry => entry.1 == .datagram data

/-- A datagram waits and went out no more often than it was accepted. -/
def Frugal (data : Bytes) (books : Books) : Prop :=
  books.log.countP (Effect.carries data) + waiting data books.unpacedQueue + waiting data books.hand ≤
    books.log.count (.issued (.datagram data))

/-- A packet with another frame does not start with a datagram. -/
theorem starts_other {record : SentRecord} {frame : Frame}
    (frames : record.packet.frames = (Frame.decodeFrames (frameText frame record.packet.header)).1)
    (other : frame.datagram? = none) (data : Bytes) : record.startsWith data = false := by
  obtain ⟨pad, padded⟩ := ZtConnectionActor.padShort_eq record.packet.header.pnLen frame.encode
  have first := Frame.decodeFrames_other other pad data
  rw [← padded] at first
  simp only [SentRecord.startsWith, frames, frameText, Bool.and_eq_false_iff, beq_eq_false_iff_ne]
  exact .inr first

/-- Nor does a probe. -/
theorem Seals.starts_probe {books : Books} {number target : Nat} {record : SentRecord}
    (seals : books.Seals .mtuProbe number (probeText target) record) (data : Bytes) :
    record.startsWith data = false := by
  have first := @Frame.decodeFrames_other
    (.padding (target - (record.packet.header.encode.length + 16))) rfl 0 data
  rw [List.replicate_zero, List.append_nil] at first
  simp only [SentRecord.startsWith, seals.frames, probeText, Bool.and_eq_false_iff, beq_eq_false_iff_ne]
  exact .inr first

/-- A packet made for a payload that starts with a datagram was made for that one. -/
theorem Builds.starts {books : Books} {payload : UnackedPayload} {record : SentRecord} {data : Bytes}
    (builds : books.Builds payload record) (fits : record.packet.size ≤ maxUdpPayload)
    (starts : record.startsWith data = true) : payload = .datagram data := by
  cases builds with
  | initial cookie long =>
    rw [SentRecord.startsWith_long long] at starts
    cases starts
  | data ordinary seals =>
    have frames := seals.frames
    cases payload with
    | datagram carried =>
      -- The datagram in the packet is short enough to be read back as it was.
      have short : carried.length < 2 ^ 62 := by
        obtain ⟨crypto, pnLen, -, -, -, -, packet⟩ := seals
        rw [packet] at fits
        obtain ⟨pad, padded⟩ := ZtConnectionActor.padShort_eq pnLen (Frame.datagram carried).encode
        have size : carried.length ≤ (payloadText (.datagram carried)
            (books.header .data books.nextPacketNumber pnLen)).length := by
          show carried.length ≤ (ZtConnectionActor.padShort pnLen (Frame.datagram carried).encode).length
          rw [padded]
          simp only [Frame.encode, List.length_append, List.length_cons]
          omega
        simp only [Packet.size, Body.bytes, CryptoContext.encryptInPlace, List.length_append,
          maxUdpPayload] at fits
        omega
      obtain ⟨pad, padded⟩ :=
        ZtConnectionActor.padShort_eq record.packet.header.pnLen (Frame.datagram carried).encode
      have read : record.packet.frames.head? = some (.datagram carried) := by
        rw [frames]
        show (Frame.decodeFrames (ZtConnectionActor.padShort record.packet.header.pnLen
          (Frame.datagram carried).encode)).1.head? = _
        have words : (Frame.datagram carried).Words := short
        rw [padded, Frame.decodeFrames_encode words]
        rfl
      simp only [SentRecord.startsWith, read, Bool.and_eq_true, beq_iff_eq, Option.some.injEq,
        Frame.datagram.injEq] at starts
      rw [starts.2]
    | initial cookie => exact absurd rfl (ordinary cookie)
    | _ =>
      rw [starts_other frames rfl] at starts
      cases starts

/-- A payload more makes a datagram wait once more, if it is that one. -/
theorem waiting_cons (data : Bytes) (payload : UnackedPayload) (retries : Nat)
    (rest : List (UnackedPayload × Nat)) :
    waiting data ((payload, retries) :: rest) =
      waiting data rest + if payload = .datagram data then 1 else 0 := by
  simp only [waiting, List.countP_cons, beq_iff_eq]

/-- A payload that is accepted counts if it is the datagram, and is no packet. -/
theorem issued_counts (log : List Effect) (payload : UnackedPayload) (data : Bytes) :
    (log ++ [Effect.issued payload]).count (Effect.issued (.datagram data)) =
        log.count (Effect.issued (.datagram data)) + (if payload = .datagram data then 1 else 0) ∧
      (log ++ [Effect.issued payload]).countP (Effect.carries data) =
        log.countP (Effect.carries data) := by
  simp [List.count_singleton, Effect.carries]

/-- A packet offered to the socket counts once if it goes out and starts with the datagram. -/
theorem Offers.carried {before after : Books} {record : SentRecord}
    (offers : before.Offers record after) (data : Bytes) :
    after.log.count (.issued (.datagram data)) = before.log.count (.issued (.datagram data)) ∧
      (after.log.countP (Effect.carries data) = before.log.countP (Effect.carries data) ∨
        record.packet.size ≤ maxUdpPayload ∧ record.startsWith data = true ∧
          after.log.countP (Effect.carries data) = before.log.countP (Effect.carries data) + 1) := by
  cases offers with
  | taken _ _ fits =>
    refine ⟨by simp, ?_⟩
    by_cases starts : record.startsWith data = true
    · exact .inr ⟨fits, starts, by simp [Effect.carries, starts]⟩
    · exact .inl (by simp [Effect.carries, starts])
  | held => exact ⟨rfl, .inl rfl⟩

/-- One that does not start with the datagram counts for nothing. -/
theorem Offers.carried_other {before after : Books} {record : SentRecord} {data : Bytes}
    (offers : before.Offers record after) (other : record.startsWith data = false) :
    after.log.countP (Effect.carries data) = before.log.countP (Effect.carries data) := by
  rcases (offers.carried data).2 with same | ⟨-, starts, -⟩
  · exact same
  · rw [other] at starts
    cases starts

/-- One made for a payload counts for no more than the payload does. -/
theorem Offers.carried_built {before after : Books} {record : SentRecord} {payload : UnackedPayload}
    (offers : before.Offers record after) (builds : before.Builds payload record) (data : Bytes) :
    after.log.countP (Effect.carries data) ≤
      before.log.countP (Effect.carries data) + if payload = .datagram data then 1 else 0 := by
  rcases (offers.carried data).2 with same | ⟨fits, starts, counted⟩
  · omega
  · rw [if_pos (builds.starts fits starts)]
    omega

/-- Loose frames are no datagrams. -/
theorem datagram_none_of_loose {frame : Frame} (loose : frame.isData = false) :
    frame.datagram? = none := by
  cases frame with
  | datagram => cases loose
  | _ => rfl

/-- No deed sends a datagram or makes it wait that was not accepted for it. -/
theorem frugal_keeps [Hkdf] (licence : Licence) (data : Bytes) : Books.Keeps licence (Frugal data) where
  host _ _ holds := holds
  deed := by
    intro before after deed holds
    unfold Frugal at holds ⊢
    cases deed with
    | hear | count | draw | follow | phase | complete | grant | table | push | take | rescan =>
      exact holds
    | @note effect aside =>
      cases effect with
      | sent | issued | created => cases aside
      | _ => simpa [Effect.carries] using holds
    | rotate | openLocal | openPeer => simpa [Effect.carries] using holds
    | write => simpa [Effect.carries, waiting] using holds
    | retry front =>
      rw [front, waiting_cons] at holds
      rw [waiting_cons]
      exact holds
    | @issue payload =>
      -- It is accepted once and waits once.
      obtain ⟨accepted, carried⟩ := issued_counts before.log payload data
      rw [waiting_cons, accepted, carried]
      dsimp only
      omega
    | post loose _ seals offers =>
      have other := starts_other seals.frames (datagram_none_of_loose loose) data
      rw [(offers.carried data).1, offers.carried_other other]
      cases offers <;> exact holds
    | postLong long offers =>
      have other : _ = false := SentRecord.startsWith_long long data
      rw [(offers.carried data).1, offers.carried_other other]
      cases offers <;> exact holds
    | @probe offered _ target _ _ _ _ _ seals _ offers =>
      obtain ⟨accepted, carried⟩ := issued_counts offered.log (.mtuProbe target) data
      rw [if_neg nofun] at accepted
      rw [accepted, carried, (offers.carried data).1, offers.carried_other (seals.starts_probe data)]
      cases offers <;> exact holds
    | dispatch _ inHand _ builds offers =>
      rw [inHand, waiting_cons] at holds
      have accepted := (offers.carried data).1
      have carried := offers.carried_built builds data
      cases offers <;>
      · dsimp only [launch] at accepted carried ⊢
        omega
    | paced _ front _ builds offers =>
      rw [front, waiting_cons] at holds
      have accepted := (offers.carried data).1
      have carried := offers.carried_built builds data
      cases offers <;>
      · dsimp only [launch] at accepted carried ⊢
        omega
    | requeue inHand fails =>
      rw [inHand, waiting_cons] at holds
      cases fails
      rw [waiting_cons]
      dsimp only
      omega
    | forsake inHand fails =>
      rw [inHand, waiting_cons] at holds
      cases fails
      dsimp only
      omega
    | @settle _ _ _ _ again _ _ _ _ _ _ reliable =>
      -- A datagram is not among the payloads taken in hand.
      have none : waiting data again = 0 := by
        refine List.countP_eq_zero.mpr fun entry member => ?_
        obtain ⟨packet, -, -, other, carried⟩ := reliable entry member
        rw [carried]
        intro same
        rw [beq_iff_eq.mp same] at other
        cases other
      have split : waiting data (again ++ before.hand) = waiting data again + waiting data before.hand :=
        List.countP_append
      dsimp only
      omega

end Books

section Numbers

variable [Hkdf]

/-- A packet opens under the number it was sealed with, and no other. -/
theorem SentRecord.Stamped.number {record : SentRecord} {master aad text : Bytes} {isClient : Bool}
    {payload : Sealed} {epoch number : Nat} (stamped : record.Stamped master (!isClient))
    (ideal : IdealKeys) (body : record.packet.body = .encrypted payload)
    (opened : payload.openWith (epochKeys master isClient epoch).rxKey
      (epochKeys master isClient epoch).rxIv number aad = some text)
    (fits : number < u64Size) (sealedFits : record.packet.header.packetNumber < u64Size) :
    number = record.packet.header.packetNumber := by
  obtain ⟨plaintext, content⟩ := stamped.body
  rw [content] at body
  cases body
  have peer := epochKeys_peer master (!isClient) epoch
  rw [Bool.not_not] at peer
  unfold Sealed.openWith at opened
  split at opened
  · rename_i matching
    obtain ⟨key, nonce, -⟩ := matching
    -- One key comes with one vector, under which the two numbers make one nonce.
    have vector := ideal.paired _ _ _ _ _ _ (key.trans peer.1)
    dsimp only at nonce
    rw [peer.2] at nonce
    exact (makeNonceFromIv_injective (ideal.length _ _ _) sealedFits fits
      ((congrArg (makeNonceFromIv · _) vector).symm.trans nonce)).symm
  · cases opened

/-- A payload that opens does so under the keys of some epoch. -/
theorem ZtConnectionActor.OpensTo.epoch {CC : Type} {self opened : ZtConnectionActor CC}
    {crypto : CryptoContext} {number : Nat} {aad master : Bytes} {payload : Sealed} {isClient : Bool}
    (opens : self.OpensTo crypto number aad payload opened) (keyed : crypto.Keyed master isClient) :
    ∃ epoch, payload.openWith (epochKeys master isClient epoch).rxKey
      (epochKeys master isClient epoch).rxIv number aad = some payload.plaintext := by
  cases opens with
  | current opened =>
    rw [keyed.rxKey, keyed.rxIv] at opened
    exact ⟨_, opened⟩
  | previous kept opened =>
    -- Keys are kept from the second epoch on.
    cases position : crypto.epoch with
    | zero =>
      rw [keyed.first position] at kept
      cases kept
    | succ last =>
      rw [keyed.prevRx last position] at kept
      cases kept
      exact ⟨last, opened⟩
  | next opened =>
    rw [keyed.nextRxKey, keyed.nextRxIv] at opened
    exact ⟨_, opened⟩

/-- A number that was processed stays known. -/
theorem CoreStep.isReplay_mono {env : Environment} {before after : Session}
    (step : CoreStep env before after) {pn : Nat} (replay : before.replayWindow.isReplay pn = true) :
    after.replayWindow.isReplay pn = true := by
  cases step with
  | mark => exact ReplayWindow.isReplay_markProcessed (.inl replay)
  | send step => cases step <;> exact replay
  | _ => exact replay

/-- It does so in any number of steps. -/
theorem isReplay_run {env : Environment} {before after : Session}
    (run : Relation.ReflTransGen (CoreStep env) before after) {pn : Nat}
    (replay : before.replayWindow.isReplay pn = true) : after.replayWindow.isReplay pn = true :=
  @Program.invariant_run Session _ (fun session => session.replayWindow.isReplay pn = true)
    (fun _ _ holds step => step.isReplay_mono holds) _ _ replay run

end Numbers

/-- No datagram is handed to the application. -/
def Licence.mute : Licence := { Licence.free with pushes := fun _ => False }

/-- Then what was handed to it stays as it is. -/
theorem Books.mute_keeps [Hkdf] (sent : List Bytes) :
    Books.Keeps Licence.mute fun books => books.datagrams.sent = sent where
  host _ _ holds := holds
  deed := by
    intro before after deed holds
    cases deed with
    | post _ _ _ offers | postLong _ offers | dispatch _ _ _ _ offers | paced _ _ _ _ offers
    | probe _ _ _ _ _ _ _ offers => cases offers <;> exact holds
    | requeue _ fails | forsake _ fails => cases fails; exact holds
    | push may => exact may.elim
    | take same => exact same.trans holds
    | _ => exact holds

/-- A handler without leave to hand over datagrams hands over none. -/
theorem Does.mute [Hkdf] {CC : Type} {self after : ZtConnectionActor CC}
    (does : Does Licence.mute self after) : after.datagrams.sent = self.datagrams.sent :=
  (Books.mute_keeps self.datagrams.sent).run (does []) rfl

namespace ZtConnectionActor

open Program

variable {CC : Type} [Hkdf] [HandshakeCrypto] [CongestionController CC]

/-- A frame hands over at most the datagram it carries. -/
theorem handleFrame_datagrams (self : ZtConnectionActor CC) (frame : Frame) (addr : Address) :
    ∃ more, more.Sublist frame.datagram?.toList ∧
      (exec (handleFrame frame addr) self).2.datagrams.sent = self.datagrams.sent ++ more := by
  by_cases other : frame.datagram? = none
  · refine ⟨[], List.nil_sublist _, ?_⟩
    have quiet : Does Licence.mute self (exec (handleFrame frame addr) self).2 := by
      refine self.handleFrame_does addr (fun _ _ => trivial) (fun _ _ => trivial) (fun data same => ?_)
        fun _ _ _ _ _ => ⟨fun _ _ => trivial, fun _ _ _ => trivial⟩
      rw [same] at other
      cases other
    rw [quiet.mute, List.append_nil]
  · cases frame with
    | datagram data =>
      unfold handleFrame
      dsimp only
      rw [exec_modify]
      split
      · exact ⟨[data], List.Sublist.refl _, rfl⟩
      · exact ⟨[], List.nil_sublist _, (List.append_nil _).symm⟩
    | _ => exact absurd rfl other

/-- The frames of a packet hand over at most the datagrams they carry, in order. -/
theorem handleFrames_datagrams (addr : Address) (frames : List Frame) (self : ZtConnectionActor CC) :
    ∃ more, more.Sublist (frames.filterMap Frame.datagram?) ∧
      (exec (handleFrames addr frames) self).2.datagrams.sent = self.datagrams.sent ++ more := by
  induction frames generalizing self with
  | nil => exact ⟨[], List.nil_sublist _, (List.append_nil _).symm⟩
  | cons frame rest ih =>
    obtain ⟨more, fewer, handed⟩ := self.handleFrame_datagrams frame addr
    have split : (frame :: rest).filterMap Frame.datagram? =
        frame.datagram?.toList ++ rest.filterMap Frame.datagram? := by
      rw [List.filterMap_cons]
      cases frame.datagram? <;> rfl
    rw [split]
    unfold handleFrames
    rw [exec_bind_get, exec_bind]
    cases ended : exec (handleFrame frame addr) self with
    | mk outcome reached =>
      rw [ended] at handed
      cases outcome with
      | error error => exact ⟨more, fewer.trans (List.sublist_append_left _ _), handed⟩
      | ok value =>
        dsimp only
        rw [exec_bind_modify]
        obtain ⟨others, fewerLater, later⟩ := ih (reached.note (.handled frame
          (frame.streamId?.any self.streams.contains)))
        refine ⟨more ++ others, fewer.append fewerLater, later.trans ?_⟩
        show reached.datagrams.sent ++ others = _
        rw [handed, List.append_assoc]

/-- The payloads that are sent again when the retransmission timer fires. -/
def expiredPayloads (self : ZtConnectionActor CC) : List (UnackedPayload × Nat) :=
  let rto := max (self.rtt + self.rttvar * 4) (milliseconds 50)
  let (deque, expiry) := expireSlots self.host.now rto self.unackedPackets.basePn
    self.unackedPackets.deque ⟨[], [], [], false, false⟩
  let self := noteExpiredProbes expiry
    { self with unackedPackets := { self.unackedPackets with deque := deque } }
  (UnackedWindow.drain (expiredPacket expiry.toRetransmit) expiry.toDrop self.unackedPackets
    ([], self)).2.1

omit [Hkdf] [HandshakeCrypto] in
/-- No datagram is among them. -/
theorem expiredPayloads_reliable (self : ZtConnectionActor CC) :
    ∀ entry ∈ self.expiredPayloads, entry.1.isDatagram = false := by
  unfold expiredPayloads
  dsimp only
  generalize max (self.rtt + self.rttvar * 4) (milliseconds 50) = rto
  obtain ⟨doomed, listed, drop, again, -⟩ := expireSlots_doomed self.host.now rto
    self.unackedPackets.deque self.unackedPackets.basePn ⟨[], [], [], false, false⟩
  generalize expireSlots self.host.now rto self.unackedPackets.basePn self.unackedPackets.deque
    ⟨[], [], [], false, false⟩ = scan at listed drop again ⊢
  obtain ⟨deque, expiry⟩ := scan
  dsimp only at listed drop again ⊢
  rw [List.nil_append] at drop again
  -- What is learned from probes leaves the window alone.
  have noted := noteExpiredProbes_essence expiry
    { self with unackedPackets := { self.unackedPackets with deque := deque } } self.cc
  generalize noteExpiredProbes expiry
    { self with unackedPackets := { self.unackedPackets with deque := deque } } = found at noted ⊢
  have window : found.unackedPackets = { self.unackedPackets with deque := deque } := by
    have same := congrArg (fun actor : ZtConnectionActor CC => actor.unackedPackets) noted
    exact same
  have inside : doomed.Sublist found.unackedPackets.iter := by
    rw [window]
    exact listed
  obtain ⟨rest, payloads, after, drained, -, -, -, -, -, reliable⟩ := drain_expired_sweeps inside drop again
  rw [drained]
  intro entry member
  obtain ⟨packet, -, sure, carried⟩ := reliable entry member
  rw [carried]
  simpa using (Bool.and_eq_true_iff.mp sure).2

omit [Hkdf] [HandshakeCrypto] in
/-- Nor is one among the payloads of packets that an acknowledgment shows to be lost. -/
theorem handleAck_reliable (self : ZtConnectionActor CC) (largest window delay : Nat)
    (ranges : List (Nat × Nat)) :
    ∀ entry ∈ (self.handleAck largest window delay ranges []).1, entry.1.isDatagram = false := by
  obtain ⟨reported, outdated, lost, -, -, -, again, -⟩ := self.handleAck_sweeps largest window delay ranges
  intro entry member
  obtain ⟨packet, -, sure, carried⟩ := again entry member
  rw [carried]
  simpa using (Bool.and_eq_true_iff.mp sure).2

/-- Only a packet after the handshake hands over datagrams. -/
theorem step_mute {self : ZtConnectionActor CC} {event : Event} {host : Host}
    (other : ∀ packet addr, event = .incomingPacket packet addr →
      packet.header.pType.isProtected = false) :
    (self.step event host).datagrams.sent = self.datagrams.sent := by
  have covers : Licence.mute.Covers event { self with host := host } := {
    probes := fun _ _ => trivial
    recovers := fun _ _ _ _ _ => trivial
    issues := fun _ _ _ _ => trivial
    writes := fun _ _ _ _ _ _ => trivial
    closes := fun _ _ => trivial
    receives := fun packet addr arrives => ⟨.inl fun _ => trivial, fun kind =>
      absurd kind (other packet addr arrives ▸ nofun), fun _ => trivial,
      fun _ _ _ _ _ => ⟨fun _ _ => trivial, fun _ _ _ => trivial⟩⟩
    shuts := fun _ => trivial
    opens := fun _ _ _ => trivial
    reads := fun _ _ _ _ => trivial }
  rcases step_does covers with same | ⟨-, does⟩
  · exact congrArg (fun books => books.datagrams.sent) (same [])
  · exact does.mute

end ZtConnectionActor

namespace System

open Program ZtConnectionActor

variable {CC : Type} [Hkdf] [HandshakeCrypto] [CongestionController CC] {master : Bytes}
  {condition : System CC → Move → Prop} {system : System CC}

section Delivered

variable {side : Side} {index : Nat} {record : SentRecord} {addr : Address} {host : Host}
  {ready : ZtConnectionActor CC}

/-- The frames of a packet are handled under the number it was sealed with. -/
theorem Handles.number (handles : system.Handles side host record addr ready)
    (reached : ReachableWhile master condition system) (ideal : IdealKeys)
    (found : system.delivered? side index = some record)
    (kind : record.packet.header.pType.isProtected = true) :
    (system.receiver side host).numberOf (arriving record) = record.packet.header.packetNumber := by
  have sent : .sent record ∈ (system.actor side.peer).log :=
    Session.mem_sentRecords.mp (List.mem_of_getElem? found)
  obtain ⟨opened, admits, -⟩ := handles.admitted
  obtain ⟨crypto, payload, keys, body, opens⟩ := admits.opens
  have agree := reached.keys side
  obtain ⟨held, found, keyed, -⟩ := agree.epochal.keyed
  have same : held = crypto := Option.some.inj (found.symm.trans keys)
  subst same
  obtain ⟨epoch, openedWith⟩ := opens.epoch keyed
  have stamped := (agree.other.sent record sent kind).1
  have roles : (system.actor side.peer).isClient = !(system.actor side).isClient := by
    rw [agree.roles, Bool.not_not]
  rw [roles] at stamped
  have sealedNumber := ((reached.sound side.peer).log.sent record sent kind).number
  exact stamped.number ideal body openedWith
    (expandPn_lt record.packet.header.onWire_packetNumber_lt _ _)
    (lt_trans sealedNumber (reached.sound side.peer).number)

/-- Nothing is handed over before the frames are handled. -/
theorem Handles.mute (handles : system.Handles side host record addr ready) :
    ready.datagrams.sent = (system.actor side).datagrams.sent := by
  obtain ⟨opened, admits, rfl⟩ := handles.admitted
  obtain ⟨crypto, payload, -, -, opens⟩ := admits.opens
  have unchanged : opened.datagrams = (system.actor side).datagrams := by cases opens <;> rfl
  have activated : opened.activate.datagrams.sent = opened.datagrams.sent := opened.activate_does.mute
  exact (opened.activate.readied_does _ addr).mute.trans
    (activated.trans (congrArg Channel.sent unchanged))

/-- What a delivered packet hands over, it hands over the first time it is handled. -/
theorem deliver_datagrams (reached : ReachableWhile master condition system) (ideal : IdealKeys)
    (found : system.delivered? side index = some record)
    (kind : record.packet.header.pType.isProtected = true) (addr : Address) (host : Host) :
    ((system.actor side).step (.incomingPacket (arriving record) addr) host).datagrams.sent =
        (system.actor side).datagrams.sent ∨
      (system.actor side).isReplay record.packet.header.packetNumber = false ∧
        ((system.actor side).step (.incomingPacket (arriving record) addr) host).isReplay
          record.packet.header.packetNumber = true ∧
        ∃ more, more.Sublist record.datagrams ∧
          ((system.actor side).step (.incomingPacket (arriving record) addr) host).datagrams.sent =
            (system.actor side).datagrams.sent ++ more := by
  unfold ZtConnectionActor.step
  split
  · exact .inl rfl
  split
  · exact .inl rfl
  -- The packet is processed, and then the pacer sends what it allows.
  show (exec resetPacing (exec (processIncomingPacket (arriving record) addr)
      (system.receiver side host)).2).2.datagrams.sent = _ ∨ _ ∧
    (exec resetPacing (exec (processIncomingPacket (arriving record) addr)
      (system.receiver side host)).2).2.isReplay _ = true ∧ ∃ more, _ ∧
    (exec resetPacing (exec (processIncomingPacket (arriving record) addr)
      (system.receiver side host)).2).2.datagrams.sent = _
  have paced : ∀ after : ZtConnectionActor CC,
      (exec resetPacing after).2.datagrams.sent = after.datagrams.sent :=
    fun after => Does.mute (after.resetPacing_does fun _ => trivial)
  rw [paced]
  rcases delivered_cases found kind addr host with drops | ⟨ready, handles⟩
  · rw [drops.after]
    exact .inl rfl
  · right
    rw [handles.result]
    have number := handles.number reached ideal found kind
    have fresh := handles.fresh
    rw [number] at fresh
    have sound : ready.Sound := handles.moves.sound (reached.sound side)
    refine ⟨fresh, ?_, ?_⟩
    · -- The number was recorded before the frames were handled.
      have marked : ready.replayWindow.isReplay record.packet.header.packetNumber = true := by
        rw [sound.windows, handles.set.tracker, number]
        exact ReplayWindow.isReplay_markProcessed (.inr rfl)
      obtain ⟨-, arrived⟩ := reached.arrived found kind
      have handled := handleFrames_moves addr record.packet.frames sound
        (fun frame member => (arrived frame member).1) fun frame member => (arrived frame member).2
      exact isReplay_run (handled.paced sound).1 marked
    · obtain ⟨more, fewer, handed⟩ := handleFrames_datagrams addr record.packet.frames ready
      refine ⟨more, ?_, handed.trans (congrArg (· ++ more) handles.mute)⟩
      unfold SentRecord.datagrams
      rw [if_pos kind]
      exact fewer

end Delivered

/-- The packets of its peer that a side has handled, each once and none of them once more. -/
structure Handled (system : System CC) (side : Side) (records : List SentRecord) : Prop where
  sent : ∀ record ∈ records, record ∈ (system.actor side.peer).sentRecords
  replays : ∀ record ∈ records,
    (system.actor side).isReplay record.packet.header.packetNumber = true
  distinct : (records.map fun record => record.packet.header.packetNumber).Nodup
  datagrams : (system.actor side).datagrams.sent.Sublist (records.flatMap SentRecord.datagrams)

omit [Hkdf] [HandshakeCrypto] [CongestionController CC] in
/-- They stay handled as histories grow and nothing is handed over. -/
theorem Handled.mono {side : Side} {records : List SentRecord} {next : System CC}
    (handled : system.Handled side records)
    (sent : (system.actor side.peer).log <+: (next.actor side.peer).log)
    (replays : ∀ pn, (system.actor side).isReplay pn = true → (next.actor side).isReplay pn = true)
    (same : (next.actor side).datagrams.sent = (system.actor side).datagrams.sent) :
    next.Handled side records where
  sent record member := (sent.sublist.filterMap _).subset (handled.sent record member)
  replays record member := replays _ (handled.replays record member)
  distinct := handled.distinct
  datagrams := same ▸ handled.datagrams

omit [Hkdf] [HandshakeCrypto] [CongestionController CC] in
/-- A packet more is handled by a side that did not know its number. -/
theorem Handled.snoc {side : Side} {records : List SentRecord} {next : System CC} {record : SentRecord}
    (handled : system.Handled side records)
    (sent : (system.actor side.peer).log <+: (next.actor side.peer).log)
    (replays : ∀ pn, (system.actor side).isReplay pn = true → (next.actor side).isReplay pn = true)
    (arrived : record ∈ (system.actor side.peer).sentRecords)
    (fresh : (system.actor side).isReplay record.packet.header.packetNumber = false)
    (known : (next.actor side).isReplay record.packet.header.packetNumber = true)
    {more : List Bytes} (fewer : more.Sublist record.datagrams)
    (handed : (next.actor side).datagrams.sent = (system.actor side).datagrams.sent ++ more) :
    next.Handled side (records ++ [record]) where
  sent other member := by
    apply (sent.sublist.filterMap _).subset
    rcases List.mem_append.mp member with old | new
    · exact handled.sent other old
    · exact List.mem_singleton.mp new ▸ arrived
  replays other member := by
    rcases List.mem_append.mp member with old | new
    · exact replays _ (handled.replays other old)
    · exact List.mem_singleton.mp new ▸ known
  distinct := by
    rw [List.map_append, List.nodup_append]
    refine ⟨handled.distinct, by simp, fun number old other new same => ?_⟩
    -- A number handled before would be a replay.
    obtain ⟨earlier, member, rfl⟩ := List.mem_map.mp old
    rw [List.map_singleton, List.mem_singleton] at new
    have replay := handled.replays earlier member
    rw [same, new, fresh] at replay
    cases replay
  datagrams := by
    rw [handed, List.flatMap_append, List.flatMap_singleton]
    exact handled.datagrams.append fewer

/-- A move leaves the actor of a side alone, or is a turn of it. -/
theorem step_actor (system : System CC) (move : Move) (side : Side) :
    (system.step move).actor side = system.actor side ∨
      ∃ event host, (system.step move).actor side = (system.actor side).step event host := by
  rcases side.eq_or_eq_peer move.side with rfl | rfl
  · cases move with
    | act side event host =>
      unfold step
      dsimp only [Move.side]
      split
      · exact .inr ⟨event, host, actor_setActor _ _ _⟩
      · exact .inl rfl
    | deliver side index addr host =>
      unfold step
      dsimp only [Move.side]
      split
      · exact .inl rfl
      · exact .inr ⟨_, host, actor_setActor _ _ _⟩
  · left
    cases move with
    | act side event host =>
      unfold step
      dsimp only [Move.side]
      split
      · exact actor_setActor_peer _ _ _
      · rfl
    | deliver side index addr host =>
      unfold step
      dsimp only [Move.side]
      split
      · rfl
      · exact actor_setActor_peer _ _ _

/-- One move adds at most one packet to those handled. -/
theorem Handled.step {side : Side} {records : List SentRecord} (handled : system.Handled side records)
    (reached : ReachableWhile master condition system) (ideal : IdealKeys) (move : Move) :
    ∃ more, (system.step move).Handled side more := by
  obtain ⟨turn, still⟩ := step_turn reached.sound (system.permits_all move)
  have grows : (system.actor move.side).log <+: ((system.step move).actor move.side).log :=
    @Program.invariant_run Session _ (fun session => (system.actor move.side).log <+: session.log)
      (fun _ _ grown step => grown.trans step.log_grows) _ _ (List.prefix_refl _) turn.run
  rcases side.eq_or_eq_peer move.side with rfl | rfl
  · -- The side moved itself, and its peer stood still.
    have sent : (system.actor move.side.peer).log <+: ((system.step move).actor move.side.peer).log :=
      still.symm ▸ List.prefix_refl _
    have replays : ∀ pn, (system.actor move.side).isReplay pn = true →
        ((system.step move).actor move.side).isReplay pn = true :=
      fun pn replay => isReplay_run turn.run replay
    have quiet : ((system.step move).actor move.side).datagrams.sent =
        (system.actor move.side).datagrams.sent → ∃ more, (system.step move).Handled move.side more :=
      fun same => ⟨records, handled.mono sent replays same⟩
    cases move with
    | act side event host =>
      apply quiet
      unfold System.step
      dsimp only [Move.side]
      split
      · rename_i isLocal
        rw [actor_setActor]
        refine step_mute fun packet addr same => ?_
        rw [same] at isLocal
        cases isLocal
      · rfl
    | deliver side index addr host =>
      cases found : system.delivered? side index with
      | none =>
        apply quiet
        unfold System.step
        dsimp only [Move.side]
        rw [found]
      | some record =>
        have stepped : (system.step (.deliver side index addr host)).actor side =
            (system.actor side).step (.incomingPacket (arriving record) addr) host := by
          unfold System.step
          dsimp only
          rw [found]
          exact actor_setActor _ _ _
        by_cases kind : record.packet.header.pType.isProtected = true
        · rcases deliver_datagrams reached ideal found kind addr host with same | ⟨fresh, known, rest⟩
          · exact quiet (by rw [Move.side, stepped, same])
          · obtain ⟨more, fewer, handed⟩ := rest
            rw [← stepped] at known handed
            exact ⟨_, handled.snoc sent replays (List.mem_of_getElem? found) fresh known fewer handed⟩
        · apply quiet
          rw [Move.side, stepped]
          refine step_mute fun packet addr same => ?_
          cases same
          exact Bool.eq_false_iff.mpr kind
  · -- The peer moved, and may have sent more.
    refine ⟨records, handled.mono ?_ ?_ ?_⟩
    · rw [Side.peer_peer]
      exact grows
    · rw [still]
      exact fun _ replay => replay
    · rw [still]

/-- Along a run every side handles a list of packets, each once. -/
theorem handled_run (connected : system.Connected master) (ideal : IdealKeys) {side : Side}
    (empty : (system.actor side).datagrams.sent = []) (moves : List Move) :
    ∃ records, (system.run moves).Handled side records := by
  induction moves using List.reverseRecOn with
  | nil =>
    refine ⟨[], nofun, nofun, List.nodup_nil, ?_⟩
    show (system.actor side).datagrams.sent.Sublist _
    rw [empty]
    exact List.nil_sublist _
  | append_singleton moves move ih =>
    obtain ⟨records, handled⟩ := ih
    have last : system.run (moves ++ [move]) = (system.run moves).step move :=
      List.foldl_concat System.step system move moves
    rw [last]
    exact handled.step (connected.reachable moves) ideal move

omit [HandshakeCrypto] [CongestionController CC] in
/-- Right after the handshake no datagram was accepted. -/
theorem Connected.frugal (connected : system.Connected master) (side : Side) (data : Bytes) :
    Books.Frugal data ((system.actor side).books []) := by
  have fresh := connected.fresh side
  have quiet : (system.actor side).log.countP (Effect.carries data) = 0 := by
    refine List.countP_eq_zero.mpr fun effect member => ?_
    rcases fresh.log effect member with ⟨cookie, rfl⟩ | ⟨record, rfl, long⟩
    · exact Bool.false_ne_true
    · cases type : record.packet.header.pType <;>
        simp [type, PacketType.isHandshake] at long <;>
        simp [Effect.carries, SentRecord.startsWith, type, PacketType.isProtected]
  have empty : Books.waiting data (system.actor side).unpacedQueue = 0 := by
    refine List.countP_eq_zero.mpr fun entry member => ?_
    rcases fresh.log _ (fresh.queue entry member) with ⟨cookie, same⟩ | ⟨record, same, -⟩
    · rw [Effect.issued.inj same]
      exact Bool.false_ne_true
    · cases same
  show (system.actor side).log.countP (Effect.carries data) +
    Books.waiting data (system.actor side).unpacedQueue + 0 ≤ _
  omega

/-- Along a run no side sends a datagram more often than it accepted it. -/
theorem frugal_run (connected : system.Connected master) (side : Side) (data : Bytes)
    (moves : List Move) : Books.Frugal data (((system.run moves).actor side).books []) := by
  induction moves using List.reverseRecOn with
  | nil => exact connected.frugal side data
  | append_singleton moves move ih =>
    have last : system.run (moves ++ [move]) = (system.run moves).step move :=
      List.foldl_concat System.step system move moves
    rw [last]
    rcases step_actor (system.run moves) move side with same | ⟨event, host, turn⟩
    · rw [same]
      exact ih
    · rw [turn]
      exact (Books.frugal_keeps Licence.free data).step (Licence.free_covers _ _) ih

omit [Hkdf] [HandshakeCrypto] [CongestionController CC] in
/-- What a side was handed over is carried by the packets its peer sent. -/
theorem Handled.count_le {side : Side} {records : List SentRecord}
    (handled : system.Handled side records) (data : Bytes) :
    (system.actor side).datagrams.sent.count data ≤ (system.actor side.peer).carriedCount data := by
  refine (handled.datagrams.count_le data).trans ?_
  -- The packets handled are different ones, so they are some of those sent.
  have different : records.Nodup := handled.distinct.of_map _
  obtain ⟨chosen, same, some_⟩ := different.subperm handled.sent
  unfold Session.carriedCount
  rw [← (same.flatMap_right SentRecord.datagrams).count_eq]
  exact (some_.flatMap _).count_le data

/--
Between two connected endpoints a datagram goes out in no more packets than it was accepted for,
and is handed to the peer's application no more often than it went out; it is never among the
payloads that an acknowledgment or the retransmission timer has sent again.
-/
theorem datagrams_at_most_once (ideal : IdealKeys) (connected : system.Connected master)
    (silent : ∀ side, (system.actor side).datagrams.sent = []) (moves : List Move) (side : Side)
    (data : Bytes) :
    ((system.run moves).actor side).carriedCount data ≤
        ((system.run moves).actor side).acceptedCount data ∧
      ((system.run moves).actor side.peer).datagrams.sent.count data ≤
        ((system.run moves).actor side).carriedCount data ∧
      (∀ largest window delay ranges,
        ∀ entry ∈ (((system.run moves).actor side).handleAck largest window delay ranges []).1,
          entry.1.isDatagram = false) ∧
      ∀ host, ∀ entry ∈ ((system.run moves).receiver side host).expiredPayloads,
        entry.1.isDatagram = false := by
  have reached := connected.reachable moves
  refine ⟨?_, ?_, handleAck_reliable _, fun host => expiredPayloads_reliable _⟩
  · have carried := Session.carriedCount_le (reached.plain side)
      (fun record member kind => ((reached.sound side).log.sent record member kind).short) data
    have frugal := frugal_run connected side data moves
    exact carried.trans (le_trans (Nat.le_add_right_of_le (Nat.le_add_right _ _)) frugal)
  · obtain ⟨records, handled⟩ := handled_run connected ideal (silent side.peer) moves
    have delivered := handled.count_le data
    rw [Side.peer_peer] at delivered
    exact delivered

end System

open Sample

namespace System

/-- The client sends a datagram, and its packet arrives twice. -/
def datagramTwice : List Move :=
  [.act .client (.sendDatagram [7]) (hostTaking 1), .deliver .server 0 0 (hostTaking 0),
    .deliver .server 0 0 (hostTaking 0)]

/-- It is handed to the server's application once, no more often than it was accepted. -/
theorem repeated_datagram_once :
    (((Sample.system (config 1 10)).run datagramTwice).actor .server).datagrams.sent = [[7]] ∧
      (((Sample.system (config 1 10)).run datagramTwice).actor .client).acceptedCount [7] = 1 ∧
      (((Sample.system (config 1 10)).run datagramTwice).actor .server).datagrams.sent.count [7] ≤
        (((Sample.system (config 1 10)).run datagramTwice).actor .client).carriedCount [7] := by
  have ideal : IdealKeys := by
    constructor
    · intro secret epoch isClient
      cases isClient <;> exact List.length_replicate
    · intro secret epoch isClient secret' epoch' isClient' _
      cases isClient <;> cases isClient' <;> rfl
  have silent : ∀ side, ((Sample.system (config 1 10)).actor side).datagrams.sent = [] := by
    intro side
    cases side <;> rfl
  have connected : (Sample.system (config 1 10)).Connected [] := system_connected rfl (by decide)
  have once := (datagrams_at_most_once ideal connected silent datagramTwice .client [7]).2.1
  rw [show Side.client.peer = .server from rfl] at once
  exact ⟨by decide +kernel, by decide +kernel, once⟩

end System
end Zetta
