import Zetta.Proofs.Transport.Holdings
import Zetta.Proofs.Transport.Nonces

/-! The bytes in flight are the sum over the packets in the window, so taking packets out never clamps. -/

namespace Zetta

open Books

/-- The counter of bytes in flight is the sum over a window that ends before the next number. -/
structure InFlight (window : UnackedWindow) (flight number : Nat) : Prop where
  sum : flight = bytesOf window.iter
  extent : window.extent ≤ number

namespace InFlight

variable {window rest : UnackedWindow} {flight number : Nat}

/-- Taking numbers leaves the window alone. -/
theorem draw {later : Nat} (held : InFlight window flight number) (more : number ≤ later) :
    InFlight window flight later := ⟨held.sum, held.extent.trans more⟩

/-- A packet under the next number joins the window, which never ignores it. -/
theorem launch (held : InFlight window flight number) (packet : UnackedPacket) :
    InFlight (window.insert number packet) (flight + packet.sentBytes) (number + 1) := by
  constructor
  · rw [UnackedWindow.iter_insert_end packet held.extent, held.sum]
    simp [bytesOf]
  · exact (UnackedWindow.extent_insert_end packet held.extent).le

/-- The bytes of packets that left and of those that stayed. -/
theorem parts {gone : List (Nat × UnackedPacket)} (split : window.iter.Perm (gone ++ rest.iter)) :
    bytesOf window.iter = bytesOf gone + bytesOf rest.iter := by
  unfold bytesOf
  rw [(split.map _).sum_nat, List.map_append, List.sum_append]

/-- Packets that leave take their own bytes off the counter, which holds them all. -/
theorem settle {gone : List (Nat × UnackedPacket)} (held : InFlight window flight number)
    (split : window.iter.Perm (gone ++ rest.iter)) (extent : rest.extent = window.extent) :
    InFlight rest (flight - bytesOf gone) number := by
  constructor
  · rw [held.sum, parts split]
    omega
  · rw [extent]
    exact held.extent

/-- The sum looks at the contents only. -/
theorem contents (same : rest.contents = window.contents) :
    bytesOf rest.iter = bytesOf window.iter := by
  have bytes : ∀ window : UnackedWindow,
      bytesOf window.iter = (window.contents.map fun entry => entry.2.2.2).sum := by
    intro window
    simp [bytesOf, UnackedWindow.contents, Function.comp_def]
  rw [bytes, bytes, same]

/-- Counting attempts changes neither the sum nor the end of the window. -/
theorem rescan (held : InFlight window flight number) (extent : rest.extent = window.extent)
    (same : rest.contents = window.contents) : InFlight rest flight number := by
  constructor
  · rw [held.sum, contents same]
  · rw [extent]
    exact held.extent

end InFlight

/-- Probes are sent only while the counter is far from the end of its machine word. -/
def Licence.roomy : Licence :=
  { Licence.free with probes := fun books => books.bytesInFlight + maxUdpPayload < u64Size }

/-- Every deed keeps the counter of bytes in flight right. -/
theorem inFlight_keeps [Hkdf] : Books.Keeps Licence.roomy fun books =>
    InFlight books.unackedPackets books.bytesInFlight books.nextPacketNumber where
  host _ _ held := held
  deed := by
    intro before after deed held
    show InFlight after.flight.window after.flight.bytes after.flight.number
    cases deed.flightStep with
    | kept later same => exact same ▸ held.draw later
    | launched _ _ same => exact same ▸ held.launch _
    | @probed now target size may _ _ _ small same =>
      -- Far from the end of the machine word the sum does not saturate.
      have room : before.bytesInFlight + maxUdpPayload < u64Size := may
      have exact_ : saturatingAdd before.bytesInFlight size = before.bytesInFlight + size := by
        unfold saturatingAdd
        omega
      rw [same]
      dsimp only
      rw [exact_]
      exact held.launch ⟨.mtuProbe target, now, 0, true, size⟩
    | completed _ same => exact same ▸ ⟨rfl, Nat.zero_le _⟩
    | rescanned extent contents same => exact same ▸ held.rescan extent contents
    | settled parts extent _ _ _ same => exact same ▸ held.settle parts extent

/-- What the socket took was counted, and is within a server's budget until the client is known. -/
def Books.Budgeted (books : Books) : Prop :=
  books.bytesSent = (books.log.map fun effect => effect.sent?.elim 0 (·.packet.size)).sum ∧
    (books.isClient = false → books.state = .handshaking →
      books.bytesSent ≤ 3 * max books.bytesReceived 1)

/-- Every deed keeps to the budget. -/
theorem budgeted_keeps [Hkdf] : Books.Keeps Licence.free Budgeted where
  host _ _ held := held
  deed := by
    intro before after deed held
    -- Only a packet the socket took spends from the budget, and only if the budget affords it.
    have spent : ∀ record offered, before.Offers record offered → offered.Budgeted := by
      rintro record _ (⟨-, affords, -⟩ | -)
      · exact ⟨by simp [Effect.sent?, held.1], affords⟩
      · exact held
    cases deed with
    | post _ _ _ offers | postLong _ offers | dispatch _ _ _ _ offers | paced _ _ _ _ offers =>
      have kept := spent _ _ offers
      exact kept
    | probe _ _ _ _ _ _ _ offers =>
      have kept := spent _ _ offers
      exact ⟨by simp [launch, Effect.sent?, kept.1], kept.2⟩
    | @note effect aside =>
      exact ⟨by cases effect <;> cases aside <;> simp [Effect.sent?, held.1], held.2⟩
    | issue | write | rotate | openLocal | openPeer =>
      exact ⟨by simp [Effect.sent?, held.1], held.2⟩
    | count => exact ⟨held.1, fun server early => (held.2 server early).trans (by dsimp only; omega)⟩
    | phase step => exact ⟨held.1, fun _ early => by cases step <;> cases early⟩
    | complete => exact ⟨held.1, by rintro _ ⟨⟩⟩
    | requeue _ fails | forsake _ fails => cases fails; exact held
    | _ => exact held

section Subtractions

open UnackedWindow

variable {σ : Type} {flight : σ → Nat} {act : Nat → UnackedPacket → σ → σ}

/-- An action that also writes down the counter it finds and what it takes off it. -/
def tracing (flight : σ → Nat) (act : Nat → UnackedPacket → σ → σ) (pn : Nat) (packet : UnackedPacket)
    (state : List (Nat × Nat) × σ) : List (Nat × Nat) × σ :=
  (state.1 ++ [(flight state.2, packet.sentBytes)], act pn packet state.2)

/-- Writing down changes nothing else. -/
theorem drain_tracing (pns : List Nat) (window : UnackedWindow) (trace : List (Nat × Nat)) (state : σ) :
    (drain (tracing flight act) pns window (trace, state)).1 = (drain act pns window state).1 ∧
      (drain (tracing flight act) pns window (trace, state)).2.2 = (drain act pns window state).2 := by
  obtain ⟨gone, rest, -, -, drains⟩ := drain_gone pns window
  rw [drains, drains]
  refine ⟨rfl, ?_⟩
  have folded : ∀ (gone : List (Nat × UnackedPacket)) (state : List (Nat × Nat) × σ),
      (gone.foldl (fun state entry => tracing flight act entry.1 entry.2 state) state).2 =
        gone.foldl (fun state entry => act entry.1 entry.2 state) state.2 := by
    intro gone
    induction gone with
    | nil => exact fun _ => rfl
    | cons entry others ih => exact fun state => ih _
  exact folded gone (trace, state)

/-- Subtractions of which none finds less than it takes off. -/
def Unclamped (trace : List (Nat × Nat)) : Prop := ∀ entry ∈ trace, entry.2 ≤ entry.1

/-- Packets of a window whose bytes the counter holds are taken off without clamping. -/
theorem drain_unclamped
    (takes : ∀ pn packet state, flight (act pn packet state) = flight state - packet.sentBytes)
    (pns : List Nat) {window : UnackedWindow} {state : σ} (enough : bytesOf window.iter ≤ flight state) :
    Unclamped (drain (tracing flight act) pns window ([], state)).2.1 := by
  obtain ⟨gone, rest, parts, -, drains⟩ := drain_gone pns window
  have bytes := InFlight.parts parts.split
  rw [drains]
  -- Along the packets, what is still to be taken off is never more than the counter.
  have walk : ∀ (gone : List (Nat × UnackedPacket)) (trace : List (Nat × Nat)) (state : σ),
      bytesOf gone ≤ flight state → Unclamped trace →
      Unclamped (gone.foldl (fun state entry => tracing flight act entry.1 entry.2 state)
        (trace, state)).1 := by
    intro gone
    induction gone with
    | nil => exact fun _ _ _ fine => fine
    | cons entry others ih =>
      intro trace state covered fine
      have sum : bytesOf (entry :: others) = entry.2.sentBytes + bytesOf others := by
        simp [bytesOf]
      refine ih _ _ ?_ fun pair member => ?_
      · show bytesOf others ≤ flight (act entry.1 entry.2 state)
        rw [takes]
        omega
      · rcases List.mem_append.mp member with old | new
        · exact fine pair old
        · rw [List.mem_singleton.mp new]
          dsimp only
          omega
  exact walk gone [] state (by omega) fun _ member => absurd member List.not_mem_nil

end Subtractions

namespace ZtConnectionActor

variable {CC : Type} [CongestionController CC]

/-- The numbers the third pass of an acknowledgment gives up. -/
def lostNumbers (largest : Nat) (window : UnackedWindow) (self : ZtConnectionActor CC) : List Nat :=
  ((window.iter.takeWhile fun entry => entry.1 < largest).filter (self.isLost largest)).map Prod.fst

/--
Every subtraction from the bytes in flight in the course of an acknowledgment.

Those of the loss detection come first, and then the one of all packets reported or outdated.
-/
def ackSubtractions (self : ZtConnectionActor CC) (largest : Nat) (ranges : List (Nat × Nat)) :
    List (Nat × Nat) :=
  let sacked := self.sackPass ranges
  let aged := cumulativePass largest sacked.1 sacked.2
  let lost := UnackedWindow.drain
    (tracing (fun state : LossTally × ZtConnectionActor CC => state.2.bytesInFlight) lostPacket)
    (lostNumbers largest aged.1 aged.2.2) aged.1 ([], ⟨[], false⟩, aged.2.2)
  lost.2.1 ++ [(lost.2.2.2.bytesInFlight, aged.2.1.bytesInFlightAcked)]

/-- Every subtraction from the bytes in flight when the retransmission timer fires. -/
def rtoSubtractions (self : ZtConnectionActor CC) : List (Nat × Nat) :=
  let (deque, expiry) := expireSlots self.host.now (max (self.rtt + self.rttvar * 4) (milliseconds 50))
    self.unackedPackets.basePn self.unackedPackets.deque ⟨[], [], [], false, false⟩
  -- A packet sent too often ends the scan, and nothing is taken off.
  if expiry.timedOut then []
  else
    let noted := noteExpiredProbes expiry
      { self with unackedPackets := { self.unackedPackets with deque := deque } }
    (UnackedWindow.drain (tracing (fun state : List (UnackedPayload × Nat) × ZtConnectionActor CC =>
      state.2.bytesInFlight) (expiredPacket expiry.toRetransmit)) expiry.toDrop noted.unackedPackets
        ([], [], noted)).2.1

/-- An acknowledgment takes off no more than is in flight. -/
theorem ackSubtractions_unclamped {self : ZtConnectionActor CC}
    (sum : self.bytesInFlight = bytesOf self.unackedPackets.iter) (largest : Nat)
    (ranges : List (Nat × Nat)) : Unclamped (self.ackSubtractions largest ranges) := by
  obtain ⟨reported, sacked, -⟩ := self.sackPass_acks ranges
  obtain ⟨outdated, aged, -⟩ := cumulativePass_acks largest (self.sackPass ranges).1
    (self.sackPass ranges).2
  have acked := sacked.trans aged
  unfold ackSubtractions
  dsimp only
  generalize cumulativePass largest (self.sackPass ranges).1 (self.sackPass ranges).2 = middle at acked
  have counted : middle.2.1.bytesInFlightAcked = bytesOf (reported ++ outdated) :=
    acked.counted.trans (Nat.zero_add _)
  have flight : middle.2.2.bytesInFlight = self.bytesInFlight := acked.flight
  have bytes : bytesOf self.unackedPackets.iter =
      bytesOf (reported ++ outdated) + bytesOf middle.1.iter := InFlight.parts acked.parts.split
  intro entry member
  rcases List.mem_append.mp member with lost | last
  · exact drain_unclamped lostPacket_flight _ (by dsimp only; omega) entry lost
  · -- What is left after the losses still holds what was acknowledged.
    rw [List.mem_singleton.mp last]
    dsimp only
    rw [(drain_tracing _ _ _ _).2]
    obtain ⟨gone, rest, parts, -, drains⟩ := UnackedWindow.drain_gone
      (lostNumbers largest middle.1 middle.2.2) middle.1
    rw [drains]
    have left := fold_subtracts (fun state : LossTally × ZtConnectionActor CC => state.2.bytesInFlight)
      lostPacket_flight gone (⟨[], false⟩, middle.2.2)
    have split := InFlight.parts parts.split
    dsimp only at left ⊢
    rw [left]
    omega

/-- Nor does the retransmission timer. -/
theorem rtoSubtractions_unclamped {self : ZtConnectionActor CC}
    (sum : self.bytesInFlight = bytesOf self.unackedPackets.iter) : Unclamped self.rtoSubtractions := by
  unfold rtoSubtractions
  generalize max (self.rtt + self.rttvar * 4) (milliseconds 50) = rto
  obtain ⟨-, contents⟩ := expireSlots_contents self.host.now rto self.unackedPackets.deque
    self.unackedPackets.basePn self.unackedPackets.len ⟨[], [], [], false, false⟩
  generalize expireSlots self.host.now rto self.unackedPackets.basePn self.unackedPackets.deque
    ⟨[], [], [], false, false⟩ = scan at contents
  obtain ⟨deque, expiry⟩ := scan
  dsimp only at contents ⊢
  split
  · exact nofun
  · obtain ⟨flight, -⟩ := noteExpiredProbes_search expiry
      { self with unackedPackets := { self.unackedPackets with deque := deque } }
    have essence := noteExpiredProbes_essence expiry
      { self with unackedPackets := { self.unackedPackets with deque := deque } } self.cc
    generalize noteExpiredProbes expiry
      { self with unackedPackets := { self.unackedPackets with deque := deque } } = noted at flight essence ⊢
    have window : noted.unackedPackets = { self.unackedPackets with deque := deque } := by
      have same := congrArg (fun actor : ZtConnectionActor CC => actor.unackedPackets) essence
      exact same
    have bytes := InFlight.contents contents
    rw [window]
    refine drain_unclamped (fun pn up state => ?_) _ ?_
    · exact expiredPacket_flight expiry.toRetransmit pn up state
    · rw [flight, sum]
      exact bytes.le

variable [Hkdf] [HandshakeCrypto]

/-- A probe is sent only while the counter is far from the end of its machine word. -/
def ProbesFit (self : ZtConnectionActor CC) (event : Event) (_ : Host) : Prop :=
  event = .mtuProbeTimer → self.bytesInFlight + maxUdpPayload < u64Size

omit [Hkdf] [HandshakeCrypto] [CongestionController CC] in
/-- Nothing else is asked of a turn. -/
theorem ProbesFit.covers {self : ZtConnectionActor CC} {event : Event} {host : Host}
    (fit : self.ProbesFit event host) : Licence.roomy.Covers event { self with host := host } where
  probes probing _ := fit probing
  recovers _ _ _ _ _ := trivial
  issues _ _ _ _ := trivial
  writes _ _ _ _ _ _ := trivial
  closes _ _ := trivial
  receives packet _ _ := Licence.receives_any (fun _ => trivial) (fun _ => trivial) (fun _ => trivial)
    (fun _ => trivial) (fun _ => trivial) packet
  shuts _ := trivial
  opens _ _ _ := trivial
  reads _ _ _ _ := trivial

omit [CongestionController CC] in
/-- An actor starts with nothing in flight. -/
theorem Created.inFlight [EndpointCrypto] {actor : ZtConnectionActor CC} (created : Created actor) :
    InFlight actor.unackedPackets actor.bytesInFlight actor.nextPacketNumber := by
  cases created with
  | client controller seed role host => exact ⟨rfl, Nat.zero_le _⟩
  | server identity accepted => exact ⟨rfl, Nat.zero_le _⟩

/-- Every state reached in a run keeps the counter right. -/
theorem turns_inFlight [EndpointCrypto] {actor : ZtConnectionActor CC} (created : Created actor)
    (host : Host) {events : List (Event × Host)}
    (fit : (actor.start host).Throughout ProbesFit events) :
    InFlight ((actor.start host).turns events).unackedPackets
      ((actor.start host).turns events).bytesInFlight
      ((actor.start host).turns events).nextPacketNumber := by
  have step : ∀ (self : ZtConnectionActor CC) (event : Event) (host : Host),
      self.ProbesFit event host →
      InFlight self.unackedPackets self.bytesInFlight self.nextPacketNumber →
      InFlight (self.step event host).unackedPackets (self.step event host).bytesInFlight
        (self.step event host).nextPacketNumber :=
    fun self event host fit held => inFlight_keeps.step fit.covers held
  exact turns_invariant step fit (inFlight_keeps.start created.inFlight)

/--
In every state of a run, and after any of the deeds of a turn, the bytes in flight are the sum of
the bytes sent over the packets in the window; so no subtraction from them clamps, whatever
acknowledgment arrives and whenever the retransmission timer fires.
-/
theorem bytesInFlight_exact [EndpointCrypto] {actor : ZtConnectionActor CC} (created : Created actor)
    (host : Host) {events : List (Event × Host)}
    (fit : (actor.start host).Throughout ProbesFit events) (turn : Host) {self : ZtConnectionActor CC}
    (reached : Does Licence.roomy { (actor.start host).turns events with host := turn } self) :
    self.bytesInFlight = (self.unackedPackets.iter.map fun entry => entry.2.sentBytes).sum ∧
      (∀ largest ranges, Unclamped (self.ackSubtractions largest ranges)) ∧
      Unclamped self.rtoSubtractions := by
  have held : InFlight self.unackedPackets self.bytesInFlight self.nextPacketNumber :=
    inFlight_keeps.does reached (turns_inFlight created host fit)
  exact ⟨held.sum, ackSubtractions_unclamped held.sum, rtoSubtractions_unclamped held.sum⟩

end ZtConnectionActor

open Meeting in
/-- The two Initials of a client that heard a Retry are in flight, and nothing clamps. -/
theorem retried_initial_in_flight :
    (((client none).start (hostTaking 1)).turns answeredByRetry).bytesInFlight = 2400 ∧
      (((client none).start (hostTaking 1)).turns answeredByRetry).bytesInFlight =
        ((((client none).start (hostTaking 1)).turns answeredByRetry).unackedPackets.iter.map
          fun entry => entry.2.sentBytes).sum ∧
      Unclamped ((((client none).start (hostTaking 1)).turns answeredByRetry).ackSubtractions 1
        [(0, 1)]) := by
  have created : ZtConnectionActor.Created (client none) := .client _ _ rfl _
  have fit : ((client none).start (hostTaking 1)).Throughout ZtConnectionActor.ProbesFit
      answeredByRetry := ⟨nofun, trivial⟩
  -- The state reached is kept abstract, so that it is not evaluated here.
  have whole : ∀ run, run = ((client none).start (hostTaking 1)).turns answeredByRetry →
      run.bytesInFlight = (run.unackedPackets.iter.map fun entry => entry.2.sentBytes).sum ∧
        Unclamped (run.ackSubtractions 1 [(0, 1)]) := by
    intro run same
    have reached : Does Licence.roomy { ((client none).start (hostTaking 1)).turns answeredByRetry with
        host := run.host } run := by
      rw [← same]
      exact Does.refl run
    have held := ZtConnectionActor.bytesInFlight_exact created (hostTaking 1) fit run.host reached
    exact ⟨held.1, held.2.1 1 [(0, 1)]⟩
  exact ⟨by decide +kernel, whole _ rfl⟩

end Zetta
