import Zetta.Proofs.Protocol.Decode
import Zetta.Proofs.Transport.PathMtu
import Zetta.Proofs.Transport.Size

/-! Packets with data of the application stay within the path MTU, unless it falls while data is held. -/

namespace Zetta

/-- Whether a Data packet carries data of the application. -/
def SentRecord.carriesData (self : SentRecord) : Bool :=
  !self.packet.header.isLong && self.packet.header.pType == .data &&
    self.packet.frames.head?.any Frame.isData

/-- The kind of a frame tells whether it carries data of the application. -/
theorem Frame.isData_iff_code (frame : Frame) :
    frame.isData = true ↔ frame.code = 0x01 ∨ frame.code = 0x09 := by
  cases frame <;> simp [isData, code]

/-- A packet made of any other frame carries none. -/
theorem SentRecord.carriesData_eq_false {record : SentRecord} {frame : Frame} {pad : Nat}
    (frames : record.packet.frames =
      (Frame.decodeFrames (frame.encode ++ List.replicate pad 0)).1)
    (plain : frame.isData = false) : record.carriesData = false := by
  unfold carriesData
  rw [frames]
  cases read : (Frame.decodeFrames (frame.encode ++ List.replicate pad 0)).1.head? with
  | none => simp
  | some first =>
    have same := Frame.decodeFrames_code read
    have other : first.isData = false := by
      rw [Bool.eq_false_iff, Ne, Frame.isData_iff_code, same, ← Frame.isData_iff_code, plain]
      exact Bool.false_ne_true
    simp [other]

/-- A payload is sent in a frame of its kind. -/
theorem UnackedPayload.frame_isData (payload : UnackedPayload) (headerLen : Nat) :
    (payload.frame headerLen).isData = payload.isData := by
  cases payload <;> rfl

namespace Books

/-- A packet for data under an id of eight bytes is at most 64 bytes longer than the data. -/
theorem Seals.size_le {books : Books} {number : Nat} {payload : UnackedPayload} {record : SentRecord}
    (seals : books.Seals .data number (payloadText payload) record) (data : payload.isData = true)
    (eight : books.dcid.length = 8) : record.packet.size ≤ payload.len + 64 := by
  obtain ⟨crypto, pnLen, -, positive, most, -, packet⟩ := seals
  have header : (books.header .data number pnLen).encode.length = 2 + 8 + pnLen := by
    rw [PacketHeader.encode_length_short rfl positive most]
    exact congrArg (2 + · + pnLen) eight
  have frame := UnackedPayload.data_frame_length_le data (books.header .data number pnLen).encode.length
  have sealed : record.packet = ZtConnectionActor.sealedPacket crypto (books.header .data number pnLen)
      (payloadText payload (books.header .data number pnLen)) := packet
  rw [sealed, ZtConnectionActor.sealedPacket_size, header, payloadText, frameText,
    ZtConnectionActor.padShort_length]
  omega

/-- What goes out with data of the application is a payload that was held. -/
theorem Sends.size_le {books : Books} {record : SentRecord} (sends : books.Sends record)
    (data : record.carriesData = true) (eight : books.dcid.length = 8) :
    ∃ payload, books.Holds payload ∧ payload.isData = true ∧ record.packet.size ≤ payload.len + 64 := by
  have none : record.carriesData ≠ false := by simp [data]
  have short : ¬ record.packet.header.isLong = true := by
    intro long
    simp [SentRecord.carriesData, long] at data
  cases sends with
  | long long => exact absurd long short
  | @loose frame number loose seals =>
    obtain ⟨pad, padded⟩ := ZtConnectionActor.padShort_eq record.packet.header.pnLen frame.encode
    have frames := seals.frames
    rw [frameText, padded] at frames
    exact absurd (SentRecord.carriesData_eq_false frames loose) none
  | @carries payload held builds =>
    cases builds with
    | initial _ long => exact absurd long short
    | data _ seals =>
      have kind : payload.isData = true := by
        by_contra other
        obtain ⟨pad, padded⟩ := ZtConnectionActor.padShort_eq record.packet.header.pnLen
          (payload.frame record.packet.header.encode.length).encode
        have frames := seals.frames
        rw [payloadText, frameText, padded] at frames
        refine none (SentRecord.carriesData_eq_false frames ?_)
        rw [payload.frame_isData]
        exact Bool.not_eq_true _ ▸ other
      exact ⟨payload, held, kind, seals.size_le kind eight⟩
  | @probes target seals =>
    have frames := seals.frames
    rw [probeText, ← List.append_nil (Frame.encode _)] at frames
    exact absurd (@SentRecord.carriesData_eq_false _ _ 0 frames rfl) none

end Books

/-- What was learned from a probe never lowers the size in use. -/
theorem MtuSearch.le_learn (search : MtuSearch) (outcome : ProbeOutcome) :
    search.mtu ≤ (search.learn outcome).mtu := by
  cases outcome with
  | passed target =>
    show search.mtu ≤ (if search.mtu < target then _ else search : MtuSearch).mtu
    split
    · rename_i larger
      exact larger.le
    · exact le_rfl
  | failed target => exact le_rfl

/-- Nor does what was learned from several. -/
theorem MtuSearch.le_learned (search : MtuSearch) (outcomes : List ProbeOutcome) :
    search.mtu ≤ (outcomes.foldl MtuSearch.learn search).mtu := by
  induction outcomes generalizing search with
  | nil => exact le_rfl
  | cons outcome rest ih => exact (search.le_learn outcome).trans (ih _)

/-- Data is accepted, and the MTU falls back, only within a limit; the peer's id has eight bytes. -/
def Licence.fitting (limit : Nat) : Licence :=
  { Licence.free with
    recovers := fun books => limit ≤ books.baseMtu
    issues := fun _ payload => payload.len + 64 ≤ limit
    writes := fun _ payload => payload.len + 64 ≤ limit
    names := fun id => id.length = 8 }

namespace Books

/-- An effect is no packet with data above a limit. -/
def Within (limit : Nat) (effect : Effect) : Prop :=
  ∀ record, effect = .sent record → record.carriesData = true → record.packet.size ≤ limit

/-- The data held fits a limit that the MTU does not fall below, and so did the data sent. -/
structure Fitted (limit : Nat) (log : List Effect) (books : Books) : Prop where
  least : 64 ≤ books.baseMtu
  base : books.baseMtu ≤ limit
  eight : books.dcid.length = 8
  mtu : limit ≤ books.search.mtu
  held : ∀ payload, books.Holds payload → payload.isData = true → payload.len + 64 ≤ limit
  sent : books.Grown (Within limit) log

/-- The id of the peer stays, or is the one it names. -/
theorem dcid_step [Hkdf] {licence : Licence} {before after : Books} (deed : Deed licence before after) :
    after.dcid = before.dcid ∨ licence.names after.dcid := by
  cases deed with
  | post _ _ _ offers | postLong _ offers | dispatch _ _ _ _ offers | paced _ _ _ _ offers
  | probe _ _ _ _ _ _ _ offers => cases offers <;> exact .inl rfl
  | requeue _ fails | forsake _ fails => cases fails; exact .inl rfl
  | complete _ _ _ _ may => exact .inr may
  | _ => exact .inl rfl

/-- The MTU does not fall below a limit that the base keeps to when it is fallen back to. -/
theorem mtu_step [Hkdf] {limit : Nat} {before after : Books}
    (deed : Deed (Licence.fitting limit) before after) (above : limit ≤ before.search.mtu) :
    limit ≤ after.search.mtu := by
  have same : ∀ {search : MtuSearch}, after.flight.search = search → limit ≤ search.mtu →
      limit ≤ after.search.mtu := fun equal least => (congrArg MtuSearch.mtu equal).symm ▸ least
  cases deed.flightStep with
  | kept _ flight | launched _ _ flight | probed _ _ _ _ _ flight | completed _ flight
  | rescanned _ _ flight => exact same (congrArg Flight.search flight) above
  | settled _ _ _ learned _ flight =>
    refine same (congrArg Flight.search flight) ?_
    rcases learned with rfl | ⟨may, -, rfl⟩
    · exact above.trans (MtuSearch.le_learned _ _)
    · exact may

/-- No deed takes in or sends data above the limit. -/
theorem fitted_keeps [Hkdf] (limit : Nat) (log : List Effect) :
    Books.Keeps (Licence.fitting limit) (Fitted limit log) where
  host _ _ fitted :=
    ⟨fitted.least, fitted.base, fitted.eight, fitted.mtu, fitted.held, fitted.sent⟩
  deed := by
    intro before after deed fitted
    obtain ⟨-, -, base⟩ := deed.fixed
    refine ⟨base ▸ fitted.least, base ▸ fitted.base, ?_, mtu_step deed fitted.mtu,
      fun payload held data => ?_, ?_⟩
    · rcases dcid_step deed with same | named
      · rw [same]
        exact fitted.eight
      · exact named
    · rcases deed.origin held with old | fresh
      · exact fitted.held payload old data
      · have room := fitted.least.trans fitted.base
        cases fresh with
        | issued may =>
          rcases may with empty | small
          · omega
          · exact small
        | written small => exact small
        | probed => cases data
    · obtain ⟨more, grown, each⟩ := deed.logged
      refine fitted.sent.trans ⟨more, grown, fun effect member => ?_⟩
      rintro record rfl data
      cases each _ member with
      | sent sends =>
        obtain ⟨payload, held, kind, size⟩ := sends.size_le data fitted.eight
        exact size.trans (fitted.held payload held kind)
      | aside aside => cases aside

end Books

namespace ZtConnectionActor

open Books

variable {CC : Type}

/-- The data of the application that waits to be sent or is in flight. -/
def heldData (self : ZtConnectionActor CC) : List UnackedPayload :=
  (self.unpacedQueue.map Prod.fst ++ self.unackedPackets.iter.map fun entry => entry.2.payload).filter
    UnackedPayload.isData

/-- The books list the same data between turns. -/
theorem holds_iff_heldData {self : ZtConnectionActor CC} {payload : UnackedPayload} :
    (self.books []).Holds payload ∧ payload.isData = true ↔ payload ∈ self.heldData := by
  unfold heldData Holds
  rw [List.mem_filter, List.mem_append, List.mem_map, List.mem_map]
  simp [books]

/-- The timer may find that large packets do not arrive any more. -/
def MayRecover (self : ZtConnectionActor CC) (event : Event) : Prop :=
  event = .rtoTimer ∧ self.baseMtu < self.mtu ∧
    ∃ entry ∈ self.unackedPackets.iter, entry.2.isReliable = true ∧ 3 ≤ entry.2.retries

/--
The application's chunks leave the room for a packet around them, the data held fits the base when
the MTU may fall back to it, and a server names an id of eight bytes.
-/
structure Fits (actor : ZtConnectionActor CC) (event : Event) (_ : Host) : Prop where
  writes : ∀ streamId data, event = .outgoingData streamId data → data.length + 64 ≤ actor.mtu
  recovers : actor.MayRecover event → ∀ payload ∈ actor.heldData, payload.len + 64 ≤ actor.baseMtu
  names : ∀ packet addr, event = .incomingPacket packet addr → packet.header.pType = .handshake →
    packet.header.scid.length = 8

/-- Between turns the data held fits the MTU. -/
structure WithinMtu (actor : ZtConnectionActor CC) : Prop where
  least : 64 ≤ actor.baseMtu
  base : actor.baseMtu ≤ actor.mtu
  eight : actor.dcid.length = 8
  held : ∀ payload ∈ actor.heldData, payload.len + 64 ≤ actor.mtu

/-- A limit that suits the start of a turn suits its books. -/
theorem WithinMtu.fitted {self : ZtConnectionActor CC} (within : self.WithinMtu) {limit : Nat}
    (base : self.baseMtu ≤ limit) (mtu : limit ≤ self.mtu)
    (held : ∀ payload ∈ self.heldData, payload.len + 64 ≤ limit) :
    (self.books []).Fitted limit self.log :=
  ⟨within.least, base, within.eight, mtu,
    fun payload holds data => held payload (holds_iff_heldData.mp ⟨holds, data⟩), .refl rfl⟩

/-- Every turn has a limit: the base if the MTU may fall back to it, and the MTU otherwise. -/
theorem Fits.limit {self : ZtConnectionActor CC} {event : Event} {host : Host}
    (fits : self.Fits event host) (within : self.WithinMtu) :
    ∃ limit ≤ self.mtu, (Licence.fitting limit).Covers event { self with host := host } ∧
      (self.books []).Fitted limit self.log := by
  have names : ∀ limit packet addr, event = .incomingPacket packet addr →
      (Licence.fitting limit).Receives packet := fun limit packet addr arrives =>
    ⟨.inl fun _ => trivial, fun _ _ _ => trivial, fits.names packet addr arrives,
      fun _ _ _ _ _ => ⟨fun _ _ => trivial, fun _ _ _ => trivial⟩⟩
  by_cases recovers : self.MayRecover event
  · -- The timer goes off, so the application is not heard in this turn.
    have timer := recovers.1
    refine ⟨self.baseMtu, within.base, ?_, within.fitted le_rfl within.base (fits.recovers recovers)⟩
    exact { Licence.free_covers event { self with host := host } with
      recovers := fun _ _ _ _ _ => Nat.le_refl self.baseMtu
      issues := fun data sends => by rw [timer] at sends; cases sends
      writes := fun streamId data accepts => by rw [timer] at accepts; cases accepts
      receives := names self.baseMtu }
  · refine ⟨self.mtu, le_rfl, ?_, within.fitted within.base le_rfl within.held⟩
    have room := within.least.trans within.base
    exact { Licence.free_covers event { self with host := host } with
      recovers := fun timer often _ _ _ => by
        -- The MTU is at the base already.
        show self.mtu ≤ self.baseMtu
        by_contra above
        exact recovers ⟨timer, not_le.mp above, often⟩
      issues := fun data _ small _ => by
        have small : data.length ≤ self.mtu - 64 := small
        show data.length + 64 ≤ self.mtu
        omega
      writes := fun streamId data accepts _ _ _ => fits.writes streamId data accepts
      receives := names self.mtu }

variable [Hkdf] [HandshakeCrypto] [CongestionController CC]

/--
A turn has a limit that the MTU does not fall below at any point of it, and that no packet it sends
with data of the application exceeds.
-/
def RespectsMtu (self : ZtConnectionActor CC) (event : Event) (host : Host) : Prop :=
  ∃ limit ≤ self.mtu, limit ≤ (self.step event host).mtu ∧
    (∀ reached : ZtConnectionActor CC,
      Does (Licence.fitting limit) { self with host := host } reached → limit ≤ reached.mtu) ∧
    ∃ more, (self.step event host).log = self.log ++ more ∧
      ∀ record, .sent record ∈ more → record.carriesData = true → record.packet.size ≤ limit

/-- One turn keeps the data held within the MTU, and sends none beyond it. -/
theorem Fits.step {self : ZtConnectionActor CC} {event : Event} {host : Host}
    (fits : self.Fits event host) (within : self.WithinMtu) :
    (self.step event host).WithinMtu ∧ self.RespectsMtu event host := by
  obtain ⟨limit, most, covers, fitted⟩ := fits.limit within
  have keeps := fitted_keeps limit self.log
  have after := keeps.step covers fitted
  refine ⟨⟨after.least, after.base.trans after.mtu, after.eight, fun payload member => ?_⟩, limit, most,
    after.mtu, fun reached does => (keeps.does does fitted).mtu, ?_⟩
  · obtain ⟨holds, data⟩ := holds_iff_heldData.mpr member
    exact (after.held payload holds data).trans after.mtu
  · obtain ⟨more, grown, each⟩ := after.sent
    exact ⟨more, grown, fun record member data => each _ member record rfl data⟩

omit [CongestionController CC] in
/-- A new connection holds no data, and its MTU is the base. -/
theorem Created.withinMtu [EndpointCrypto] {actor : ZtConnectionActor CC} (created : Created actor)
    (valid : actor.config.validate = .ok ()) (eight : actor.dcid.length = 8) : actor.WithinMtu := by
  have least := (ZtConfig.mtu_bounds valid).1
  cases created with
  | client controller seed role host =>
    exact ⟨(by decide : 64 ≤ 1200).trans least, le_rfl, eight, nofun⟩
  | server identity accepted => exact ⟨(by decide : 64 ≤ 1200).trans least, le_rfl, eight, nofun⟩

/--
In every run with ids of eight bytes in which the application's chunks leave room for a packet around
them, and in which the data held fits the base whenever the MTU may fall back to it, no packet with
data of the application is longer than the MTU is at any point of the turn that sends it.
-/
theorem data_within_mtu [EndpointCrypto] {actor : ZtConnectionActor CC} (created : Created actor)
    (valid : actor.config.validate = .ok ()) (eight : actor.dcid.length = 8) (host : Host)
    {events : List (Event × Host)} (fits : (actor.start host).Throughout Fits events) :
    (actor.start host).Throughout RespectsMtu events := by
  have new := created.withinMtu valid eight
  have begun : ((actor.start host).books []).Fitted actor.mtu actor.log :=
    (fitted_keeps actor.mtu actor.log).start (new.fitted new.base le_rfl new.held)
  have within : (actor.start host).WithinMtu := by
    refine ⟨begun.least, begun.base.trans begun.mtu, begun.eight, fun payload member => ?_⟩
    obtain ⟨holds, data⟩ := holds_iff_heldData.mpr member
    exact (begun.held payload holds data).trans begun.mtu
  have step (self : ZtConnectionActor CC) (event : Event) (host : Host)
      (fits : self.Fits event host) (within : self.WithinMtu) :
      (self.step event host).WithinMtu ∧ self.RespectsMtu event host := fits.step within
  exact (turns_throughout step fits within).2

end ZtConnectionActor

open Meeting in
/-- A server on a fresh path sends a chunk of three bytes, which stays within the MTU. -/
theorem small_chunk_fits : (server.start (hostTaking 0)).Throughout ZtConnectionActor.RespectsMtu
    [(.openStream .bidirectional, hostTaking 1), (.outgoingData 1 [1, 2, 3], hostTaking 1)] := by
  have created : ZtConnectionActor.Created server := .server _ _
  have opens : (server.start (hostTaking 0)).Fits (.openStream .bidirectional) (hostTaking 1) :=
    ⟨nofun, fun recovers => (by cases recovers.1), nofun⟩
  have chunk : ((server.start (hostTaking 0)).step (.openStream .bidirectional) (hostTaking 1)).Fits
      (.outgoingData 1 [1, 2, 3]) (hostTaking 1) := by
    refine ⟨fun streamId data same => ?_, fun recovers => (by cases recovers.1), nofun⟩
    cases same
    decide +kernel
  exact ZtConnectionActor.data_within_mtu created ZtConfig.default_valid (by decide) (hostTaking 0)
    ⟨opens, chunk, trivial⟩

namespace Meeting

/-- A probe raises the MTU, and a chunk of 1200 bytes is sent on a stream. -/
def chunkSent : List (Event × Host) :=
  probing ++ [probeHeard, (.openStream .bidirectional, hostTaking 1),
    (.outgoingData 1 (List.replicate 1200 0), hostTaking 1)]

/-- The timer goes off, long after what is in flight was sent. -/
def expired (time : Nat) : Event × Host := (.rtoTimer, { hostTaking 1 with now := time * 100000000000 })

end Meeting

open Meeting in
/--
A chunk accepted under a larger MTU is lost again and again: the MTU falls back to the base, and the
chunk is sent once more, as large as before.
-/
theorem lost_chunk_exceeds :
    let before := (server.start (hostTaking 0)).turns (chunkSent ++ [expired 1, expired 2, expired 3])
    let after := (server.start (hostTaking 0)).turns
      (chunkSent ++ [expired 1, expired 2, expired 3, expired 4])
    before.mtu = 5100 ∧ after.mtu = 1200 ∧ after.baseMtu = 1200 ∧
      (after.sentRecords.drop before.sentRecords.length).map
        (fun record => (record.carriesData, record.packet.size)) = [(true, 1243)] := by
  decide +kernel

end Zetta
