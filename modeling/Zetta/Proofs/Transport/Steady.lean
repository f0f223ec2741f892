import Zetta.Proofs.Transport.PacketSender

/-! What sending leaves alone: identity, limits and path, and the order of packet numbers. -/

namespace Zetta

/-- Who an actor is: its configuration, role, connection ids and keys of the handshake. -/
structure Identity where
  config : ZtConfig
  isClient : Bool
  scid : Bytes
  dcid : Bytes
  publicKey : Bytes
  edSigningKey : Option Bytes
  edPublicKey : Bytes
  ephemeralSecret : Option Bytes

/-- How many streams the two sides may open, and the next one of this side. -/
structure StreamLimits where
  nextStreamId : Nat
  localMaxStreams : Nat
  peerMaxStreams : Nat

/-- Where packets go to, and the address that is being validated. -/
structure PathState where
  addr : Address
  pendingValidationAddr : Option Address
  pathValidationToken : Option PathToken
  pathValidationSentAt : Option Instant
  pathValidationRetries : Nat

/-- An address in use, with no other one being validated. -/
def PathState.validated (addr : Address) : PathState := ⟨addr, none, none, none, 0⟩

/-- The sending key and vector were derived together, from some secret in some epoch. -/
def CryptoContext.Derived [Hkdf] (crypto : CryptoContext) : Prop :=
  ∃ secret epoch isClient, crypto.txKey = (deriveEpochKeys secret epoch isClient).txKey ∧
    crypto.txIv = (deriveEpochKeys secret epoch isClient).txIv

/-- Installing the keys of an epoch derives both. -/
theorem CryptoContext.applyEpochKeys_derived [Hkdf] (crypto : CryptoContext) (epoch : Nat) :
    (crypto.applyEpochKeys epoch).Derived :=
  ⟨crypto.secret, epoch, crypto.isClient, rfl, rfl⟩

namespace ZtConnectionActor

open Program

variable {CC : Type}

/-- Who the actor is. -/
def identity (self : ZtConnectionActor CC) : Identity :=
  ⟨self.config, self.isClient, self.scid, self.dcid, self.publicKey, self.edSigningKey,
    self.edPublicKey, self.ephemeralSecret⟩

/-- The limits on streams. -/
def streamLimits (self : ZtConnectionActor CC) : StreamLimits :=
  ⟨self.nextStreamId, self.localMaxStreams, self.peerMaxStreams⟩

/-- Where packets go to. -/
def pathState (self : ZtConnectionActor CC) : PathState :=
  ⟨self.addr, self.pendingValidationAddr, self.pathValidationToken, self.pathValidationSentAt,
    self.pathValidationRetries⟩

/-- Every packet was protected under a number of its own, larger than all before it. -/
structure Numbering (actor : ZtConnectionActor CC) : Prop where
  increasing : actor.encryptions.Pairwise fun earlier later =>
    earlier.packetNumber < later.packetNumber
  below : ∀ encryption ∈ actor.encryptions, encryption.packetNumber < actor.nextPacketNumber
  fits : actor.nextPacketNumber < u64Size

/-- The keys in use, now and in every packet protected so far, come from the key derivation. -/
structure KeysDerived [Hkdf] (actor : ZtConnectionActor CC) : Prop where
  current : ∀ crypto, actor.crypto = some crypto → crypto.Derived
  used : ∀ encryption ∈ actor.encryptions, encryption.crypto.Derived

/-- The header of an Initial packet. -/
def initialHeader (self : ZtConnectionActor CC) (number pnLen : Nat) : PacketHeader :=
  ⟨.initial, true, protocolVersion, self.dcid, self.scid, number, false, pnLen⟩

/-- A packet is an Initial of this actor, with some cookie or none. -/
def OwnInitial [Hkdf] [HandshakeCrypto] (self : ZtConnectionActor CC) (packet : Packet) : Prop :=
  ∃ number pnLen cookie signingKey, self.edSigningKey = some signingKey ∧
    packet = sealedPacket (.initial self.dcid true) (self.initialHeader number pnLen)
      (self.initialPayload signingKey cookie (self.initialHeader number pnLen).encode.length)

/-- A packet belongs to an established connection, or is an Initial of the actor. -/
def Announces [Hkdf] [HandshakeCrypto] (self : ZtConnectionActor CC) (packet : Packet) : Prop :=
  packet.header.isLong = false ∧ packet.header.pType.isProtected = true ∨ self.OwnInitial packet

/-- The history grows, and every packet it grows by is one the actor announces. -/
def Recounts [Hkdf] [HandshakeCrypto] (before after : ZtConnectionActor CC) : Prop :=
  ∃ more, after.log = before.log ++ more ∧
    ∀ record, .sent record ∈ more → before.Announces record.packet

/-- What every handler keeps to: numbers in order, derived keys, and one handshake. -/
structure Orderly [Hkdf] (before after : ZtConnectionActor CC) : Prop where
  numbering : before.Numbering → after.Numbering
  keys : before.KeysDerived → after.KeysDerived
  /-- The handshake is not entered again. -/
  settled : before.state ≠ .handshaking → after.state ≠ .handshaking

/-- Apart from the handshake's end, an actor stays who it is and announces only itself. -/
structure Follows [Hkdf] [HandshakeCrypto] (before after : ZtConnectionActor CC) : Prop
    extends Orderly before after where
  identity : after.identity = before.identity
  sent : before.Recounts after
  response : after.handshakePacket = before.handshakePacket ∨
    ∃ own : LongPacket, after.handshakePacket = some own ∧ before.OwnInitial own.1
  /-- Nothing but the end of the handshake makes a client active. -/
  entered : before.isClient = true → before.state ≠ .active → after.state ≠ .active

/-- Beyond that, neither the limits on streams nor the path changed. -/
structure Steady [Hkdf] [HandshakeCrypto] (before after : ZtConnectionActor CC) : Prop
    extends Follows before after where
  limits : after.streamLimits = before.streamLimits
  path : after.pathState = before.pathState

variable [Hkdf] [HandshakeCrypto] {before middle after : ZtConnectionActor CC}

/-- What an actor's own Initials are depends only on who it is. -/
theorem ownInitial_congr (same : after.identity = before.identity) {packet : Packet}
    (own : after.OwnInitial packet) : before.OwnInitial packet := by
  simp only [identity, Identity.mk.injEq] at same
  obtain ⟨config, -, scid, dcid, publicKey, edSigningKey, edPublicKey, -⟩ := same
  obtain ⟨number, pnLen, cookie, signingKey, held, built⟩ := own
  refine ⟨number, pnLen, cookie, signingKey, edSigningKey ▸ held, ?_⟩
  rw [built]
  unfold initialHeader initialPayload
  rw [config, scid, dcid, publicKey, edPublicKey]

/-- An unchanged history. -/
theorem Recounts.of_eq (same : after.log = before.log) : before.Recounts after :=
  ⟨[], by rw [same, List.append_nil], nofun⟩

/-- A history with something other than packets at its end. -/
theorem Recounts.of_append {more : List Effect} (log : after.log = before.log ++ more)
    (silent : ∀ record, .sent record ∉ more) : before.Recounts after :=
  ⟨more, log, fun record member => absurd member (silent record)⟩

/-- One history after another, of an actor that stays who it is. -/
theorem Recounts.trans (first : before.Recounts middle) (same : middle.identity = before.identity)
    (second : middle.Recounts after) : before.Recounts after := by
  obtain ⟨some_, firstLog, firstSent⟩ := first
  obtain ⟨more, secondLog, secondSent⟩ := second
  refine ⟨some_ ++ more, by rw [secondLog, firstLog, List.append_assoc], ?_⟩
  intro record member
  rcases List.mem_append.mp member with early | late
  · exact firstSent record early
  · -- Who the actor is does not change, and neither do its Initials.
    rcases secondSent record late with short | own
    · exact .inl short
    · exact .inr (ownInitial_congr same own)

omit [HandshakeCrypto] in
/-- Order is kept from one handler to the next. -/
theorem Orderly.trans (first : Orderly before middle) (second : Orderly middle after) :
    Orderly before after :=
  ⟨second.numbering ∘ first.numbering, second.keys ∘ first.keys, second.settled ∘ first.settled⟩

namespace Follows

/-- Standing still keeps to everything. -/
theorem refl (self : ZtConnectionActor CC) : Follows self self :=
  ⟨⟨id, id, id⟩, rfl, .of_eq rfl, .inl rfl, fun _ => id⟩

/-- One handler after another. -/
theorem trans (first : Follows before middle) (second : Follows middle after) :
    Follows before after := by
  refine ⟨first.toOrderly.trans second.toOrderly, second.identity.trans first.identity,
    first.sent.trans first.identity second.sent, ?_, fun client before => ?_⟩
  · rcases second.response with unchanged | ⟨stored, keeps, own⟩
    · rw [unchanged]
      exact first.response
    · exact .inr ⟨stored, keeps, ownInitial_congr first.identity own⟩
  · -- The role does not change on the way.
    have role : middle.isClient = true := (congrArg Identity.isClient first.identity).trans client
    exact second.entered role (first.entered client before)

end Follows

/-- The parts of an actor that only the handlers about them change. -/
def standing (self : ZtConnectionActor CC) :
    Identity × StreamLimits × PathState × Option LongPacket × Option CryptoContext × Nat ×
      List Encryption :=
  (self.identity, self.streamLimits, self.pathState, self.handshakePacket, self.crypto,
    self.nextPacketNumber, self.encryptions)

namespace Steady

/-- Standing still is steady. -/
theorem refl (self : ZtConnectionActor CC) : Steady self self := ⟨.refl self, rfl, rfl⟩

/-- One after the other. -/
theorem trans (first : Steady before middle) (second : Steady middle after) : Steady before after :=
  ⟨first.toFollows.trans second.toFollows, second.limits.trans first.limits,
    second.path.trans first.path⟩

instance : IsTrans (ZtConnectionActor CC) Steady := ⟨fun _ _ _ => trans⟩

/-- A change of other parts, that does not go back to the handshake. -/
theorem of_same (same : after.standing = before.standing)
    (state : after.state = before.state ∨
      after.state ≠ .handshaking ∧ (before.isClient = true → after.state ≠ .active))
    (sent : before.Recounts after) : Steady before after := by
  simp only [standing, Prod.mk.injEq] at same
  obtain ⟨identity, limits, path, response, crypto, number, encryptions⟩ := same
  refine ⟨⟨⟨?_, ?_, ?_⟩, identity, sent, .inl response, ?_⟩, limits, path⟩
  · rintro ⟨increasing, below, fits⟩
    exact ⟨encryptions ▸ increasing, by rw [encryptions, number]; exact below, number ▸ fits⟩
  · rintro ⟨current, used⟩
    exact ⟨crypto ▸ current, encryptions ▸ used⟩
  · intro left
    rcases state with same | ⟨settled, -⟩
    · exact same ▸ left
    · exact settled
  · intro client inactive
    rcases state with same | ⟨-, entered⟩
    · exact same ▸ inactive
    · exact entered client

/-- A change of other parts, with the history and the state left alone. -/
theorem of_quiet (same : after.standing = before.standing) (state : after.state = before.state)
    (log : after.log = before.log) : Steady before after :=
  .of_same same (.inl state) (.of_eq log)

/-- A change of other parts that ends in a state past the handshake, a client's in a closing one. -/
theorem of_settled (same : after.standing = before.standing) (state : after.state ≠ .handshaking)
    (entered : before.isClient = true → after.state ≠ .active) (log : after.log = before.log) :
    Steady before after :=
  .of_same same (.inr ⟨state, entered⟩) (.of_eq log)

/-- A packet that may be announced joins the history. -/
theorem posted {record : SentRecord} (same : after.standing = before.standing)
    (state : after.state = before.state) (log : after.log = before.log ++ [.sent record])
    (announced : before.Announces record.packet) : Steady before after := by
  refine .of_same same (.inl state) ⟨_, log, fun other member => ?_⟩
  cases List.mem_singleton.mp member
  exact announced

/-- An Initial of the actor is kept as the packet of the handshake. -/
theorem keep (self : ZtConnectionActor CC) (packet : LongPacket) (own : self.OwnInitial packet.1) :
    Steady self { self with handshakePacket := some packet } :=
  ⟨⟨⟨fun ordered => ⟨ordered.increasing, ordered.below, ordered.fits⟩,
    fun derived => ⟨derived.current, derived.used⟩, id⟩, rfl, .of_eq rfl,
    .inr ⟨packet, rfl, own⟩, fun _ => id⟩, rfl, rfl⟩

/-- Something other than a packet is written down. -/
theorem note (self : ZtConnectionActor CC) (effect : Effect)
    (silent : ∀ record, effect ≠ .sent record) : Steady self (self.note effect) := by
  refine .of_same rfl (.inl rfl) (.of_append rfl fun record member => ?_)
  exact silent record (List.mem_singleton.mp member).symm

end Steady

/-- A number was taken, and no packet protected under it yet. -/
structure Drawn (before after : ZtConnectionActor CC) : Prop where
  steady : Steady before after
  encryptions : after.encryptions = before.encryptions
  crypto : after.crypto = before.crypto
  number : after.nextPacketNumber = before.nextPacketNumber + 1

/-- A program that starts by taking a number stops at once or goes on with it. -/
theorem drawn_ends {β : Type} {self : ZtConnectionActor CC} {next : Nat → Act CC β}
    (rest : ∀ after, Drawn self after → Steady self (exec (next self.nextPacketNumber) after).2) :
    Steady self (exec (getNextPacketNumber >>= next) self).2 := by
  rcases self.getNextPacketNumber_exact with ⟨-, failed⟩ | ⟨fits, taken⟩
  · rw [exec_bind_error failed]
    exact .refl self
  · rw [exec_bind_ok taken]
    refine rest _ ⟨⟨⟨⟨?_, fun derived => ⟨derived.current, derived.used⟩, id⟩, rfl,
      .of_eq rfl, .inl rfl, fun _ => id⟩, rfl, rfl⟩, rfl, rfl, rfl⟩
    -- The numbers used so far stay below the counter.
    rintro ⟨increasing, below, -⟩
    refine ⟨increasing, fun encryption member => ?_, fits⟩
    exact Nat.lt_succ_of_lt (below encryption member)

/-- Changes that packet protection does not look at. -/
theorem Drawn.quiet {later : ZtConnectionActor CC} (drawn : Drawn before after)
    (same : later.standing = after.standing) (state : later.state = after.state)
    (log : later.log = after.log) : Drawn before later := by
  have steady := drawn.steady.trans (.of_quiet same state log)
  simp only [standing, Prod.mk.injEq] at same
  obtain ⟨-, -, -, -, crypto, number, encryptions⟩ := same
  exact ⟨steady, encryptions.trans drawn.encryptions, crypto.trans drawn.crypto,
    number.trans drawn.number⟩

/-- Protecting a packet under the number taken keeps the numbers in order. -/
theorem Drawn.seal (drawn : Drawn before after) {encryption : Encryption}
    (number : encryption.packetNumber = before.nextPacketNumber)
    (derived : before.KeysDerived → encryption.crypto.Derived) :
    Steady before (after.encrypting encryption) := by
  have ended : (after.encrypting encryption).encryptions = before.encryptions ++ [encryption] :=
    congrArg (· ++ [encryption]) drawn.encryptions
  have counter : (after.encrypting encryption).nextPacketNumber = before.nextPacketNumber + 1 :=
    drawn.number
  refine ⟨⟨⟨?_, ?_, drawn.steady.settled⟩, drawn.steady.identity, drawn.steady.sent,
    drawn.steady.response, drawn.steady.entered⟩, drawn.steady.limits, drawn.steady.path⟩
  · intro ordered
    refine ⟨?_, ?_, (drawn.steady.numbering ordered).fits⟩
    · -- Every earlier number is below the one just taken.
      rw [ended, List.pairwise_append]
      refine ⟨ordered.increasing, List.pairwise_singleton _ _, fun earlier member later last => ?_⟩
      rw [List.mem_singleton.mp last, number]
      exact ordered.below earlier member
    · rw [ended, counter]
      intro other member
      rcases List.mem_append.mp member with old | new
      · exact Nat.lt_succ_of_lt (ordered.below other old)
      · rw [List.mem_singleton.mp new, number]
        exact Nat.lt_succ_self _
  · intro keys
    refine ⟨(drawn.steady.keys keys).current, ?_⟩
    rw [ended]
    intro other member
    rcases List.mem_append.mp member with old | new
    · exact keys.used other old
    · rw [List.mem_singleton.mp new]
      exact derived keys

/-- A program that seals a packet under derived keys keeps the numbers in order. -/
theorem Drawn.sealWith_ends {β : Type} {self : ZtConnectionActor CC} (drawn : Drawn before self)
    {crypto : CryptoContext} {header : PacketHeader} {plaintext : Bytes}
    {next : Packet → Act CC β} (number : header.packetNumber = before.nextPacketNumber)
    (derived : crypto.Derived)
    (rest : Steady before (self.encrypting (sealing crypto header plaintext)) →
      Steady before (exec (next (sealedPacket crypto header plaintext))
        (self.encrypting (sealing crypto header plaintext))).2) :
    Steady before (exec (sealWith crypto header plaintext >>= next) self).2 := by
  have sealed : Steady before (self.encrypting (sealing crypto header plaintext)) :=
    drawn.seal number fun _ => derived
  rcases sealWith_exact crypto header plaintext self with ⟨error, rest, -, failed⟩ | ⟨-, succeeded⟩
  · -- The call counts even if it fails.
    rw [exec_bind_error failed]
    exact sealed.trans (.of_quiet rfl rfl rfl)
  · rw [exec_bind_ok succeeded]
    exact rest sealed

/-- A program that protects a packet under the connection's keys keeps the numbers in order. -/
theorem Drawn.protect_ends {β : Type} {self : ZtConnectionActor CC} (drawn : Drawn before self)
    {header : PacketHeader} {plaintext : Bytes} {next : Packet × Nat → Act CC β}
    (number : header.packetNumber = before.nextPacketNumber)
    (rest : ∀ crypto, Steady before (self.encrypting (sealing crypto header plaintext)) →
      Steady before (exec (next (sealedPacket crypto header plaintext, crypto.epoch))
        (self.encrypting (sealing crypto header plaintext))).2) :
    Steady before (exec (protectPacket header plaintext >>= next) self).2 := by
  have sealed : ∀ crypto, self.crypto = some crypto →
      Steady before (self.encrypting (sealing crypto header plaintext)) := by
    intro crypto keys
    refine drawn.seal number fun derived => derived.current crypto ?_
    rw [← drawn.crypto]
    exact keys
  refine ZtConnectionActor.protect_ends (Steady before) ?_ fun crypto keys => rest crypto (sealed crypto keys)
  rintro host encryptions - (none | ⟨crypto, keys, called⟩)
  · -- Without keys there was no call.
    subst none
    exact drawn.steady.trans (.of_quiet rfl rfl rfl)
  · subst called
    exact (sealed crypto keys).trans (.of_quiet rfl rfl rfl)

section Sending

omit [Hkdf] [HandshakeCrypto] in
/-- Handing a packet to the socket does nothing but send it, or not. -/
theorem sendmsgVectored_sends (self : ZtConnectionActor CC) (packet : Packet) (epoch : Nat) :
    (exec (sendmsgVectored packet epoch) self).2.standing = self.standing ∧
      (exec (sendmsgVectored packet epoch) self).2.state = self.state ∧
      ((exec (sendmsgVectored packet epoch) self).2.log = self.log ∨
        (exec (sendmsgVectored packet epoch) self).2.log =
          self.log ++ [.sent ⟨packet, epoch, self.addr⟩]) := by
  have handed := self.sendmsgVectored_handed packet epoch
  generalize exec (sendmsgVectored packet epoch) self = result at handed ⊢
  cases handed with
  | limited | refused => exact ⟨rfl, rfl, .inl rfl⟩
  | taken => exact ⟨rfl, rfl, .inr rfl⟩

/-- A packet that may be announced goes out. -/
theorem sendmsgVectored_steady {self : ZtConnectionActor CC} {packet : Packet}
    (announced : self.Announces packet) (epoch : Nat) :
    Steady self (exec (sendmsgVectored packet epoch) self).2 := by
  obtain ⟨standing, state, kept | sent⟩ := self.sendmsgVectored_sends packet epoch
  · exact .of_quiet standing state kept
  · exact .posted standing state sent announced

/-- Packets with short headers announce nothing, so they may always go out. -/
theorem sendShort_steady (self : ZtConnectionActor CC) {header : PacketHeader}
    (short : header.isLong = false) (kind : header.pType.isProtected = true) (crypto : CryptoContext)
    (plaintext : Bytes) (epoch : Nat) :
    Steady self (exec (sendmsgVectored (sealedPacket crypto header plaintext) epoch) self).2 :=
  sendmsgVectored_steady (.inl ⟨short, kind⟩) epoch

/-- Counting a packet may move the keys on, to derived ones. -/
theorem notePacketSent_steady (self : ZtConnectionActor CC) : Steady self self.notePacketSent := by
  unfold notePacketSent
  split
  · exact .refl self
  · split
    · exact .refl self
    · dsimp only
      split
      · -- Only the rotated keys are new.
        refine ⟨⟨⟨fun ordered => ⟨ordered.increasing, ordered.below, ordered.fits⟩, ?_, id⟩, rfl, ?_,
          .inl rfl, fun _ => id⟩, rfl, rfl⟩
        · intro derived
          refine ⟨fun crypto keys => ?_, derived.used⟩
          cases keys
          exact CryptoContext.applyEpochKeys_derived _ _
        · exact .of_append rfl fun record member => nomatch List.mem_singleton.mp member
      · exact .of_quiet rfl rfl rfl

/-- Remembering a packet that went out, and counting it. -/
theorem trackSent_steady (self : ZtConnectionActor CC) (pn : Nat) (payload : UnackedPayload)
    (retries sentBytes : Nat) (isMtuProbe : Bool) :
    Steady self (self.trackSent pn payload retries sentBytes isMtuProbe) := by
  refine Steady.trans ?_ (notePacketSent_steady _)
  exact .of_quiet rfl rfl rfl

/-- A payload goes out in a packet of its own. -/
theorem sendDataPacket_steady (self : ZtConnectionActor CC) (payload : UnackedPayload)
    (retries : Nat) : Steady self (exec (sendDataPacket payload retries) self).2 := by
  unfold sendDataPacket
  refine drawn_ends fun after drawn => ?_
  rw [exec_bind_get]
  refine drawn.protect_ends rfl fun crypto sealed => sealed.trans ?_
  refine keeps_bind (sendShort_steady _ rfl rfl _ _ _) fun _ sent => ?_
  rw [exec_modify]
  refine Steady.trans ?_ (trackSent_steady _ _ _ _ _ _)
  exact .of_quiet rfl rfl rfl

/-- A probe goes out. -/
theorem sendMtuProbe_steady (self : ZtConnectionActor CC) :
    Steady self (exec sendMtuProbe self).2 := by
  unfold sendMtuProbe
  rw [exec_bind_get]
  split
  · exact .refl self
  · split
    · exact .refl self
    · refine drawn_ends fun after drawn => ?_
      rw [exec_bind_modify, exec_bind_get]
      have refreshed : Drawn self after.refreshLocalWindow := drawn.quiet rfl rfl rfl
      refine refreshed.protect_ends rfl fun crypto sealed => sealed.trans ?_
      refine keeps_bind_attempt (sendShort_steady _ rfl rfl _ _ _) fun result sent => ?_
      split
      · exact .refl sent
      · -- The probe is issued, remembered and counted.
        rw [exec_modify]
        refine Steady.trans ?_ (notePacketSent_steady _)
        exact (Steady.note sent (.issued (.mtuProbe _)) nofun).trans (.of_quiet rfl rfl rfl)

/-- Acknowledgments go out. -/
theorem flushAcks_steady (self : ZtConnectionActor CC) : Steady self (exec flushAcks self).2 := by
  unfold flushAcks
  rw [exec_bind_get]
  split
  · exact .refl self
  · refine drawn_ends fun after drawn => ?_
    rw [exec_bind_modify, exec_bind_get]
    have refreshed : Drawn self after.refreshLocalWindow := drawn.quiet rfl rfl rfl
    refine refreshed.protect_ends rfl fun crypto sealed => sealed.trans ?_
    refine keeps_bind_attempt (sendShort_steady _ rfl rfl _ _ _) fun result sent => ?_
    -- Whether or not the packet went out, the pending count is cleared.
    split
    · exact .of_quiet rfl rfl rfl
    · rw [exec_bind_modify]
      exact (notePacketSent_steady _).trans (.of_quiet rfl rfl rfl)

/-- One frame goes out at once; the address is put back whatever the socket says. -/
theorem sendFrameImmediate_steady (self : ZtConnectionActor CC) (frame : Frame)
    (toAddr : Address) : Steady self (exec (sendFrameImmediate frame toAddr) self).2 := by
  unfold sendFrameImmediate
  refine drawn_ends fun after drawn => ?_
  rw [exec_bind_get]
  refine drawn.protect_ends rfl fun crypto sealed => ?_
  rw [exec_bind_modify, exec_bind_attempt, exec_bind_modify]
  generalize sealing crypto _ _ = encryption at sealed ⊢
  have away := sendShort_steady { after.encrypting encryption with addr := toAddr }
    (show (after.shortHeader .data self.nextPacketNumber).isLong = false from rfl) rfl crypto
    (padShort (after.shortHeader .data self.nextPacketNumber).pnLen frame.encode) crypto.epoch
  generalize exec (sendmsgVectored _ crypto.epoch) _ = sent at away ⊢
  have back : Steady self { sent.2 with addr := after.addr } := by
    refine sealed.trans ⟨⟨⟨fun ordered => ?_, fun derived => ?_, away.settled⟩, away.identity,
      away.sent, away.response, away.entered⟩, away.limits, ?_⟩
    · have kept := away.numbering ⟨ordered.increasing, ordered.below, ordered.fits⟩
      exact ⟨kept.increasing, kept.below, kept.fits⟩
    · have kept := away.keys ⟨derived.current, derived.used⟩
      exact ⟨kept.current, kept.used⟩
    · -- The path differs in the address only, which is put back.
      have same := away.path
      simp only [pathState, PathState.mk.injEq] at same ⊢
      exact ⟨rfl, same.2⟩
  split <;> exact back

end Sending

section Payloads

/-- An Initial goes out, and is kept as the packet of the handshake. -/
theorem sendInitialPacketInternal_steady (self : ZtConnectionActor CC) (cookie : Option Bytes)
    (retries : Nat) : Steady self (exec (sendInitialPacketInternal cookie retries) self).2 := by
  unfold sendInitialPacketInternal
  refine drawn_ends fun after drawn => ?_
  rw [exec_bind_get]
  dsimp only
  rw [exec_bind_modify]
  have noted : Drawn self { after with cookie := cookie.or after.cookie } := drawn.quiet rfl rfl rfl
  split
  · -- Without a signing key the actor stops.
    exact noted.steady.trans (.of_quiet rfl rfl rfl)
  · rename_i signingKey held
    refine noted.sealWith_ends rfl (CryptoContext.applyEpochKeys_derived _ _) fun sealed => ?_
    rw [exec_bind_modify]
    -- What was sealed is an Initial of this actor.
    have own : after.OwnInitial (sealedPacket (.initial after.dcid true)
        (after.initialHeader self.nextPacketNumber (after.pnLen self.nextPacketNumber))
        (after.initialPayload signingKey cookie (after.initialHeader self.nextPacketNumber
          (after.pnLen self.nextPacketNumber)).encode.length)) :=
      ⟨_, _, cookie, signingKey, held, rfl⟩
    refine sealed.trans ?_
    generalize sealing _ _ _ = encryption
    refine Steady.trans ?_ (keeps_bind_attempt (sendmsgVectored_steady ?_ _) fun _ sent => ?_)
    · exact .keep _ _ own
    · exact .inr own
    · exact trackSent_steady _ _ _ _ _ _

/-- A payload goes out in a packet made for it. -/
theorem sendPayloadWithRetries_steady (self : ZtConnectionActor CC) (payload : UnackedPayload)
    (retries : Nat) : Steady self (exec (sendPayloadWithRetries payload retries) self).2 := by
  unfold sendPayloadWithRetries
  split
  · exact sendInitialPacketInternal_steady self _ retries
  · exact sendDataPacket_steady self _ retries

/-- A payload goes out, or waits in the pacing queue. -/
theorem retransmitPayload_steady (self : ZtConnectionActor CC) (payload : UnackedPayload)
    (retries : Nat) : Steady self (exec (retransmitPayload payload retries) self).2 := by
  unfold retransmitPayload
  refine keeps_bind_attempt (sendPayloadWithRetries_steady self payload retries) fun _ sent => ?_
  split
  · exact .refl sent
  · exact .of_quiet rfl rfl rfl

/-- A payload is issued and goes out. -/
theorem sendPayload_steady (self : ZtConnectionActor CC) (payload : UnackedPayload) :
    Steady self (exec (sendPayload payload) self).2 := by
  unfold sendPayload
  rw [exec_bind_modify]
  exact (Steady.note self (.issued payload) nofun).trans (retransmitPayload_steady _ payload 0)

/-- The connection starts closing, which does not go back to the handshake. -/
theorem initiateClose_steady (self : ZtConnectionActor CC) :
    Steady self (exec initiateClose self).2 := by
  unfold initiateClose
  rw [exec_bind_modify]
  refine Steady.trans ?_ (sendPayload_steady _ _)
  exact .of_settled rfl nofun nofun rfl

/-- The same with an error code and a reason. -/
theorem initiateCloseWithError_steady (self : ZtConnectionActor CC) (errorCode : Nat)
    (reason : Bytes) : Steady self (exec (initiateCloseWithError errorCode reason) self).2 := by
  unfold initiateCloseWithError
  rw [exec_bind_modify]
  refine Steady.trans ?_ (sendPayload_steady _ _)
  exact .of_settled rfl nofun nofun rfl

/-- A failed send from the queue is counted, or closes the connection. -/
theorem pacedSendFailed_steady (self : ZtConnectionActor CC) (error : ZtError) :
    Steady self (self.pacedSendFailed error).2 := by
  unfold pacedSendFailed
  split
  · exact .refl self
  · split
    · exact .of_settled rfl nofun nofun rfl
    · split
      · exact .refl self
      · dsimp only
        split
        · exact .of_settled rfl nofun nofun rfl
        · exact .of_quiet rfl rfl rfl

omit [Hkdf] [HandshakeCrypto] in
/-- Asking the pacer only uses up an answer. -/
theorem nextPace_standing (self : ZtConnectionActor CC) :
    self.nextPace.2.standing = self.standing ∧ self.nextPace.2.state = self.state ∧
      self.nextPace.2.log = self.log := by
  unfold nextPace
  split <;> exact ⟨rfl, rfl, rfl⟩

/-- Sending from the front of the queue, round by round. -/
theorem flushLoop_steady (fuel : Nat) (self : ZtConnectionActor CC) :
    Steady self (exec (flushLoop fuel) self).2 := by
  -- The induction is on the rounds left.
  induction fuel generalizing self with
  | zero => exact .refl self
  | succ fuel ih =>
    unfold flushLoop
    rw [exec_bind_get]
    split
    · exact .refl self
    · rename_i payload retries rest queue
      obtain ⟨standing, state, log⟩ := self.nextPace_standing
      have asked : Steady self self.nextPace.2 := .of_quiet standing state log
      dsimp only
      rw [exec_bind_set]
      refine asked.trans ?_
      split
      · exact .refl _
      · refine keeps_bind_attempt (sendPayloadWithRetries_steady _ payload retries) fun _ sent => ?_
        split
        · rw [exec_bind_get]
          exact pacedSendFailed_steady sent _
        · -- The payload leaves the queue and the next round starts.
          rw [exec_bind_modify]
          refine Steady.trans ?_ (ih _)
          exact .of_quiet rfl rfl rfl

/-- Sending what the pacer allows. -/
theorem flushPacingQueue_steady (self : ZtConnectionActor CC) :
    Steady self (exec flushPacingQueue self).2 := by
  unfold flushPacingQueue
  rw [exec_bind_get]
  split
  · exact .refl self
  · exact flushLoop_steady _ self

end Payloads

section Retransmitting

/-- Changes of the accounts alone. -/
theorem Steady.of_essence {cc : CC} (same : after.essence cc = before.essence cc) :
    Steady before after := by
  have standing := congrArg ZtConnectionActor.standing same
  have state := congrArg (fun actor : ZtConnectionActor CC => actor.state) same
  have log := congrArg (fun actor : ZtConnectionActor CC => actor.log) same
  exact .of_quiet standing state log

variable [CongestionController CC]

/-- Accepted data joins the queue. -/
theorem processOutgoingData_steady (self : ZtConnectionActor CC) (streamId : Nat) (data : Bytes) :
    Steady self (exec (processOutgoingData streamId data) self).2 := by
  rcases self.processOutgoingData_cases streamId data with ⟨error, refused⟩ | ⟨stream, -, -, -, -, -, accepted⟩
  · rw [refused]
    exact .refl self
  · rw [accepted]
    refine (Steady.note self (.issued (.stream streamId stream.streamType stream.nextTxOffset data))
      nofun).trans ?_
    exact .of_quiet rfl rfl rfl

omit [CongestionController CC] in
/-- Payloads are sent again one after the other. -/
theorem retransmitAll_steady (payloads : List (UnackedPayload × Nat)) (self : ZtConnectionActor CC) :
    Steady self (exec (retransmitAll payloads) self).2 := by
  induction payloads generalizing self with
  | nil => exact .refl self
  | cons entry rest ih =>
    unfold retransmitAll
    exact keeps_bind_attempt (retransmitPayload_steady self _ _) fun _ sent => ih sent

/-- Expired packets leave the window, and those that are reliable are sent again. -/
theorem dropExpired_steady (expiry : Expiry) (self : ZtConnectionActor CC) :
    Steady self (exec (dropExpired expiry) self).2 := by
  have drained := Steady.of_essence
    (self.drain_expired_essence expiry.toRetransmit expiry.toDrop self.cc)
  unfold dropExpired
  rw [exec_bind_get]
  generalize UnackedWindow.drain (expiredPacket expiry.toRetransmit) expiry.toDrop
    self.unackedPackets ([], self) = pass at drained ⊢
  obtain ⟨unacked, payloads, emptied⟩ := pass
  dsimp only at drained ⊢
  rw [exec_bind_set]
  have stored : Steady self { emptied with unackedPackets := unacked } :=
    drained.trans (.of_quiet rfl rfl rfl)
  refine stored.trans ?_
  split
  · exact .refl _
  · rw [exec_bind_modify]
    refine Steady.trans ?_ (retransmitAll_steady _ _)
    exact .of_quiet rfl rfl rfl

/-- The retransmission timer. -/
theorem handleRetransmits_steady (self : ZtConnectionActor CC) :
    Steady self (exec handleRetransmits self).2 := by
  unfold handleRetransmits
  rw [exec_bind_get]
  dsimp only
  rw [exec_bind_set]
  generalize expireSlots self.host.now (max (self.rtt + self.rttvar * 4) (milliseconds 50))
    self.unackedPackets.basePn self.unackedPackets.deque ⟨[], [], [], false, false⟩ = scan
  obtain ⟨deque, expiry⟩ := scan
  dsimp only
  have counted : Steady self
      { self with unackedPackets := { self.unackedPackets with deque := deque } } :=
    .of_quiet rfl rfl rfl
  refine counted.trans ?_
  split
  · -- Too many attempts: the connection starts closing.
    rw [exec_bind_attempt]
    exact initiateClose_steady _
  · rw [exec_bind_modify]
    exact (Steady.of_essence (noteExpiredProbes_essence expiry _ self.cc)).trans
      (dropExpired_steady _ _)

end Retransmitting

end ZtConnectionActor
end Zetta
