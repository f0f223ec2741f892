import Zetta.Proofs.Transport.Conduct
import Zetta.Transport.Meeting

/-! Packet numbers of a connection grow with every packet it protects, so no nonce is used twice. -/

namespace Zetta

open Program

/-- Folding a key into two texts of one length tells them apart. -/
theorem zipWith_xor_injective : ∀ {key left right : Bytes}, left.length = key.length →
    right.length = key.length →
    List.zipWith (· ^^^ ·) key left = List.zipWith (· ^^^ ·) key right → left = right
  | [], [], [], _, _, _ => rfl
  | byte :: key, first :: left, second :: right, leftLength, rightLength, same => by
    -- The first bytes agree because folding in one byte can be undone.
    simp only [List.zipWith_cons_cons, List.cons.injEq] at same
    have bytes : first = second := (UInt8.xor_right_inj byte).mp same.1
    have rest : left = right :=
      zipWith_xor_injective (by simpa using leftLength) (by simpa using rightLength) same.2
    rw [bytes, rest]

/-- Under one vector, different packet numbers make different nonces. -/
theorem makeNonceFromIv_injective {iv : Bytes} {first second : Nat} (length : iv.length = 12)
    (firstFits : first < u64Size) (secondFits : second < u64Size)
    (same : makeNonceFromIv iv first = makeNonceFromIv iv second) : first = second := by
  unfold makeNonceFromIv at same
  -- The front of the vector is not touched, and the rest has eight bytes as the numbers do.
  have folded := List.append_cancel_left same
  have numbers : beBytes 8 first = beBytes 8 second := by
    apply zipWith_xor_injective _ _ folded
    · simp [length]
    · simp [length]
  exact beBytes_injective firstFits secondFits numbers

/-- The nonce a payload was protected under. -/
def Encryption.nonce (self : Encryption) : Bytes :=
  makeNonceFromIv self.crypto.txIv self.packetNumber

/--
Key material as the library derives it.

Vectors fill the twelve bytes they are derived for, and a key comes with one vector only, as it does
unless two derivations of keys collide.
-/
structure IdealKeys [Hkdf] : Prop where
  length : ∀ secret epoch isClient, (deriveEpochKeys secret epoch isClient).txIv.length = 12
  paired : ∀ secret epoch isClient secret' epoch' isClient',
    (deriveEpochKeys secret epoch isClient).txKey = (deriveEpochKeys secret' epoch' isClient').txKey →
    (deriveEpochKeys secret epoch isClient).txIv = (deriveEpochKeys secret' epoch' isClient').txIv

namespace ZtConnectionActor

variable {CC : Type} [Hkdf] [HandshakeCrypto]

/-- The actors event loops start with: a client's, and one a server made for an Initial packet. -/
inductive Created [EndpointCrypto] : ZtConnectionActor CC → Prop
  | client (controller : Nat → Nat → CC) (seed : ActorSeed) (role : seed.isClient = true)
      (host : Host) : Created (.new controller seed host)
  | server (identity : EndpointIdentity CC) (accepted : Acceptance) : Created (accepted.actor identity)

/-- Nothing was protected yet, or only the response, under the first number. -/
theorem Created.numbering [EndpointCrypto] {actor : ZtConnectionActor CC} (created : Created actor) :
    actor.Numbering := by
  cases created with
  | client controller seed role host => exact ⟨.nil, nofun, show 0 < u64Size by decide⟩
  | server identity accepted =>
    refine ⟨List.pairwise_singleton _ _, ?_, show 1 < u64Size by decide⟩
    intro encryption member
    cases List.mem_singleton.mp member
    exact Nat.zero_lt_one

/-- The keys an actor starts with are derived ones. -/
theorem Created.keysDerived [EndpointCrypto] {actor : ZtConnectionActor CC}
    (created : Created actor) : actor.KeysDerived := by
  cases created with
  | client controller seed role host => exact ⟨nofun, nofun⟩
  | server identity accepted =>
    constructor
    · intro crypto held
      cases held
      exact CryptoContext.applyEpochKeys_derived _ _
    · intro encryption member
      cases List.mem_singleton.mp member
      exact CryptoContext.applyEpochKeys_derived _ _

/-- Completing the handshake derives keys, takes no number and protects nothing. -/
theorem completeHandshake_orderly (self : ZtConnectionActor CC) (header : PacketHeader)
    (addr : Address) (secret : Bytes) (handshake : HandshakeFields)
    (parameters : TransportParameters) :
    Orderly self (self.completeHandshake header addr secret handshake parameters) := by
  refine ⟨fun ordered => ⟨ordered.increasing, ordered.below, ordered.fits⟩, ?_, fun _ => nofun⟩
  intro derived
  refine ⟨fun crypto held => ?_, derived.used⟩
  cases held
  exact CryptoContext.applyEpochKeys_derived _ _

omit [HandshakeCrypto] in
/-- A change of other parts keeps the order. -/
theorem Orderly.of_same {self other : ZtConnectionActor CC}
    (encryptions : other.encryptions = self.encryptions)
    (number : other.nextPacketNumber = self.nextPacketNumber) (crypto : other.crypto = self.crypto)
    (state : other.state = self.state) : Orderly self other := by
  refine ⟨fun ordered => ?_, fun derived => ?_, fun left => state ▸ left⟩
  · exact ⟨encryptions ▸ ordered.increasing, by rw [encryptions, number]; exact ordered.below,
      number ▸ ordered.fits⟩
  · exact ⟨crypto ▸ derived.current, encryptions ▸ derived.used⟩

omit [HandshakeCrypto] in
/-- A response was protected long ago, so repeating it takes no number. -/
theorem resent_orderly (self : ZtConnectionActor CC) (packet response : Packet) :
    Orderly self (exec (sendmsgVectored response 0) (self.counted packet)).2 := by
  have standing := self.resent_standing packet response
  exact .of_same (congrArg (·.2.2.2.2.2.2) standing) (congrArg (·.2.2.2.2.2.1) standing)
    (congrArg (·.2.2.2.2.1) standing) ((self.counted packet).sendmsgVectored_sends response 0).2.1

/-- Whatever an event does, the numbers stay in order and the keys derived. -/
theorem Conducts.orderly {event : Event} {self after : ZtConnectionActor CC}
    (conducts : Conducts event self after) : Orderly self after := by
  -- Outside the handlers that send, only fields are set that order does not depend on.
  cases conducts with
  | steady steady => exact steady.toOrderly
  | arrives packets opens arrives => exact arrives.toOrderly
  | completes packets completes rest =>
    obtain ⟨-, -, -, payload, handshake, parameters, secret, -, -, -, -, completed⟩ := completes
    rw [completed] at rest
    -- The datagram is counted first, which is no part of what is kept in order.
    have counted : ∀ packet, Orderly self (self.counted packet) := fun _ => .of_same rfl rfl rfl rfl
    exact (counted _).trans ((completeHandshake_orderly _ _ _ _ _ _).trans rest.toOrderly)
  | resends packets kind server kept rest => exact (self.resent_orderly _ _).trans rest.toOrderly
  | opensStream asks admitted opened => exact opened ▸ .of_same rfl rfl rfl rfl
  | adopts sets adopted => exact adopted ▸ .of_same rfl rfl rfl rfl
  | repeats timer left pending expected again =>
    have noted : Orderly self { self with
        pathValidationRetries := self.pathValidationRetries + 1
        pathValidationSentAt := some self.host.now } := .of_same rfl rfl rfl rfl
    exact noted.trans again.toOrderly
  | abandons timer spent abandoned => exact abandoned ▸ .of_same rfl rfl rfl rfl

variable [CongestionController CC]

/-- So does a turn of the event loop. -/
theorem step_orderly (self : ZtConnectionActor CC) (event : Event) (host : Host) :
    Orderly self (self.step event host) := by
  rcases self.step_conducts event host with steady | conducts
  · exact steady.toOrderly
  · -- The host is no part of what is kept in order.
    have hosted : Steady self { self with host := host } := .of_quiet rfl rfl rfl
    exact hosted.toOrderly.trans conducts.orderly

/-- And so do any number of turns. -/
theorem turns_orderly (self : ZtConnectionActor CC) (events : List (Event × Host)) :
    Orderly self (self.turns events) := by
  induction events generalizing self with
  | nil => exact (Steady.refl self).toOrderly
  | cons turn rest ih => exact (self.step_orderly turn.1 turn.2).trans (ih _)

omit [CongestionController CC] in
/-- What a client sends before its first turn is in order, too. -/
theorem start_orderly (self : ZtConnectionActor CC) (host : Host) :
    Orderly self (self.start host) := (self.start_steady host).toOrderly

omit [HandshakeCrypto] [CongestionController CC] in
/-- Protected under growing numbers and derived keys, no key meets a nonce twice. -/
theorem Numbering.nonces_differ {actor : ZtConnectionActor CC} (ordered : actor.Numbering)
    (derived : actor.KeysDerived) (ideal : IdealKeys) :
    actor.encryptions.Pairwise fun earlier later =>
      (earlier.crypto.txKey, earlier.nonce) ≠ (later.crypto.txKey, later.nonce) := by
  apply ordered.increasing.imp_of_mem
  intro earlier later earlierMember laterMember increasing same
  obtain ⟨keys, nonces⟩ := Prod.mk.inj same
  obtain ⟨secret, epoch, role, key, iv⟩ := derived.used earlier earlierMember
  obtain ⟨secret', epoch', role', key', iv'⟩ := derived.used later laterMember
  -- One key means one vector, under which the two numbers would have to be equal.
  have vectors : earlier.crypto.txIv = later.crypto.txIv := by
    rw [iv, iv']
    exact ideal.paired _ _ _ _ _ _ (by rw [← key, ← key', keys])
  have length : later.crypto.txIv.length = 12 := by
    rw [iv']
    exact ideal.length _ _ _
  have bound : ∀ encryption ∈ actor.encryptions, encryption.packetNumber < u64Size :=
    fun encryption member => lt_trans (ordered.below encryption member) ordered.fits
  unfold Encryption.nonce at nonces
  rw [vectors] at nonces
  have equal := makeNonceFromIv_injective length (bound _ earlierMember) (bound _ laterMember) nonces
  omega

/--
The numbers under which a connection protects packets only grow, whatever happens to it.

No key therefore meets a nonce twice, and when the numbers run out that is reported as an error.
-/
theorem numbers_never_repeat [EndpointCrypto] {actor : ZtConnectionActor CC}
    (created : Created actor) (host : Host) (events : List (Event × Host)) :
    ((actor.start host).turns events).encryptions.Pairwise
        (fun earlier later => earlier.packetNumber < later.packetNumber) ∧
      (IdealKeys → ((actor.start host).turns events).encryptions.Pairwise fun earlier later =>
        (earlier.crypto.txKey, earlier.nonce) ≠ (later.crypto.txKey, later.nonce)) ∧
      (u64Size ≤ ((actor.start host).turns events).nextPacketNumber + 1 →
        exec getNextPacketNumber ((actor.start host).turns events) =
          (.error .packetNumberOverflow, (actor.start host).turns events)) := by
  -- Both the order of the numbers and the origin of the keys hold before and after the run.
  have run := (actor.start_orderly host).trans ((actor.start host).turns_orderly events)
  have ordered := run.numbering created.numbering
  have derived := run.keys created.keysDerived
  refine ⟨ordered.increasing, fun ideal => ordered.nonces_differ derived ideal, fun exhausted => ?_⟩
  rcases getNextPacketNumber_exact ((actor.start host).turns events) with ⟨-, failed⟩ | ⟨fits, -⟩
  · exact failed
  · omega

end ZtConnectionActor

open Meeting in
/-- A Retry packet answers the first Initial of a client. -/
def answeredByRetry : List (Event × Host) :=
  [(.incomingPacket ⟨⟨.retry, true, protocolVersion, (client none).scid, [], 0, false, 1⟩,
    .clear (cookie 1000)⟩ 1, hostTaking 1)]

open Meeting in
/-- The two Initials of that client are protected under two numbers and under different nonces. -/
theorem retried_initial_renumbered :
    ((((client none).start (hostTaking 1)).turns answeredByRetry).encryptions.map
        (·.packetNumber)) = [0, 1] ∧
      (((client none).start (hostTaking 1)).turns answeredByRetry).encryptions.Pairwise
        fun earlier later =>
          (earlier.crypto.txKey, earlier.nonce) ≠ (later.crypto.txKey, later.nonce) := by
  have ideal : IdealKeys := by
    constructor
    · intro secret epoch isClient
      cases isClient <;> rfl
    · intro secret epoch isClient secret' epoch' isClient' _
      cases isClient <;> cases isClient' <;> rfl
  have created : ZtConnectionActor.Created (client none) := .client _ _ rfl _
  exact ⟨by decide +kernel, (ZtConnectionActor.numbers_never_repeat created _ _).2.1 ideal⟩

end Zetta
