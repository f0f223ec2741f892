import Zetta.Proofs.Crypto.KeySchedule
import Zetta.Proofs.Transport.Clients

/-! What a client and a server agree on once the client's handshake is complete. -/

namespace Zetta

open Program ZtConnectionActor

/-- The limits that a peer's advertisement sets. -/
structure PeerLimits where
  maxStreams : Nat
  initialStreamWindow : Nat
  window : Nat
  maxDatagramSize : Nat
  deriving DecidableEq, Repr

/-- The limits as they are advertised. -/
def TransportParameters.limits (self : TransportParameters) : PeerLimits :=
  ⟨self.maxStreams, self.initialStreamWindow, self.initialMaxData, self.maxDatagramSize⟩

/-- The limits as they are in force. -/
def ZtConnectionActor.peerLimits {CC : Type} (self : ZtConnectionActor CC) : PeerLimits :=
  ⟨self.peerMaxStreams, self.peerInitialStreamWindow, self.remoteWindow, self.peerMaxDatagramSize⟩

/--
What the handshake relies on in its cryptography.

Hashes have no fixed length here, since none that tells all texts apart has one; those of texts that
fit into a frame fit into it as well.
-/
structure IdealHandshake [HandshakeCrypto] [EndpointCrypto] : Prop where
  injective : Function.Injective HandshakeCrypto.sha256
  short : ∀ text : Bytes, text.length < 2 ^ 16 → (HandshakeCrypto.sha256 text).length < 2 ^ 16
  signature : ∀ key text : Bytes, (HandshakeCrypto.sign key text).length = 64
  exchange : ∀ left right : Bytes,
    HandshakeCrypto.sharedSecret left (EndpointCrypto.publicKey right).val =
      HandshakeCrypto.sharedSecret right (EndpointCrypto.publicKey left).val

section

variable {CC : Type} [Hkdf] [HandshakeCrypto] [EndpointCrypto]

/-- A client whose handshake is complete and the connection a server made agree. -/
structure Agreement (identity : EndpointIdentity CC) (accepted : Acceptance)
    (client : ZtConnectionActor CC) : Prop where
  scid : (accepted.actor identity).scid = client.dcid
  dcid : (accepted.actor identity).dcid = client.scid
  /-- Under one pre-shared key, or without one on both sides, they share the secret. -/
  secret : ∃ own peer, client.crypto = some own ∧ (accepted.actor identity).crypto = some peer ∧
    (client.config.psk = identity.config.psk → own.secret = peer.secret)
  serverLimits : (accepted.actor identity).peerLimits =
    (TransportParameters.fromConfig client.config).limits
  clientLimits : client.peerLimits = (TransportParameters.fromConfig identity.config).limits
  alpn : client.config.alpn = identity.config.alpn

omit [Hkdf] [HandshakeCrypto] [EndpointCrypto] in
/-- The limits that a valid configuration advertises are machine words. -/
theorem TransportParameters.fromConfig_words {config : ZtConfig} (valid : config.validate = .ok ()) :
    (TransportParameters.fromConfig config).Words := by
  obtain ⟨streams, window, data⟩ := ZtConfig.limits_bounded valid
  have wide : u32Size < u64Size := by decide
  exact ⟨by simp only [fromConfig]; omega, window, by simp only [fromConfig]; omega,
    Nat.mod_lt _ (by decide), Nat.mod_lt _ (by decide)⟩

/-- The fields of a response, as a client reads them. -/
def Acceptance.fields (identity : EndpointIdentity CC) (self : Acceptance) : HandshakeFields :=
  ⟨self.publicKey, identity.edPublicKey.val, self.transcriptHash identity,
    HandshakeCrypto.sign identity.edSigningKey (self.transcriptHash identity), identity.config.alpn⟩

omit [Hkdf] in
/-- The frames of a response are read back as they were written. -/
theorem Acceptance.responsePayload_frames (ideal : IdealHandshake) (identity : EndpointIdentity CC)
    {accepted : Acceptance} (sized : accepted.Sized) :
    Frame.decodeFrames (accepted.responsePayload identity) =
      ([accepted.handshakeFrame identity,
        .transportParameters (.fromConfig identity.config)], none) := by
  -- The transcript is short, and so is its hash.
  have hash : (accepted.transcriptHash identity).length < 2 ^ 16 := by
    apply ideal.short
    obtain ⟨cookie, carried, size⟩ := sized.cookie
    have key : accepted.publicKey.length = 32 := (EndpointCrypto.publicKey _).property
    simp only [ClientHello.transcript, clientTranscript, carried, Option.getD_some,
      List.length_append, beBytes_length, sized.scid, sized.dcid, sized.key, size,
      TransportParameters.transcriptBytes_length, accepted.scid.property, key]
    omega
  have handshake : (accepted.handshakeFrame identity).Exact :=
    ⟨(EndpointCrypto.publicKey _).property, identity.edPublicKey.property, hash,
      ideal.signature _ _, ZtConfig.alpn_length identity.valid⟩
  have words := TransportParameters.fromConfig_words identity.valid
  have parameters : (Frame.transportParameters (.fromConfig identity.config)).Exact :=
    ⟨words.maxStreams, words.initialStreamWindow, words.initialMaxData, words.maxDatagramSize,
      words.idleTimeoutMs⟩
  have whole : accepted.responsePayload identity = Frame.encodeAll
      [accepted.handshakeFrame identity, .transportParameters (.fromConfig identity.config)] := by
    simp [responsePayload, Frame.encodeAll]
  rw [whole]
  refine Frame.decodeAll_encodeAll ?_ ?_ le_rfl
  · intro frame member
    simp only [List.mem_cons, List.not_mem_nil, or_false] at member
    rcases member with rfl | rfl
    · exact handshake
    · exact parameters
  · -- Neither of the two is padding.
    exact List.isChain_pair.mpr fun both => by cases both.1

/-- Scanning those frames finds their fields. -/
theorem Acceptance.readHandshakeResponse_fields (ideal : IdealHandshake)
    (identity : EndpointIdentity CC) {accepted : Acceptance} (sized : accepted.Sized)
    {header : PacketHeader} {aad : Bytes} {payload : Sealed}
    (built : payload.plaintext = accepted.responsePayload identity)
    {handshake : HandshakeFields} {parameters : TransportParameters}
    (read : readHandshakeResponse header aad payload = .ok (handshake, parameters)) :
    handshake = accepted.fields identity ∧ parameters = .fromConfig identity.config := by
  unfold readHandshakeResponse at read
  dsimp only at read
  -- A payload that opens gives what was sealed.
  cases opened : (CryptoContext.initial header.dcid true).decryptInPlace header.packetNumber aad
      payload false with
  | error error =>
    rw [opened] at read
    cases read
  | ok plaintext =>
    have same : plaintext = accepted.responsePayload identity := by
      unfold CryptoContext.decryptInPlace at opened
      rw [if_neg (by decide)] at opened
      split at opened
      · rename_i found opens
        cases opened
        rw [Sealed.openWith_eq opens, built]
      · cases opened
    rw [opened, same] at read
    simp only [Bind.bind, Except.bind, responsePayload_frames ideal identity sized] at read
    cases checked : (TransportParameters.fromConfig identity.config).validate with
    | error error => simp [scanHandshake, handshakeFrame, checked] at read
    | ok valid =>
      -- The check of the parameters does not change them.
      have kept : valid = .fromConfig identity.config := by
        unfold TransportParameters.validate at checked
        split at checked
        · cases checked
        · exact (Except.ok.inj checked).symm
      simp only [scanHandshake, handshakeFrame, checked, Option.isSome_none, Bool.false_eq_true,
        if_false] at read
      cases read
      exact ⟨rfl, kept⟩

omit [Hkdf] [EndpointCrypto] in
/-- A response that passes the checks names the protocol and the transcript of the client. -/
theorem ZtConnectionActor.checkHandshakeResponse_ok {client : ZtConnectionActor CC}
    {header : PacketHeader} {handshake : HandshakeFields} {parameters : TransportParameters}
    (checked : client.checkHandshakeResponse header handshake parameters = .ok ()) :
    handshake.alpn = client.config.alpn ∧ handshake.transcriptHash = HandshakeCrypto.sha256
      (clientTranscript client.scid client.dcid client.publicKey client.cookie
        (.fromConfig client.config) ++ header.scid ++ handshake.publicKey ++
        parameters.transcriptBytes) := by
  unfold checkHandshakeResponse at checked
  dsimp only at checked
  split at checked
  · cases checked
  rename_i alpn
  split at checked
  · cases checked
  rename_i hash
  exact ⟨not_not.mp alpn, (not_not.mp hash).symm⟩

/-- A client that completes its handshake with a response agrees with whoever made it. -/
theorem Attempt.Pursued.agrees (ideal : IdealHandshake) {attempt : Attempt CC}
    {client completed : ZtConnectionActor CC} (pursued : attempt.Pursued client)
    {identity : EndpointIdentity CC} {accepted : Acceptance} (sized : accepted.Sized)
    {packet : Packet} {addr : Address} (completes : Completes client packet addr completed)
    (wire : packet.header.scid = accepted.scid.val)
    (body : packet.body = (accepted.response identity).1.body) :
    Agreement identity accepted completed := by
  obtain ⟨payload, handshake, parameters, secret, isSealed, read, checked, held, done⟩ :=
    completes.checked
  have built : payload.plaintext = accepted.responsePayload identity := by
    rw [body] at isSealed
    cases isSealed
    rfl
  obtain ⟨rfl, rfl⟩ := accepted.readHandshakeResponse_fields ideal identity sized built read
  obtain ⟨alpn, hash⟩ := checkHandshakeResponse_ok checked
  -- Equal hashes are of equal transcripts, which end in the server's own choices.
  have texts := ideal.injective hash
  rw [show (client.recovered packet.header).scid = accepted.scid.val from wire] at texts
  have same : accepted.hello.transcript = clientTranscript client.scid client.dcid client.publicKey
      client.cookie (.fromConfig client.config) := by
    simpa [Acceptance.fields, List.append_assoc] using texts
  -- All fields but the cookie have fixed widths.
  obtain ⟨ownDcid, kept⟩ := pursued.unanswered completes.state
  have scidLength : client.scid.length = 8 := by
    rw [pursued.scid]
    exact attempt.scid.property
  have keyLength : client.publicKey.length = 32 := by
    rw [pursued.publicKey]
    exact (EndpointCrypto.publicKey _).property
  have words : (TransportParameters.fromConfig client.config).Words := by
    rw [pursued.config]
    exact TransportParameters.fromConfig_words attempt.valid
  obtain ⟨scid, -, publicKey, -, limits⟩ := clientTranscript_fields sized.words words
    (sized.scid.trans scidLength.symm) (sized.dcid.trans pursued.dcid.symm)
    (sized.key.trans keyLength.symm) same
  subst done
  refine ⟨wire.symm, scid, ⟨_, _, rfl, rfl, fun psk => ?_⟩, ?_, rfl, alpn.symm⟩
  · -- Either side combines its own secret with the other one's public key.
    rw [kept] at held
    cases held
    show deriveMasterSecret (HandshakeCrypto.sharedSecret attempt.ephemeralSecret accepted.publicKey)
        client.scid packet.header.scid client.config.psk true =
      deriveMasterSecret (HandshakeCrypto.sharedSecret accepted.ephemeralSecret
        accepted.hello.handshake.publicKey) accepted.scid.val accepted.hello.header.scid
        identity.config.psk false
    rw [publicKey, pursued.publicKey, scid, wire, show client.config.psk = _ from psk,
      deriveMasterSecret_peer]
    exact congrArg (fun shared => deriveMasterSecret shared _ _ _ _) (ideal.exchange _ _)
  · show accepted.hello.parameters.limits = _
    rw [limits]
    rfl

variable [CongestionController CC]

/--
Handshake agreement, in every run of any number of clients with a server.

Whenever a step makes a client active that was in the handshake, the step is the arrival of one of
the server's packets, and the client that comes out of its processing agrees with a connection that
the server has made.
-/
theorem Network.handshake_agreement (ideal : IdealHandshake) {network : Network CC}
    (reached : network.Reachable) (move : NetworkMove CC) {index : Nat} {known later : Client CC}
    (there : network.clients[index]? = some known)
    (then_ : (network.step move).clients[index]? = some later)
    (handshaking : known.actor.state = .handshaking) (active : later.actor.state = .active) :
    ∃ position record addr host, move = .answer index position addr host ∧
      network.server.outgoing[position]? = some record ∧
      ∃ accepted ∈ network.server.acceptances,
        Agreement network.server.toEndpointIdentity accepted
          (exec (processIncomingPacket (System.arriving record) addr)
            { known.actor with host := host }).2 := by
  have inactive : known.actor.state ≠ .active := by
    rw [handshaking]
    decide
  have pursued := reached.honest.pursued known (List.mem_of_getElem? there)
  have affects := network.step_affects move
  generalize (network.step move).clients = after at affects then_
  -- A client becomes active in its own turn, if at all, and then by completing its handshake.
  have completes : ∀ {turned : Nat} {other : Client CC} {event : Event} {host : Host},
      network.clients[turned]? = some other →
      after = network.clients.set turned { other with actor := other.actor.step event host } →
      turned = index ∧ ∃ packet addr, event = .incomingPacket packet addr ∧
        Completes ({ known.actor with host := host }.counted packet) packet addr
          (exec (processIncomingPacket packet addr) { known.actor with host := host }).2 := by
    intro turned other event host found set
    rw [set, List.getElem?_set] at then_
    split at then_
    · rename_i same
      split at then_
      · cases then_
        subst same
        rw [found] at there
        cases there
        exact ⟨rfl, completes_of_active pursued.role inactive active⟩
      · cases then_
    · rw [there] at then_
      cases then_
      exact absurd active inactive
  cases affects with
  | none same =>
    rw [same, there] at then_
    cases then_
    exact absurd active inactive
  | connects connects =>
    -- A client that is there already stays at its place.
    obtain ⟨inside, -⟩ := List.getElem?_eq_some_iff.mp there
    rw [connects, List.getElem?_append_left inside, there] at then_
    cases then_
    exact absurd active inactive
  | acts moved isLocal found turned =>
    obtain ⟨-, packet, addr, rfl, -⟩ := completes found turned
    cases isLocal
  | hears moved found sent turned =>
    obtain ⟨rfl, packet, addr, same, done⟩ := completes found turned
    cases same
    -- The packet is a response of the server's, to whichever Initial.
    obtain ⟨accepted, made, response⟩ :=
      reached.sound.response_of (List.mem_of_getElem? sent) done.kind
    refine ⟨_, _, _, _, moved, sent, accepted, made, ?_⟩
    exact (pursued.counted _ _).agrees ideal (reached.honest.sized accepted made) done
      (congrArg (·.header.scid) response) (congrArg (·.body) response)

end

open Meeting in
/-- The exclusive-or exchange and the hash that is the text itself are all the handshake relies on. -/
theorem Meeting.ideal : IdealHandshake where
  injective _ _ same := same
  short _ small := small
  signature _ _ := rfl
  exchange := sharedSecret_comm

/-- A pre-shared key. -/
def pskBytes : Bytes := List.replicate 32 1

open Meeting in
/-- A client connects with a pre-shared key, or without one, until the server has let it in. -/
def letIn (psk : Option Bytes) : List (NetworkMove RenoController) :=
  [.connect (attempt psk) (hostTaking 1), .arrive 0 0 1000 (routed 10), .answer 0 0 1 (hostTaking 1),
    .arrive 0 1 1 (routed 10)]

open Meeting in
/-- The client as it comes out of processing the response. -/
def joined (psk : Option Bytes) : Option (ZtConnectionActor RenoController) := do
  let known ← ((Network.bind identity 0).run (letIn psk)).clients[0]?
  let record ← ((Network.bind identity 0).run (letIn psk)).server.outgoing[1]?
  return (exec (processIncomingPacket (System.arriving record) 1)
    { known.actor with host := hostTaking 1 }).2

open Meeting in
/--
A client with a pre-shared key completes its handshake with a server that has none.

It is active then, but its secret is that of no connection the server made.
-/
theorem letIn_secrets_differ :
    ((Network.bind identity 0).run (letIn (some pskBytes))).Reachable ∧
      ((Network.bind identity 0).run (letIn (some pskBytes))).clients.map (·.actor.state) =
        [.handshaking] ∧
      (((Network.bind identity 0).run (letIn (some pskBytes))).step
        (.answer 0 1 1 (hostTaking 1))).clients.map (·.actor.state) = [.active] ∧
      ∀ accepted ∈ ((Network.bind identity 0).run (letIn (some pskBytes))).server.acceptances,
        (accepted.actor identity).crypto.map (·.secret) ≠
          (joined (some pskBytes)).bind fun client => client.crypto.map (·.secret) := by
  refine ⟨Network.reachable_run _ _ _, ?_, ?_, ?_⟩
  · decide +kernel
  · decide +kernel
  · decide +kernel

open Meeting in
/-- Without a pre-shared key on either side, the client agrees with a connection of the server. -/
theorem letIn_agrees :
    ∃ position record addr host,
      (.answer 0 1 1 (hostTaking 1) : NetworkMove RenoController) = .answer 0 position addr host ∧
      ((Network.bind identity 0).run (letIn none)).server.outgoing[position]? = some record ∧
      ∃ accepted ∈ ((Network.bind identity 0).run (letIn none)).server.acceptances,
      ∃ known, ((Network.bind identity 0).run (letIn none)).clients[0]? = some known ∧
        Agreement ((Network.bind identity 0).run (letIn none)).server.toEndpointIdentity accepted
          (exec (processIncomingPacket (System.arriving record) addr)
            { known.actor with host := host }).2 := by
  have before : ((Network.bind identity 0).run (letIn none)).clients[0]?.map (·.actor.state) =
      some .handshaking := by decide +kernel
  have after : (((Network.bind identity 0).run (letIn none)).step
      (.answer 0 1 1 (hostTaking 1))).clients[0]?.map (·.actor.state) = some .active := by
    decide +kernel
  have reached : ((Network.bind identity 0).run (letIn none)).Reachable :=
    Network.reachable_run _ _ _
  generalize (Network.bind identity 0).run (letIn none) = network at *
  obtain ⟨known, there, handshaking⟩ := Option.map_eq_some_iff.mp before
  obtain ⟨later, then_, active⟩ := Option.map_eq_some_iff.mp after
  obtain ⟨position, record, addr, host, moved, sent, accepted, made, agrees⟩ :=
    Network.handshake_agreement Meeting.ideal reached _ there then_ handshaking active
  exact ⟨position, record, addr, host, moved, sent, accepted, made, known, there, agrees⟩

end Zetta
