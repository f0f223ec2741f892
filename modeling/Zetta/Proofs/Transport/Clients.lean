import Zetta.Proofs.Protocol.Decode
import Zetta.Proofs.Transport.Attempt

/-! Clients that pursue their attempts, and what a server reads from the packets they send. -/

namespace Zetta

open Program ZtConnectionActor

variable {CC : Type} [Hkdf] [EndpointCrypto]

/-- An actor pursues an attempt: it is who the attempt made it, whatever it heard since. -/
structure Attempt.Pursued (attempt : Attempt CC) (actor : ZtConnectionActor CC) : Prop where
  role : actor.isClient = true
  config : actor.config = attempt.config
  scid : actor.scid = attempt.scid.val
  publicKey : actor.publicKey = attempt.publicKey
  /-- Whether the client drew the id it addresses or the server did, it has its fixed length. -/
  dcid : actor.dcid.length = 8
  unanswered : actor.state = .handshaking →
    actor.dcid = attempt.dcid.val ∧ actor.ephemeralSecret = some attempt.ephemeralSecret
  sent : ∀ record, .sent record ∈ actor.log → record.packet.header.isLong = true →
    record.packet.header.scid.length = 8 ∧ record.packet.header.dcid.length = 8

namespace Attempt.Pursued

variable {attempt : Attempt CC} {actor after : ZtConnectionActor CC}

omit [Hkdf] in
/-- A new client pursues its attempt. -/
theorem new (attempt : Attempt CC) (host : Host) : attempt.Pursued (attempt.actor host) where
  role := rfl
  config := rfl
  scid := rfl
  publicKey := rfl
  dcid := attempt.dcid.property
  unanswered _ := ⟨rfl, rfl⟩
  sent := nofun

omit [Hkdf] in
/-- Neither the host nor the bytes counted make a difference. -/
theorem counted (pursued : attempt.Pursued actor) (host : Host) (packet : Packet) :
    attempt.Pursued ({ actor with host := host }.counted packet) :=
  ⟨pursued.role, pursued.config, pursued.scid, pursued.publicKey, pursued.dcid, pursued.unanswered,
    pursued.sent⟩

variable [HandshakeCrypto]

/-- A handler that leaves the actor who it is leaves it with its attempt. -/
theorem follows (pursued : attempt.Pursued actor) (follows : Follows actor after) :
    attempt.Pursued after := by
  have same := follows.identity
  simp only [identity, Identity.mk.injEq] at same
  obtain ⟨config, role, scid, dcid, publicKey, -, -, secret⟩ := same
  refine ⟨role.trans pursued.role, config.trans pursued.config, scid.trans pursued.scid,
    publicKey.trans pursued.publicKey, dcid ▸ pursued.dcid, fun handshaking => ?_, ?_⟩
  · -- The handshake is not entered again, so it was going on before.
    have before : actor.state = .handshaking :=
      not_not.mp fun left => follows.settled left handshaking
    obtain ⟨own, kept⟩ := pursued.unanswered before
    exact ⟨dcid.trans own, secret.trans kept⟩
  · intro record member long
    obtain ⟨more, log, announced⟩ := follows.sent
    rw [log] at member
    rcases List.mem_append.mp member with old | new
    · exact pursued.sent record old long
    · rcases announced record new with ⟨short, -⟩ | ⟨number, pnLen, cookie, key, -, built⟩
      · rw [long] at short
        cases short
      · -- An Initial carries the ids of the actor that sends it.
        have sized : actor.scid.length = 8 := by
          rw [pursued.scid]
          exact attempt.scid.property
        rw [built]
        exact ⟨sized, pursued.dcid⟩

/-- The client answers to a server whose id has its fixed length. -/
theorem completes {packet : Packet} {addr : Address} (pursued : attempt.Pursued actor)
    (completes : Completes actor packet addr after)
    (sized : packet.header.scid.length = 8) : attempt.Pursued after := by
  obtain ⟨payload, handshake, parameters, secret, -, -, -, -, completed⟩ := completes.checked
  subst completed
  exact ⟨pursued.role, pursued.config, pursued.scid, pursued.publicKey, sized, nofun, pursued.sent⟩

variable [CongestionController CC]

/-- Every turn leaves a client with its attempt, as long as the ids of servers have their length. -/
theorem step (pursued : attempt.Pursued actor) {event : Event} (host : Host)
    (kept : ∀ response, event ≠ .setHandshakePacket response)
    (sized : ∀ packet addr, event = .incomingPacket packet addr →
      packet.header.pType = .handshake → packet.header.scid.length = 8) :
    attempt.Pursued (actor.step event host) := by
  have hosted : attempt.Pursued { actor with host := host } :=
    ⟨pursued.role, pursued.config, pursued.scid, pursued.publicKey, pursued.dcid,
      pursued.unanswered, pursued.sent⟩
  rcases actor.step_conducts event host with steady | conducts
  · exact pursued.follows steady.toFollows
  · rcases conducts.follows with ⟨follows, -⟩ | ⟨packet, addr, completed, packets, done, rest⟩ |
      ⟨packet, addr, response, -, -, server, -⟩ | ⟨response, sets⟩
    · exact hosted.follows follows
    · exact ((pursued.counted host packet).completes done
        (sized packet addr packets done.kind)).follows rest.toFollows
    · -- Only a server repeats a response.
      rw [hosted.role] at server
      cases server
    · exact absurd sets (kept response)

end Attempt.Pursued

/-- What the frames of an Initial said so far has the widths the wire gives it. -/
structure InitialFrames.Sized (found : InitialFrames) : Prop where
  key : ∀ handshake, found.handshake = some handshake → handshake.publicKey.length = 32
  words : ∀ parameters, found.parameters = some parameters → parameters.Words

omit [Hkdf] [EndpointCrypto] in
/-- Well-formed frames are scanned into fields of the right widths. -/
theorem scanInitial_sized {frames : List Frame} (proper : ∀ frame ∈ frames, frame.WellFormed)
    {found scanned : InitialFrames} (sized : found.Sized)
    (scan : scanInitial frames found = .ok scanned) : scanned.Sized := by
  -- The induction is on the frames left, from anything found so far.
  induction frames generalizing found with
  | nil =>
    cases scan
    exact sized
  | cons frame rest ih =>
    have later := fun other member => proper other (List.mem_cons_of_mem frame member)
    have formed := proper frame List.mem_cons_self
    unfold scanInitial at scan
    split at scan
    · -- A handshake frame replaces what was found before.
      refine ih later ?_ scan
      refine ⟨fun handshake same => ?_, sized.words⟩
      cases same
      exact (formed.resolve_left nofun).1
    · refine ih later ?_ scan
      exact ⟨sized.key, sized.words⟩
    · split at scan
      · cases scan
      · rename_i received valid checked
        split at scan
        · cases scan
        · refine ih later ?_ scan
          refine ⟨sized.key, fun parameters same => ?_⟩
          -- The check of the parameters does not change them.
          cases same
          unfold TransportParameters.validate at checked
          split at checked
          · cases checked
          · cases checked
            obtain ⟨streams, window, data, datagram, idle⟩ := formed.resolve_left nofun
            exact ⟨streams, window, data, datagram, idle⟩
    · exact ih later sized scan

omit [EndpointCrypto] in
/-- What a server reads from an Initial has its widths, and the header is the packet's. -/
theorem readInitial_sized {packet : Packet} {addr : Address} {hello : ClientHello}
    (read : readInitial packet addr = .ok (some hello)) :
    hello.header = packet.header ∧ hello.handshake.publicKey.length = 32 ∧
      hello.parameters.Words := by
  unfold readInitial at read
  split at read
  · cases read
  split at read
  · cases read
  split at read
  · cases read
  split at read
  · cases read
  split at read
  · cases read
  rename_i plaintext opened
  split at read
  · cases read
  rename_i found scan
  -- Nothing was found before the first frame.
  have nothing : (⟨none, none, none⟩ : InitialFrames).Sized := ⟨nofun, nofun⟩
  have sized := scanInitial_sized (Frame.decodeFrames_wellFormed plaintext) nothing scan
  split at read
  · cases read
  · cases read
  · rename_i handshake parameters heldHandshake heldParameters
    cases read
    exact ⟨rfl, sized.key _ heldHandshake, sized.words _ heldParameters⟩

omit [EndpointCrypto] in
/-- An Initial that is read is long and of that type. -/
theorem readInitial_kind {packet : Packet} {addr : Address} {hello : ClientHello}
    (read : readInitial packet addr = .ok (some hello)) :
    packet.header.isLong = true ∧ packet.header.pType = .initial := by
  unfold readInitial at read
  split at read
  · cases read
  · split at read
    · cases read
    · rename_i kind
      simpa [not_or] using kind

/-- The Initial a connection was made from has the widths of an honest client's. -/
structure Acceptance.Sized (accepted : Acceptance) : Prop where
  scid : accepted.hello.header.scid.length = 8
  dcid : accepted.hello.header.dcid.length = 8
  key : accepted.hello.handshake.publicKey.length = 32
  words : accepted.hello.parameters.Words
  cookie : ∃ cookie, accepted.hello.cookie = some cookie ∧ cookie.length = 40

variable [HandshakeCrypto]

/-- Among everything a sound server sends, what looks like a response is one. -/
theorem ZtEndpoint.Sound.response_of {server : ZtEndpoint CC} {clock : Nat}
    (sound : server.Sound clock) {record : SentRecord} (member : record ∈ server.outgoing)
    (kind : record.packet.header.pType = .handshake) :
    ∃ accepted ∈ server.acceptances,
      record.packet = (accepted.response server.toEndpointIdentity).1 := by
  rcases List.mem_append.mp member with own | task
  · -- The endpoint itself sends Retry packets and responses.
    rcases sound.sent record own with retry | known
    · rw [kind] at retry
      cases retry
    · exact known
  · obtain ⟨actor, there, sent⟩ := List.mem_flatMap.mp task
    obtain ⟨index, found⟩ := List.getElem?_of_mem there
    obtain ⟨accepted, made, served⟩ := sound.served index actor found
    obtain ⟨effect, logged, same⟩ := List.mem_filterMap.mp sent
    cases effect <;> simp only [Effect.sent?, Option.some.injEq, reduceCtorEq] at same
    subst same
    -- Beyond packets of the established connection, an actor repeats its own response.
    rcases served.sent _ logged with ⟨-, isProtected⟩ | response
    · rw [kind] at isProtected
      cases isProtected
    · exact ⟨accepted, List.mem_of_getElem? made, response⟩

namespace Network

variable [CongestionController CC] {network : Network CC}

/-- What a step does to the clients. -/
inductive Affects (network : Network CC) (move : NetworkMove CC) (after : List (Client CC)) : Prop
  | none (same : after = network.clients)
  | connects {attempt : Attempt CC} {host : Host}
      (connects : after = network.clients ++ [⟨attempt, (attempt.actor host).start host⟩])
  | acts {index : Nat} {known : Client CC} {event : Event} {host : Host}
      (moved : move = .act index event host) (isLocal : event.isLocal = true)
      (there : network.clients[index]? = some known)
      (turned : after = network.clients.set index
        { known with actor := known.actor.step event host })
  | hears {index position : Nat} {known : Client CC} {record : SentRecord} {addr : Address}
      {host : Host} (moved : move = .answer index position addr host)
      (there : network.clients[index]? = some known)
      (sent : network.server.outgoing[position]? = some record)
      (turned : after = network.clients.set index { known with
        actor := known.actor.step (.incomingPacket (System.arriving record) addr) host })

/-- Every step does one of these things. -/
theorem step_affects (network : Network CC) (move : NetworkMove CC) :
    Affects network move (network.step move).clients := by
  cases move with
  | connect attempt host => exact .connects rfl
  | act index event host =>
    unfold step
    dsimp only
    split
    · rename_i isLocal
      unfold turnClient
      split
      · exact .none rfl
      · rename_i known there
        exact .acts rfl isLocal there rfl
    · exact .none rfl
  | answer index position addr host =>
    unfold step
    dsimp only
    split
    · exact .none rfl
    · rename_i record sent
      unfold turnClient
      split
      · exact .none rfl
      · rename_i known there
        exact .hears rfl there sent rfl
  | arrive index position elapsed draw =>
    unfold step
    dsimp only
    split <;> exact .none rfl
  | deliver task index position host =>
    unfold step
    dsimp only
    split <;> exact .none rfl
  | turn task event host =>
    unfold step
    dsimp only
    split <;> exact .none rfl
  | accept => exact .none rfl
  | close id => exact .none rfl

/-- Every client pursues its attempt, and every connection was made from an honest Initial. -/
structure Honest (network : Network CC) : Prop where
  pursued : ∀ client ∈ network.clients, client.attempt.Pursued client.actor
  sized : ∀ accepted ∈ network.server.acceptances, accepted.Sized

omit [Hkdf] [HandshakeCrypto] [CongestionController CC] in
/-- A long packet that arrives from a client carries connection ids of their fixed length. -/
theorem Honest.incoming (honest : network.Honest) {index position : Nat} {packet : Packet}
    {addr : Address} (found : network.incoming? index position = some (packet, addr))
    (long : packet.header.isLong = true) :
    packet.header.scid.length = 8 ∧ packet.header.dcid.length = 8 := by
  unfold incoming? at found
  split at found
  · cases found
  · rename_i sender there
    obtain ⟨record, sent, same⟩ := Option.map_eq_some_iff.mp found
    cases same
    -- On the wire only the packet number is cut.
    have known := (honest.pursued sender (List.mem_of_getElem? there)).sent record
    obtain ⟨effect, logged, kept⟩ := List.mem_filterMap.mp (List.mem_of_getElem? sent)
    cases effect <;> simp only [Effect.sent?, Option.some.injEq, reduceCtorEq] at kept
    subst kept
    exact known logged long

/-- Whatever a client hears, its turn leaves it with its attempt. -/
theorem Honest.turn (honest : network.Honest) (sound : network.server.Sound network.server.clock)
    {move : NetworkMove CC} {after : List (Client CC)} (affects : Affects network move after) :
    ∀ client ∈ after, client.attempt.Pursued client.actor := by
  intro client member
  cases affects with
  | none same =>
    rw [same] at member
    exact honest.pursued client member
  | connects connects =>
    rw [connects] at member
    rcases List.mem_append.mp member with old | new
    · exact honest.pursued client old
    · cases List.mem_singleton.mp new
      exact (Attempt.Pursued.new _ _).follows (start_steady _ _).toFollows
  | acts moved isLocal there turned =>
    rw [turned] at member
    rcases List.mem_or_eq_of_mem_set member with old | rfl
    · exact honest.pursued client old
    · refine (honest.pursued _ (List.mem_of_getElem? there)).step _ ?_ ?_
      · rintro response rfl
        cases isLocal
      · rintro packet addr rfl
        cases isLocal
  | hears moved there sent turned =>
    rw [turned] at member
    rcases List.mem_or_eq_of_mem_set member with old | rfl
    · exact honest.pursued client old
    · refine (honest.pursued _ (List.mem_of_getElem? there)).step _ nofun ?_
      intro packet addr same kind
      cases same
      -- A response names the id that the server drew.
      obtain ⟨accepted, -, response⟩ := sound.response_of (List.mem_of_getElem? sent) kind
      show List.length _ = 8
      rw [show (System.arriving _).header.scid = _ from congrArg (·.header.scid) response]
      exact accepted.scid.property

/-- In every run clients and connections are honest. -/
theorem ReachableWhile.honest {condition : Network CC → NetworkMove CC → Prop}
    (reached : ReachableWhile condition network) : network.Honest := by
  induction reached with
  | bind identity clock =>
    exact ⟨fun _ member => absurd member List.not_mem_nil,
      fun _ member => absurd member List.not_mem_nil⟩
  | @step network move reached met ih =>
    refine ⟨ih.turn reached.sound (network.step_affects move), fun accepted member => ?_⟩
    rcases network.step_accepts move with same | ⟨client, position, elapsed, draw, packet, addr,
      new, cookie, moved, found, passes, added⟩
    · rw [same] at member
      exact ih.sized accepted member
    · rw [added] at member
      rcases List.mem_append.mp member with old | last
      · exact ih.sized accepted old
      · -- The new connection was made from what a client sent.
        cases List.mem_singleton.mp last
        obtain ⟨header, key, words⟩ := readInitial_sized passes.read
        obtain ⟨long, -⟩ := readInitial_kind passes.read
        obtain ⟨scid, dcid⟩ := ih.incoming found long
        obtain ⟨carried, length, -⟩ := ZtEndpoint.validCookie?_inForce passes.valid
        exact ⟨by rw [header]; exact scid, by rw [header]; exact dcid, key, words,
          cookie, carried, length⟩

end Network
end Zetta
