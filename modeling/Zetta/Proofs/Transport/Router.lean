import Zetta.Proofs.Transport.Conduct
import Zetta.Proofs.Transport.Handshake

/-! What holds of a server in every run: whom its actors serve, and which cookies are spent. -/

namespace Zetta

open Program ZtConnectionActor

variable {CC : Type} [Hkdf] [HandshakeCrypto] [EndpointCrypto]

/-- An actor of a server serves the client it was made for. -/
structure Acceptance.Served (identity : EndpointIdentity CC) (accepted : Acceptance)
    (actor : ZtConnectionActor CC) : Prop where
  same : actor.identity = (accepted.actor identity).identity
  response : actor.handshakePacket = some (accepted.response identity)
  addr : actor.state = .handshaking → actor.addr = accepted.hello.addr
  /-- Beyond packets of the established connection it sends only the response. -/
  sent : ∀ record, .sent record ∈ actor.log →
    record.packet.header.isLong = false ∧ record.packet.header.pType.isProtected = true ∨
      record.packet = (accepted.response identity).1

namespace Acceptance.Served

variable {identity : EndpointIdentity CC} {accepted : Acceptance} {actor after : ZtConnectionActor CC}

/-- A new actor serves its client. -/
theorem new (identity : EndpointIdentity CC) (accepted : Acceptance) :
    accepted.Served identity (accepted.actor identity) :=
  ⟨rfl, rfl, fun _ => rfl, nofun⟩

/-- An actor without a signing key has no Initials of its own. -/
theorem not_own (served : accepted.Served identity actor) (packet : Packet) :
    ¬ actor.OwnInitial packet := by
  rintro ⟨number, pnLen, cookie, signingKey, held, -⟩
  have none : actor.edSigningKey = none := congrArg Identity.edSigningKey served.same
  rw [none] at held
  cases held

/-- A handler that leaves the actor who it is leaves it serving its client. -/
theorem follows (served : accepted.Served identity actor) (follows : Follows actor after)
    (addr : after.state = .handshaking → after.addr = actor.addr) :
    accepted.Served identity after := by
  refine ⟨follows.identity.trans served.same, ?_, ?_, ?_⟩
  · rcases follows.response with unchanged | ⟨own, -, initial⟩
    · exact unchanged.trans served.response
    · exact absurd initial (served.not_own _)
  · intro handshaking
    -- The handshake is not entered again, so it was going on before.
    by_cases before : actor.state = .handshaking
    · exact (addr handshaking).trans (served.addr before)
    · exact absurd handshaking (follows.settled before)
  · intro record member
    obtain ⟨more, log, announced⟩ := follows.sent
    rw [log] at member
    rcases List.mem_append.mp member with old | new
    · exact served.sent record old
    · rcases announced record new with short | own
      · exact .inl short
      · exact absurd own (served.not_own _)

/-- Repeating the response leaves the actor serving its client. -/
theorem resent (served : accepted.Served identity actor) (packet : Packet) :
    accepted.Served identity
      (exec (sendmsgVectored (accepted.response identity).1 0) (actor.counted packet)).2 := by
  have standing := actor.resent_standing packet (accepted.response identity).1
  obtain ⟨-, state, log⟩ :=
    (actor.counted packet).sendmsgVectored_sends (accepted.response identity).1 0
  refine ⟨(congrArg (·.1) standing).trans served.same,
    (congrArg (·.2.2.2.1) standing).trans served.response, ?_, ?_⟩
  · intro handshaking
    have before : actor.state = .handshaking := state.symm.trans handshaking
    exact (congrArg (·.2.2.1.addr) standing).trans (served.addr before)
  · intro record member
    rcases log with kept | sent
    · rw [kept] at member
      exact served.sent record member
    · rw [sent] at member
      rcases List.mem_append.mp member with old | new
      · exact served.sent record old
      · cases List.mem_singleton.mp new
        exact .inr rfl

variable [CongestionController CC]

/-- Every turn leaves an actor serving its client, unless it is given another response. -/
theorem step (served : accepted.Served identity actor) (event : Event) (host : Host)
    (kept : ∀ response, event ≠ .setHandshakePacket response) :
    accepted.Served identity (actor.step event host) := by
  rcases actor.step_conducts event host with steady | conducts
  · exact served.follows steady.toFollows fun _ => congrArg PathState.addr steady.path
  · have hosted : accepted.Served identity { actor with host := host } :=
      ⟨served.same, served.response, served.addr, served.sent⟩
    rcases conducts.follows with ⟨follows, addr⟩ | ⟨packet, addr, completed, -, completes, -⟩ |
      ⟨packet, addr, response, -, -, -, held, rest⟩ | ⟨response, sets⟩
    · exact hosted.follows follows addr
    · -- Only a client holds the secret that completes a handshake.
      obtain ⟨payload, handshake, parameters, secret, -, -, -, held, -⟩ := completes.checked
      have none : actor.ephemeralSecret = none := congrArg Identity.ephemeralSecret served.same
      rw [show actor.ephemeralSecret = some secret from held] at none
      cases none
    · rw [hosted.response] at held
      cases held
      exact (hosted.resent packet).follows rest.toFollows fun _ => congrArg PathState.addr rest.path
    · exact absurd sets (kept response)

end Acceptance.Served

namespace ZtEndpoint

variable {self after : ZtEndpoint CC}

/-- Only the routing tables of an endpoint changed. -/
def Rerouted (before after : ZtEndpoint CC) : Prop :=
  ∃ table caches, after =
    { before with routingTable := table, localRoutingTables := caches }

omit [Hkdf] [HandshakeCrypto] [EndpointCrypto] in
/-- Routing changes nothing but the tables. -/
theorem route_rerouted (self : ZtEndpoint CC) (draw : RouterDraw) (packet : Packet) :
    self.Rerouted (self.route draw packet).2 := by
  -- The shared table is looked into last, after the router's own one was cleaned.
  have shared : ∀ known : ZtEndpoint CC, self.Rerouted known →
      self.Rerouted (known.routeShared draw packet).2 := by
    rintro known ⟨table, caches, rfl⟩
    unfold routeShared
    dsimp only
    split
    · split
      · exact ⟨_, _, rfl⟩
      · exact ⟨_, _, rfl⟩
    · split
      · split
        · exact ⟨_, _, rfl⟩
        · split
          · exact ⟨_, _, rfl⟩
          · exact ⟨_, _, rfl⟩
      · exact ⟨_, _, rfl⟩
  unfold route
  dsimp only
  split
  · exact shared self ⟨_, _, rfl⟩
  · split
    · exact ⟨_, _, rfl⟩
    · exact shared _ ⟨_, _, rfl⟩

/-- What holds of a server in every run, at a time. -/
structure Sound (endpoint : ZtEndpoint CC) (clock : Nat) : Prop where
  paired : endpoint.tasks.length = endpoint.acceptances.length
  served : ∀ (index : Nat) actor, endpoint.tasks[index]? = some actor →
    ∃ accepted : Acceptance, endpoint.acceptances[index]? = some accepted ∧
      accepted.Served endpoint.toEndpointIdentity actor
  spent : ∀ accepted ∈ endpoint.acceptances,
    ∃ cookie, accepted.hello.cookie = some cookie ∧ endpoint.Spent cookie clock
  sent : ∀ record ∈ endpoint.sent, record.packet.header.pType = .retry ∨
    ∃ accepted ∈ endpoint.acceptances,
      record.packet = (accepted.response endpoint.toEndpointIdentity).1

namespace Sound

variable {clock : Nat}

/-- A server that was just bound has neither actors nor spent cookies. -/
theorem bind (identity : EndpointIdentity CC) (clock : Nat) :
    (ZtEndpoint.bind identity).Sound clock where
  paired := rfl
  served index actor found := by simp [ZtEndpoint.bind] at found
  spent accepted member := by simp [ZtEndpoint.bind] at member
  sent record member := by simp [ZtEndpoint.bind] at member

/-- Routing keeps a server sound. -/
theorem rerouted (sound : self.Sound clock) (same : self.Rerouted after) : after.Sound clock := by
  obtain ⟨table, caches, rfl⟩ := same
  exact ⟨sound.paired, sound.served, sound.spent, sound.sent⟩

/-- So does time. -/
theorem later {now : Nat} (sound : self.Sound clock) (later : clock ≤ now) : self.Sound now := by
  refine ⟨sound.paired, sound.served, fun accepted member => ?_, sound.sent⟩
  obtain ⟨cookie, carried, mac, code, spent⟩ := sound.spent accepted member
  exact ⟨cookie, carried, mac, code, spent.later later⟩

/-- So does a sweep of the replay filter. -/
theorem swept {draw : HandshakeDraw} (sound : self.Sound draw.now) :
    (self.swept draw).Sound draw.now := by
  have spent : ∀ accepted ∈ self.acceptances,
      ∃ cookie, accepted.hello.cookie = some cookie ∧ (self.swept draw).Spent cookie draw.now := by
    intro accepted member
    obtain ⟨cookie, carried, spent⟩ := sound.spent accepted member
    exact ⟨cookie, carried, spent.swept⟩
  rw [swept_eq] at spent ⊢
  exact ⟨sound.paired, sound.served, spent, sound.sent⟩

/-- So does sending a Retry packet, or the response to a client that was let in. -/
theorem trySend (sound : self.Sound clock) (draw : HandshakeDraw) {packet : Packet} (addr : Address)
    (known : packet.header.pType = .retry ∨
      ∃ accepted ∈ self.acceptances, packet = (accepted.response self.toEndpointIdentity).1) :
    (self.trySend draw packet addr).Sound clock := by
  have sent : ∀ record ∈ (self.trySend draw packet addr).sent,
      record.packet.header.pType = .retry ∨ ∃ accepted ∈ self.acceptances,
        record.packet = (accepted.response self.toEndpointIdentity).1 := by
    intro record member
    rcases mem_trySend member with old | new
    · exact sound.sent record old
    · rw [new]
      exact known
  rw [trySend_eq] at sent ⊢
  exact ⟨sound.paired, sound.served, sound.spent, sent⟩

/-- So does a new connection, whose cookie was spent for it. -/
theorem install (sound : self.Sound clock) {accepted : Acceptance} {cookie : Bytes}
    (carried : accepted.hello.cookie = some cookie) (spent : self.Spent cookie clock) :
    (self.install accepted).Sound clock := by
  refine ⟨by simp [ZtEndpoint.install, sound.paired], ?_, ?_, ?_⟩
  · intro index actor found
    -- The new actor stands at the end of the tasks, as its client does at the end of those let in.
    rcases Nat.lt_or_ge index self.tasks.length with old | new
    · rw [show (self.install accepted).tasks = self.tasks ++ [_] from rfl,
        List.getElem?_append_left old] at found
      obtain ⟨known, made, served⟩ := sound.served index actor found
      refine ⟨known, ?_, served⟩
      show (self.acceptances ++ [accepted])[index]? = some known
      rw [List.getElem?_append_left (by rw [← sound.paired]; exact old), made]
    · rw [show (self.install accepted).tasks = self.tasks ++ [_] from rfl,
        List.getElem?_append_right new, List.getElem?_singleton] at found
      split at found
      · cases found
        refine ⟨accepted, ?_, .new _ _⟩
        show (self.acceptances ++ [accepted])[index]? = some accepted
        rw [List.getElem?_append_right (by rw [← sound.paired]; exact new), ← sound.paired]
        simp [*]
      · cases found
  · intro known member
    rcases List.mem_append.mp member with old | new
    · exact sound.spent known old
    · cases List.mem_singleton.mp new
      exact ⟨cookie, carried, spent⟩
  · intro record member
    rcases sound.sent record member with retry | ⟨known, old, same⟩
    · exact .inl retry
    · exact .inr ⟨known, List.mem_append_left _ old, same⟩

/-- So does an execution of the handshake that comes later. -/
theorem handled {execution : Execution} (sound : self.Sound execution.draw.now)
    (handled : Handled execution self after) : after.Sound execution.draw.now := by
  cases handled with
  | ignored same => exact same ▸ sound
  | retried read invalid answered => exact answered ▸ sound.trySend _ _ (.inl rfl)
  | refused dropped => exact dropped ▸ sound.swept
  | passed passes makes =>
    rename_i hello cookie
    -- The cookie is spent before the connection is made.
    have consumed : ((self.swept execution.draw).consume cookie execution.draw.now).Sound
        execution.draw.now := by
      refine ⟨sound.swept.paired, sound.swept.served, fun accepted member => ?_, sound.swept.sent⟩
      obtain ⟨other, carried, spent⟩ := sound.swept.spent accepted member
      exact ⟨other, carried, spent.consume _ _⟩
    cases makes with
    | nothing same => exact same ▸ consumed
    | connection about drawn made =>
      rw [made]
      have carried := (validCookie?_inForce passes.valid).1
      refine (consumed.install (about ▸ carried) passes.spent).trySend _ _ (.inr ?_)
      exact ⟨_, List.mem_append_right _ List.mem_cons_self, rfl⟩

end Sound

/-- What becomes of a datagram, once the tables are settled. -/
inductive Received [CongestionController CC] (draw : RouterDraw) (packet : Packet) (addr : Address)
    (self after : ZtEndpoint CC) : Prop
  | dropped (same : after = self)
  | turned (index : Nat) (turned : after = self.turn index (.incomingPacket packet addr) draw.host)
  | handled (handled : Handled ⟨draw.toHandshakeDraw, packet, addr⟩ self after)

variable [CongestionController CC]

/-- Every datagram is dropped, handed to an actor or to the handshake. -/
theorem receive_received (self : ZtEndpoint CC) (draw : RouterDraw) (packet : Packet)
    (addr : Address) : ∃ routed, self.Rerouted routed ∧
      Received draw packet addr routed (self.receive draw packet addr) := by
  refine ⟨(self.route draw packet).2, self.route_rerouted draw packet, ?_⟩
  unfold receive
  generalize self.route draw packet = routed
  obtain ⟨route, routed⟩ := routed
  cases route with
  | task index => exact .turned index rfl
  | handshake => exact .handled (handleHandshake_handled _ _)
  | dropped => exact .dropped rfl

namespace Sound

variable {clock : Nat}

/-- So does a turn of an actor. -/
theorem turn (sound : self.Sound clock) (index : Nat) (event : Event) (host : Host)
    (kept : ∀ response, event ≠ .setHandshakePacket response) :
    (self.turn index event host).Sound clock := by
  -- The actor serves the same client after its turn, and no other actor changes.
  have turned : ∀ actor, self.tasks[index]? = some actor → ∀ table,
      Sound { self with
        tasks := self.tasks.set index (actor.step event host), routingTable := table } clock := by
    intro actor task table
    refine ⟨by rw [← sound.paired]; exact List.length_set, ?_, sound.spent, sound.sent⟩
    intro position other found
    rw [List.getElem?_set] at found
    split at found
    · rename_i same
      obtain ⟨accepted, made, served⟩ := sound.served index actor task
      split at found
      · cases found
        exact ⟨accepted, same ▸ made, served.step event host kept⟩
      · cases found
    · exact sound.served position other found
  unfold ZtEndpoint.turn
  split
  · exact sound
  · rename_i actor task
    split
    · exact sound
    · dsimp only
      split
      · exact turned actor task _
      · exact turned actor task _

/-- So does a datagram. -/
theorem receive {draw : RouterDraw} (sound : self.Sound draw.now) (packet : Packet)
    (addr : Address) : (self.receive draw packet addr).Sound draw.now := by
  obtain ⟨routed, same, received⟩ := self.receive_received draw packet addr
  have ready := sound.rerouted same
  cases received with
  | dropped same => exact same ▸ ready
  | turned index turned => exact turned ▸ ready.turn index _ _ nofun
  | handled handled => exact Sound.handled ready handled

end Sound
end ZtEndpoint

namespace Server

variable [CongestionController CC]

/-- Whatever happens at a server, it stays sound. -/
theorem step_sound (self : Server CC) (sound : self.Sound self.clock) (move : ServerMove) :
    (self.step move).Sound (self.step move).clock := by
  cases move with
  | receive elapsed draw packet addr =>
    have later : self.Sound (self.drawn elapsed draw).now :=
      ZtEndpoint.Sound.later sound (Nat.le_add_right _ _)
    exact later.receive packet addr
  | turn index event host =>
    unfold step
    split
    · rename_i elsewhere
      cases elsewhere
    · exact sound
    · rename_i kept same
      cases same
      exact ZtEndpoint.Sound.turn sound _ _ _ fun response same => kept response same
    · rename_i same
      cases same
    · rename_i same
      cases same
  | accept => exact ⟨sound.paired, sound.served, sound.spent, sound.sent⟩
  | close id => exact ⟨sound.paired, sound.served, sound.spent, sound.sent⟩

end Server
end Zetta
