import Zetta.Proofs.Transport.Clients

/-! When a server answers a repeated Initial with the response it sent before. -/

namespace Zetta

open Program ZtConnectionActor

section

variable {CC : Type} [Hkdf] [HandshakeCrypto]

namespace ZtConnectionActor

omit [Hkdf] [HandshakeCrypto] in
/-- The limit on unverified clients allows a packet, and the socket takes it. -/
def Posts (self : ZtConnectionActor CC) (packet : Packet) : Prop :=
  (self.isClient = false → self.state = .handshaking →
    self.bytesSent + packet.size ≤ 3 * max self.bytesReceived 1) ∧
  self.host.sends.head? = some .sent ∧ packet.size ≤ maxUdpPayload

instance (self : ZtConnectionActor CC) (packet : Packet) : Decidable (self.Posts packet) :=
  inferInstanceAs (Decidable (_ ∧ _ ∧ _))

omit [Hkdf] [HandshakeCrypto] in
/-- A packet that is not posted leaves the history as it is. -/
theorem sendmsgVectored_kept {self : ZtConnectionActor CC} {packet : Packet} (epoch : Nat)
    (kept : ¬ self.Posts packet) :
    (exec (sendmsgVectored packet epoch) self).2.sentRecords = self.sentRecords := by
  have handed := self.sendmsgVectored_handed packet epoch
  generalize exec (sendmsgVectored packet epoch) self = result at handed ⊢
  cases handed with
  | limited | refused => rfl
  | taken answers affords fits => exact absurd ⟨affords, by rw [answers]; rfl, fits⟩ kept

omit [Hkdf] [HandshakeCrypto] in
/-- A packet that is posted joins the history. -/
theorem sendmsgVectored_posted {self : ZtConnectionActor CC} {packet : Packet} (epoch : Nat)
    (posts : self.Posts packet) :
    (exec (sendmsgVectored packet epoch) self).2.sentRecords =
      self.sentRecords ++ [⟨packet, epoch, self.addr⟩] := by
  obtain ⟨allowed, taken, fits⟩ := posts
  have handed := self.sendmsgVectored_handed packet epoch
  generalize exec (sendmsgVectored packet epoch) self = result at handed ⊢
  cases handed with
  | limited state server excess => exact absurd (allowed server state) (not_le.mpr excess)
  | taken => simp [note, Session.sentRecords, Effect.sent?, List.filterMap_append]
  | refused _ fault => exact absurd taken (fault.resolve_right (not_lt.mpr fits))

/-- What an actor announces does not add to the copies of any other packet. -/
theorem Recounts.count {self after : ZtConnectionActor CC} (recounts : self.Recounts after)
    {record : SentRecord} (other : ¬ self.Announces record.packet) :
    after.sentRecords.count record = self.sentRecords.count record := by
  obtain ⟨more, log, announced⟩ := recounts
  -- A copy among what was added would have been announced.
  have absent : record ∉ more.filterMap Effect.sent? := by
    intro member
    obtain ⟨effect, known, same⟩ := List.mem_filterMap.mp member
    cases effect <;> simp only [Effect.sent?, Option.some.injEq, reduceCtorEq] at same
    subst same
    exact other (announced _ known)
  unfold Session.sentRecords
  rw [log, List.filterMap_append, List.count_append, List.count_eq_zero_of_not_mem absent]
  rfl

variable [CongestionController CC]

/-- A server answers an Initial with the response it keeps, and does nothing else. -/
theorem processIncomingPacket_initial (self : ZtConnectionActor CC) {packet : Packet}
    (addr : Address) {response : LongPacket} (kind : packet.header.pType = .initial)
    (long : packet.header.isLong = true) (server : self.isClient = false)
    (held : self.handshakePacket = some response) :
    (exec (processIncomingPacket packet addr) self).2 =
      (exec (sendmsgVectored response.1 0) (self.counted packet)).2 := by
  unfold processIncomingPacket
  rw [exec_bind_modify]
  show (exec (get >>= _) (self.counted packet)).2 = _
  rw [exec_bind_get, if_neg (by simp [long]),
    if_pos ⟨kind, by rw [show (self.counted packet).isClient = self.isClient from rfl, server]; rfl⟩,
    show (self.counted packet).handshakePacket = some response from held]
  rfl

/-- The state of an actor and its host in which an Initial makes it repeat a response. -/
structure Repeats (holder : ZtConnectionActor CC) (response : Packet) (destination : Address)
    (packet : Packet) (host : Host) : Prop where
  running : holder.running = true
  /-- A connection that is closed only waits for its end. -/
  alive : holder.state ≠ .closed
  held : holder.handshakePacket.map (fun kept => kept.1) = some response
  addr : holder.addr = destination
  /-- The bytes of the Initial count towards the limit on unverified clients. -/
  posts : ({ holder with host := host }.counted packet).Posts response

instance (holder : ZtConnectionActor CC) (response : Packet) (destination : Address)
    (packet : Packet) (host : Host) :
    Decidable (holder.Repeats response destination packet host) :=
  decidable_of_iff (holder.running = true ∧ holder.state ≠ .closed ∧
      holder.handshakePacket.map (fun kept => kept.1) = some response ∧ holder.addr = destination ∧
      ({ holder with host := host }.counted packet).Posts response)
    ⟨fun ⟨running, alive, held, addr, posts⟩ => ⟨running, alive, held, addr, posts⟩,
      fun ⟨running, alive, held, addr, posts⟩ => ⟨running, alive, held, addr, posts⟩⟩

/-- An Initial makes an actor repeat its response once, or leaves the copies of it as many. -/
theorem step_repeats {identity : EndpointIdentity CC} [EndpointCrypto] {accepted : Acceptance}
    {self : ZtConnectionActor CC} (served : accepted.Served identity self) {packet : Packet}
    (addr : Address) (kind : packet.header.pType = .initial) (long : packet.header.isLong = true)
    {response : Packet} (isLong : response.header.isLong = true) (destination : Address)
    (host : Host) :
    (self.Repeats response destination packet host →
      (self.step (.incomingPacket packet addr) host).sentRecords.count ⟨response, 0, destination⟩ =
        self.sentRecords.count ⟨response, 0, destination⟩ + 1) ∧
    (¬ self.Repeats response destination packet host →
      (self.step (.incomingPacket packet addr) host).sentRecords.count ⟨response, 0, destination⟩ =
        self.sentRecords.count ⟨response, 0, destination⟩) := by
  by_cases running : self.running = true
  · by_cases alive : self.state = .closed
    · have same : self.step (.incomingPacket packet addr) host = { self with running := false } := by
        unfold step
        rw [if_neg (by simp [running]), if_pos alive]
      rw [same]
      exact ⟨fun repeats => absurd alive repeats.alive, fun _ => rfl⟩
    · -- The Initial is answered, and then the pacer sends what it has.
      have hosted : accepted.Served identity { self with host := host } :=
        ⟨served.same, served.response, served.addr, served.sent⟩
      have server : self.isClient = false := congrArg Identity.isClient served.same
      have stepped : self.step (.incomingPacket packet addr) host =
          (exec resetPacing (exec (sendmsgVectored (accepted.response identity).1 0)
            ({ self with host := host }.counted packet)).2).2 := by
        unfold step
        rw [if_neg (by simp [running]), if_neg alive]
        unfold handleEvent
        rw [exec_bind_logged, processIncomingPacket_initial { self with host := host } addr kind long
          server hosted.response]
      -- The pacer's packets are of the established connection, so none is a response.
      have paced := (resetPacing_steady (exec (sendmsgVectored (accepted.response identity).1 0)
        ({ self with host := host }.counted packet)).2).sent
      have other : ¬ (exec (sendmsgVectored (accepted.response identity).1 0)
          ({ self with host := host }.counted packet)).2.Announces response := by
        rintro (⟨short, -⟩ | own)
        · rw [isLong] at short
          cases short
        · exact (hosted.resent packet).not_own _ own
      rw [stepped, paced.count other]
      by_cases posts : ({ self with host := host }.counted packet).Posts
          (accepted.response identity).1
      · rw [sendmsgVectored_posted 0 posts, List.count_append, List.count_singleton]
        refine ⟨fun repeats => ?_, fun different => ?_⟩
        · -- The response it holds is this one, and goes to this destination.
          have held := repeats.held
          rw [served.response] at held
          cases held
          have addressed : (({ self with host := host } : ZtConnectionActor CC).counted packet).addr =
            destination := repeats.addr
          rw [addressed]
          simp
          rfl
        · have unlike : (⟨(accepted.response identity).1, 0,
              ({ self with host := host }.counted packet).addr⟩ : SentRecord) ≠
              ⟨response, 0, destination⟩ := by
            intro same
            simp only [SentRecord.mk.injEq, true_and] at same
            obtain ⟨rfl, addressed⟩ := same
            exact different ⟨running, alive, by rw [served.response]; rfl, addressed, posts⟩
          simp [unlike]
          rfl
      · rw [sendmsgVectored_kept 0 posts]
        refine ⟨fun repeats => ?_, fun _ => rfl⟩
        have held := repeats.held
        rw [served.response] at held
        cases held
        exact absurd repeats.posts posts
  · have same : self.step (.incomingPacket packet addr) host = self := by
      unfold step
      rw [if_pos (by simpa using running)]
    rw [same]
    exact ⟨fun repeats => absurd repeats.running running, fun _ => rfl⟩

end ZtConnectionActor

namespace ZtEndpoint

variable {self : ZtEndpoint CC}

/--
A connection id leads a datagram to an actor.

The router's own table comes first; the shared one is asked if there is no entry, or no open mailbox
with room behind it.
-/
def LeadsTo (self : ZtEndpoint CC) (draw : RouterDraw) (id : Bytes) (index : Nat) : Prop :=
  ((self.localRoutingTables draw.socket).lookup id = some index ∧ self.isClosed index = false ∧
    draw.cachedRoom = true) ∨
  ((∀ known, (self.localRoutingTables draw.socket).lookup id = some known →
      self.isClosed known = true ∨ draw.cachedRoom = false) ∧
    self.routingTable.lookup id = some index ∧ self.isClosed index = false ∧
    draw.sharedRoom = true)

omit [Hkdf] [HandshakeCrypto] in
/-- The shared table leads to an actor whose mailbox is open and has room. -/
theorem routeShared_task (self : ZtEndpoint CC) (draw : RouterDraw) (packet : Packet) (index : Nat) :
    (self.routeShared draw packet).1 = .task index ↔
      self.routingTable.lookup packet.header.dcid = some index ∧ self.isClosed index = false ∧
        draw.sharedRoom = true := by
  unfold routeShared
  dsimp only
  split
  · rename_i known found
    rw [found]
    split
    · rename_i closed
      simp only [reduceCtorEq, Option.some.injEq, false_iff]
      rintro ⟨rfl, opened, -⟩
      rw [closed] at opened
      cases opened
    · rename_i opened
      split
      · rename_i room
        simp only [Route.task.injEq, Option.some.injEq, room, and_true]
        constructor
        · rintro rfl
          exact ⟨rfl, by simpa using opened⟩
        · exact fun leads => leads.1
      · rename_i full
        simp [full]
  · rename_i absent
    rw [absent]
    -- Without an entry the datagram starts a handshake at best.
    split
    · split
      · simp
      · split <;> simp
    · simp

omit [Hkdf] [HandshakeCrypto] in
/-- A router hands a datagram to the actor its connection id leads to. -/
theorem route_task (self : ZtEndpoint CC) (draw : RouterDraw) (packet : Packet) (index : Nat) :
    (self.route draw packet).1 = .task index ↔ self.LeadsTo draw packet.header.dcid index := by
  unfold route LeadsTo
  dsimp only
  split
  · rename_i absent
    rw [routeShared_task, absent]
    simp
  · rename_i known found
    rw [found]
    split
    · rename_i usable
      have usable : self.isClosed known = false ∧ draw.cachedRoom = true := by simpa using usable
      constructor
      · intro same
        cases same
        exact .inl ⟨rfl, usable⟩
      · rintro (⟨same, -⟩ | ⟨unusable, -⟩)
        · cases same
          rfl
        · -- The entry is usable, so the shared table is not asked.
          rcases unusable known rfl with closed | full
          · rw [usable.1] at closed
            cases closed
          · rw [usable.2] at full
            cases full
    · rename_i unusable
      rw [routeShared_task]
      constructor
      · rintro ⟨listed, opened, room⟩
        refine .inr ⟨?_, listed, opened, room⟩
        rintro other same
        cases same
        by_cases closed : self.isClosed known = true
        · exact .inl closed
        · exact .inr (by simpa [closed] using unusable)
      · rintro (⟨same, opened, room⟩ | ⟨-, listed, opened, room⟩)
        · cases same
          exact absurd ⟨by simp [opened], room⟩ unusable
        · exact ⟨listed, opened, room⟩

variable [CongestionController CC]

/-- The copies of a packet after a turn differ by what the actor added to them. -/
theorem turn_count (self : ZtEndpoint CC) {index : Nat} {holder : ZtConnectionActor CC}
    (held : self.tasks[index]? = some holder) (event : Event) (host : Host) (record : SentRecord) :
    (self.turn index event host).outgoing.count record + holder.sentRecords.count record =
      self.outgoing.count record + (holder.step event host).sentRecords.count record := by
  obtain ⟨inside, same⟩ := List.getElem?_eq_some_iff.mp held
  -- The tasks are those before the actor, the actor, and those after it.
  have tasks : self.tasks = self.tasks.take index ++ holder :: self.tasks.drop (index + 1) := by
    rw [← same, List.getElem_cons_drop, List.take_append_drop]
  have replaced : self.tasks.set index (holder.step event host) =
      self.tasks.take index ++ holder.step event host :: self.tasks.drop (index + 1) := by
    rw [List.set_eq_take_append_cons_drop, if_pos inside]
  have outgoing : ∀ table,
      ({ self with tasks := self.tasks.set index (holder.step event host), routingTable := table } :
          ZtEndpoint CC).outgoing.count record + holder.sentRecords.count record =
        self.outgoing.count record + (holder.step event host).sentRecords.count record := by
    intro table
    unfold outgoing
    dsimp only
    rw [replaced]
    nth_rewrite 3 [tasks]
    simp only [List.flatMap_append, List.flatMap_cons, List.count_append]
    omega
  unfold turn
  rw [held]
  dsimp only
  split
  · -- An actor that ended takes no turns.
    rename_i ended
    have rests : holder.step event host = holder := by
      unfold ZtConnectionActor.step
      rw [if_pos ended]
    rw [rests]
  · split
    · exact outgoing _
    · exact outgoing _

variable [EndpointCrypto]

omit [Hkdf] [HandshakeCrypto] [CongestionController CC] [EndpointCrypto] in
/-- Sending one packet leaves the copies of every other as many. -/
theorem trySend_count {draw : HandshakeDraw} {packet : Packet} {record : SentRecord}
    (unlike : record.packet ≠ packet) (addr : Address) :
    (self.trySend draw packet addr).outgoing.count record = self.outgoing.count record := by
  unfold trySend outgoing
  split
  · have other : (⟨packet, 0, addr⟩ : SentRecord) ≠ record := by
      rintro rfl
      exact unlike rfl
    simp [List.count_append, other]
  · rfl

omit [CongestionController CC] in
/-- The handshake does not answer an Initial whose cookie a connection was made with. -/
theorem Handled.count {execution : Execution} {after : ZtEndpoint CC}
    (sound : self.Sound execution.draw.now) {accepted : Acceptance}
    (made : accepted ∈ self.acceptances) {hello : ClientHello}
    (read : readInitial execution.packet execution.addr = .ok (some hello))
    (again : hello.cookie = accepted.hello.cookie) {record : SentRecord}
    (response : record.packet.header.pType = .handshake) (handled : Handled execution self after) :
    after.outgoing.count record = self.outgoing.count record := by
  cases handled with
  | ignored same => rw [same]
  | retried readAgain invalid answered =>
    rw [answered]
    apply trySend_count
    intro same
    rw [same] at response
    cases response
  | refused dropped =>
    rw [dropped, swept_eq]
    rfl
  | passed passes makes =>
    -- The cookie is spent, so it cannot pass.
    have reads := passes.read
    rw [read] at reads
    cases reads
    obtain ⟨cookie, carried, spent⟩ := sound.spent accepted made
    have valid := (validCookie?_inForce passes.valid).1
    rw [again, carried] at valid
    cases valid
    exact absurd passes spent.not_passes

/-- An actor that a datagram is led to answers it, or no copy of the response is sent. -/
theorem turn_repeats_iff {clock : Nat} (sound : self.Sound clock) {index : Nat}
    {holder : ZtConnectionActor CC} (held : self.tasks[index]? = some holder) {packet : Packet}
    (addr : Address) (kind : packet.header.pType = .initial) (long : packet.header.isLong = true)
    {response : Packet} (isLong : response.header.isLong = true) (destination : Address)
    (host : Host) :
    self.outgoing.count ⟨response, 0, destination⟩ <
        (self.turn index (.incomingPacket packet addr) host).outgoing.count
          ⟨response, 0, destination⟩ ↔
      holder.Repeats response destination packet host := by
  have counted := self.turn_count held (.incomingPacket packet addr) host
    ⟨response, 0, destination⟩
  obtain ⟨accepted, -, served⟩ := sound.served index holder held
  obtain ⟨more, same⟩ := step_repeats served addr kind long isLong destination host
  constructor
  · intro grows
    by_contra silent
    rw [same silent] at counted
    omega
  · intro repeats
    rw [more repeats] at counted
    omega

/--
Exactly an actor that its connection id leads to answers a repeated Initial.

The handshake itself does not: the cookie was consumed when the connection was made.
-/
theorem receive_repeats_iff {draw : RouterDraw} (sound : self.Sound draw.now) {accepted : Acceptance}
    (made : accepted ∈ self.acceptances) {packet : Packet} {addr : Address} {hello : ClientHello}
    (read : readInitial packet addr = .ok (some hello))
    (again : hello.cookie = accepted.hello.cookie) {record : SentRecord}
    (response : record =
      ⟨(accepted.response self.toEndpointIdentity).1, 0, accepted.hello.addr⟩) :
    self.outgoing.count record < (self.receive draw packet addr).outgoing.count record ↔
      ∃ index holder, self.LeadsTo draw packet.header.dcid index ∧
        self.tasks[index]? = some holder ∧
        holder.Repeats record.packet record.destination packet draw.host := by
  obtain ⟨long, kind⟩ := readInitial_kind read
  have leads := self.route_task draw packet
  obtain ⟨table, caches, rerouted⟩ := self.route_rerouted draw packet
  unfold receive
  generalize self.route draw packet = routed at leads rerouted
  obtain ⟨route, routed⟩ := routed
  dsimp only at leads rerouted
  -- The tables do not matter to what was sent, nor to the soundness of the server.
  subst rerouted
  have ready := sound.rerouted ⟨table, caches, rfl⟩
  -- Unless the datagram goes to an actor, no copy of the response is sent.
  have nowhere : (∀ index, route ≠ .task index) → ∀ {after : ZtEndpoint CC},
      after.outgoing.count record = self.outgoing.count record →
      (self.outgoing.count record < after.outgoing.count record ↔
        ∃ index holder, self.LeadsTo draw packet.header.dcid index ∧
          self.tasks[index]? = some holder ∧
          holder.Repeats record.packet record.destination packet draw.host) := by
    intro elsewhere after same
    rw [same]
    refine ⟨fun more => absurd more (lt_irrefl _), ?_⟩
    rintro ⟨index, holder, led, -⟩
    exact absurd ((leads index).mpr led) (elsewhere index)
  cases route with
  | task index =>
    have led := (leads index).mp rfl
    have only : ∀ other, self.LeadsTo draw packet.header.dcid other → other = index := by
      intro other alsoLed
      cases (leads other).mpr alsoLed
      rfl
    -- An open mailbox belongs to an actor.
    have opened : self.isClosed index = false := led.elim (·.2.1) (·.2.2.1)
    cases held : self.tasks[index]? with
    | none => simp [isClosed, held] at opened
    | some holder =>
      rw [response]
      refine (turn_repeats_iff ready held addr kind long rfl _ draw.host).trans ?_
      constructor
      · exact fun repeats => ⟨index, holder, led, held, repeats⟩
      · rintro ⟨other, found, alsoLed, foundThere, repeats⟩
        cases only other alsoLed
        rw [held] at foundThere
        cases foundThere
        exact repeats
  | handshake =>
    refine nowhere nofun ?_
    have kind : record.packet.header.pType = .handshake := by
      rw [response]
      rfl
    have known : accepted ∈ ({ self with
        routingTable := table, localRoutingTables := caches } : ZtEndpoint CC).acceptances := made
    have same := Handled.count ready known read again kind
      (handleHandshake_handled _ ⟨draw.toHandshakeDraw, packet, addr⟩)
    exact same
  | dropped => exact nowhere nofun rfl

end ZtEndpoint

namespace Network

variable [CongestionController CC] [EndpointCrypto] {network : Network CC}

end Network
end

open Meeting in
/-- A client comes back with its cookie, hears nothing and sends its Initials again. -/
def unheard (first : UInt8) : List (NetworkMove RenoController) :=
  [.connect (attempt none) (hostTaking 1), .arrive 0 0 1000 (routed 10), .answer 0 0 1 (hostTaking 1),
    .arrive 0 1 1 (routed first), .act 0 .rtoTimer { hostTaking 2 with now := 100000000000 }]

open Meeting in
/-- The Initial with the cookie arrives again, and the sockets take every packet. -/
def heardAgain : RouterDraw := { routed 20 with host := hostTaking 1 }

open Meeting in
/-- What the connection of the client was made from, if the server draws the client's own id. -/
def sameId : Acceptance := ⟨hello (some (cookie 1000)) 1, (attempt none).dcid, [9], hostTaking 0⟩

end Zetta
