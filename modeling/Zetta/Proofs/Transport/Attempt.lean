import Zetta.Proofs.Transport.Router

/-! What one attempt to connect can lead to: connections of the server, and repeated responses. -/

namespace Zetta

open Program ZtConnectionActor

/-- An Initial belongs to an attempt: it comes from its address and carries its ids and key. -/
def ClientHello.Of {CC : Type} [EndpointCrypto] (hello : ClientHello) (attempt : Attempt CC) : Prop :=
  hello.addr = attempt.address ∧ hello.header.scid = attempt.scid.val ∧
    hello.header.dcid = attempt.dcid.val ∧ hello.handshake.publicKey = attempt.publicKey

instance {CC : Type} [EndpointCrypto] (attempt : Attempt CC) :
    DecidablePred fun hello : ClientHello => hello.Of attempt :=
  fun _ => inferInstanceAs (Decidable (_ ∧ _ ∧ _ ∧ _))

section

variable {CC : Type} [Hkdf] [HandshakeCrypto] [EndpointCrypto] [CongestionController CC]

namespace ZtEndpoint

variable {self after : ZtEndpoint CC}

omit [EndpointCrypto] in
/-- A turn of an actor lets nobody in. -/
theorem turn_acceptances (self : ZtEndpoint CC) (index : Nat) (event : Event) (host : Host) :
    (self.turn index event host).acceptances = self.acceptances := by
  -- Whether the actor goes on or ends, only the tasks and the routing table change.
  unfold turn
  split
  · rfl
  · split
    · rfl
    · dsimp only
      split
      · rfl
      · rfl

/-- A datagram lets a client in only if it passes every check. -/
theorem receive_accepts (self : ZtEndpoint CC) (draw : RouterDraw) (packet : Packet)
    (addr : Address) :
    (self.receive draw packet addr).acceptances = self.acceptances ∨
      ∃ accepted cookie, self.Passes ⟨draw.toHandshakeDraw, packet, addr⟩ accepted.hello cookie ∧
        (self.receive draw packet addr).acceptances = self.acceptances ++ [accepted] := by
  -- Of everything that becomes of a datagram, only the handshake adds to the connections.
  obtain ⟨routed, ⟨table, caches, rfl⟩, received⟩ := self.receive_received draw packet addr
  cases received with
  | dropped same =>
    left
    rw [same]
  | turned index turned =>
    left
    rw [turned, turn_acceptances]
  | handled handled =>
    cases handled with
    | ignored same =>
      left
      rw [same]
    | retried read invalid answered =>
      left
      rw [answered, trySend_eq]
    | refused dropped =>
      left
      rw [dropped, swept_eq]
    | passed passes makes =>
      -- The checks do not look at the routing tables.
      have passed : self.Passes ⟨draw.toHandshakeDraw, packet, addr⟩ _ _ :=
        ⟨passes.read, passes.valid, passes.alpn, by
          have fresh := passes.unconsumed
          unfold swept at fresh ⊢
          split at fresh <;> split <;> first | exact fresh | contradiction, passes.checked⟩
      have untouched := congrArg ZtEndpoint.acceptances (swept_eq draw.toHandshakeDraw
        ({ self with routingTable := table, localRoutingTables := caches } : ZtEndpoint CC))
      cases makes with
      | nothing same =>
        left
        rw [same]
        exact untouched
      | connection about drawn made =>
        right
        refine ⟨_, _, about ▸ passed, ?_⟩
        rw [made, trySend_eq]
        exact congrArg (· ++ [_]) untouched

end ZtEndpoint

namespace Network

variable {network : Network CC}

/-- A step of the network is none of the server, or one thing that happens at it. -/
theorem step_server (self : Network CC) (move : NetworkMove CC) :
    (self.step move).server = self.server ∨
      ∃ happens, (self.step move).server = self.server.step happens := by
  -- What happens at a client does not touch the server.
  have turned : ∀ client event host, (self.turnClient client event host).server = self.server := by
    intro client event host
    unfold turnClient
    split <;> rfl
  cases move with
  | connect attempt host => exact .inl rfl
  | act client event host =>
    unfold step
    dsimp only
    split
    · exact .inl (turned _ _ _)
    · exact .inl rfl
  | answer client position addr host =>
    unfold step
    dsimp only
    split
    · exact .inl rfl
    · exact .inl (turned _ _ _)
  | arrive client position elapsed draw =>
    unfold step
    dsimp only
    split
    · exact .inl rfl
    · rename_i packet addr found
      exact .inr ⟨.receive elapsed draw packet addr, rfl⟩
  | deliver task client position host =>
    unfold step
    dsimp only
    split
    · exact .inl rfl
    · rename_i packet addr found
      exact .inr ⟨.turn task (.incomingPacket packet addr) host, rfl⟩
  | turn task event host =>
    unfold step
    dsimp only
    split
    · exact .inr ⟨.turn task event host, rfl⟩
    · exact .inl rfl
  | accept => exact .inr ⟨.accept, rfl⟩
  | close id => exact .inr ⟨.close id, rfl⟩

/-- The server of a network is sound in every run. -/
theorem ReachableWhile.sound {condition : Network CC → NetworkMove CC → Prop}
    (reached : ReachableWhile condition network) : network.server.Sound network.server.clock := by
  -- The invariant goes through one step of the server, and the clients do not matter to it.
  induction reached with
  | bind identity clock => exact .bind identity clock
  | step move reached met ih =>
    rcases step_server _ move with same | ⟨happens, same⟩
    · rw [same]
      exact ih
    · rw [same]
      exact Server.step_sound _ ih happens

/-- Only a datagram that arrives at the server lets a client in, and only if it passes. -/
theorem step_accepts (self : Network CC) (move : NetworkMove CC) :
    (self.step move).server.acceptances = self.server.acceptances ∨
      ∃ client position elapsed draw packet addr accepted cookie,
        move = .arrive client position elapsed draw ∧
        self.incoming? client position = some (packet, addr) ∧
        self.server.Passes ⟨(self.server.drawn elapsed draw).toHandshakeDraw, packet, addr⟩
          accepted.hello cookie ∧
        (self.step move).server.acceptances = self.server.acceptances ++ [accepted] := by
  -- A turn of an actor lets nobody in, and neither does anything at a client.
  have turned : ∀ task event host,
      (self.server.step (.turn task event host)).acceptances = self.server.acceptances := by
    intro task event host
    cases event <;> first | rfl | exact ZtEndpoint.turn_acceptances _ _ _ _
  cases move with
  | arrive client position elapsed draw =>
    unfold step
    dsimp only
    split
    · exact .inl rfl
    · rename_i packet addr found
      rcases self.server.receive_accepts (self.server.drawn elapsed draw) packet addr with
        same | ⟨accepted, cookie, passes, added⟩
      · exact .inl same
      · exact .inr ⟨client, position, elapsed, draw, packet, addr, accepted, cookie, rfl, found,
          passes, added⟩
  | deliver task client position host =>
    left
    unfold step
    dsimp only
    split
    · rfl
    · exact turned _ _ _
  | turn task event host =>
    left
    unfold step
    dsimp only
    split
    · exact turned _ _ _
    · rfl
  | connect attempt host => exact .inl rfl
  | act client event host =>
    left
    unfold step turnClient
    dsimp only
    split
    · split <;> rfl
    · rfl
  | answer client position addr host =>
    left
    unfold step turnClient
    dsimp only
    split
    · rfl
    · split <;> rfl
  | accept => exact .inl rfl
  | close id => exact .inl rfl

/-- The connections a server has queued for an attempt. -/
def connectionsOf (self : Network CC) (attempt : Attempt CC) : List Acceptance :=
  self.server.acceptances.filter fun accepted => accepted.hello.Of attempt

/--
An attempt comes back with one cookie only.

Once a connection is queued for it, no Initial of the attempt arrives with another cookie that is
still in force. Initials without a cookie or with an expired one are answered with a Retry packet
and do no harm by themselves.
-/
def OneCookie (attempt : Attempt CC) (network : Network CC) (move : NetworkMove CC) : Prop :=
  ∀ client position elapsed draw packet addr hello cookie,
    move = .arrive client position elapsed draw →
    network.incoming? client position = some (packet, addr) →
    readInitial packet addr = .ok (some hello) → hello.Of attempt →
    hello.cookie = some cookie →
    network.server.clock + elapsed ≤ cookieTime cookie + network.server.config.cookieMaxAgeMs →
    ∀ accepted ∈ network.connectionsOf attempt, accepted.hello.cookie = some cookie

/-- An attempt that comes back with one cookie is queued at most once. -/
theorem connectionsOf_le_one (attempt : Attempt CC)
    (reached : ReachableWhile (OneCookie attempt) network) :
    (network.connectionsOf attempt).length ≤ 1 := by
  induction reached with
  | bind identity clock => exact Nat.zero_le 1
  | @step network move reached met ih =>
    unfold connectionsOf at ih ⊢
    rcases network.step_accepts move with same | ⟨client, position, elapsed, draw, packet, addr,
      accepted, cookie, moved, found, passes, added⟩
    · rw [same]
      exact ih
    · rw [added, List.filter_append]
      by_cases own : accepted.hello.Of attempt
      · -- A connection queued before has spent the cookie, which then does not pass again.
        have first : network.connectionsOf attempt = [] := by
          apply List.eq_nil_iff_forall_not_mem.mpr
          intro known member
          obtain ⟨carried, -, -, inForce⟩ := ZtEndpoint.validCookie?_inForce passes.valid
          have alike := met client position elapsed draw packet addr _ cookie moved found passes.read
            own carried inForce known member
          obtain ⟨spent, held, isSpent⟩ := reached.sound.spent known (List.mem_of_mem_filter member)
          rw [alike] at held
          cases held
          obtain ⟨mac, code, since⟩ := isSpent
          have still : network.server.Spent cookie (network.server.clock + elapsed) :=
            ⟨mac, code, since.later (Nat.le_add_right _ _)⟩
          exact still.not_passes passes
        unfold connectionsOf at first
        rw [first]
        simp [own]
      · simpa [own] using ih

omit [HandshakeCrypto] [CongestionController CC] in
/-- Before a connection is queued for it, an attempt has not come back with two cookies. -/
theorem OneCookie.of_none {attempt : Attempt CC} (none : network.connectionsOf attempt = [])
    (move : NetworkMove CC) : OneCookie attempt network move := by
  intro _ _ _ _ _ _ _ _ _ _ _ _ _ _ accepted member
  rw [none] at member
  cases member

omit [HandshakeCrypto] [CongestionController CC] in
/-- A repeated Initial carries the cookie the connection was made with. -/
theorem OneCookie.of_repeated {attempt : Attempt CC} {client position elapsed : Nat}
    {draw : RouterDraw} {packet : Packet} {addr : Address} {hello : ClientHello}
    (found : network.incoming? client position = some (packet, addr))
    (read : readInitial packet addr = .ok (some hello))
    (alike : ∀ accepted ∈ network.connectionsOf attempt, accepted.hello.cookie = hello.cookie) :
    OneCookie attempt network (.arrive client position elapsed draw) := by
  intro _ _ _ _ _ _ _ cookie moved arrived reads _ carried _ accepted member
  cases moved
  rw [found] at arrived
  cases arrived
  rw [read] at reads
  cases reads
  rw [alike accepted member, carried]

/-- Every move of a list meets a condition when its turn comes. -/
def MetAlong (condition : Network CC → NetworkMove CC → Prop) :
    Network CC → List (NetworkMove CC) → Prop
  | _, [] => True
  | network, move :: rest => condition network move ∧ MetAlong condition (network.step move) rest

/-- A run whose moves all meet a condition reaches its end while it holds. -/
theorem ReachableWhile.run {condition : Network CC → NetworkMove CC → Prop}
    (reached : ReachableWhile condition network) {moves : List (NetworkMove CC)}
    (met : MetAlong condition network moves) : ReachableWhile condition (network.run moves) := by
  -- The induction is on the moves left, from any network reached so far.
  induction moves generalizing network with
  | nil => exact reached
  | cons move rest ih => exact ih (reached.step move met.1) met.2

/-- Every run from a bound server leads to a network that can be reached. -/
theorem reachable_run (identity : EndpointIdentity CC) (clock : Nat) (moves : List (NetworkMove CC)) :
    Reachable ((Network.bind identity clock).run moves) := by
  have met : ∀ network : Network CC, MetAlong (fun _ _ => True) network moves := by
    induction moves with
    | nil => exact fun _ => trivial
    | cons move rest ih => exact fun network => ⟨trivial, ih (network.step move)⟩
  exact ReachableWhile.run (.bind identity clock) (met _)

end Network
end

open Meeting in
/-- A client connects, is sent a Retry packet and comes back with the cookie. -/
def oneRetry : List (NetworkMove RenoController) :=
  [.connect (attempt none) (hostTaking 1), .arrive 0 0 1000 (routed 10), .answer 0 0 1 (hostTaking 1),
    .arrive 0 1 1 (routed 10)]

open Meeting in
/--
The first Initial of a client arrives twice, and so does an answer to each.

The client comes back with both cookies, and the server finds neither of them consumed.
-/
def twoRetries : List (NetworkMove RenoController) :=
  [.connect (attempt none) (hostTaking 1), .arrive 0 0 1000 (routed 10), .arrive 0 0 1 (routed 10),
    .answer 0 0 1 (hostTaking 1), .answer 0 1 1 (hostTaking 1), .arrive 0 1 1 (routed 10),
    .arrive 0 2 1 (routed 20)]

open Meeting in
/-- One attempt of an honest client is queued as two connections. -/
theorem twoRetries_queued_twice :
    ((Network.bind identity 0).run twoRetries).Reachable ∧
      (((Network.bind identity 0).run twoRetries).connectionsOf (attempt none)).length = 2 :=
  ⟨Network.reachable_run _ _ _, by decide +kernel⟩

open Meeting in
/-- A client that comes back with its only cookie twice is queued once. -/
theorem oneRetry_queued_once :
    (((Network.bind identity 0).run (oneRetry ++ [.arrive 0 1 1 (routed 20)])).connectionsOf
      (attempt none)).length ≤ 1 := by
  have read : readInitial (initial (some (cookie 1000)) 1) 5 =
      .ok (some (hello (some (cookie 1000)) 1)) := by decide +kernel
  -- No connection is queued until the cookie comes back, and then the same cookie comes again.
  refine Network.connectionsOf_le_one _ (.run (.bind identity 0)
    ⟨.of_none ?_ _, .of_none ?_ _, .of_none ?_ _, .of_none ?_ _, .of_repeated ?_ read ?_, trivial⟩)
  · decide +kernel
  · decide +kernel
  · decide +kernel
  · decide +kernel
  · decide +kernel
  · decide +kernel

end Zetta
