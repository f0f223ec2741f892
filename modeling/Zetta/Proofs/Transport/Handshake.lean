import Zetta.Transport.Meeting

/-! What one execution of the handshake does, and that a cookie lets a client in at most once. -/

namespace Zetta

open Program

/-- One execution of the handshake: what it draws, and the datagram it is about. -/
structure Execution where
  draw : HandshakeDraw
  packet : Packet
  addr : Address

namespace ZtEndpoint

variable {CC : Type} {self after : ZtEndpoint CC}

/-- The endpoint after the sweep, if an execution makes one. -/
def swept (draw : HandshakeDraw) (self : ZtEndpoint CC) : ZtEndpoint CC :=
  if draw.sweep then self.sweepFilter draw.now else self

/-- A sweep changes nothing but the filter. -/
theorem swept_eq (draw : HandshakeDraw) (self : ZtEndpoint CC) :
    self.swept draw =
      { self with handshakeReplayFilter := (self.swept draw).handshakeReplayFilter } := by
  unfold swept
  split <;> rfl

/-- Sending an answer changes nothing but the history. -/
theorem trySend_eq (draw : HandshakeDraw) (packet : Packet) (addr : Address)
    (self : ZtEndpoint CC) :
    self.trySend draw packet addr =
      { self with sent := (self.trySend draw packet addr).sent } := by
  unfold trySend
  split <;> rfl

/-- What is sent joins what was sent before. -/
theorem mem_trySend {draw : HandshakeDraw} {packet : Packet} {addr : Address} {record : SentRecord}
    (member : record ∈ (self.trySend draw packet addr).sent) :
    record ∈ self.sent ∨ record = ⟨packet, 0, addr⟩ := by
  unfold trySend at member
  split at member
  · rcases List.mem_append.mp member with old | new
    · exact .inl old
    · exact .inr (List.mem_singleton.mp new)
  · exact .inl member

variable [Hkdf] [HandshakeCrypto] [EndpointCrypto]

/--
An Initial passes every check of an execution, the cookie's and the replay filter's among them.

Its cookie is consumed, and making the connection is all that is left.
-/
structure Passes (server : ZtEndpoint CC) (execution : Execution) (hello : ClientHello)
    (cookie : Bytes) : Prop where
  read : readInitial execution.packet execution.addr = .ok (some hello)
  valid : server.validCookie? hello execution.draw.now = some cookie
  alpn : hello.handshake.alpn = server.config.alpn
  unconsumed : (server.swept execution.draw).isConsumed cookie = false
  checked : server.checkInitial hello = .ok ()

/-- What becomes of an Initial that passed. -/
inductive Makes (draw : HandshakeDraw) (hello : ClientHello) (self after : ZtEndpoint CC) : Prop
  /-- No connection id was free, or the accept queue was full. -/
  | nothing (same : after = self)
  | connection {accepted : Acceptance} (about : accepted.hello = hello)
      (drawn : self.drawScid draw = some accepted.scid)
      (made : after = (self.install accepted).trySend draw
        (accepted.response self.toEndpointIdentity).1 hello.addr)

/-- What one execution of the handshake does to the endpoint. -/
inductive Handled (execution : Execution) (self after : ZtEndpoint CC) : Prop
  | ignored (same : after = self)
  | retried {hello : ClientHello}
      (read : readInitial execution.packet execution.addr = .ok (some hello))
      (invalid : self.validCookie? hello execution.draw.now = none)
      (answered : after = self.trySend execution.draw
        (self.retryPacket hello execution.draw.now) execution.addr)
  /-- The cookie was consumed before, or a check failed after the sweep. -/
  | refused (dropped : after = self.swept execution.draw)
  | passed {hello : ClientHello} {cookie : Bytes} (passes : self.Passes execution hello cookie)
      (makes : Makes execution.draw hello
        ((self.swept execution.draw).consume cookie execution.draw.now) after)

/-- Making a connection ends in one of these ways. -/
theorem createConnection_makes (self : ZtEndpoint CC) (draw : HandshakeDraw) (hello : ClientHello) :
    Makes draw hello self (exec (createConnection draw hello) self).2 := by
  unfold createConnection
  rw [exec_bind_get]
  split
  · exact .nothing rfl
  · rename_i scid drawn
    split
    · -- The accept queue is full.
      exact .nothing rfl
    · have about : (Acceptance.mk hello scid draw.ephemeralSecret draw.host).hello = hello := rfl
      exact .connection about drawn rfl

/-- The sweep comes first, whatever is decided about the cookie. -/
theorem exec_acceptInitial (self : ZtEndpoint CC) (draw : HandshakeDraw) (hello : ClientHello)
    (cookie : Bytes) :
    exec (acceptInitial draw hello cookie) self =
      exec (do
        let self ← get
        if self.isConsumed cookie then pure ()
        else
          match self.checkInitial hello with
          | .error error => throw error
          | .ok () => do
            modify (consume cookie draw.now)
            createConnection draw hello) (self.swept draw) := by
  unfold acceptInitial swept
  split
  · rfl
  · rfl

omit [Hkdf] [EndpointCrypto] in
/-- The check of an Initial does not look at the filter. -/
theorem checkInitial_swept (self : ZtEndpoint CC) (draw : HandshakeDraw) (hello : ClientHello) :
    (self.swept draw).checkInitial hello = self.checkInitial hello := by
  rw [swept_eq]
  rfl

/-- An Initial that passes has its cookie consumed before the connection is made. -/
theorem Passes.exec_eq {execution : Execution} {hello : ClientHello} {cookie : Bytes}
    (passes : self.Passes execution hello cookie) :
    exec (handleHandshake execution.draw execution.packet execution.addr) self =
      exec (createConnection execution.draw hello)
        ((self.swept execution.draw).consume cookie execution.draw.now) := by
  unfold handleHandshake
  rw [passes.read]
  dsimp only
  rw [exec_bind_get, passes.valid]
  dsimp only
  rw [if_neg (not_not_intro passes.alpn), exec_acceptInitial, exec_bind_get,
    if_neg (by rw [passes.unconsumed]; decide), checkInitial_swept, passes.checked]
  rfl

/-- Every execution does one of these things. -/
theorem handleHandshake_handled (self : ZtEndpoint CC) (execution : Execution) :
    Handled execution self
      (exec (handleHandshake execution.draw execution.packet execution.addr) self).2 := by
  unfold handleHandshake
  split
  · exact .ignored rfl
  · exact .ignored rfl
  · rename_i hello read
    rw [exec_bind_get]
    split
    · rename_i invalid
      exact .retried read invalid rfl
    · rename_i cookie valid
      split
      · exact .ignored rfl
      · rename_i alpn
        rw [exec_acceptInitial, exec_bind_get]
        split
        · exact .refused rfl
        · rename_i unconsumed
          split
          · exact .refused rfl
          · rename_i checked
            rw [exec_bind_modify]
            rw [checkInitial_swept] at checked
            exact .passed ⟨read, valid, not_not.mp alpn, by simpa using unconsumed, checked⟩
              (createConnection_makes _ _ _)

/-- A cookie cannot let anyone in any more. -/
def Spent (self : ZtEndpoint CC) (cookie : Bytes) (now : Nat) : Prop :=
  ∃ mac, cookieMac? cookie = some mac ∧
    Expiry.Spent self.handshakeReplayFilter self.config.cookieMaxAgeMs mac (cookieTime cookie) now

variable {cookie : Bytes} {now : Nat} {execution : Execution}

omit [Hkdf] [HandshakeCrypto] [EndpointCrypto] in
/-- The sweep of an execution forgets no cookie that could still let someone in. -/
theorem Spent.swept {draw : HandshakeDraw} (spent : self.Spent cookie draw.now) :
    (self.swept draw).Spent cookie draw.now := by
  obtain ⟨mac, code, spent⟩ := spent
  unfold ZtEndpoint.swept
  split
  · exact ⟨mac, code, spent.sweep⟩
  · exact ⟨mac, code, spent⟩

omit [Hkdf] [HandshakeCrypto] [EndpointCrypto] in
/-- A spent cookie stays so as long as the filter only grows. -/
theorem Spent.grow (spent : self.Spent cookie now) (config : after.config = self.config)
    (grows : self.handshakeReplayFilter ⊆ after.handshakeReplayFilter) :
    after.Spent cookie now := by
  obtain ⟨mac, code, spent⟩ := spent
  refine ⟨mac, code, ?_⟩
  rw [config]
  exact spent.grow grows

omit [Hkdf] [HandshakeCrypto] [EndpointCrypto] in
/-- Consuming one cookie keeps the others spent. -/
theorem Spent.consume (spent : self.Spent cookie now) (other : Bytes) (stamp : Nat) :
    (self.consume other stamp).Spent cookie now :=
  spent.grow rfl (List.subset_append_left _ _)

omit [Hkdf] [HandshakeCrypto] in
/-- A cookie that is valid for an Initial is in force. -/
theorem validCookie?_inForce {hello : ClientHello}
    (valid : self.validCookie? hello now = some cookie) :
    hello.cookie = some cookie ∧ cookie.length = 40 ∧ cookieTime cookie ≤ now ∧
      now ≤ cookieTime cookie + self.config.cookieMaxAgeMs := by
  obtain ⟨carried, verified⟩ := Option.filter_eq_some_iff.mp valid
  exact ⟨carried, verifyRetryCookie_inForce verified⟩

/-- Making a connection or not leaves the replay filter alone. -/
theorem Makes.filter {draw : HandshakeDraw} {hello : ClientHello} (makes : Makes draw hello self after) :
    after.config = self.config ∧ after.handshakeReplayFilter = self.handshakeReplayFilter := by
  cases makes with
  | nothing same => rw [same]; exact ⟨rfl, rfl⟩
  | connection about drawn made => rw [made, trySend_eq]; exact ⟨rfl, rfl⟩

/-- A cookie that passed is spent from then on. -/
theorem Passes.spent {hello : ClientHello} (passes : self.Passes execution hello cookie) :
    ((self.swept execution.draw).consume cookie execution.draw.now).Spent cookie
      execution.draw.now := by
  -- It is stamped with the present, and was made no later than that.
  obtain ⟨-, length, made, -⟩ := validCookie?_inForce passes.valid
  obtain ⟨mac, code⟩ := cookieMac?_isSome length
  refine ⟨mac, code, ?_⟩
  unfold ZtEndpoint.consume
  rw [code]
  exact Expiry.spent_insert made

/-- A spent cookie does not pass. -/
theorem Spent.not_passes {hello : ClientHello} (spent : self.Spent cookie execution.draw.now) :
    ¬ self.Passes execution hello cookie := by
  intro passes
  obtain ⟨-, -, -, inForce⟩ := validCookie?_inForce passes.valid
  obtain ⟨mac, code, spent⟩ := spent.swept
  -- While the cookie is in force, the filter still holds it after the sweep.
  rw [swept_eq] at spent
  have held := spent.holds inForce
  have consumed : (self.swept execution.draw).isConsumed cookie = true := by
    unfold isConsumed
    rw [code]
    exact held
  rw [passes.unconsumed] at consumed
  cases consumed

/-- A spent cookie stays spent through an execution that comes later. -/
theorem Handled.spent (handled : Handled execution self after) (spent : self.Spent cookie now)
    (later : now ≤ execution.draw.now) : after.Spent cookie execution.draw.now := by
  obtain ⟨mac, code, since⟩ := spent
  have spent : self.Spent cookie execution.draw.now := ⟨mac, code, since.later later⟩
  cases handled with
  | ignored same => rw [same]; exact spent
  | retried read invalid answered =>
    rw [answered, trySend_eq]
    exact spent
  | refused dropped => rw [dropped]; exact spent.swept
  | passed passes makes =>
    obtain ⟨config, filter⟩ := makes.filter
    exact (spent.swept.consume _ _).grow config (by rw [filter]; exact List.Subset.refl _)

/-- An execution that passes spends its cookie. -/
theorem Passes.handled {hello : ClientHello} (passes : self.Passes execution hello cookie) :
    ((exec (handleHandshake execution.draw execution.packet execution.addr) self).2).Spent cookie
      execution.draw.now := by
  rw [passes.exec_eq]
  -- Whether a connection comes of it or not, the filter is left alone.
  have made := createConnection_makes ((self.swept execution.draw).consume cookie
    execution.draw.now) execution.draw hello
  obtain ⟨config, filter⟩ := made.filter
  exact passes.spent.grow config (by rw [filter]; exact List.Subset.refl _)

/-- Executions one after the other. -/
def handshakes (self : ZtEndpoint CC) (executions : List Execution) : ZtEndpoint CC :=
  executions.foldl (fun self execution =>
    (exec (handleHandshake execution.draw execution.packet execution.addr) self).2) self

/-- A spent cookie stays spent through any number of later executions. -/
theorem handshakes_spent {executions : List Execution} (spent : self.Spent cookie now)
    (ordered : executions.Pairwise fun earlier later => earlier.draw.now ≤ later.draw.now)
    {until_ : Nat} (begins : ∀ execution ∈ executions, now ≤ execution.draw.now)
    (ends : ∀ execution ∈ executions, execution.draw.now ≤ until_) (later : now ≤ until_) :
    (self.handshakes executions).Spent cookie until_ := by
  induction executions generalizing self now with
  | nil =>
    obtain ⟨mac, code, since⟩ := spent
    exact ⟨mac, code, since.later later⟩
  | cons execution rest ih =>
    -- Every later execution looks at the clock after this one did.
    obtain ⟨after, ordered⟩ := List.pairwise_cons.mp ordered
    have kept := (self.handleHandshake_handled execution).spent spent
      (begins execution List.mem_cons_self)
    exact ih kept ordered after (fun other member => ends other (List.mem_cons_of_mem _ member))
      (ends execution List.mem_cons_self)

/-- The execution at a position passes with a cookie. -/
def PassesAt (self : ZtEndpoint CC) (executions : List Execution) (index : Nat) (cookie : Bytes) :
    Prop :=
  ∃ execution hello, executions[index]? = some execution ∧
    (self.handshakes (executions.take index)).Passes execution hello cookie

omit [Hkdf] [HandshakeCrypto] [EndpointCrypto] in
/-- A list at one of its positions: what comes before, the entry, and what comes after. -/
theorem split_at {executions : List Execution} {index : Nat} {execution : Execution}
    (here : executions[index]? = some execution) :
    executions = executions.take index ++ execution :: executions.drop (index + 1) := by
  obtain ⟨inside, same⟩ := List.getElem?_eq_some_iff.mp here
  rw [← same, List.getElem_cons_drop, List.take_append_drop]

/-- Retry cookies are single-use, whatever the sweeps forget. -/
theorem cookie_single_use (self : ZtEndpoint CC) (executions : List Execution)
    (ordered : executions.Pairwise fun earlier later => earlier.draw.now ≤ later.draw.now)
    (cookie : Bytes) {first second : Nat} (before : first < second) :
    ¬ (self.PassesAt executions first cookie ∧ self.PassesAt executions second cookie) := by
  rintro ⟨⟨opening, hello, atFirst, passes⟩, ⟨repeated, again, atSecond, passesAgain⟩⟩
  -- The executions before the second are those before the first, the first, and some between.
  have found : (executions.take second)[first]? = some opening := by
    rw [List.getElem?_take_of_lt before, atFirst]
  have earlier := split_at found
  rw [List.take_take, Nat.min_eq_left (Nat.le_of_lt before)] at earlier
  generalize (executions.take second).drop (first + 1) = between at earlier
  -- The clock does not go back, neither between the two nor at the second.
  rw [split_at atSecond, earlier] at ordered
  simp only [List.pairwise_append, List.pairwise_cons, List.mem_append, List.mem_cons] at ordered
  obtain ⟨⟨-, ⟨begins, ordered⟩, -⟩, -, ends⟩ := ordered
  have upTo : ∀ execution, execution = opening ∨ execution ∈ between →
      execution.draw.now ≤ repeated.draw.now :=
    fun execution member => ends execution (.inr member) repeated (.inl rfl)
  -- The first execution spends the cookie, and nothing between the two brings it back.
  have still := handshakes_spent passes.handled ordered begins
    (fun execution member => upTo execution (.inr member)) (upTo opening (.inl rfl))
  rw [earlier] at passesAgain
  unfold handshakes at passesAgain still
  rw [List.foldl_append] at passesAgain
  exact still.not_passes passesAgain

end ZtEndpoint

open Meeting in
/-- A client lets itself in with a cookie, and its datagram is repeated before a sweep. -/
def repeatedInitial : List Execution :=
  [⟨draw 1200 10, initial (some (cookie 1000)) 1, 5⟩,
    ⟨{ draw 1300 10 with sweep := true }, initial (some (cookie 1000)) 1, 5⟩]

open Meeting in
/-- The cookie passes the first time, and for that reason not the second time. -/
theorem cookie_refused_again :
    (ZtEndpoint.bind identity).PassesAt repeatedInitial 0 (cookie 1000) ∧
      ¬ (ZtEndpoint.bind identity).PassesAt repeatedInitial 1 (cookie 1000) := by
  have passes : (ZtEndpoint.bind identity).PassesAt repeatedInitial 0 (cookie 1000) :=
    ⟨_, hello (some (cookie 1000)) 1, rfl, by decide +kernel, by decide +kernel, by decide +kernel,
      by decide +kernel, by decide +kernel⟩
  refine ⟨passes, fun again => ?_⟩
  exact ZtEndpoint.cookie_single_use _ _ (by simp [repeatedInitial, draw]) _ Nat.zero_lt_one
    ⟨passes, again⟩

end Zetta
