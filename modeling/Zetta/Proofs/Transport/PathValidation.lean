import Zetta.Proofs.Transport.Conduct
import Zetta.Transport.Sample

/-! A connection moves to another address only after that address answered its challenge. -/

namespace Zetta
namespace ZtConnectionActor

variable {CC : Type} [Hkdf] [HandshakeCrypto]

/-- A candidate address, its token and the time of its challenge are there together or not at all. -/
structure PathSound (actor : ZtConnectionActor CC) : Prop where
  token : actor.pathValidationToken.isSome = actor.pendingValidationAddr.isSome
  sentAt : actor.pathValidationSentAt.isSome = actor.pendingValidationAddr.isSome
  retries : actor.pathValidationRetries ≤ actor.config.maxPathValidationRetries

/-- What an event can do to the path of an actor. -/
inductive PathStep (event : Event) (self : ZtConnectionActor CC) : PathState → Prop
  | same : PathStep event self self.pathState
  /-- The handshake settles on the address of the server's response. -/
  | settled {packet : Packet} {addr : Address} (packets : event = .incomingPacket packet addr)
      (state : self.state = .handshaking) :
      PathStep event self { self.pathState with addr := addr }
  | challenged {packet : Packet} {addr : Address} {frames : List Frame}
      (packets : event = .incomingPacket packet addr) (opens : self.openedFrames packet = some frames)
      (fresh : self.pendingValidationAddr ≠ some addr) :
      PathStep event self (self.challenged addr)
  | moved {packet : Packet} {addr : Address} {frames : List Frame} {token : PathToken}
      (packets : event = .incomingPacket packet addr) (opens : self.openedFrames packet = some frames)
      (answers : .pathResponse token.val ∈ frames) (awaits : self.Awaits addr token) :
      PathStep event self (.validated addr)
  | repeated {addr : Address} {token : PathToken} (timer : event = .pathValidationTimer)
      (left : self.pathValidationRetries < self.config.maxPathValidationRetries)
      (pending : self.pendingValidationAddr = some addr)
      (expected : self.pathValidationToken = some token) :
      PathStep event self { self.pathState with
        pathValidationRetries := self.pathValidationRetries + 1
        pathValidationSentAt := some self.host.now }
  | abandoned (timer : event = .pathValidationTimer) : PathStep event self (.validated self.addr)

/-- Whatever an event does to an actor, it does to the path in one of these ways. -/
theorem Conducts.path {event : Event} {self after : ZtConnectionActor CC}
    (conducts : Conducts event self after) : PathStep event self after.pathState := by
  -- The cases are those of the event, and each says what became of the path.
  cases conducts with
  | steady steady =>
    rw [steady.path]
    exact .same
  | arrives packets opens arrives =>
    rcases arrives.path with same | ⟨-, fresh, started⟩ | ⟨token, answers, awaits, moved⟩
    · rw [same]
      exact .same
    · rw [started]
      exact .challenged packets opens fresh
    · rw [moved]
      exact .moved packets opens answers awaits
  | completes packets completes rest =>
    obtain ⟨payload, handshake, parameters, secret, -, -, -, -, rfl⟩ := completes.checked
    rw [rest.path]
    exact .settled packets completes.state
  | resends packets kind server kept rest =>
    -- Repeating the response leaves the path alone.
    have same : after.pathState = self.pathState :=
      rest.path.trans (congrArg (·.2.2.1) (self.resent_standing _ _))
    rw [same]
    exact .same
  | opensStream asks admitted opened =>
    rw [opened]
    exact .same
  | adopts sets adopted =>
    rw [adopted]
    exact .same
  | repeats timer left pending expected again =>
    rw [again.path]
    exact .repeated timer left pending expected
  | abandons timer spent abandoned =>
    rw [abandoned]
    exact .abandoned timer

/-- No event changes the configuration. -/
theorem Conducts.config {event : Event} {self after : ZtConnectionActor CC}
    (conducts : Conducts event self after) : after.config = self.config := by
  -- Completing the handshake changes the peer's id and no other part of who the actor is.
  cases conducts with
  | steady steady => exact congrArg Identity.config steady.identity
  | arrives packets opens arrives => exact congrArg Identity.config arrives.identity
  | completes packets completes rest =>
    obtain ⟨payload, handshake, parameters, secret, -, -, -, -, rfl⟩ := completes.checked
    exact congrArg Identity.config rest.identity
  | resends packets kind server kept rest =>
    exact (congrArg Identity.config rest.identity).trans
      (congrArg (·.1.config) (self.resent_standing _ _))
  | opensStream asks admitted opened => rw [opened]; rfl
  | adopts sets adopted => rw [adopted]
  | repeats timer left pending expected again => exact congrArg Identity.config again.identity
  | abandons timer spent abandoned => rw [abandoned]

omit [Hkdf] [HandshakeCrypto] in
/-- Soundness of the path is a matter of the path and the limit on retries. -/
theorem pathSound_iff (self : ZtConnectionActor CC) (path : PathState) (same : self.pathState = path)
    (limit : Nat) (config : self.config.maxPathValidationRetries = limit) :
    self.PathSound ↔ path.pathValidationToken.isSome = path.pendingValidationAddr.isSome ∧
      path.pathValidationSentAt.isSome = path.pendingValidationAddr.isSome ∧
      path.pathValidationRetries ≤ limit := by
  subst same config
  exact ⟨fun sound => ⟨sound.token, sound.sentAt, sound.retries⟩,
    fun ⟨token, sentAt, retries⟩ => ⟨token, sentAt, retries⟩⟩

/-- Every event keeps the parts of a validation together and its retries within their limit. -/
theorem Conducts.pathSound {event : Event} {self after : ZtConnectionActor CC}
    (conducts : Conducts event self after) (sound : self.PathSound) : after.PathSound := by
  have step := conducts.path
  rw [pathSound_iff after _ rfl _ (congrArg ZtConfig.maxPathValidationRetries conducts.config)]
  generalize after.pathState = path at step
  cases step with
  | same => exact ⟨sound.token, sound.sentAt, sound.retries⟩
  | settled packets state => exact ⟨sound.token, sound.sentAt, sound.retries⟩
  | challenged packets opens fresh => exact ⟨rfl, rfl, Nat.zero_le _⟩
  | moved packets opens answers awaits => exact ⟨rfl, rfl, Nat.zero_le _⟩
  | repeated timer left pending expected =>
    -- Both the candidate and its token are there, and one more retry is within the limit.
    refine ⟨sound.token, ?_, left⟩
    show true = self.pendingValidationAddr.isSome
    rw [pending]
    rfl
  | abandoned timer => exact ⟨rfl, rfl, Nat.zero_le _⟩

variable [CongestionController CC]

/-- A turn of the event loop keeps the parts of a validation together. -/
theorem step_pathSound (self : ZtConnectionActor CC) (sound : self.PathSound) (event : Event)
    (host : Host) : (self.step event host).PathSound := by
  rcases self.step_conducts event host with steady | conducts
  · rw [pathSound_iff _ _ steady.path _ (congrArg (·.config.maxPathValidationRetries) steady.identity)]
    exact ⟨sound.token, sound.sentAt, sound.retries⟩
  · exact conducts.pathSound ⟨sound.token, sound.sentAt, sound.retries⟩

/-- So do all the turns of a run. -/
theorem turns_pathSound (history : List (Event × Host)) (self : ZtConnectionActor CC)
    (sound : self.PathSound) : (self.turns history).PathSound := by
  -- The induction is on the turns left.
  induction history generalizing self with
  | nil => exact sound
  | cons turn rest ih => exact ih _ (step_pathSound self sound turn.1 turn.2)

/-- One more turn at the end of a run. -/
theorem turns_concat (self : ZtConnectionActor CC) (history : List (Event × Host))
    (turn : Event × Host) :
    self.turns (history ++ [turn]) = (self.turns history).step turn.1 turn.2 := by
  unfold turns
  rw [List.foldl_append]
  rfl

/--
A run in which a packet from an address started its validation with a token made up in that turn,
which has been waited for ever since.
-/
structure Validating (origin : ZtConnectionActor CC) (history : List (Event × Host))
    (addr : Address) (token : PathToken) : Prop where
  started : ∃ past packet host rest,
    history = past ++ (.incomingPacket packet addr, host) :: rest ∧
    (origin.turns past).pendingValidationAddr ≠ some addr ∧
    ((origin.turns past).openedFrames packet).isSome ∧ token = host.challenge ∧
    ∀ since, since <+: rest →
      (origin.turns (past ++ (.incomingPacket packet addr, host) :: since)).pendingValidationAddr =
          some addr ∧
        (origin.turns (past ++ (.incomingPacket packet addr, host) :: since)).pathValidationToken =
          some token

/-- A validation that is under way after a turn was so before, or was started in that turn. -/
theorem step_awaiting (self : ZtConnectionActor CC) (event : Event) (host : Host) {addr : Address}
    {token : PathToken} (pending : (self.step event host).pendingValidationAddr = some addr)
    (expected : (self.step event host).pathValidationToken = some token) :
    (self.pendingValidationAddr = some addr ∧ self.pathValidationToken = some token) ∨
      ∃ packet, event = .incomingPacket packet addr ∧ self.pendingValidationAddr ≠ some addr ∧
        (self.openedFrames packet).isSome ∧ token = host.challenge := by
  -- Both facts are read off the path after the turn.
  have candidates : (self.step event host).pathState.pendingValidationAddr = some addr := pending
  have tokens : (self.step event host).pathState.pathValidationToken = some token := expected
  rcases self.step_conducts event host with steady | conducts
  · rw [steady.path] at candidates tokens
    exact .inl ⟨candidates, tokens⟩
  · have step := conducts.path
    generalize (self.step event host).pathState = path at step candidates tokens
    cases step with
    | same => exact .inl ⟨candidates, tokens⟩
    | settled packets state => exact .inl ⟨candidates, tokens⟩
    | challenged packets opens fresh =>
      cases candidates
      cases tokens
      rw [openedFrames_hosted] at opens
      exact .inr ⟨_, packets, fresh, by rw [opens]; rfl, rfl⟩
    | moved packets opens answers awaits => cases candidates
    | repeated timer left waiting awaited => exact .inl ⟨candidates, tokens⟩
    | abandoned timer => cases candidates

/-- A validation that is under way was started by a packet from its address. -/
theorem validating_of_pending {origin : ZtConnectionActor CC}
    (quiet : origin.pendingValidationAddr = none) (history : List (Event × Host)) {addr : Address}
    {token : PathToken} (pending : (origin.turns history).pendingValidationAddr = some addr)
    (expected : (origin.turns history).pathValidationToken = some token) :
    Validating origin history addr token := by
  -- The induction is on the history, from its last turn back to its first.
  induction history using List.reverseRecOn with
  | nil =>
    rw [show origin.turns [] = origin from rfl, quiet] at pending
    cases pending
  | append_singleton history turn ih =>
    rw [turns_concat] at pending expected
    rcases (origin.turns history).step_awaiting turn.1 turn.2 pending expected with
      ⟨before, awaited⟩ | ⟨packet, packets, fresh, opens, made⟩
    · -- It was under way before this turn, and still is.
      obtain ⟨past, packet, host, rest, split, fresh, opens, made, since⟩ := (ih before awaited).started
      refine ⟨past, packet, host, rest ++ [turn], by rw [split, List.append_assoc]; rfl, fresh, opens,
        made, fun later shorter => ?_⟩
      rcases List.prefix_concat_iff.mp shorter with whole | earlier
      · have again : past ++ (Event.incomingPacket packet addr, host) :: later = history ++ [turn] := by
          rw [whole, split, List.append_assoc]
          rfl
        rw [again, turns_concat]
        exact ⟨pending, expected⟩
      · exact since later earlier
    · -- It was started in this very turn.
      obtain ⟨event, host⟩ := turn
      subst packets
      refine ⟨history, packet, host, [], rfl, fresh, opens, made, fun later shorter => ?_⟩
      rw [List.prefix_nil.mp shorter, turns_concat]
      exact ⟨pending, expected⟩

/--
A connection that has left the handshake moves to another address only with a packet that opens,
comes from there and answers the challenge made up when the validation of that address started.

No candidate is ever without its token, and a challenge is repeated within its limit.
-/
theorem migration_validated {origin : ZtConnectionActor CC}
    (quiet : origin.pathState = .validated origin.addr) (history : List (Event × Host))
    (event : Event) (host : Host) :
    ((origin.turns history).state ≠ .handshaking →
      ((origin.turns history).step event host).addr ≠ (origin.turns history).addr →
      ∃ packet addr frames token, event = .incomingPacket packet addr ∧
        (origin.turns history).openedFrames packet = some frames ∧
        .pathResponse token.val ∈ frames ∧
        ((origin.turns history).step event host).addr = addr ∧
        (Validating origin history addr token ∨
          (origin.turns history).pendingValidationAddr ≠ some addr ∧ token = host.challenge)) ∧
      ((origin.turns history).step event host).PathSound ∧
      ∀ (self : ZtConnectionActor CC) (frame : Frame) (toAddr : Address),
        (Program.exec (sendFrameImmediate frame toAddr) self).2.addr = self.addr := by
  have candidate : origin.pendingValidationAddr = none :=
    congrArg PathState.pendingValidationAddr quiet
  refine ⟨fun active elsewhere => ?_, ?_, fun self frame toAddr => ?_⟩
  · generalize reached : origin.turns history = self at active elsewhere ⊢
    -- Only an answer to a challenge changes the address of an active connection.
    have changed : (self.step event host).pathState.addr ≠ self.addr := elsewhere
    show ∃ packet addr frames token, _ ∧ _ ∧ _ ∧ (self.step event host).pathState.addr = addr ∧ _
    rcases self.step_conducts event host with steady | conducts
    · rw [steady.path] at changed
      exact absurd rfl changed
    · have step := conducts.path
      generalize (self.step event host).pathState = path at step changed ⊢
      cases step with
      | same => exact absurd rfl changed
      | settled packets state => exact absurd state active
      | challenged packets opens fresh => exact absurd rfl changed
      | moved packets opens answers awaits =>
        rename_i packet addr frames token
        rw [openedFrames_hosted] at opens
        refine ⟨packet, addr, frames, token, packets, opens, answers, rfl, ?_⟩
        rcases awaits with ⟨pending, expected⟩ | ⟨-, fresh, made⟩
        · refine .inl (validating_of_pending candidate history ?_ ?_)
          · rw [reached]
            exact pending
          · rw [reached]
            exact expected
        · exact .inr ⟨fresh, made⟩
      | repeated timer left waiting awaited => exact absurd rfl changed
      | abandoned timer => exact absurd rfl changed
  · refine step_pathSound _ (turns_pathSound history origin ?_) event host
    rw [pathSound_iff origin _ quiet _ rfl]
    exact ⟨rfl, rfl, Nat.zero_le _⟩
  · exact congrArg PathState.addr (sendFrameImmediate_steady self frame toAddr).path

end ZtConnectionActor

namespace Sample

/-- A packet from the server of a sample pair, with one frame. -/
def fromServer (number : Nat) (frame : Frame) : Packet :=
  ZtConnectionActor.sealedPacket ((CryptoContext.withSecret [] false).applyEpochKeys 0)
    ⟨.data, false, 0, [1], [], number, false, 1⟩ frame.encode

/-- The server is heard from a new address. -/
def heardElsewhere : List (Event × Host) :=
  [(.incomingPacket (fromServer 0 .ping) 7, hostTaking 5)]

/-- The server answers the challenge from there. -/
def answersElsewhere : Event := .incomingPacket (fromServer 1 (.pathResponse (beBytes 8 0))) 7

end Sample

open Sample in
/-- A server that answers from a new address is followed there, and its answer was asked for. -/
theorem migration_followed :
    (((endpoint (config 2 10) true).turns heardElsewhere).step answersElsewhere (hostTaking 5)).addr = 7 ∧
      ∃ packet addr frames token, answersElsewhere = .incomingPacket packet addr ∧
        ((endpoint (config 2 10) true).turns heardElsewhere).openedFrames packet = some frames ∧
        .pathResponse token.val ∈ frames ∧
        (((endpoint (config 2 10) true).turns heardElsewhere).step answersElsewhere
          (hostTaking 5)).addr = addr ∧
        (ZtConnectionActor.Validating (endpoint (config 2 10) true) heardElsewhere addr token ∨
          ((endpoint (config 2 10) true).turns heardElsewhere).pendingValidationAddr ≠ some addr ∧
            token = (hostTaking 5).challenge) :=
  ⟨by decide +kernel, (ZtConnectionActor.migration_validated rfl heardElsewhere answersElsewhere
    (hostTaking 5)).1 (by decide +kernel) (by decide +kernel)⟩

end Zetta
