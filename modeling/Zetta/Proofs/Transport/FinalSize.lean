import Zetta.Proofs.Transport.Delivery
import Zetta.Proofs.Transport.Eliciting

/-! The final sizes announced for a stream, and when they are all what was accepted on it. -/

namespace Zetta

section Steps

variable {id : Nat} {before after : Session}

/-- Effects that announce no end of a stream leave its final sizes alone. -/
theorem finalSizes_silent {more : List Effect} (log : after.log = before.log ++ more)
    (silent : ∀ effect ∈ more, effect.finalSize? id = none) :
    after.finalSizes id = before.finalSizes id := by
  have none : more.filterMap (Effect.finalSize? id) = [] := List.filterMap_eq_nil_iff.mpr silent
  simp only [Session.finalSizes, log, List.filterMap_append, none, List.append_nil]

/-- No step of a stream announces its end. -/
theorem StreamStep.endless {heard : SentRecord → Prop} {owner : Nat} {stream next : StreamState}
    {effects : List Effect} (step : StreamStep heard owner stream next effects) (id : Nat)
    (effect : Effect) (member : effect ∈ effects) : effect.finalSize? id = none := by
  cases step with
  | accept data =>
    cases List.mem_singleton.mp member
    rfl
  | forward prepared =>
    -- A report and chunks of data are no announcements.
    rcases List.mem_cons.mp member with rfl | chunk
    · rfl
    · obtain ⟨bytes, -, rfl⟩ := List.mem_map.mp chunk
      rfl
  | limit | raise | bookkeeping | grow => cases member

variable [Hkdf] {env : Environment}

/--
What one step adds to the final sizes of a stream: nothing, or the size of the stream as it is,
when the application asked for its end.
-/
theorem CoreStep.finalSizes (step : CoreStep env before after) (id : Nat) :
    after.finalSizes id = before.finalSizes id ∨
      (after.finalSizes id = before.finalSizes id ++ [before.finalSize id] ∧
        after.acceptedBytes id = before.acceptedBytes id ∧ env.allowed before (.finish id)) := by
  cases step with
  | send step =>
    obtain ⟨more, grown, sends⟩ := step.sentOnly.log
    refine .inl (finalSizes_silent grown fun effect member => ?_)
    cases sends effect member <;> rfl
  | issue payload issuable =>
    -- Only the two payloads that end a stream count, and only for their own stream.
    cases payload with
    | streamClose owner size =>
      by_cases same : owner = id
      · subst same
        obtain ⟨-, rfl, asked⟩ := issuable
        exact .inr ⟨by simp [Session.finalSizes, Effect.finalSize?],
          by simp [Session.acceptedBytes, Effect.accepted], asked⟩
      · exact .inl (finalSizes_silent rfl (by simp [Effect.finalSize?, same]))
    | resetStream owner errorCode size =>
      by_cases same : owner = id
      · subst same
        obtain ⟨-, -, rfl, asked⟩ := issuable
        exact .inr ⟨by simp [Session.finalSizes, Effect.finalSize?],
          by simp [Session.acceptedBytes, Effect.accepted], asked⟩
      · exact .inl (finalSizes_silent rfl (by simp [Effect.finalSize?, same]))
    | _ => exact .inl (finalSizes_silent rfl (by simp [Effect.finalSize?]))
  | remove found removal =>
    refine .inl (finalSizes_silent rfl fun effect member => ?_)
    cases List.mem_singleton.mp member
    cases removal <;> rfl
  | stream found step reads writes credit => exact .inl (finalSizes_silent rfl (step.endless id))
  | openLocal | openPeer | handled =>
    exact .inl (finalSizes_silent rfl (by simp [Effect.finalSize?]))
  | setState | follow | mark | credit => exact .inl rfl

omit [Hkdf] in
/-- Data of a stream is accepted only by a write, which announces nothing. -/
theorem StreamChange.accepts (change : StreamChange env id before after) (sound : before.Sound) :
    after.acceptedBytes id = before.acceptedBytes id ∨
      (env.allowed before (.write id) ∧ after.finalSizes id = before.finalSizes id) := by
  cases change with
  | untouched more log quiet same => exact .inl (history_quiet log quiet).1
  | opened streamType now more log quiet absent stored cause => exact .inl (history_opened log quiet).1
  | removed more log quiet absent cause => exact .inl (history_quiet log quiet).1
  | stepped stream next effects log found stored step reads writes =>
    have grown : after.acceptedBytes id =
        before.acceptedBytes id ++ effects.flatMap (Effect.accepted id) := by
      simp only [Session.acceptedBytes, log, List.flatMap_append]
    -- A step of this stream accepts data, or nothing at all.
    rcases step.sending (sound.streams id stream found).2 with ⟨data, -, rfl⟩ | ⟨-, none, -⟩
    · exact .inr ⟨writes _ List.mem_cons_self, finalSizes_silent log (step.endless id)⟩
    · left
      rw [grown, none, List.append_nil]

end Steps

section Sender

variable {id : Nat} {before after : Session} {env : Environment}

/-- The data of a stream lies within what was accepted, however often the stream was opened. -/
structure Session.Within (session : Session) (id : Nat) : Prop where
  next : ∀ stream, session.streams.find? id = some stream →
    stream.nextTxOffset ≤ (session.acceptedBytes id).length
  pieces : ∀ streamType offset data, .issued (.stream id streamType offset data) ∈ session.log →
    offset + data.length ≤ (session.acceptedBytes id).length

/-- Pieces stay inside while no data of the stream is issued. -/
theorem Session.Within.pieces_silent (within : before.Within id) {more : List Effect}
    (log : after.log = before.log ++ more)
    (silent : ∀ streamType offset data, .issued (.stream id streamType offset data) ∉ more)
    (accepted : after.acceptedBytes id = before.acceptedBytes id) (streamType : StreamType)
    (offset : Nat) (data : Bytes) (member : .issued (.stream id streamType offset data) ∈ after.log) :
    offset + data.length ≤ (after.acceptedBytes id).length := by
  rw [accepted]
  rw [log] at member
  rcases List.mem_append.mp member with old | new
  · exact within.pieces streamType offset data old
  · exact absurd new (silent streamType offset data)

/-- Every step keeps the data of a stream within what was accepted. -/
theorem StreamChange.within (change : StreamChange env id before after) (sound : before.Sound)
    (within : before.Within id) : after.Within id := by
  cases change with
  | untouched more log quiet same =>
    have accepted := (history_quiet log quiet).1
    refine ⟨?_, within.pieces_silent log (fun streamType offset data member =>
      (quiet _ member).unissued streamType offset data rfl) accepted⟩
    rw [same, accepted]
    exact within.next
  | opened streamType now more log quiet absent stored cause =>
    refine ⟨fun stream found => ?_, ?_⟩
    · -- A new stream starts at offset zero.
      rw [stored] at found
      cases found
      exact Nat.zero_le _
    · refine within.pieces_silent log (fun pieceType offset data member => ?_)
        (history_opened log quiet).1
      rcases List.mem_cons.mp member with same | later
      · cases same
      · exact (quiet _ later).unissued pieceType offset data rfl
  | removed more log quiet absent cause =>
    refine ⟨fun stream found => ?_, within.pieces_silent log (fun streamType offset data member =>
      (quiet _ member).unissued streamType offset data rfl) (history_quiet log quiet).1⟩
    rw [absent] at found
    cases found
  | stepped stream next effects log found stored step reads writes =>
    have position := within.next stream found
    have grown : after.acceptedBytes id =
        before.acceptedBytes id ++ effects.flatMap (Effect.accepted id) := by
      simp only [Session.acceptedBytes, log, List.flatMap_append]
    rcases step.sending (sound.streams id stream found).2 with ⟨data, moved, rfl⟩ | ⟨kept, none, silent⟩
    · -- The data takes offsets that end where the accepted data does, at the latest.
      have added : [Effect.issued (.stream id stream.streamType stream.nextTxOffset data)].flatMap
          (Effect.accepted id) = data := by simp [Effect.accepted]
      rw [added] at grown
      refine ⟨fun current held => ?_, fun pieceType offset piece member => ?_⟩
      · rw [stored] at held
        cases held
        rw [moved, grown, List.length_append]
        omega
      · rw [grown, List.length_append]
        rw [log] at member
        rcases List.mem_append.mp member with old | new
        · have inside := within.pieces pieceType offset piece old
          omega
        · cases List.mem_singleton.mp new
          omega
    · rw [none, List.append_nil] at grown
      refine ⟨fun current held => ?_, within.pieces_silent log (fun _ _ _ => silent _) grown⟩
      rw [stored] at held
      cases held
      rw [kept, grown]
      exact position

/-- Every end announced for a stream carries what was accepted on it. -/
def Session.Agreed (session : Session) (id : Nat) : Prop :=
  ∀ size ∈ session.finalSizes id, size = (session.acceptedBytes id).length

/-- The stream still shows all that was accepted for its id, or nothing was. -/
def Session.Unended (session : Session) (id : Nat) : Prop :=
  session.acceptedBytes id = [] ∨ (session.streams.contains id = true ∧ session.createdCount id ≤ 1)

/-- Then its size is what was accepted. -/
theorem Session.Unended.finalSize {session : Session} (unended : session.Unended id)
    (within : session.Within id) (placed : session.createdCount id ≤ 1 → session.Placed id) :
    session.finalSize id = (session.acceptedBytes id).length := by
  unfold Session.finalSize
  cases found : session.streams.find? id with
  | none =>
    rcases unended with empty | ⟨known, -⟩
    · rw [empty]
      rfl
    · simp [SortedMap.contains, found] at known
  | some stream =>
    show stream.nextTxOffset = _
    rcases unended with empty | ⟨-, once⟩
    · have position := within.next stream found
      rw [empty] at position ⊢
      exact Nat.le_zero.mp position
    · exact (placed once).next stream found

/-- What the application may ask for if all final sizes are to agree. -/
def Session.MayAsk (session : Session) : Request → Prop
  | .finish id => session.Unended id
  | .write id => session.finalSizes id = []
  | .read .. => True

/-- A step keeps the final sizes in agreement when the application asks for no more than it may. -/
theorem CoreStep.agreed [Hkdf] {heard : SentRecord → Prop} {acting : Prop}
    (step : CoreStep ⟨heard, Session.MayAsk, acting⟩ before after) (sound : before.Sound)
    (within : before.Within id) (placed : before.createdCount id ≤ 1 → before.Placed id)
    (agreed : before.Agreed id) : after.Agreed id := by
  intro size member
  rcases step.finalSizes id with same | ⟨grown, accepted, asked⟩
  · rw [same] at member
    rcases (step.change id).accepts sound with kept | ⟨asked, -⟩
    · rw [kept]
      exact agreed size member
    · -- Data was written, so no end had been announced.
      have none : before.finalSizes id = [] := asked
      rw [none] at member
      cases member
  · rw [accepted]
    rw [grown] at member
    rcases List.mem_append.mp member with old | new
    · exact agreed size old
    · rw [List.mem_singleton.mp new]
      exact Session.Unended.finalSize asked within placed

end Sender

section Receiver

variable {id : Nat} {before after peer : Session} {allowed : Session → Request → Prop}

/-- The end of a stream a peer's packets carry is one it announced. -/
theorem heard_close (sound : peer.Sound) {size : Nat}
    (heard : HeardFrame (peer.environment allowed).heard (.streamClose id size)) :
    size ∈ peer.finalSizes id := by
  obtain ⟨source, sendable, same⟩ := heard.carried sound
  rcases sendable with ⟨payload, headerLen, issued, rfl⟩ | control
  · cases payload <;> cases same
    exact List.mem_filterMap.mpr ⟨_, issued, by simp [Effect.finalSize?]⟩
  · cases source with
    | streamClose => exact control.elim
    | _ => cases same

/-- A reset a peer's packets carry is one it announced, up to what the wire can hold. -/
theorem heard_reset (sound : peer.Sound) {errorCode size : Nat}
    (heard : HeardFrame (peer.environment allowed).heard (.resetStream id errorCode size)) :
    ∃ full ∈ peer.finalSizes id, size = full % 2 ^ 62 := by
  obtain ⟨source, sendable, same⟩ := heard.carried sound
  rcases sendable with ⟨payload, headerLen, issued, rfl⟩ | control
  · cases payload <;> cases same
    exact ⟨_, List.mem_filterMap.mpr ⟨_, issued, by simp [Effect.finalSize?]⟩, rfl⟩
  · cases source with
    | resetStream => exact control.elim
    | _ => cases same

/-- What a step of a stream does to the receiver's idea of its end. -/
theorem StreamStep.ending {heard : SentRecord → Prop} {stream next : StreamState}
    {effects : List Effect} (step : StreamStep heard id stream next effects) (sound : stream.Sound) :
    (next.highestRxOffset = stream.highestRxOffset ∨ ∃ streamType offset data,
        HeardFrame heard (.stream id streamType offset data) ∧
          next.highestRxOffset = max stream.highestRxOffset (offset + data.length)) ∧
      (next.finalRxOffset = stream.finalRxOffset ∨ ∃ size,
        HeardFrame heard (.streamClose id size) ∧ next.finalRxOffset = some size) := by
  cases step with
  | raise frame => exact ⟨.inr ⟨_, _, _, frame, rfl⟩, .inl rfl⟩
  | @forward base bytesRead prepared =>
    -- The round itself changes neither, only what came before it may.
    have rest := (StreamState.pumpAll_forwarded (prepared.sound sound).buffer).rest
    have ends : base.pumpAll.2.finish.highestRxOffset = base.highestRxOffset ∧
        base.pumpAll.2.finish.finalRxOffset = base.finalRxOffset := by
      rw [StreamState.finish_eq, rest]
      exact ⟨rfl, rfl⟩
    rw [ends.1, ends.2]
    cases prepared with
    | wrote frame accepted => exact ⟨.inl rfl, .inl rfl⟩
    | concluded frame above same => exact ⟨.inl rfl, .inr ⟨_, frame, rfl⟩⟩
    | consumed => exact ⟨.inl rfl, .inl rfl⟩
  | bookkeeping kept =>
    rw [kept.rest]
    exact ⟨.inl rfl, .inl rfl⟩
  | accept | limit | grow => exact ⟨.inl rfl, .inl rfl⟩

/-- What a receiver knows of a stream's end is what its sender did. -/
structure Session.Expects (receiver sender : Session) (id : Nat) : Prop where
  highest : ∀ stream, receiver.streams.find? id = some stream →
    stream.highestRxOffset ≤ (sender.acceptedBytes id).length
  final : ∀ stream size, receiver.streams.find? id = some stream →
    stream.finalRxOffset = some size → size ∈ sender.finalSizes id

/-- A step of the receiver learns no more than the sender did. -/
theorem Session.Expects.receive [Hkdf] (expects : before.Expects peer id) (sound : before.Sound)
    (peerSound : peer.Sound) (within : peer.Within id)
    (step : CoreStep (peer.environment allowed) before after) : after.Expects peer id := by
  cases step.change id with
  | untouched more log quiet same =>
    refine ⟨?_, ?_⟩
    · rw [same]
      exact expects.highest
    · rw [same]
      exact expects.final
  | opened streamType now more log quiet absent stored cause =>
    refine ⟨fun stream found => ?_, fun stream size found final => ?_⟩
    · rw [stored] at found
      cases found
      exact Nat.zero_le _
    · rw [stored] at found
      cases found
      cases final
  | removed more log quiet absent cause =>
    exact ⟨fun stream found => absurd found (by simp [absent]),
      fun stream size found => absurd found (by simp [absent])⟩
  | stepped stream next effects log found stored step reads writes =>
    obtain ⟨highest, final⟩ := step.ending (sound.streams id stream found).2
    refine ⟨fun current held => ?_, fun current size held known => ?_⟩
    · rw [stored] at held
      cases held
      have bound := expects.highest stream found
      rcases highest with kept | ⟨streamType, offset, data, heard, raised⟩
      · rw [kept]
        exact bound
      · -- The data was issued, so it ends within what was accepted.
        obtain ⟨sentType, issued⟩ := heard_issued peerSound heard
        have inside := within.pieces sentType offset data issued
        rw [raised]
        omega
    · rw [stored] at held
      cases held
      rcases final with kept | ⟨size', heard, concluded⟩
      · exact expects.final stream size found (kept ▸ known)
      · rw [concluded] at known
        cases known
        exact heard_close peerSound heard

/-- A step of the sender only adds to what it did. -/
theorem Session.Expects.send [Hkdf] {receiver : Session} {env : Environment}
    (expects : receiver.Expects before id) (step : CoreStep env before after) :
    receiver.Expects after id := by
  obtain ⟨more, grown⟩ := (step.change id).accepted_grows
  refine ⟨fun stream found => ?_, fun stream size found known => ?_⟩
  · have bound := expects.highest stream found
    rw [← grown, List.length_append]
    omega
  · have announced := expects.final stream size found known
    rcases step.finalSizes id with same | ⟨longer, -⟩
    · rw [same]
      exact announced
    · rw [longer]
      exact List.mem_append_left _ announced

end Receiver

/-- What a stream's sender announced, and what its receiver knows of it. -/
structure Session.Concludes (id : Nat) (receiver sender : Session) : Prop where
  within : sender.Within id
  placed : sender.createdCount id ≤ 1 → sender.Placed id
  agreed : sender.Agreed id
  expects : receiver.Expects sender id

/-- Nothing is announced by the handshake. -/
theorem Session.Fresh.finalSizes {fresh : Session} (start : fresh.Fresh) (id : Nat) :
    fresh.finalSizes id = [] := by
  refine List.filterMap_eq_nil_iff.mpr fun effect member => ?_
  rcases start.log effect member with ⟨cookie, rfl⟩ | ⟨record, rfl, -⟩ <;> rfl

/-- The stream an event closes or resets. -/
def Event.finishes? : Event → Option Nat
  | closeStream streamId | resetStream streamId _ => some streamId.toNat
  | _ => none

namespace ZtConnectionActor

open Program

variable {CC : Type} [Hkdf] [HandshakeCrypto] [CongestionController CC]

/-- Closing or resetting a stream announces its size as the table has it. -/
theorem handleEvent_announces {self : ZtConnectionActor CC} (sound : self.Sound) {event : Event}
    {id : Nat} (finishes : event.finishes? = some id) :
    self.finalSize id ∈ (exec (handleEvent event) self).2.finalSizes id := by
  -- The payload is issued first, and what follows only adds to the history.
  have issues : ∀ (handler : Act CC Unit) (payload : UnackedPayload),
      exec handler self = exec (sendPayload payload) self →
      (Effect.issued payload).finalSize? id = some (self.finalSize id) →
      Issuable (fun _ => True) self.toSession payload →
      self.finalSize id ∈ (exec (do logged handler; modify (removeStream id); resetPacing)
        self).2.finalSizes id := by
    intro handler payload same announced issuable
    have noted : Moves ⟨fun _ => False, fun _ _ => True, True⟩ self (self.note (.issued payload)) :=
      .single (.issue payload issuable) rfl
    have notedSound := noted.sound sound
    have sent : Moves ⟨fun _ => False, fun _ _ => True, True⟩ (self.note (.issued payload))
        (exec (sendPayload payload) self).2 :=
      .of_sends (retransmitPayload_sends notedSound (List.mem_append_right _ List.mem_cons_self) 0)
    have paced := ((sent.trans (removeStream_moves _ trivial id)).paced notedSound).log_grows
    rw [exec_bind_logged, exec_bind_modify, same]
    refine List.mem_filterMap.mpr ⟨.issued payload, ?_, announced⟩
    exact paced.subset (List.mem_append_right _ List.mem_cons_self)
  cases event with
  | closeStream streamId =>
    cases finishes
    refine issues (sendStreamClose streamId.toNat) (.streamClose streamId.toNat _) ?_ ?_
      ⟨streamId.toNat_lt, rfl, trivial⟩
    · unfold sendStreamClose
      rw [exec_bind_get]
    · simp [Effect.finalSize?]
  | resetStream streamId errorCode =>
    cases finishes
    refine issues (ZtConnectionActor.resetStream streamId.toNat errorCode.toNat)
      (.resetStream streamId.toNat errorCode.toNat _) ?_ ?_
      ⟨streamId.toNat_lt, errorCode.toNat_lt, rfl, trivial⟩
    · unfold ZtConnectionActor.resetStream
      rw [exec_bind_get]
    · simp [Effect.finalSize?]
  | _ => cases finishes

omit [CongestionController CC] in
/-- An end that fits what is known of the stream is taken without an error. -/
theorem handleStreamClose_consistent {self : ZtConnectionActor CC} {id size : Nat}
    (fits : ∀ stream, self.streams.find? id = some stream → stream.highestRxOffset ≤ size ∧
      ∀ existing, stream.finalRxOffset = some existing → existing = size) :
    (exec (handleStreamClose id size) self).1 = .ok () := by
  unfold handleStreamClose
  rw [exec_bind_get]
  cases found : self.streams.find? id with
  | none => rfl
  | some stream =>
    obtain ⟨above, same⟩ := fits stream found
    have consistent : ¬(size < stream.highestRxOffset ∨
        stream.finalRxOffset.any (fun existing => existing ≠ size)) := by
      rintro (below | other)
      · omega
      · cases known : stream.finalRxOffset with
        | none => simp [known] at other
        | some existing => simp [known, same existing known] at other
    dsimp only
    rw [if_neg consistent, exec_bind_set]
    exact (forwardStreamData_quiet _ id).1

omit [Hkdf] [CongestionController CC] in
/-- So is a reset. -/
theorem handleResetStream_consistent [Hkdf] {self : ZtConnectionActor CC} {id size : Nat}
    (fits : ∀ stream, self.streams.find? id = some stream → stream.highestRxOffset ≤ size) :
    (exec (handleResetStream id size) self).1 = .ok () := by
  unfold handleResetStream
  rw [exec_bind_get]
  cases found : self.streams.find? id with
  | none => rfl
  | some stream =>
    have above := fits stream found
    dsimp only
    rw [if_neg (by omega)]
    rfl

end ZtConnectionActor

namespace System

section Ends

variable {CC : Type} [Hkdf] [HandshakeCrypto] [CongestionController CC]

/--
No stream is ended after it left the table with data accepted, and none is written to after its end
was announced.
-/
def Announces (system : System CC) : Move → Prop
  | .act side (.closeStream streamId) _ => (system.actor side).Unended streamId.toNat
  | .act side (.resetStream streamId _) _ => (system.actor side).Unended streamId.toNat
  | .act side (.outgoingData streamId _) _ =>
    (system.actor side).streams.contains streamId.toNat = true →
      (system.actor side).finalSizes streamId.toNat = []
  | _ => True

omit [Hkdf] [HandshakeCrypto] [CongestionController CC] in
/-- Such a request is one the application may make. -/
theorem Announces.permits {system : System CC} {move : Move} (announces : system.Announces move) :
    system.Permits Session.MayAsk move := by
  cases move with
  | act side event host =>
    cases event with
    | closeStream | resetStream | outgoingData => exact announces
    | streamDataRead => exact .inr trivial
    | _ => trivial
  | deliver => trivial

/-- In every such run the announcements of a stream and the receiver's idea of them hold together. -/
theorem ReachableWhile.concludes {master : Bytes} {system : System CC}
    (reached : ReachableWhile master Announces system) (side : Side) (id : Nat) :
    Session.Concludes id (system.actor side.peer).toSession (system.actor side).toSession := by
  have holds := @ReachableWhile.invariant CC _ _ _ master Announces system Session.MayAsk
    (Session.Concludes id) (fun _ _ => Announces.permits) ?_ ?_ ?_ reached side.peer
  · rw [Side.peer_peer] at holds
    exact holds
  · -- After the handshake nothing was issued, and no stream is known.
    intro start connected side
    have sender := connected.fresh side.peer
    refine ⟨⟨?_, ?_⟩, fun _ => sender.placed id, ?_, ?_⟩
    · exact fun stream found => absurd found (sender.absent id stream)
    · exact fun streamType offset data member =>
        absurd rfl ((sender.quiet id _ member).unissued streamType offset data)
    · intro size member
      rw [sender.finalSizes id] at member
      cases member
    · exact ⟨fun stream found => absurd found ((connected.fresh side).absent id stream),
        fun stream size found => absurd found ((connected.fresh side).absent id stream)⟩
  · -- A step of the receiver.
    intro before after peer sound peerSound holds step
    exact ⟨holds.within, holds.placed, holds.agreed,
      holds.expects.receive sound peerSound holds.within step⟩
  · -- A step of the sender.
    intro receiver before after _ sound holds step
    have change := step.change id
    refine ⟨change.within sound holds.within, fun once => ?_,
      step.agreed sound holds.within holds.placed holds.agreed, holds.expects.send step⟩
    exact change.placed sound once (holds.placed (change.createdCount_le.trans once))

/-- Closing or resetting a stream accepts no data, and announces the size the table shows. -/
theorem step_finishes {system : System CC} (sound : ∀ side, (system.actor side).Sound) {side : Side}
    {event : Event} {id : Nat} (finishes : event.finishes? = some id) (host : Host)
    (running : (system.actor side).running = true) (open_ : (system.actor side).state ≠ .closed) :
    ((system.step (.act side event host)).actor side).acceptedBytes id =
        (system.actor side).acceptedBytes id ∧
      (system.actor side).finalSize id ∈
        ((system.step (.act side event host)).actor side).finalSizes id := by
  have isLocal : event.isLocal = true := by
    cases event with
    | incomingPacket | setHandshakePacket => cases finishes
    | _ => rfl
  refine ⟨?_, ?_⟩
  · -- The turn contains no write.
    have asked : system.Permits (fun _ request => ∀ other, request ≠ .write other)
        (.act side event host) := by
      cases event with
      | closeStream | resetStream => exact nofun
      | _ => cases finishes
    have turn := (step_turn sound asked).1.run
    refine (@Program.invariant_run Session _ (fun session => session.Sound ∧
      session.acceptedBytes id = (system.actor side).acceptedBytes id) ?_ _ _ ⟨sound side, rfl⟩ turn).2
    intro first second holds step
    refine ⟨step.sound holds.1, ?_⟩
    rcases (step.change id).accepts holds.1 with kept | ⟨written, -⟩
    · exact kept.trans holds.2
    · exact absurd rfl (written id)
  · have taken : (system.step (.act side event host)).actor side =
        (system.actor side).step event host := by
      dsimp only [step]
      rw [if_pos isLocal, actor_setActor]
    rw [taken]
    unfold ZtConnectionActor.step
    simp only [running, Bool.not_true, Bool.false_eq_true, ↓reduceIte, open_]
    -- The host's answers are outside the session.
    generalize hosted : ({ system.actor side with host := host } : ZtConnectionActor CC) = ready
    have session : ready.toSession = (system.actor side).toSession := by rw [← hosted]
    rw [← session]
    apply ZtConnectionActor.handleEvent_announces
    · rw [session]
      exact sound side
    · exact finishes

open Program ZtConnectionActor in
/--
As long as no stream is ended again after it left the table with data accepted, and none is written
to after its end, every end announced for a stream carries what was accepted on it, and the peer
takes it without an error; and a stream that was opened once can be ended so exactly then.
-/
theorem final_sizes_agree {master : Bytes} {system : System CC}
    (reached : ReachableWhile master Announces system) (side : Side) (id : Nat) :
    (system.actor side).Agreed id ∧
      (∀ (receiver : ZtConnectionActor CC) (addr : Address),
        receiver.streams = (system.actor side.peer).streams →
        (∀ size, HeardFrame (· ∈ (system.actor side).sentRecords) (.streamClose id size) →
          (exec (handleFrame (.streamClose id size) addr) receiver).1 = .ok ()) ∧
        ∀ errorCode size, ((system.actor side).acceptedBytes id).length < 2 ^ 62 →
          HeardFrame (· ∈ (system.actor side).sentRecords) (.resetStream id errorCode size) →
          (exec (handleFrame (.resetStream id errorCode size) addr) receiver).1 = .ok ()) ∧
      ∀ event host, event.finishes? = some id → (system.actor side).running = true →
        (system.actor side).state ≠ .closed → (system.actor side).createdCount id ≤ 1 →
        (((system.step (.act side event host)).actor side).Agreed id ↔
          (system.actor side).acceptedBytes id = [] ∨
            (system.actor side).streams.contains id = true) := by
  have holds := reached.concludes side id
  have sound := reached.sound side
  have environment : ∀ frame, HeardFrame (· ∈ (system.actor side).sentRecords) frame →
      HeardFrame ((system.actor side).environment Session.MayAsk).heard frame :=
    fun frame heard => heard.mono fun record member => Session.mem_sentRecords.mp member
  refine ⟨holds.agreed, fun receiver addr same => ⟨fun size heard => ?_,
    fun errorCode size short heard => ?_⟩, fun event host finishes running open_ once => ?_⟩
  · -- The size is what was accepted, and so is any size the receiver has heard before.
    have size_eq := holds.agreed size (heard_close sound (environment _ heard))
    apply handleStreamClose_consistent
    rw [same]
    intro stream found
    refine ⟨size_eq ▸ holds.expects.highest stream found, fun existing known => ?_⟩
    rw [size_eq]
    exact holds.agreed existing (holds.expects.final stream existing found known)
  · -- The size is what was accepted, which the wire holds in full.
    obtain ⟨full, announced, rfl⟩ := heard_reset sound (environment _ heard)
    have full_eq := holds.agreed full announced
    apply handleResetStream_consistent
    rw [same]
    intro stream found
    rw [full_eq, Nat.mod_eq_of_lt short]
    exact holds.expects.highest stream found
  · obtain ⟨accepted, announced⟩ := step_finishes reached.sound finishes host running open_
    constructor
    · intro agreed
      -- The size announced is that of the table, which shows nothing once the stream is gone.
      have size := agreed _ announced
      rw [accepted] at size
      cases found : (system.actor side).streams.find? id with
      | none =>
        simp only [Session.finalSize, found, Option.elim_none] at size
        exact .inl (List.length_eq_zero_iff.mp size.symm)
      | some stream => exact .inr (by simp [SortedMap.contains, found])
    · intro unended
      -- The step meets the condition, so the run goes on.
      have met : system.Announces (.act side event host) := by
        have shown : (system.actor side).Unended id := unended.imp_right (⟨·, once⟩)
        cases event with
        | closeStream | resetStream =>
          cases finishes
          exact shown
        | _ => cases finishes
      exact ((reached.step _ met).concludes side id).agreed

end Ends

section Sample

open Sample

/-- The client's application writes three bytes, closes the stream and drops its handle. -/
def closedTwice : List Move :=
  [.act .client (.openStream .bidirectional) (hostTaking 0),
    .act .client (.outgoingData 2 [1, 2, 3]) (hostTaking 1),
    .act .client (.closeStream 2) (hostTaking 1),
    -- Dropping the handle closes the stream once more.
    .act .client (.closeStream 2) (hostTaking 1),
    -- The data and the second announcement reach the server.
    .deliver .server 0 0 (hostTaking 0), .deliver .server 2 0 (hostTaking 0)]

/-- The pair of endpoints afterwards. -/
def afterClosedTwice : System RenoController := (Sample.system (config 2 16)).run closedTwice

/-- Three bytes were accepted, the two announcements disagree, and the server closes the connection. -/
theorem closed_twice_disagrees :
    Reachable [] afterClosedTwice ∧ (afterClosedTwice.actor .client).createdCount 2 = 1 ∧
      (afterClosedTwice.actor .client).acceptedBytes 2 = [1, 2, 3] ∧
      (afterClosedTwice.actor .client).finalSizes 2 = [3, 0] ∧
      (afterClosedTwice.actor .server).state = .closing :=
  ⟨(@system_connected (config 2 16) rfl (by decide)).reachable closedTwice, by decide +kernel⟩

/-- The same application keeps its handle after it closed the stream. -/
def afterClosedOnce : System RenoController := (Sample.system (config 2 16)).run (closedTwice.take 3)

/-- The end is announced once, with the three bytes accepted. -/
theorem closed_once_agrees :
    (afterClosedOnce.actor .client).finalSizes 2 = [3] ∧
      (afterClosedOnce.actor .client).Agreed 2 := by
  have connected := @system_connected (config 2 16) rfl (by decide)
  -- The stream was just opened when it is written to, and is in the table when it is closed.
  have reached : ReachableWhile [] Announces afterClosedOnce := by
    refine connected.reachableWhile ⟨trivial, fun _ => ?_, .inr ⟨?_, ?_⟩, trivial⟩
    · decide +kernel
    · decide +kernel
    · decide +kernel
  exact ⟨by decide +kernel, (final_sizes_agree reached .client 2).1⟩

end Sample

end System

end Zetta
