import Zetta.Proofs.Transport.Holdings
import Zetta.Stream.Stream
import Zetta.Transport.Sample

/-! Error codes of the application on their way to the peer. -/

namespace Zetta

/-- Ask the actor to abandon a stream with an error code. -/
def ZtStream.reset (streamId : UInt32) (errorCode : UInt64) : Event := .resetStream streamId errorCode

/-- Ask the actor to close the connection with an error code and a reason. -/
def ZtEndpoint.closeWithError (errorCode : UInt64) (reason : Bytes) : Except ZtError Event :=
  if reason.length > 1024 then .error (.invalidPacket "connection close reason exceeds 1024 bytes")
  else .ok (.closeWithError errorCode reason)

/-- A call of the application with an error code. -/
inductive ErrorCall where
  | reset (streamId : UInt32) (errorCode : UInt64)
  | closeWithError (errorCode : UInt64) (reason : Bytes)
  deriving DecidableEq, Repr

namespace ErrorCall

/-- What the call asks of the actor, unless it is refused. -/
def submit : ErrorCall → Except ZtError Event
  | reset streamId errorCode => .ok (ZtStream.reset streamId errorCode)
  | closeWithError errorCode reason => ZtEndpoint.closeWithError errorCode reason

/-- The error code the application chose. -/
def errorCode : ErrorCall → Nat
  | reset _ errorCode | closeWithError errorCode _ => errorCode.toNat

/-- The final size that goes with it: how much was accepted on the stream that is abandoned. -/
def finalSize (session : Session) : ErrorCall → Nat
  | reset streamId _ => session.finalSize streamId.toNat
  | closeWithError _ _ => 0

/-- What the actor has to get to the peer. -/
def payload (session : Session) : ErrorCall → UnackedPayload
  | reset streamId errorCode =>
    .resetStream streamId.toNat errorCode.toNat (session.finalSize streamId.toNat)
  | closeWithError errorCode reason => .connectionCloseV2 errorCode.toNat reason

/-- The peer reads the payload's own frame first in every packet that carries it. -/
def Arrives (payload : UnackedPayload) : Prop :=
  ∀ header, (Frame.decodeFrames (Books.payloadText payload header)).1.head? =
    some (payload.frame header.encode.length)

/-- The peer reads what the wire makes of the frame. -/
theorem head_payloadText {payload : UnackedPayload} {header : PacketHeader}
    (words : (payload.frame header.encode.length).Words) :
    (Frame.decodeFrames (Books.payloadText payload header)).1.head? =
      some (payload.frame header.encode.length).onWire := by
  obtain ⟨pad, padded⟩ := ZtConnectionActor.padShort_eq header.pnLen
    (payload.frame header.encode.length).encode
  rw [Books.payloadText, Books.frameText, padded, Frame.decodeFrames_encode words]
  rfl

/-- Two numbers of 62 bits arrive, and longer ones do not. -/
theorem arrives_iff {call : ErrorCall} {event : Event} (accepted : call.submit = .ok event)
    {session : Session} (word : call.finalSize session < u64Size) :
    Arrives (call.payload session) ↔ call.errorCode < 2 ^ 62 ∧ call.finalSize session < 2 ^ 62 := by
  have some_header : Nonempty PacketHeader := ⟨⟨.data, false, 0, [], [], 0, false, 1⟩⟩
  cases call with
  | reset streamId errorCode =>
    have read : ∀ header, _ := fun header =>
      @head_payloadText (payload session (reset streamId errorCode)) header
        ⟨streamId.toNat_lt, errorCode.toNat_lt, word⟩
    simp only [Arrives, read]
    simp [payload, UnackedPayload.frame, Frame.onWire, ErrorCall.errorCode, finalSize]
  | closeWithError errorCode reason =>
    -- The call was accepted, so the length of its reason is no obstacle.
    have short : reason.length < 2 ^ 62 := by
      simp only [submit, ZtEndpoint.closeWithError] at accepted
      split at accepted
      · cases accepted
      · omega
    have read : ∀ header, _ := fun header =>
      @head_payloadText (payload session (closeWithError errorCode reason)) header
        ⟨errorCode.toNat_lt, short⟩
    simp only [Arrives, read]
    simp [payload, UnackedPayload.frame, Frame.onWire, ErrorCall.errorCode, finalSize]

end ErrorCall

namespace ZtConnectionActor

open Program

variable {CC : Type} [Hkdf] [HandshakeCrypto]

omit [HandshakeCrypto] in
/-- Nothing written down is forgotten. -/
theorem mem_log_of_deeds {licence : Licence} {before after : Books}
    (deeds : Relation.ReflTransGen (Deed licence) before after) {effect : Effect}
    (member : effect ∈ before.log) : effect ∈ after.log := by
  induction deeds with
  | refl => exact member
  | tail _ deed ih =>
    obtain ⟨more, grown, -⟩ := deed.logged
    exact grown ▸ List.mem_append_left _ ih

/-- A payload sent for the first time is written down as issued, whatever comes of it. -/
theorem sendPayload_issued (self : ZtConnectionActor CC) (payload : UnackedPayload) :
    .issued payload ∈ (exec (sendPayload payload) self).2.log := by
  have sent : Relation.ReflTransGen (Deed .free) _ _ :=
    (self.note (.issued payload)).retransmitPayload_does payload 0 []
  exact mem_log_of_deeds sent (List.mem_append_right _ (List.mem_singleton.mpr rfl))

variable [CongestionController CC]

/--
An accepted call has the actor send its error code, final size and reason; the peer reads exactly
these when code and size fit 62 bits, and something else when they do not.
-/
theorem errorCall_arrives_iff {call : ErrorCall} {event : Event} (accepted : call.submit = .ok event)
    {self : ZtConnectionActor CC} (running : self.running = true) (open_ : self.state ≠ .closed)
    (word : call.finalSize self.toSession < u64Size) (host : Host) :
    .issued (call.payload self.toSession) ∈ (self.step event host).log ∧
      (ErrorCall.Arrives (call.payload self.toSession) ↔
        call.errorCode < 2 ^ 62 ∧ call.finalSize self.toSession < 2 ^ 62) := by
  refine ⟨?_, ErrorCall.arrives_iff accepted word⟩
  have paced : ∀ after : ZtConnectionActor CC, .issued (call.payload self.toSession) ∈ after.log →
      .issued (call.payload self.toSession) ∈ (exec resetPacing after).2.log := by
    intro after member
    have sends : Does .free after (exec resetPacing after).2 := after.resetPacing_does fun _ => trivial
    exact mem_log_of_deeds (sends []) member
  unfold step
  rw [if_neg (by simp [running]), if_neg open_]
  cases call with
  | reset streamId errorCode =>
    cases accepted
    -- The payload is issued before the stream is forgotten.
    have sent := sendPayload_issued { self with host := host }
      (.resetStream streamId.toNat errorCode.toNat (self.finalSize streamId.toNat))
    have forgets : ∀ actor : ZtConnectionActor CC,
        Does .free actor (actor.removeStream streamId.toNat) := fun actor => actor.removeStream_does _
    exact paced _ (mem_log_of_deeds (forgets _ []) sent)
  | closeWithError errorCode reason =>
    simp only [ErrorCall.submit, ZtEndpoint.closeWithError] at accepted
    split at accepted
    · cases accepted
    · cases accepted
      have sent := sendPayload_issued { self with host := host, state := .closing }
        (.connectionCloseV2 errorCode.toNat reason)
      exact paced _ sent

end ZtConnectionActor

open Sample

/-- A stream is abandoned on an active client with an error code of 62 bits, which arrives. -/
theorem small_code_arrives :
    ErrorCall.Arrives (ErrorCall.payload (endpoint .default true).toSession
      (.reset 2 4611686018427387903)) :=
  (ZtConnectionActor.errorCall_arrives_iff (rfl : (ErrorCall.reset 2 4611686018427387903).submit = _)
    (rfl : (endpoint .default true).running = true) (by decide) (by decide) (hostTaking 1)).2.mpr
      (by decide)

/-- The least error code of 63 bits is accepted, and the peer reads it as zero. -/
theorem large_code_altered :
    (ErrorCall.closeWithError 4611686018427387904 [7]).submit =
      .ok (.closeWithError 4611686018427387904 [7]) ∧
    (Frame.decodeFrames (Books.payloadText (ErrorCall.payload (endpoint .default true).toSession
      (.closeWithError 4611686018427387904 [7])) ⟨.data, false, 0, [2], [], 5, false, 1⟩)).1.head? =
      some (.connectionCloseV2 0 [7]) :=
  ⟨rfl, by decide +kernel⟩

end Zetta
