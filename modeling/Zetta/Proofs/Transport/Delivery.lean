import Zetta.Machine.Delivery
import Zetta.Proofs.Transport.System
import Zetta.Transport.Sample

/-! The application is handed a prefix of what the peer's application wrote. -/

namespace Zetta

/-- A sound peer's history explains every frame its packets carry. -/
theorem HeardFrame.carried {peer : Session} {allowed : Session → Request → Prop} {frame : Frame}
    (heard : HeardFrame (peer.environment allowed).heard frame) (sound : peer.Sound) :
    Carried peer.log frame := by
  obtain ⟨record, sent, kind, member⟩ := heard
  exact (sound.log.sent record sent kind).carried frame member

/-- Stream data a peer's packets carry was issued by it, with the same offset. -/
theorem heard_issued {peer : Session} (sound : peer.Sound) {allowed : Session → Request → Prop}
    {id offset : Nat} {streamType : StreamType} {data : Bytes}
    (heard : HeardFrame (peer.environment allowed).heard (.stream id streamType offset data)) :
    ∃ sentType, .issued (.stream id sentType offset data) ∈ peer.log := by
  obtain ⟨source, sendable, same⟩ := heard.carried sound
  rcases sendable with ⟨payload, headerLen, issued, rfl⟩ | control
  · -- Among the payloads only stream data is sent as a Stream frame.
    cases payload <;> cases same
    exact ⟨_, issued⟩
  · cases source with
    | stream => exact control.elim
    | _ => cases same

/-- One stream between a receiver and its peer, as long as each side opens it at most once. -/
def Session.Follows (id : Nat) (receiver peer : Session) : Prop :=
  peer.createdCount id ≤ 1 → peer.Placed id ∧
    (receiver.createdCount id ≤ 1 → receiver.Conveys id (peer.acceptedBytes id))

namespace Session.Fresh

variable {fresh : Session}

/-- The handshake leaves no trace of any stream. -/
theorem quiet (start : fresh.Fresh) (id : Nat) (effect : Effect) (member : effect ∈ fresh.log) :
    effect.Quiet id := by
  rcases start.log effect member with ⟨cookie, rfl⟩ | ⟨record, rfl, -⟩
  · exact ⟨nofun, nofun, rfl, rfl⟩
  · exact ⟨nofun, nofun, rfl, rfl⟩

/-- No stream is in the table yet. -/
theorem absent (start : fresh.Fresh) (id : Nat) (stream : StreamState) :
    fresh.streams.find? id ≠ some stream := by
  rw [start.streams, SortedMap.find?_empty]
  exact nofun

/-- Nothing was accepted yet. -/
theorem placed (start : fresh.Fresh) (id : Nat) : fresh.Placed id where
  fresh := fun _ => flatMap_accepted_quiet (start.quiet id)
  next := fun stream found => absurd found (start.absent id stream)
  pieces := fun streamType offset data member =>
    absurd rfl ((start.quiet id _ member).unissued streamType offset data)

/-- Nothing was delivered yet. -/
theorem conveys (start : fresh.Fresh) (id : Nat) (source : Bytes) : fresh.Conveys id source where
  fresh := fun _ => flatMap_delivered_quiet (start.quiet id)
  handed := by
    have none : fresh.deliveredBytes id = [] := flatMap_delivered_quiet (start.quiet id)
    rw [none]
    exact List.nil_prefix
  stream := fun stream found => absurd found (start.absent id stream)

end Session.Fresh

namespace Session.Follows

variable [Hkdf] {id : Nat} {allowed : Session → Request → Prop}

/-- A step of the receiver keeps the stream's data in line with what the peer accepted. -/
theorem receive {before after peer : Session} (sound : before.Sound) (peerSound : peer.Sound)
    (follows : Follows id before peer) (step : CoreStep (peer.environment allowed) before after) :
    Follows id after peer := by
  intro peerOnce
  obtain ⟨placed, conveys⟩ := follows peerOnce
  refine ⟨placed, fun once => ?_⟩
  have change := step.change id
  -- Every frame heard carries data that the peer placed.
  have pieces : ∀ streamType offset data,
      HeardFrame (peer.environment allowed).heard (.stream id streamType offset data) →
      data <+: (peer.acceptedBytes id).drop offset := by
    intro streamType offset data heard
    obtain ⟨sentType, issued⟩ := heard_issued peerSound heard
    exact placed.pieces sentType offset data issued
  exact change.conveys sound once pieces (conveys (change.createdCount_le.trans once))

/-- A step of the peer only adds to what it accepted. -/
theorem accept {receiver before after : Session} (sound : before.Sound)
    (follows : Follows id receiver before)
    (step : CoreStep (receiver.environment allowed) before after) : Follows id receiver after := by
  intro once
  have change := step.change id
  obtain ⟨placed, conveys⟩ := follows (change.createdCount_le.trans once)
  refine ⟨change.placed sound once placed, fun receiverOnce => ?_⟩
  exact (conveys receiverOnce).extend change.accepted_grows

end Session.Follows

namespace System

section Order

variable {CC : Type} [Hkdf] [HandshakeCrypto] [CongestionController CC]

/--
In every run, what was handed to the application of a stream is a prefix of what the peer's
application wrote to it, as long as each side opened the stream at most once.
-/
theorem delivered_prefix_accepted {master : Bytes} {system : System CC}
    (reached : Reachable master system) (side : Side) (id : Nat)
    (once : (system.actor side).createdCount id ≤ 1)
    (peerOnce : (system.actor side.peer).createdCount id ≤ 1) :
    (system.actor side).deliveredBytes id <+: (system.actor side.peer).acceptedBytes id := by
  have follows : (system.actor side).toSession.Follows id (system.actor side.peer).toSession := by
    refine @ReachableWhile.invariant CC _ _ _ master _ system _ (Session.Follows id)
      (fun system move _ => system.permits_all move) ?_ ?_ ?_ reached side
    · -- The handshake leaves no trace of any stream.
      intro start connected side _
      exact ⟨(connected.fresh side.peer).placed id, fun _ => (connected.fresh side).conveys id _⟩
    · exact fun sound peerSound follows step => follows.receive sound peerSound step
    · exact fun _ sound follows step => follows.accept sound step
  exact ((follows peerOnce).2 once).handed

end Order

section Sample

open Sample

/-- The client writes twice, and the two packets arrive in the other order, the second one first. -/
def swapped : List Move :=
  [.act .client (.openStream .bidirectional) (hostTaking 0),
    .act .client (.outgoingData 2 [1, 2]) (hostTaking 1),
    .act .client (.outgoingData 2 [3]) (hostTaking 1),
    .act .client (.outgoingData 2 [4]) (hostTaking 0),
    .deliver .server 1 0 (hostTaking 0), .deliver .server 0 0 (hostTaking 0)]

/-- The pair of endpoints once both packets arrived. -/
def afterSwap : System RenoController := (Sample.system (config 2 16)).run swapped

/-- The server's application has three of the four bytes written, in order. -/
theorem swapped_prefix :
    (afterSwap.actor .server).deliveredBytes 2 = [1, 2, 3] ∧
      (afterSwap.actor .server).deliveredBytes 2 <+: (afterSwap.actor .client).acceptedBytes 2 := by
  have reached : Reachable [] afterSwap :=
    (@system_connected (config 2 16) rfl (by decide)).reachable swapped
  have once : (afterSwap.actor .server).createdCount 2 ≤ 1 := by decide +kernel
  have peerOnce : (afterSwap.actor .client).createdCount 2 ≤ 1 := by decide +kernel
  exact ⟨by decide +kernel, delivered_prefix_accepted reached .server 2 once peerOnce⟩

end Sample

end System
end Zetta
