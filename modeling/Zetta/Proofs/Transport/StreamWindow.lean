import Zetta.Proofs.Transport.Answer
import Zetta.Proofs.Transport.Delivery
import Zetta.Proofs.Transport.Surfacing

/-! A conforming peer keeps to the limits of every stream, in whatever order packets arrive. -/

namespace Zetta

section Sender

variable {env : Environment} {id limit : Nat} {before after : Session}

/-- What a sender may still send of a stream, and what it sent, ends at a limit at the latest. -/
structure Session.WithinCredit (sender : Session) (id limit : Nat) : Prop where
  next : ∀ stream, sender.streams.find? id = some stream →
    stream.nextTxOffset + stream.txWindow ≤ limit
  pieces : ∀ streamType offset data, .issued (.stream id streamType offset data) ∈ sender.log →
    offset + data.length ≤ limit

/-- A larger limit is kept as well. -/
theorem Session.WithinCredit.raise {sender : Session} {higher : Nat}
    (credit : sender.WithinCredit id limit) (larger : limit ≤ higher) :
    sender.WithinCredit id higher :=
  ⟨fun stream found => (credit.next stream found).trans larger,
    fun streamType offset data issued => (credit.pieces streamType offset data issued).trans larger⟩

/-- What was sent stays within the limit while no data of the stream is issued. -/
theorem Session.WithinCredit.pieces_silent (credit : before.WithinCredit id limit)
    {more : List Effect} (log : after.log = before.log ++ more)
    (silent : ∀ streamType offset data, .issued (.stream id streamType offset data) ∉ more)
    (streamType : StreamType) (offset : Nat) (data : Bytes)
    (member : .issued (.stream id streamType offset data) ∈ after.log) :
    offset + data.length ≤ limit := by
  rw [log] at member
  rcases List.mem_append.mp member with old | new
  · exact credit.pieces streamType offset data old
  · exact absurd new (silent streamType offset data)

/-- A step of a stream keeps its end of the credit within the limit. -/
theorem StreamStep.credit {heard : SentRecord → Prop} {stream next : StreamState}
    {effects : List Effect} (step : StreamStep heard id stream next effects) (sound : stream.Sound)
    (granted : ∀ maxData, HeardFrame heard (.maxStreamData id maxData) → maxData ≤ limit)
    (credit : stream.nextTxOffset + stream.txWindow ≤ limit) :
    next.nextTxOffset + next.txWindow ≤ limit := by
  cases step with
  | accept data open_ writable fits =>
    -- The credit that is used up moves the next offset on by as much.
    show stream.nextTxOffset + data.length + (stream.txWindow - data.length) ≤ limit
    omega
  | limit maxData frame fits =>
    -- A limit below the next offset leaves no credit at all.
    have bound := granted maxData frame
    show stream.nextTxOffset + (maxData - stream.nextTxOffset) ≤ limit
    omega
  | @forward base bytesRead prepared =>
    -- A forwarding round is about the receiving half.
    have rest := (StreamState.pumpAll_forwarded (prepared.sound sound).buffer).rest
    have same : base.pumpAll.2.finish.nextTxOffset + base.pumpAll.2.finish.txWindow =
        stream.nextTxOffset + stream.txWindow := by
      rw [StreamState.finish_eq, rest]
      cases prepared <;> rfl
    omega
  | bookkeeping kept =>
    rw [kept.rest]
    exact credit
  | raise | grow => exact credit

/-- A step of a sender keeps a limit that covers the initial window and everything granted. -/
theorem StreamChange.withinCredit (change : StreamChange env id before after) (sound : before.Sound)
    (initial : before.peerInitialStreamWindow ≤ limit)
    (granted : ∀ maxData, HeardFrame env.heard (.maxStreamData id maxData) → maxData ≤ limit)
    (credit : before.WithinCredit id limit) : after.WithinCredit id limit := by
  cases change with
  | untouched more log quiet same =>
    refine ⟨?_, credit.pieces_silent log fun streamType offset data member =>
      (quiet _ member).unissued streamType offset data rfl⟩
    rw [same]
    exact credit.next
  | opened streamType now more log quiet absent stored cause =>
    refine ⟨fun stream found => ?_, credit.pieces_silent log fun pieceType offset data member => ?_⟩
    · -- A new stream starts with the window the peer advertised.
      rw [stored] at found
      cases found
      show 0 + before.peerInitialStreamWindow ≤ limit
      omega
    · rcases List.mem_cons.mp member with same | later
      · cases same
      · exact (quiet _ later).unissued pieceType offset data rfl
  | removed more log quiet absent cause =>
    refine ⟨fun stream found => ?_, credit.pieces_silent log fun streamType offset data member =>
      (quiet _ member).unissued streamType offset data rfl⟩
    rw [absent] at found
    cases found
  | stepped stream next effects log found stored step reads writes =>
    have streamSound := (sound.streams id stream found).2
    have position := credit.next stream found
    refine ⟨fun current held => ?_, fun pieceType offset piece member => ?_⟩
    · rw [stored] at held
      cases held
      exact step.credit streamSound granted position
    · -- New data ends within the credit it used.
      have later := step.credit streamSound granted position
      rw [log] at member
      rcases List.mem_append.mp member with old | new
      · exact credit.pieces pieceType offset piece old
      · rcases step.sending streamSound with ⟨data, moved, rfl⟩ | ⟨-, -, silent⟩
        · cases List.mem_singleton.mp new
          omega
        · exact absurd new (silent _)

end Sender

section Receiver

variable {id : Nat} {before after : Session}

/-- The limit a stream grants only grows. -/
theorem StreamStep.limit_grows {heard : SentRecord → Prop} {stream next : StreamState}
    {effects : List Effect} (step : StreamStep heard id stream next effects) (sound : stream.Sound)
    (fits : stream.expectedRxOffset < u64Size) :
    next.expectedRxOffset < u64Size ∧ stream.expectedRxOffset ≤ next.expectedRxOffset ∧
      stream.windowSize ≤ next.windowSize := by
  cases step with
  | @forward base bytesRead prepared =>
    have rest := (StreamState.pumpAll_forwarded (prepared.sound sound).buffer).rest
    have ends : base.pumpAll.2.finish.expectedRxOffset = base.expectedRxOffset ∧
        base.pumpAll.2.finish.windowSize = base.windowSize := by
      rw [StreamState.finish_eq, rest]
      exact ⟨rfl, rfl⟩
    rw [ends.1, ends.2]
    -- What was consumed is added, and the sum stops at the largest word.
    have counted : ∀ consumed, saturatingAdd stream.expectedRxOffset consumed < u64Size ∧
        stream.expectedRxOffset ≤ saturatingAdd stream.expectedRxOffset consumed := by
      intro consumed
      unfold saturatingAdd
      omega
    cases prepared with
    | wrote frame accepted => exact ⟨(counted _).1, (counted _).2, le_rfl⟩
    | concluded frame above same => exact ⟨(counted _).1, (counted _).2, le_rfl⟩
    | consumed => exact ⟨(counted _).1, (counted _).2, le_rfl⟩
  | bookkeeping kept =>
    rw [kept.rest]
    exact ⟨fits, le_rfl, le_rfl⟩
  | grow newWindow larger => exact ⟨fits, le_rfl, larger⟩
  | accept | limit | raise => exact ⟨fits, le_rfl, le_rfl⟩

variable [Hkdf] {env : Environment}

/-- A limit that was issued is an earlier one, or that of the stream as it is. -/
theorem CoreStep.grants (step : CoreStep env before after) {maxData : Nat}
    (member : .issued (.maxStreamData id maxData) ∈ after.log) :
    .issued (.maxStreamData id maxData) ∈ before.log ∨
      ∃ stream, before.streams.find? id = some stream ∧
        maxData = wrappingAdd stream.expectedRxOffset stream.windowSize := by
  cases step with
  | send step => exact .inl (step.sentOnly.issued member)
  | issue payload issuable =>
    rcases List.mem_append.mp member with old | new
    · exact .inl old
    · -- The payload is this one, and may be issued for a stream of the table only.
      cases List.mem_singleton.mp new
      exact .inr issuable.2
  | stream found step reads writes credit =>
    rcases List.mem_append.mp member with old | new
    · exact .inl old
    · cases step <;> simp at new
  | remove found removal =>
    rcases List.mem_append.mp member with old | new
    · exact .inl old
    · cases removal <;> simp at new
  | openLocal | openPeer | handled =>
    rcases List.mem_append.mp member with old | new
    · exact .inl old
    · simp at new
  | setState | follow | mark | credit => exact .inl member

omit [Hkdf] in
/-- A limit a peer's packets carry is one it issued. -/
theorem heard_grant {peer : Session} (sound : peer.Sound) {allowed : Session → Request → Prop}
    {maxData : Nat}
    (heard : HeardFrame (peer.environment allowed).heard (.maxStreamData id maxData)) :
    .issued (.maxStreamData id maxData) ∈ peer.log := by
  obtain ⟨source, sendable, same⟩ := heard.carried sound
  rcases sendable with ⟨payload, headerLen, issued, rfl⟩ | control
  · cases payload <;> cases same
    exact issued
  · cases source with
    | maxStreamData => exact control.elim
    | _ => cases same

/-- One stream between a receiver and its sender, as far as its credit goes. -/
structure Session.Credits (id : Nat) (receiver sender : Session) : Prop where
  negotiated : sender.peerInitialStreamWindow = receiver.config.initialStreamWindow
  /-- Before the receiver opens the stream, the sender has the initial window. -/
  unopened : receiver.createdCount id = 0 →
    sender.WithinCredit id receiver.config.initialStreamWindow ∧
      ∀ maxData, .issued (.maxStreamData id maxData) ∉ receiver.log
  /-- While the receiver holds its first state, it has what the receiver takes. -/
  offset : receiver.createdCount id ≤ 1 → ∀ stream, receiver.streams.find? id = some stream →
    stream.expectedRxOffset < u64Size
  window : receiver.createdCount id ≤ 1 → ∀ stream, receiver.streams.find? id = some stream →
    receiver.config.initialStreamWindow ≤ stream.windowSize
  granted : receiver.createdCount id ≤ 1 → ∀ stream, receiver.streams.find? id = some stream →
    ∀ maxData, .issued (.maxStreamData id maxData) ∈ receiver.log →
      maxData ≤ stream.expectedRxOffset + stream.windowSize
  taken : receiver.createdCount id ≤ 1 → ∀ stream, receiver.streams.find? id = some stream →
    sender.WithinCredit id (stream.expectedRxOffset + stream.windowSize)

namespace Session.Credits

variable {peer : Session} {allowed : Session → Request → Prop}

/-- A step of the receiver takes nothing back. -/
theorem receive (credits : Credits id before peer) (sound : before.Sound)
    (step : CoreStep env before after) : Credits id after peer := by
  have config := step.constants.config
  have once : after.createdCount id ≤ 1 → before.createdCount id ≤ 1 :=
    (step.change id).createdCount_le.trans
  have grants := fun maxData => @CoreStep.grants id before after _ env step maxData
  cases step.change id with
  | untouched more log quiet same =>
    have count := (history_quiet log quiet).2.2
    refine ⟨config ▸ credits.negotiated, fun zero => ?_, ?_, ?_, ?_, ?_⟩
    · rw [count] at zero
      rw [config]
      refine ⟨(credits.unopened zero).1, fun maxData member => ?_⟩
      -- A limit is issued for a stream of the table only, which this one is not.
      rcases grants maxData member with old | ⟨stream, found, -⟩
      · exact (credits.unopened zero).2 maxData old
      · exact List.count_eq_zero.mp zero (sound.names.table id stream found)
    · rw [same]
      exact fun opened => credits.offset (once opened)
    · rw [same, config]
      exact fun opened => credits.window (once opened)
    · rw [same]
      intro opened stream found maxData member
      rcases grants maxData member with old | ⟨current, held, rfl⟩
      · exact credits.granted (once opened) stream found maxData old
      · rw [found] at held
        cases held
        exact wrappingAdd_le _ _
    · rw [same]
      exact fun opened => credits.taken (once opened)
  | opened streamType now more log quiet absent stored cause =>
    have count := (history_opened log quiet).2.2
    -- The stream was never open, so the sender has the initial window, and so has the new stream.
    have first : after.createdCount id ≤ 1 → before.createdCount id = 0 := by omega
    refine ⟨config ▸ credits.negotiated, fun zero => absurd zero (by omega), ?_, ?_, ?_, ?_⟩
    · intro opened stream found
      rw [stored] at found
      cases found
      show 0 < u64Size
      decide
    · intro opened stream found
      rw [stored] at found
      cases found
      rw [config]
      exact le_rfl
    · intro opened stream found maxData member
      rcases grants maxData member with old | ⟨current, held, -⟩
      · exact absurd old ((credits.unopened (first opened)).2 maxData)
      · rw [absent] at held
        cases held
    · intro opened stream found
      rw [stored] at found
      cases found
      show peer.WithinCredit id (0 + before.config.initialStreamWindow)
      rw [Nat.zero_add]
      exact (credits.unopened (first opened)).1
  | removed more log quiet absent cause =>
    have count := (history_quiet log quiet).2.2
    have gone : ∀ stream, after.streams.find? id ≠ some stream := by simp [absent]
    refine ⟨config ▸ credits.negotiated, fun zero => ?_, fun _ stream found => absurd found (gone stream),
      fun _ stream found => absurd found (gone stream), fun _ stream found => absurd found (gone stream),
      fun _ stream found => absurd found (gone stream)⟩
    rw [count] at zero
    rw [config]
    refine ⟨(credits.unopened zero).1, fun maxData member => ?_⟩
    rcases grants maxData member with old | ⟨stream, found, -⟩
    · exact (credits.unopened zero).2 maxData old
    · exact List.count_eq_zero.mp zero (sound.names.table id stream found)
  | stepped stream next effects log found stored step reads writes =>
    have count := createdCount_stepped log step
    have known : before.createdCount id ≠ 0 := fun zero =>
      List.count_eq_zero.mp zero (sound.names.table id stream found)
    refine ⟨config ▸ credits.negotiated, fun zero => absurd (count.symm.trans zero) known, ?_, ?_, ?_, ?_⟩
      <;> intro opened current held <;> rw [stored] at held <;> cases held
    -- The limit of the stream before the step is below the one after it.
    all_goals
      obtain ⟨fits, consumed, larger⟩ := step.limit_grows (sound.streams id stream found).2
        (credits.offset (once opened) stream found)
    · exact fits
    · rw [config]
      exact (credits.window (once opened) stream found).trans larger
    · intro maxData member
      rcases grants maxData member with old | ⟨current, held, rfl⟩
      · have bound := credits.granted (once opened) stream found maxData old
        omega
      · rw [found] at held
        cases held
        have wrapped := wrappingAdd_le stream.expectedRxOffset stream.windowSize
        omega
    · exact (credits.taken (once opened) stream found).raise (by omega)

/-- A step of the sender uses no more than it was given. -/
theorem send (credits : Credits id peer before) (sound : before.Sound) (peerSound : peer.Sound)
    (step : CoreStep (peer.environment allowed) before after) : Credits id peer after := by
  have initial := step.constants.window
  have change := step.change id
  have negotiated := credits.negotiated
  refine ⟨initial.trans negotiated, fun zero => ?_, credits.offset, credits.window, credits.granted,
    fun opened stream found => ?_⟩
  · -- Nothing was granted yet, so nothing is heard.
    obtain ⟨credit, silent⟩ := credits.unopened zero
    refine ⟨change.withinCredit sound negotiated.le (fun maxData heard => ?_) credit, silent⟩
    exact absurd (heard_grant peerSound heard) (silent maxData)
  · have window := credits.window opened stream found
    refine change.withinCredit sound (by omega) (fun maxData heard => ?_)
      (credits.taken opened stream found)
    exact credits.granted opened stream found maxData (heard_grant peerSound heard)

end Session.Credits

end Receiver

section Reading

variable {id : Nat} {before after : Session}

/-- A step hands out what it leaves in the history, and counts no more as consumed than reported. -/
theorem StreamStep.reading {heard : SentRecord → Prop} {stream next : StreamState}
    {effects : List Effect} (step : StreamStep heard id stream next effects) (sound : stream.Sound) :
    next.receiveBuffer.readHead =
        stream.receiveBuffer.readHead + (effects.flatMap (Effect.delivered id)).length ∧
      next.expectedRxOffset ≤
        stream.expectedRxOffset + (effects.map (Effect.bytesReported id)).sum := by
  cases step with
  | @forward base bytesRead prepared =>
    have forwarded := StreamState.pumpAll_forwarded (prepared.sound sound).buffer
    have ends : base.pumpAll.2.finish.expectedRxOffset = base.expectedRxOffset ∧
        base.pumpAll.2.finish.receiveBuffer = base.pumpAll.2.receiveBuffer := by
      rw [StreamState.finish_eq, forwarded.rest]
      exact ⟨rfl, rfl⟩
    -- The chunks are what the round moved, and the report comes before them.
    have chunks : (Effect.reported id bytesRead :: base.pumpAll.1.map (Effect.pushed id)).flatMap
        (Effect.delivered id) = base.pumpAll.1.flatten := by
      simp [Effect.delivered, List.flatMap_map]
    have reported : ((Effect.reported id bytesRead :: base.pumpAll.1.map (Effect.pushed id)).map
        (Effect.bytesReported id)).sum = bytesRead := by
      simp [Effect.bytesReported, Function.comp_def]
    rw [ends.1, ends.2, chunks, reported, forwarded.readHead]
    cases prepared with
    | wrote frame accepted =>
      have written := StreamReceiveBuffer.write_written sound.buffer (Nat.le_max_right _ _) accepted
      refine ⟨?_, saturatingAdd_le _ _⟩
      exact congrArg (· + _) written.readHead
    | concluded frame above same => exact ⟨rfl, saturatingAdd_le _ _⟩
    | consumed =>
      refine ⟨rfl, (saturatingAdd_le _ _).trans ?_⟩
      exact Nat.add_le_add_left (Nat.min_le_left _ _) _
  | bookkeeping kept =>
    rw [kept.rest]
    exact ⟨rfl, Nat.le_add_right _ _⟩
  | grow newWindow larger =>
    have resized := StreamReceiveBuffer.resize_resized sound.buffer
      (show stream.receiveBuffer.capacity ≤ newWindow by rw [sound.capacity]; exact larger)
    exact ⟨resized.readHead, Nat.le_add_right _ _⟩
  | accept | limit | raise => exact ⟨rfl, Nat.le_add_right _ _⟩

/-- The application reports no more as read than it was given. -/
def Session.MayReport (session : Session) : Request → Prop
  | .read id bytes => session.reportedBytes id + bytes ≤ (session.deliveredBytes id).length
  | .write _ | .finish _ => True

/-- What was consumed of a stream was reported, and what was reported was handed out. -/
structure Session.Consumes (session : Session) (id : Nat) : Prop where
  fresh : session.createdCount id = 0 →
    session.deliveredBytes id = [] ∧ session.reportedBytes id = 0
  reported : session.reportedBytes id ≤ (session.deliveredBytes id).length
  head : session.createdCount id ≤ 1 → ∀ stream, session.streams.find? id = some stream →
    stream.receiveBuffer.readHead = (session.deliveredBytes id).length
  consumed : session.createdCount id ≤ 1 → ∀ stream, session.streams.find? id = some stream →
    stream.expectedRxOffset ≤ session.reportedBytes id

/-- A step keeps it so when the application reports no more than it may. -/
theorem StreamChange.consumes {heard : SentRecord → Prop} {acting : Prop}
    (change : StreamChange ⟨heard, Session.MayReport, acting⟩ id before after) (sound : before.Sound)
    (consumes : before.Consumes id) : after.Consumes id := by
  have once : after.createdCount id ≤ 1 → before.createdCount id ≤ 1 := change.createdCount_le.trans
  -- Without effects on the stream both counts stay.
  have still : ∀ more, after.log = before.log ++ more → (∀ effect ∈ more, effect.Quiet id) →
      after.reportedBytes id = before.reportedBytes id := by
    intro more log quiet
    simp only [Session.reportedBytes, log, List.map_append, List.sum_append, sum_reported_quiet quiet,
      Nat.add_zero]
  cases change with
  | untouched more log quiet same =>
    obtain ⟨-, delivered, count⟩ := history_quiet log quiet
    have reported := still more log quiet
    refine ⟨?_, ?_, ?_, ?_⟩
    · rw [count, delivered, reported]
      exact consumes.fresh
    · rw [delivered, reported]
      exact consumes.reported
    · rw [same, delivered]
      exact fun opened => consumes.head (once opened)
    · rw [same, reported]
      exact fun opened => consumes.consumed (once opened)
  | opened streamType now more log quiet absent stored cause =>
    obtain ⟨-, delivered, count⟩ := history_opened log quiet
    have reported : after.reportedBytes id = before.reportedBytes id := by
      simp only [Session.reportedBytes, log, List.map_append, List.sum_append, List.map_cons,
        List.sum_cons, sum_reported_quiet quiet, Effect.bytesReported, Nat.add_zero]
    refine ⟨fun zero => absurd zero (by omega), ?_, fun opened stream found => ?_,
      fun opened stream found => ?_⟩
    · rw [delivered, reported]
      exact consumes.reported
    · -- Nothing was handed out while the stream had never been open.
      rw [stored] at found
      cases found
      rw [delivered, (consumes.fresh (by omega)).1]
      rfl
    · rw [stored] at found
      cases found
      exact Nat.zero_le _
  | removed more log quiet absent cause =>
    obtain ⟨-, delivered, count⟩ := history_quiet log quiet
    have reported := still more log quiet
    have gone : ∀ stream, after.streams.find? id ≠ some stream := by simp [absent]
    refine ⟨?_, ?_, fun _ stream found => absurd found (gone stream),
      fun _ stream found => absurd found (gone stream)⟩
    · rw [count, delivered, reported]
      exact consumes.fresh
    · rw [delivered, reported]
      exact consumes.reported
  | stepped stream next effects log found stored step reads writes =>
    obtain ⟨head, consumed⟩ := step.reading (sound.streams id stream found).2
    have known : before.createdCount id ≠ 0 := fun zero =>
      List.count_eq_zero.mp zero (sound.names.table id stream found)
    have delivered : (after.deliveredBytes id).length =
        (before.deliveredBytes id).length + (effects.flatMap (Effect.delivered id)).length := by
      simp only [Session.deliveredBytes, log, List.flatMap_append, List.length_append]
    have reported : after.reportedBytes id =
        before.reportedBytes id + (effects.map (Effect.bytesReported id)).sum := by
      simp only [Session.reportedBytes, log, List.map_append, List.sum_append]
    have count := createdCount_stepped log step
    -- What the step reports is nothing, or what the application may report.
    have asked : before.reportedBytes id + (effects.map (Effect.bytesReported id)).sum ≤
        (before.deliveredBytes id).length := by
      have earlier := consumes.reported
      cases step with
      | @forward base bytesRead prepared =>
        have total : ((Effect.reported id bytesRead :: base.pumpAll.1.map (Effect.pushed id)).map
            (Effect.bytesReported id)).sum = bytesRead := by
          simp [Effect.bytesReported, Function.comp_def]
        rw [total]
        rcases reads bytesRead List.mem_cons_self with rfl | allowed
        · exact earlier
        · exact allowed
      | accept | limit | raise | bookkeeping | grow => exact earlier
    refine ⟨fun zero => absurd (count.symm.trans zero) known, by omega, ?_, ?_⟩
    · intro opened current held
      rw [stored] at held
      cases held
      rw [head, delivered, consumes.head (once opened) stream found]
    · intro opened current held
      rw [stored] at held
      cases held
      have before := consumes.consumed (once opened) stream found
      omega

end Reading

section Handling

open Program

/-- What a stream does with data at an offset, cut at the read head. -/
def StreamState.storing (stream : StreamState) (offset : Nat) (data : Bytes) :
    Option (Nat × StreamReceiveBuffer) :=
  stream.receiveBuffer.write (max offset stream.receiveBuffer.readHead)
    (data.drop (stream.receiveBuffer.readHead - offset))

/-- Data within the limit of a stream is stored, unless the end of its buffer passes a word. -/
theorem StreamState.storing_isSome {stream : StreamState} (sound : stream.Sound) {offset : Nat}
    {data : Bytes} (consumed : stream.expectedRxOffset ≤ stream.receiveBuffer.readHead)
    (within : offset + data.length ≤ stream.expectedRxOffset + stream.windowSize)
    (headroom : stream.receiveBuffer.readHead + stream.windowSize < u64Size) :
    (stream.storing offset data).isSome = true := by
  unfold storing StreamReceiveBuffer.write
  split
  · rfl
  · rename_i some
    -- What is left after the cut ends where the data ended.
    have left : stream.receiveBuffer.readHead - offset < data.length := by
      simpa using some
    have ends : checkedAdd (max offset stream.receiveBuffer.readHead)
        (data.drop (stream.receiveBuffer.readHead - offset)).length = .some (offset + data.length) := by
      rw [checkedAdd_eq_some_iff, List.length_drop]
      omega
    have room : wrappingAdd stream.receiveBuffer.readHead stream.receiveBuffer.capacity =
        stream.receiveBuffer.readHead + stream.windowSize := by
      rw [sound.capacity]
      exact Nat.mod_eq_of_lt headroom
    rw [ends]
    dsimp only
    rw [room, if_neg (by omega)]
    rfl

namespace ZtConnectionActor

variable {CC : Type} [Hkdf] [HandshakeCrypto]

/-- The stream that data meets: the one in the table, or the one opened for it. -/
def Meets (self : ZtConnectionActor CC) (id : Nat) (stream : StreamState) : Prop :=
  self.streams.find? id = some stream ∨
    self.streams.find? id = none ∧ ∃ streamType, stream = .new streamType
      self.config.initialStreamWindow self.peerInitialStreamWindow self.host.now

/-- An answer that names a limit of a stream is given for data that does not keep to it. -/
structure NamesLimit (answer : Except ZtError Unit) (stream : StreamState) (offset : Nat) (data : Bytes) :
    Prop where
  flow : answer = .error (.invalidPacket "Stream flow-control limit exceeded") →
    saturatingAdd stream.expectedRxOffset stream.windowSize < offset + data.length
  window : answer = .error (.invalidPacket "Stream receive window exceeded") →
    stream.storing offset data = none

omit [Hkdf] [HandshakeCrypto] in
/-- Any other error names no limit. -/
theorem NamesLimit.other {error : ZtError} {stream : StreamState} {offset : Nat} {data : Bytes}
    (flow : error ≠ .invalidPacket "Stream flow-control limit exceeded")
    (window : error ≠ .invalidPacket "Stream receive window exceeded") :
    NamesLimit (.error error) stream offset data :=
  ⟨fun same => absurd (Except.error.inj same) flow, fun same => absurd (Except.error.inj same) window⟩

omit [Hkdf] [HandshakeCrypto] in
/-- The answer to data for a stream in the table is such a one. -/
theorem dataAnswer_namesLimit (self : ZtConnectionActor CC) (stream : StreamState) (offset : Nat)
    (data : Bytes) : NamesLimit (self.dataAnswer stream offset data) stream offset data := by
  unfold dataAnswer
  dsimp only
  split
  · exact .other (by simp) (by simp)
  · cases ends : checkedAdd offset data.length with
    | none => exact .other (by simp) (by simp)
    | some endOffset =>
      obtain ⟨rfl, -⟩ := checkedAdd_eq_some_iff.mp ends
      dsimp only
      split
      · exact .other (by simp) (by simp)
      · split
        · exact ⟨nofun, nofun⟩
        · split
          · rename_i beyond
            exact ⟨fun _ => beyond, fun same => by simp at same⟩
          · split
            · exact ⟨nofun, nofun⟩
            · rename_i refused
              exact ⟨fun same => by simp at same, fun _ => by simpa [StreamState.storing] using refused⟩

/-- So is the answer to any stream data, for the stream it meets. -/
theorem handleStream_namesLimit (self : ZtConnectionActor CC) (id : Nat) (streamType : StreamType)
    (offset : Nat) (data : Bytes) :
    (∃ stream, self.Meets id stream ∧
        NamesLimit (exec (handleStream id streamType offset data) self).1 stream offset data) ∨
      (exec (handleStream id streamType offset data) self).1 ≠
          .error (.invalidPacket "Stream flow-control limit exceeded") ∧
        (exec (handleStream id streamType offset data) self).1 ≠
          .error (.invalidPacket "Stream receive window exceeded") := by
  rw [handleStream_answer]
  unfold streamAnswer
  cases kind : streamType.forPeer with
  | none => exact .inr (by simp)
  | some localStreamType =>
    dsimp only
    cases found : self.streams.find? id with
    | some stream =>
      dsimp only
      split
      · exact .inr (by simp)
      · exact .inl ⟨stream, .inl found, dataAnswer_namesLimit self stream offset data⟩
    | none =>
      dsimp only
      -- A stream that is not opened is refused for another reason.
      split
      · exact .inr (by simp)
      · split
        · exact .inr (by simp)
        · split
          · exact .inl ⟨_, .inr ⟨found, localStreamType, rfl⟩, dataAnswer_namesLimit _ _ offset data⟩
          · exact .inr (by simp)

end ZtConnectionActor

end Handling

namespace Session.Fresh

variable {fresh : Session}

/-- Right after the handshake nothing was sent or granted on any stream. -/
theorem withinCredit (start : fresh.Fresh) (id limit : Nat) : fresh.WithinCredit id limit where
  next := fun stream found => absurd found (start.absent id stream)
  pieces := fun streamType offset data member =>
    absurd rfl ((start.quiet id _ member).unissued streamType offset data)

/-- The credit of a stream starts with what the receiver advertised. -/
theorem credits (start : fresh.Fresh) {peer : Session} (other : peer.Fresh)
    (negotiated : peer.peerInitialStreamWindow = fresh.config.initialStreamWindow) (id : Nat) :
    Credits id fresh peer where
  negotiated := negotiated
  unopened := by
    refine fun _ => ⟨other.withinCredit id _, fun maxData member => ?_⟩
    rcases start.log _ member with ⟨cookie, same⟩ | ⟨record, same, -⟩ <;> cases same
  offset := fun _ stream found => absurd found (start.absent id stream)
  window := fun _ stream found => absurd found (start.absent id stream)
  granted := fun _ stream found => absurd found (start.absent id stream)
  taken := fun _ stream found => absurd found (start.absent id stream)

/-- Nothing was handed out and nothing reported. -/
theorem consumes (start : fresh.Fresh) (id : Nat) : fresh.Consumes id := by
  have delivered : fresh.deliveredBytes id = [] := flatMap_delivered_quiet (start.quiet id)
  have reported : fresh.reportedBytes id = 0 := sum_reported_quiet (start.quiet id)
  refine ⟨fun _ => ⟨delivered, reported⟩, by omega, fun _ stream found => ?_, fun _ stream found => ?_⟩
  · exact absurd found (start.absent id stream)
  · exact absurd found (start.absent id stream)

end Session.Fresh

namespace System

open Program ZtConnectionActor

section Windows

variable {CC : Type} [Hkdf] [HandshakeCrypto] [CongestionController CC] {master : Bytes}
  {system : System CC}

/-- The application reports as read only bytes it was given. -/
def ReportsDelivered (system : System CC) : Move → Prop
  | .act side (.streamDataRead streamId bytesRead) _ =>
    (system.actor side).reportedBytes streamId.toNat + bytesRead ≤
      ((system.actor side).deliveredBytes streamId.toNat).length
  | _ => True

omit [Hkdf] [HandshakeCrypto] [CongestionController CC] in
/-- Such a move asks for nothing the application may not do. -/
theorem ReportsDelivered.permits {move : Move} (reports : system.ReportsDelivered move) :
    system.Permits Session.MayReport move := by
  cases move with
  | deliver => trivial
  | act side event host =>
    cases event with
    | streamDataRead streamId bytesRead => exact .inr reports
    | outgoingData => exact fun _ => trivial
    | _ => trivial

omit [HandshakeCrypto] [CongestionController CC] in
/-- The windows each side starts from are those the other one advertised. -/
theorem Connected.negotiated (connected : system.Connected master) (side : Side) :
    (system.actor side.peer).peerInitialStreamWindow =
      (system.actor side).config.initialStreamWindow := by
  cases side
  · exact connected.serverWindow
  · exact connected.clientWindow

/-- In every run the credit of a stream is that of its receiver, which consumes what it hands out. -/
theorem ReachableWhile.credits (reached : ReachableWhile master ReportsDelivered system) (side : Side)
    (id : Nat) : Session.Credits id (system.actor side).toSession (system.actor side.peer).toSession ∧
      (system.actor side).Consumes id := by
  refine @ReachableWhile.invariant CC _ _ _ master _ system _
    (fun self peer => Session.Credits id self peer ∧ self.Consumes id)
    (fun system move reports => reports.permits) ?_ ?_ ?_ reached side
  · intro start connected side
    exact ⟨(connected.fresh side).credits (connected.fresh side.peer) (connected.negotiated side) id,
      (connected.fresh side).consumes id⟩
  · intro before after peer sound peerSound holds step
    exact ⟨holds.1.receive sound step, (step.change id).consumes sound holds.2⟩
  · intro self before after selfSound sound holds step
    exact ⟨holds.1.send sound selfSound step, holds.2⟩

/-- Data of the peer keeps to the limits of the stream that holds its first state. -/
theorem ReachableWhile.within (reached : ReachableWhile master ReportsDelivered system) {side : Side}
    {id offset : Nat} {streamType : StreamType} {data : Bytes}
    (heard : HeardFrame ((system.actor side.peer).environment fun _ _ => True).heard
      (.stream id streamType offset data))
    (once : (system.actor side).createdCount id ≤ 1) {stream : StreamState}
    (found : (system.actor side).streams.find? id = some stream) :
    offset + data.length ≤ saturatingAdd stream.expectedRxOffset stream.windowSize ∧
      (stream.receiveBuffer.readHead + stream.windowSize < u64Size →
        (stream.storing offset data).isSome = true) := by
  obtain ⟨credits, consumes⟩ := reached.credits side id
  obtain ⟨sentType, issued⟩ := heard_issued (reached.sound side.peer) heard
  -- The sender's credit is what the receiver takes, and its offsets are words.
  have taken := (credits.taken once stream found).pieces sentType offset data issued
  have word := ((reached.sound side.peer).log.issued _ issued).2.1
  have consumed := consumes.consumed once stream found
  have handed := consumes.head once stream found
  have reported := consumes.reported
  refine ⟨?_, fun headroom => ?_⟩
  · unfold saturatingAdd
    omega
  · exact StreamState.storing_isSome ((reached.sound side).streams id stream found).2 (by omega) taken
      headroom

/-- The same for the stream that data opens. -/
theorem ReachableWhile.within_new (reached : ReachableWhile master ReportsDelivered system)
    {side : Side} {id offset : Nat} {streamType : StreamType} {data : Bytes}
    (heard : HeardFrame ((system.actor side.peer).environment fun _ _ => True).heard
      (.stream id streamType offset data))
    (unopened : (system.actor side).createdCount id = 0) (localStreamType : StreamType) (now : Instant) :
    offset + data.length ≤ saturatingAdd 0 (system.actor side).config.initialStreamWindow ∧
      ((StreamState.new localStreamType (system.actor side).config.initialStreamWindow
        (system.actor side).peerInitialStreamWindow now).storing offset data).isSome = true := by
  obtain ⟨credits, -⟩ := reached.credits side id
  obtain ⟨sentType, issued⟩ := heard_issued (reached.sound side.peer) heard
  have taken := (credits.unopened unopened).1.pieces sentType offset data issued
  have word := ((reached.sound side.peer).log.issued _ issued).2.1
  -- The window was advertised in a word.
  have fits := (reached.sound side.peer).window
  rw [credits.negotiated] at fits
  refine ⟨?_, ?_⟩
  · unfold saturatingAdd
    omega
  · apply StreamState.storing_isSome (StreamState.new_sound _ _ _ (reached.sound side).window)
    · exact le_rfl
    · exact taken.trans (Nat.le_add_left _ _)
    · show 0 + (system.actor side).config.initialStreamWindow < u64Size
      omega

/-- A packet of the peer whose data meets a stream in its first state names no limit. -/
theorem ReachableWhile.answer (reached : ReachableWhile master ReportsDelivered system) {side : Side}
    {index : Nat} {record : SentRecord} (found : system.delivered? side index = some record)
    (kind : record.packet.header.pType.isProtected = true) {id offset : Nat}
    {streamType : StreamType} {data : Bytes}
    (carried : .stream id streamType offset data ∈ record.packet.frames)
    (once : (system.actor side).createdCount id ≤ 1) (kept : ¬ (system.actor side).Departed id)
    (addr : Address) (host : Host) :
    (exec (processIncomingPacket (arriving record) addr) (system.receiver side host)).1 ≠
        .error (.invalidPacket "Stream flow-control limit exceeded") ∧
      ((∀ stream, (system.actor side).streams.find? id = some stream →
          stream.receiveBuffer.readHead + stream.windowSize < u64Size) →
        (exec (processIncomingPacket (arriving record) addr) (system.receiver side host)).1 ≠
          .error (.invalidPacket "Stream receive window exceeded")) := by
  obtain ⟨plain, arrived⟩ := reached.arrived found kind
  obtain ⟨rest, frames, padding⟩ := plain.alone carried rfl
  have heard := (arrived _ carried).1
  rcases delivered_cases found kind addr host with drops | ⟨ready, handles⟩
  · -- A packet that is dropped is no invalid packet.
    have other : ∀ text, (exec (processIncomingPacket (arriving record) addr)
        (system.receiver side host)).1 ≠ .error (.invalidPacket text) := by
      intro text same
      rcases drops.answer _ same with wrong | ⟨reason, wrong⟩ <;> cases wrong
    exact ⟨other _, fun _ => other _⟩
  · obtain ⟨more, handled, -⟩ := handleFrames_single ready (.stream id streamType offset data) padding
      addr
    rw [handles.result, frames, handled]
    -- Until the frame is handled the table and what was negotiated stay as they were.
    have streams : ready.streams = (system.actor side).streams := handles.set.streams
    have constants : ready.config = (system.actor side).config ∧
        ready.peerInitialStreamWindow = (system.actor side).peerInitialStreamWindow :=
      @Program.invariant_run Session _ (fun session => session.config = (system.actor side).config ∧
        session.peerInitialStreamWindow = (system.actor side).peerInitialStreamWindow)
        (fun _ _ holds step =>
          ⟨step.constants.config.trans holds.1, step.constants.window.trans holds.2⟩)
        _ _ ⟨rfl, rfl⟩ handles.moves.1
    rcases handleStream_namesLimit ready id streamType offset data with
      ⟨stream, meets, names⟩ | ⟨noFlow, noWindow⟩
    · rcases meets with present | ⟨absent, localStreamType, rfl⟩
      · rw [streams] at present
        obtain ⟨within, stores⟩ := reached.within heard once present
        refine ⟨fun same => absurd (names.flow same) (by omega), fun headroom same => ?_⟩
        have stored := stores (headroom stream present)
        rw [names.window same] at stored
        cases stored
      · -- The stream was never open, since it did not leave the table.
        rw [streams] at absent
        have unopened : (system.actor side).createdCount id = 0 :=
          List.count_eq_zero.mpr fun created => kept ⟨created, absent⟩
        obtain ⟨within, stores⟩ := reached.within_new heard unopened localStreamType ready.host.now
        rw [← constants.1] at within
        rw [← constants.1, ← constants.2] at stores
        refine ⟨fun same => ?_, fun _ same => ?_⟩
        · have beyond : saturatingAdd 0 ready.config.initialStreamWindow < offset + data.length :=
            names.flow same
          omega
        · rw [names.window same] at stores
          cases stores
    · exact ⟨noFlow, fun _ => noWindow⟩

/--
In every run in which the applications report only bytes they were given, stream data of the peer
ends within the limit of the stream that still holds its first state, and its buffer takes it unless
the end of the buffer passes the largest word; so processing it names neither limit.
-/
theorem stream_limits_kept (reached : ReachableWhile master ReportsDelivered system) {side : Side}
    {index : Nat} {record : SentRecord} (found : system.delivered? side index = some record)
    (kind : record.packet.header.pType.isProtected = true) {id offset : Nat}
    {streamType : StreamType} {data : Bytes}
    (carried : .stream id streamType offset data ∈ record.packet.frames)
    (once : (system.actor side).createdCount id ≤ 1) :
    (∀ stream, (system.actor side).streams.find? id = some stream →
        offset + data.length ≤ saturatingAdd stream.expectedRxOffset stream.windowSize ∧
        (((system.actor side).deliveredBytes id).length + stream.windowSize < u64Size →
          stream.receiveBuffer.write (max offset stream.receiveBuffer.readHead)
            (data.drop (stream.receiveBuffer.readHead - offset)) ≠ none)) ∧
      (¬ (system.actor side).Departed id → ∀ addr host,
        (exec (processIncomingPacket (arriving record) addr) (system.receiver side host)).1 ≠
            .error (.invalidPacket "Stream flow-control limit exceeded") ∧
        ((∀ stream, (system.actor side).streams.find? id = some stream →
            ((system.actor side).deliveredBytes id).length + stream.windowSize < u64Size) →
          (exec (processIncomingPacket (arriving record) addr) (system.receiver side host)).1 ≠
            .error (.invalidPacket "Stream receive window exceeded"))) := by
  -- What was handed out is what the read head counts.
  have head := (reached.credits side id).2.head once
  have heard := ((reached.arrived found kind).2 _ carried).1
  refine ⟨fun stream held => ?_, fun kept addr host => ?_⟩
  · obtain ⟨within, stores⟩ := reached.within heard once held
    refine ⟨within, fun headroom refused => ?_⟩
    have stored := stores (by rw [head stream held]; exact headroom)
    rw [show stream.storing offset data = none from refused] at stored
    cases stored
  · obtain ⟨noFlow, noWindow⟩ := reached.answer found kind carried once kept addr host
    refine ⟨noFlow, fun headroom => noWindow fun stream held => ?_⟩
    rw [head stream held]
    exact headroom stream held

end Windows

section Sample

open Sample

/-- The client fills the window, the server's application reads, and the client goes on. -/
def refilled : List Move :=
  [.act .client (.openStream .bidirectional) (hostTaking 0),
    .act .client (.outgoingData 2 [1, 2, 3, 4]) (hostTaking 1), .deliver .server 0 0 (hostTaking 0),
    .act .server (.streamDataRead 2 4) (hostTaking 1), .deliver .client 0 0 (hostTaking 0),
    .act .client (.outgoingData 2 [5, 6]) (hostTaking 1)]

/-- The pair of endpoints when the client's second packet is under way. -/
def afterRefill : System RenoController := (Sample.system (config 2 4)).run refilled

/-- The second packet ends within the limit, which the reading raised, and names none. -/
theorem refilled_within :
    ∃ record stream, afterRefill.delivered? .server 1 = some record ∧
      (afterRefill.actor .server).streams.find? 2 = some stream ∧
      record.packet.frames = [.stream 2 .bidirectional 4 [5, 6]] ∧
      4 + 2 ≤ saturatingAdd stream.expectedRxOffset stream.windowSize ∧
      (exec (processIncomingPacket (arriving record) 0) (afterRefill.receiver .server (hostTaking 0))).1 ≠
        .error (.invalidPacket "Stream flow-control limit exceeded") := by
  -- The one report is about the four bytes handed out.
  have read : ∀ system : System RenoController, system.server.reportedBytes 2 + 4 ≤
      (system.server.deliveredBytes 2).length →
      system.ReportsDelivered (.act .server (.streamDataRead 2 4) (hostTaking 1)) :=
    fun _ reported => reported
  have reached : ReachableWhile [] ReportsDelivered afterRefill := by
    refine (@system_connected (config 2 4) rfl (by decide)).reachableWhile
      ⟨trivial, trivial, trivial, read _ ?_, trivial, trivial, trivial⟩
    decide +kernel
  have facts : (afterRefill.delivered? .server 1).map (fun record =>
      (record.packet.header.pType, record.packet.frames)) =
      some (.data, [.stream 2 .bidirectional 4 [5, 6]]) := by decide +kernel
  obtain ⟨record, found, same⟩ := Option.map_eq_some_iff.mp facts
  simp only [Prod.mk.injEq] at same
  obtain ⟨type, frames⟩ := same
  have once : (afterRefill.actor .server).createdCount 2 ≤ 1 := by decide +kernel
  have there : ((afterRefill.actor .server).streams.find? 2).isSome = true := by decide +kernel
  obtain ⟨stream, held⟩ := Option.isSome_iff_exists.mp there
  obtain ⟨within, answers⟩ := stream_limits_kept reached found (by rw [type]; rfl)
    (by rw [frames]; exact List.mem_cons_self) once
  have kept : ¬ (afterRefill.actor .server).Departed 2 := by
    rintro ⟨-, absent⟩
    rw [held] at absent
    cases absent
  exact ⟨record, stream, found, held, frames, (within stream held).1, (answers kept 0 (hostTaking 0)).1⟩

end Sample

end System

end Zetta
