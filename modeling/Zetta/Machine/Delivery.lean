import Mathlib.Algebra.BigOperators.Group.List.Basic
import Zetta.Machine.Sound

/-! What the steps of the machine do to one stream, and that it conveys its data in order. -/

namespace Zetta

/-- An effect that neither opens a stream nor accepts, delivers or reports data of it. -/
structure Effect.Quiet (id : Nat) (effect : Effect) : Prop where
  uncreated : effect ≠ .created id
  unissued : ∀ streamType offset data, effect ≠ .issued (.stream id streamType offset data)
  undelivered : effect.delivered id = []
  unreported : effect.bytesReported id = 0

/-- An effect that issues no data of a stream accepts none of it. -/
theorem Effect.Quiet.accepted {id : Nat} {effect : Effect} (quiet : effect.Quiet id) :
    effect.accepted id = [] := by
  cases effect with
  | issued payload =>
    cases payload with
    | stream streamId streamType offset data =>
      -- Data of another stream is not counted for this one.
      have other : streamId ≠ id := by
        rintro rfl
        exact quiet.unissued streamType offset data rfl
      simp [Effect.accepted, other]
    | _ => rfl
  | _ => rfl

/-- What one step of the machine does to one stream. -/
inductive StreamChange (env : Environment) (id : Nat) (before after : Session) : Prop
  /-- The stream stays as it was, or stays away. -/
  | untouched (more : List Effect) (log : after.log = before.log ++ more)
      (quiet : ∀ effect ∈ more, effect.Quiet id)
      (same : after.streams.find? id = before.streams.find? id)
  /-- The stream enters the table in its first state. -/
  | opened (streamType : StreamType) (now : Instant) (more : List Effect)
      (log : after.log = before.log ++ .created id :: more)
      (quiet : ∀ effect ∈ more, effect.Quiet id)
      (absent : before.streams.find? id = none)
      (stored : after.streams.find? id =
        some (.new streamType before.config.initialStreamWindow before.peerInitialStreamWindow now))
      -- The application asked for it, or data of the peer arrived for it.
      (cause : (env.acting ∧ id = before.nextStreamId) ∨ ∃ sentType offset data,
        HeardFrame env.heard (.stream id sentType offset data))
  /-- The stream leaves the table. -/
  | removed (more : List Effect) (log : after.log = before.log ++ more)
      (quiet : ∀ effect ∈ more, effect.Quiet id) (absent : after.streams.find? id = none)
      (cause : env.acting ∨ ∃ errorCode finalSize,
        HeardFrame env.heard (.resetStream id errorCode finalSize))
  /-- The stream takes a step of its own. -/
  | stepped (stream next : StreamState) (effects : List Effect)
      (log : after.log = before.log ++ effects) (found : before.streams.find? id = some stream)
      (stored : after.streams.find? id = some next)
      (step : StreamStep env.heard id stream next effects)
      (reads : ∀ bytes, .reported id bytes ∈ effects → bytes = 0 ∨ env.allowed before (.read id bytes))
      (writes : ∀ payload, .issued payload ∈ effects → env.allowed before (.write id))

/-- The effects of one stream's step are nothing to the others. -/
theorem StreamStep.quiet {heard : SentRecord → Prop} {id other : Nat} {before after : StreamState}
    {effects : List Effect} (step : StreamStep heard id before after effects) (differ : id ≠ other)
    (effect : Effect) (member : effect ∈ effects) : effect.Quiet other := by
  cases step with
  | accept data =>
    cases List.mem_singleton.mp member
    exact ⟨nofun, fun _ _ _ same => differ (by cases same; rfl), rfl, rfl⟩
  | forward prepared =>
    -- The report comes first, then the chunks.
    rcases List.mem_cons.mp member with rfl | chunk
    · exact ⟨nofun, nofun, rfl, by simp [Effect.bytesReported, differ]⟩
    · obtain ⟨bytes, -, rfl⟩ := List.mem_map.mp chunk
      exact ⟨nofun, nofun, by simp [Effect.delivered, differ], rfl⟩
  | limit | raise | bookkeeping | grow => cases member

section Change

variable [Hkdf]

/-- Sending concerns no stream. -/
theorem SendStep.change {before after : Session} (step : SendStep before after)
    (env : Environment) (id : Nat) : StreamChange env id before after := by
  have only := step.sentOnly
  obtain ⟨more, grown, sends⟩ := only.log
  refine .untouched more grown (fun effect member => ?_) ?_
  · cases sends effect member with
    | sent record => exact ⟨nofun, nofun, rfl, rfl⟩
    | rotated epoch => exact ⟨nofun, nofun, rfl, rfl⟩
  · have kept := congrArg Session.streams only.rest
    change after.streams = before.streams at kept
    rw [kept]

/-- Every step does one of these things to every stream. -/
theorem CoreStep.change {env : Environment} {before after : Session}
    (step : CoreStep env before after) (id : Nat) : StreamChange env id before after := by
  cases step with
  | setState state later => exact .untouched [] (by simp) (by simp) rfl
  | send step => exact step.change env id
  | issue payload issuable =>
    refine .untouched [.issued payload] rfl (fun effect member => ?_) rfl
    cases List.mem_singleton.mp member
    -- Data is never issued this way.
    refine ⟨nofun, fun streamType offset data same => ?_, rfl, rfl⟩
    cases same
    exact issuable
  | follow => exact .untouched [] (by simp) (by simp) rfl
  | credit frame => exact .untouched [] (by simp) (by simp) rfl
  | mark pn fits => exact .untouched [] (by simp) (by simp) rfl
  | openLocal streamType now acts absent fits =>
    by_cases same : before.nextStreamId = id
    · subst same
      exact .opened streamType now [] rfl (by simp) absent
        (SortedMap.find?_insert_self _ _ _) (.inl ⟨acts, rfl⟩)
    · refine .untouched [.created before.nextStreamId] rfl (fun effect member => ?_)
        (SortedMap.find?_insert_of_ne _ _ same)
      cases List.mem_singleton.mp member
      exact ⟨fun other => same (by cases other; rfl), nofun, rfl, rfl⟩
  | @openPeer opened offset sentType data streamType now absent fits parity frame =>
    by_cases same : opened = id
    · subst same
      refine .opened streamType now [.surfaced opened] rfl (fun effect member => ?_) absent
        (SortedMap.find?_insert_self _ _ _) (.inr ⟨_, _, _, frame⟩)
      cases List.mem_singleton.mp member
      exact ⟨nofun, nofun, rfl, rfl⟩
    · refine .untouched [.created opened, .surfaced opened] rfl (fun effect member => ?_)
        (SortedMap.find?_insert_of_ne _ _ same)
      rcases List.mem_cons.mp member with rfl | last
      · exact ⟨fun other => same (by cases other; rfl), nofun, rfl, rfl⟩
      · cases List.mem_singleton.mp last
        exact ⟨nofun, nofun, rfl, rfl⟩
  | @remove gone stream effect found removal =>
    have quiet : ∀ other ∈ [effect], Effect.Quiet id other := by
      intro other member
      cases List.mem_singleton.mp member
      cases removal <;> exact ⟨nofun, nofun, rfl, rfl⟩
    by_cases same : gone = id
    · subst same
      refine .removed [effect] rfl quiet (by simp) ?_
      cases removal with
      | closed acts => exact .inl acts
      | reset frame above => exact .inr ⟨_, _, frame⟩
    · exact .untouched [effect] rfl quiet (SortedMap.find?_erase_of_ne _ same)
  | @stream owner stream next effects found step reads writes credit =>
    by_cases same : owner = id
    · subst same
      exact .stepped stream next effects rfl found (SortedMap.find?_insert_self _ _ _) step reads writes
    · exact .untouched effects rfl (step.quiet same) (SortedMap.find?_insert_of_ne _ _ same)
  | handled frame known arrived settled =>
    refine .untouched [.handled frame known] rfl (fun effect member => ?_) rfl
    cases List.mem_singleton.mp member
    exact ⟨nofun, nofun, rfl, rfl⟩

end Change

section Growth

variable {env : Environment} {heard : SentRecord → Prop} {id : Nat} {before after : Session}
  {more : List Effect}

/-- Quiet effects accept no data of the stream. -/
theorem flatMap_accepted_quiet (quiet : ∀ effect ∈ more, effect.Quiet id) :
    more.flatMap (Effect.accepted id) = [] := by
  rw [List.flatMap_eq_nil_iff]
  intro effect member
  exact (quiet effect member).accepted

/-- Quiet effects deliver no data of the stream. -/
theorem flatMap_delivered_quiet (quiet : ∀ effect ∈ more, effect.Quiet id) :
    more.flatMap (Effect.delivered id) = [] := by
  rw [List.flatMap_eq_nil_iff]
  intro effect member
  exact (quiet effect member).undelivered

/-- Quiet effects report no data of the stream. -/
theorem sum_reported_quiet (quiet : ∀ effect ∈ more, effect.Quiet id) :
    (more.map (Effect.bytesReported id)).sum = 0 := by
  apply List.sum_eq_zero
  intro bytes member
  obtain ⟨effect, inside, rfl⟩ := List.mem_map.mp member
  exact (quiet effect inside).unreported

/-- Quiet effects open no stream. -/
theorem count_created_quiet (quiet : ∀ effect ∈ more, effect.Quiet id) :
    more.count (.created id) = 0 := by
  apply List.count_eq_zero.mpr
  intro member
  exact (quiet _ member).uncreated rfl

/-- What quiet effects leave alone, and what the opening of the stream does on top of them. -/
theorem history_quiet (log : after.log = before.log ++ more)
    (quiet : ∀ effect ∈ more, effect.Quiet id) :
    after.acceptedBytes id = before.acceptedBytes id ∧
      after.deliveredBytes id = before.deliveredBytes id ∧
      after.createdCount id = before.createdCount id := by
  simp only [Session.acceptedBytes, Session.deliveredBytes, Session.createdCount, log,
    List.flatMap_append, List.count_append, flatMap_accepted_quiet quiet,
    flatMap_delivered_quiet quiet, count_created_quiet quiet, List.append_nil, Nat.add_zero, and_self]

/-- Opening the stream conveys no data, and is counted. -/
theorem history_opened (log : after.log = before.log ++ .created id :: more)
    (quiet : ∀ effect ∈ more, effect.Quiet id) :
    after.acceptedBytes id = before.acceptedBytes id ∧
      after.deliveredBytes id = before.deliveredBytes id ∧
      after.createdCount id = before.createdCount id + 1 := by
  simp only [Session.acceptedBytes, Session.deliveredBytes, Session.createdCount, log,
    List.flatMap_append, List.count_append, List.flatMap_cons, List.count_cons_self,
    flatMap_accepted_quiet quiet, flatMap_delivered_quiet quiet, count_created_quiet quiet]
  simp [Effect.accepted, Effect.delivered]

/-- A step of the stream itself does not open it again. -/
theorem createdCount_stepped {stream next : StreamState} {effects : List Effect}
    (log : after.log = before.log ++ effects) (step : StreamStep heard id stream next effects) :
    after.createdCount id = before.createdCount id := by
  have none : effects.count (.created id) = 0 := List.count_eq_zero.mpr (step.uncreated id)
  simp only [Session.createdCount, log, List.count_append, none, Nat.add_zero]

/-- Streams are opened, never unopened. -/
theorem StreamChange.createdCount_le (change : StreamChange env id before after) :
    before.createdCount id ≤ after.createdCount id := by
  cases change with
  | untouched more log quiet same => exact (history_quiet log quiet).2.2.ge
  | opened streamType now more log quiet absent stored cause =>
    rw [(history_opened log quiet).2.2]
    exact Nat.le_succ _
  | removed more log quiet absent cause => exact (history_quiet log quiet).2.2.ge
  | stepped stream next effects log found stored step reads writes => exact (createdCount_stepped log step).ge

/-- What was accepted stays, and more may follow it. -/
theorem StreamChange.accepted_grows (change : StreamChange env id before after) :
    before.acceptedBytes id <+: after.acceptedBytes id := by
  have grows : ∀ more, after.log = before.log ++ more →
      before.acceptedBytes id <+: after.acceptedBytes id := by
    intro more log
    simp only [Session.acceptedBytes, log, List.flatMap_append]
    exact List.prefix_append _ _
  cases change with
  | untouched more log quiet same => exact grows more log
  | opened streamType now more log quiet absent stored cause => exact grows _ log
  | removed more log quiet absent cause => exact grows more log
  | stepped stream next effects log found stored step reads writes => exact grows effects log

end Growth

section Sender

/-- Where the data of one stream lies on the sender's side. -/
structure Session.Placed (session : Session) (id : Nat) : Prop where
  fresh : session.createdCount id = 0 → session.acceptedBytes id = []
  next : ∀ stream, session.streams.find? id = some stream →
    stream.nextTxOffset = (session.acceptedBytes id).length
  /-- Data that was issued is what was accepted at its offset. -/
  pieces : ∀ streamType offset data, .issued (.stream id streamType offset data) ∈ session.log →
    data <+: (session.acceptedBytes id).drop offset

variable {env : Environment} {heard : SentRecord → Prop} {id : Nat} {before after : Session}

/-- What precedes a forwarding round leaves the transmit half alone. -/
theorem StreamState.Prepared.nextTxOffset {bytesRead : Nat} {stream base : StreamState}
    (prepared : StreamState.Prepared heard id stream base bytesRead) :
    base.nextTxOffset = stream.nextTxOffset := by
  cases prepared <;> rfl

/-- A forwarding round leaves the transmit half alone. -/
theorem StreamState.Sound.forward_nextTxOffset {stream : StreamState} (sound : stream.Sound) :
    stream.pumpAll.2.finish.nextTxOffset = stream.nextTxOffset := by
  have rest := (pumpAll_forwarded sound.buffer).rest
  rw [finish_eq]
  show stream.pumpAll.2.nextTxOffset = stream.nextTxOffset
  rw [rest]

/-- A step of a stream accepts data at the next offset, or leaves the transmit half where it is. -/
theorem StreamStep.sending {stream next : StreamState} {effects : List Effect}
    (step : StreamStep heard id stream next effects) (sound : stream.Sound) :
    (∃ data, next.nextTxOffset = stream.nextTxOffset + data.length ∧
        effects = [.issued (.stream id stream.streamType stream.nextTxOffset data)]) ∨
      (next.nextTxOffset = stream.nextTxOffset ∧ effects.flatMap (Effect.accepted id) = [] ∧
        ∀ payload, .issued payload ∉ effects) := by
  cases step with
  | accept data open_ writable fits => exact .inl ⟨data, rfl, rfl⟩
  | forward prepared =>
    -- A report and some chunks are all that is left in the history.
    refine .inr ⟨?_, ?_, by simp⟩
    · rw [(prepared.sound sound).forward_nextTxOffset, prepared.nextTxOffset]
    · simp [Effect.accepted, List.flatMap_map]
  | bookkeeping kept =>
    refine .inr ⟨?_, rfl, by simp⟩
    rw [kept.rest]
  | limit | raise | grow => exact .inr ⟨rfl, rfl, by simp⟩

/-- A piece stays in its place as more is accepted after it. -/
theorem piece_append {piece accepted : Bytes} {offset : Nat} (placed : piece <+: accepted.drop offset)
    (more : Bytes) : piece <+: (accepted ++ more).drop offset := by
  rw [List.drop_append]
  exact placed.trans (List.prefix_append _ _)

/-- Pieces stay in their places while no data of the stream is issued. -/
theorem Session.Placed.pieces_silent (placed : before.Placed id) {more : List Effect}
    (log : after.log = before.log ++ more)
    (silent : ∀ streamType offset data, .issued (.stream id streamType offset data) ∉ more)
    (accepted : after.acceptedBytes id = before.acceptedBytes id) (streamType : StreamType)
    (offset : Nat) (data : Bytes) (member : .issued (.stream id streamType offset data) ∈ after.log) :
    data <+: (after.acceptedBytes id).drop offset := by
  rw [accepted]
  rw [log] at member
  rcases List.mem_append.mp member with old | new
  · exact placed.pieces streamType offset data old
  · exact absurd new (silent streamType offset data)

/-- Every step keeps the data of a stream in its place, as long as the stream is opened only once. -/
theorem StreamChange.placed (change : StreamChange env id before after) (sound : before.Sound)
    (once : after.createdCount id ≤ 1) (placed : before.Placed id) : after.Placed id := by
  cases change with
  | untouched more log quiet same =>
    obtain ⟨accepted, -, count⟩ := history_quiet log quiet
    refine ⟨?_, ?_, ?_⟩
    · rw [accepted, count]
      exact placed.fresh
    · rw [accepted, same]
      exact placed.next
    · exact placed.pieces_silent log (fun streamType offset data member =>
        (quiet _ member).unissued streamType offset data rfl) accepted
  | opened streamType now more log quiet absent stored cause =>
    obtain ⟨accepted, -, count⟩ := history_opened log quiet
    -- It was never open before, so nothing was accepted for it.
    have none : before.acceptedBytes id = [] := placed.fresh (by omega)
    refine ⟨fun zero => absurd zero (by omega), fun stream found => ?_, ?_⟩
    · rw [stored] at found
      cases found
      rw [accepted, none]
      rfl
    · refine placed.pieces_silent log (fun pieceType offset data member => ?_) accepted
      rcases List.mem_cons.mp member with same | later
      · cases same
      · exact (quiet _ later).unissued pieceType offset data rfl
  | removed more log quiet absent cause =>
    obtain ⟨accepted, -, count⟩ := history_quiet log quiet
    refine ⟨?_, fun stream found => ?_, ?_⟩
    · rw [accepted, count]
      exact placed.fresh
    · rw [absent] at found
      cases found
    · exact placed.pieces_silent log (fun streamType offset data member =>
        (quiet _ member).unissued streamType offset data rfl) accepted
  | stepped stream next effects log found stored step reads writes =>
    have nonzero : after.createdCount id ≠ 0 := by
      rw [createdCount_stepped log step]
      intro zero
      exact List.count_eq_zero.mp zero (sound.names.table id stream found)
    have position := placed.next stream found
    have grown : after.acceptedBytes id =
        before.acceptedBytes id ++ effects.flatMap (Effect.accepted id) := by
      simp only [Session.acceptedBytes, log, List.flatMap_append]
    rcases step.sending (sound.streams id stream found).2 with ⟨data, moved, rfl⟩ | ⟨kept, quiet, silent⟩
    · -- The new data starts where the accepted data ended.
      have added : [Effect.issued (.stream id stream.streamType stream.nextTxOffset data)].flatMap
          (Effect.accepted id) = data := by simp [Effect.accepted]
      rw [added] at grown
      refine ⟨fun zero => absurd zero nonzero, fun current held => ?_, ?_⟩
      · rw [stored] at held
        cases held
        rw [moved, grown, List.length_append, position]
      · intro pieceType offset piece member
        rw [grown]
        rw [log] at member
        rcases List.mem_append.mp member with old | new
        · exact piece_append (placed.pieces pieceType offset piece old) data
        · cases List.mem_singleton.mp new
          have tail : (before.acceptedBytes id ++ data).drop stream.nextTxOffset = data := by
            rw [position, List.drop_append_of_le_length le_rfl, List.drop_length, List.nil_append]
          exact ⟨[], (List.append_nil data).trans tail.symm⟩
    · -- Nothing was accepted.
      rw [quiet, List.append_nil] at grown
      refine ⟨fun zero => absurd zero nonzero, fun current held => ?_, ?_⟩
      · rw [stored] at held
        cases held
        rw [kept, grown, position]
      · exact placed.pieces_silent log (fun _ _ _ => silent _) grown

end Sender

section Receiver

/-- A stream on the receiver's side agrees with the source of its data. -/
structure StreamState.Carries (stream : StreamState) (delivered source : Bytes) : Prop where
  handed : delivered <+: source
  head : stream.receiveBuffer.readHead = delivered.length
  /-- What is held is the source's data at its position. -/
  held : ∀ position, stream.receiveBuffer.Covered position →
    position < source.length ∧ stream.receiveBuffer.byteAt position = source[position]?

namespace StreamState

variable {heard : SentRecord → Prop} {id : Nat} {delivered source : Bytes} {stream : StreamState}

/-- Only the buffer matters. -/
theorem Carries.of_buffer {other : StreamState} (carries : stream.Carries delivered source)
    (same : other.receiveBuffer = stream.receiveBuffer) : other.Carries delivered source := by
  refine ⟨carries.handed, ?_, ?_⟩
  · rw [same]
    exact carries.head
  · rw [same]
    exact carries.held

/-- A position inside a piece of the source shows the piece's byte. -/
theorem piece_get {piece : Bytes} {offset position : Nat} (placed : piece <+: source.drop offset)
    (lower : offset ≤ position) (upper : position < offset + piece.length) :
    position < source.length ∧ source[position]? = piece[position - offset]? := by
  obtain ⟨rest, joined⟩ := placed
  have length := congrArg List.length joined
  simp only [List.length_append, List.length_drop] at length
  -- The source from the offset on starts with the piece.
  have read : source[position]? = (source.drop offset)[position - offset]? := by
    rw [List.getElem?_drop, Nat.add_sub_cancel' lower]
  refine ⟨by omega, ?_⟩
  rw [read, ← joined, List.getElem?_append_left (by omega)]

/-- Data that arrives is written where the source has it. -/
theorem Carries.write {offset added : Nat} {data : Bytes} {receiveBuffer : StreamReceiveBuffer}
    (carries : stream.Carries delivered source) (sound : stream.Sound)
    (placed : data <+: source.drop offset)
    (accepted : stream.receiveBuffer.write (max offset stream.receiveBuffer.readHead)
      (data.drop (stream.receiveBuffer.readHead - offset)) = some (added, receiveBuffer)) :
    ({ stream with receiveBuffer := receiveBuffer } : StreamState).Carries delivered source := by
  have written := StreamReceiveBuffer.write_written sound.buffer (Nat.le_max_right _ _) accepted
  refine ⟨carries.handed, written.readHead.trans carries.head, fun position covered => ?_⟩
  -- The bytes of this write come from the piece, all others were there before.
  by_cases inside : max offset stream.receiveBuffer.readHead ≤ position ∧
      position < max offset stream.receiveBuffer.readHead +
        (data.drop (stream.receiveBuffer.readHead - offset)).length
  · have length : (data.drop (stream.receiveBuffer.readHead - offset)).length =
        data.length - (stream.receiveBuffer.readHead - offset) := List.length_drop
    obtain ⟨bound, byte⟩ := piece_get placed (by omega) (show position < offset + data.length by omega)
    refine ⟨bound, ?_⟩
    have fresh := written.fresh position inside.1 inside.2
    rw [List.getElem?_drop] at fresh
    show receiveBuffer.byteAt position = _
    rw [fresh, byte]
    congr 1
    omega
  · rcases (written.covered position).mp covered with old | new
    · obtain ⟨bound, byte⟩ := carries.held position old
      exact ⟨bound, (written.kept position old inside).trans byte⟩
    · exact absurd new inside

/-- What precedes a forwarding round keeps the agreement. -/
theorem Prepared.carries {bytesRead : Nat} {base : StreamState}
    (prepared : Prepared heard id stream base bytesRead) (sound : stream.Sound)
    (placed : ∀ streamType offset data, HeardFrame heard (.stream id streamType offset data) →
      data <+: source.drop offset)
    (carries : stream.Carries delivered source) : base.Carries delivered source := by
  cases prepared with
  | wrote frame accepted => exact (carries.write sound (placed _ _ _ frame) accepted).of_buffer rfl
  | concluded frame above same => exact carries.of_buffer rfl
  | consumed bytesRead => exact carries.of_buffer rfl

/-- A forwarding round hands out the source's next bytes. -/
theorem Carries.forward (carries : stream.Carries delivered source) (sound : stream.Sound) :
    stream.pumpAll.2.finish.Carries (delivered ++ stream.pumpAll.1.flatten) source := by
  have forwarded := pumpAll_forwarded sound.buffer
  have buffer : stream.pumpAll.2.finish.receiveBuffer = stream.pumpAll.2.receiveBuffer := by
    rw [finish_eq]
  have handed := forwarded.handed
  have moved := forwarded.readHead
  generalize stream.pumpAll.1.flatten = chunk at handed moved ⊢
  have head := carries.head
  obtain ⟨rest, joined⟩ := carries.handed
  -- Byte by byte, the chunk is what the source has after the delivered part.
  have next : ∀ index, index < chunk.length → chunk[index]? = rest[index]? := by
    intro index inside
    obtain ⟨covered, byte⟩ := handed index inside
    have same := (carries.held _ covered).2
    rw [byte, same, ← joined, head, List.getElem?_append_right (by omega)]
    congr 1
    omega
  have piece : chunk <+: rest := by
    rw [List.prefix_iff_eq_take]
    apply List.ext_getElem?
    intro index
    by_cases inside : index < chunk.length
    · rw [List.getElem?_take, if_pos inside]
      exact next index inside
    · rw [List.getElem?_eq_none (by omega), List.getElem?_take, if_neg inside]
  refine ⟨?_, ?_, ?_⟩
  · rw [← joined]
    exact (List.prefix_append_right_inj delivered).mpr piece
  · rw [buffer, moved, List.length_append, head]
  · -- What is still held was held before, at the same place.
    rw [buffer]
    intro position covered
    have before := ((forwarded.covered position).mp covered).1
    rw [forwarded.kept position]
    exact carries.held position before

end StreamState

variable {env : Environment} {heard : SentRecord → Prop} {id : Nat}

/-- Every step of a stream keeps the agreement with its source. -/
theorem StreamStep.carries {stream next : StreamState} {effects : List Effect}
    {delivered source : Bytes} (step : StreamStep heard id stream next effects) (sound : stream.Sound)
    (placed : ∀ streamType offset data, HeardFrame heard (.stream id streamType offset data) →
      data <+: source.drop offset)
    (carries : stream.Carries delivered source) :
    next.Carries (delivered ++ effects.flatMap (Effect.delivered id)) source := by
  cases step with
  | accept data open_ writable fits =>
    rw [show [Effect.issued _].flatMap (Effect.delivered id) = [] from rfl, List.append_nil]
    exact carries.of_buffer rfl
  | @forward base bytesRead prepared =>
    have chunks : (Effect.reported id bytesRead :: base.pumpAll.1.map (Effect.pushed id)).flatMap
        (Effect.delivered id) = base.pumpAll.1.flatten := by
      simp [Effect.delivered, List.flatMap_map]
    rw [chunks]
    exact (prepared.carries sound placed carries).forward (prepared.sound sound)
  | bookkeeping kept =>
    rw [List.flatMap_nil, List.append_nil]
    exact carries.of_buffer (by rw [kept.rest])
  | grow newWindow larger =>
    -- The data moves to a larger buffer, byte by byte.
    rw [List.flatMap_nil, List.append_nil]
    have resized := StreamReceiveBuffer.resize_resized sound.buffer
      (show stream.receiveBuffer.capacity ≤ newWindow by rw [sound.capacity]; exact larger)
    refine ⟨carries.handed, resized.readHead.trans carries.head, fun position covered => ?_⟩
    have before := (resized.covered position).mp covered
    obtain ⟨bound, byte⟩ := carries.held position before
    exact ⟨bound, (resized.kept position before).trans byte⟩
  | limit | raise =>
    rw [List.flatMap_nil, List.append_nil]
    exact carries.of_buffer rfl

/-- What a receiver was given of one stream, and what it holds of it, agree with a source. -/
structure Session.Conveys (receiver : Session) (id : Nat) (source : Bytes) : Prop where
  fresh : receiver.createdCount id = 0 → receiver.deliveredBytes id = []
  handed : receiver.deliveredBytes id <+: source
  stream : ∀ stream, receiver.streams.find? id = some stream →
    stream.Carries (receiver.deliveredBytes id) source

/-- The agreement stays as the source grows. -/
theorem Session.Conveys.extend {receiver : Session} {source longer : Bytes}
    (conveys : receiver.Conveys id source) (grown : source <+: longer) :
    receiver.Conveys id longer := by
  refine ⟨conveys.fresh, conveys.handed.trans grown, fun stream found => ?_⟩
  have carries := conveys.stream stream found
  obtain ⟨rest, rfl⟩ := grown
  refine ⟨carries.handed.trans (List.prefix_append _ _), carries.head, fun position covered => ?_⟩
  obtain ⟨bound, byte⟩ := carries.held position covered
  refine ⟨by simpa using Nat.lt_add_right rest.length bound, ?_⟩
  rw [byte, List.getElem?_append_left bound]

/-- Every step keeps the agreement, as long as the stream is opened only once. -/
theorem StreamChange.conveys {before after : Session} {source : Bytes}
    (change : StreamChange env id before after) (sound : before.Sound)
    (once : after.createdCount id ≤ 1)
    (placed : ∀ streamType offset data, HeardFrame env.heard (.stream id streamType offset data) →
      data <+: source.drop offset)
    (conveys : before.Conveys id source) : after.Conveys id source := by
  cases change with
  | untouched more log quiet same =>
    obtain ⟨-, delivered, count⟩ := history_quiet log quiet
    refine ⟨?_, ?_, ?_⟩
    · rw [delivered, count]
      exact conveys.fresh
    · rw [delivered]
      exact conveys.handed
    · rw [delivered, same]
      exact conveys.stream
  | opened streamType now more log quiet absent stored cause =>
    obtain ⟨-, delivered, count⟩ := history_opened log quiet
    -- Nothing was delivered while the stream had never been open.
    have none : before.deliveredBytes id = [] := conveys.fresh (by omega)
    rw [none] at delivered
    refine ⟨fun zero => absurd zero (by omega), ?_, fun stream found => ?_⟩
    · rw [delivered]
      exact List.nil_prefix
    · rw [stored] at found
      cases found
      rw [delivered]
      refine ⟨List.nil_prefix, rfl, fun position covered => ?_⟩
      obtain ⟨range, member, -⟩ := covered
      cases member
  | removed more log quiet absent cause =>
    obtain ⟨-, delivered, count⟩ := history_quiet log quiet
    refine ⟨?_, ?_, fun stream found => ?_⟩
    · rw [delivered, count]
      exact conveys.fresh
    · rw [delivered]
      exact conveys.handed
    · rw [absent] at found
      cases found
  | stepped stream next effects log found stored step reads writes =>
    have grown : after.deliveredBytes id =
        before.deliveredBytes id ++ effects.flatMap (Effect.delivered id) := by
      simp only [Session.deliveredBytes, log, List.flatMap_append]
    have carries := step.carries (sound.streams id stream found).2 placed (conveys.stream stream found)
    rw [← grown] at carries
    refine ⟨fun zero => ?_, carries.handed, fun current held => ?_⟩
    · -- A stream of the table was opened before.
      rw [createdCount_stepped log step] at zero
      exact absurd (sound.names.table id stream found) (List.count_eq_zero.mp zero)
    · rw [stored] at held
      cases held
      exact carries

end Receiver

end Zetta
