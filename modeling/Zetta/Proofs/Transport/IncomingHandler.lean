import Zetta.Proofs.Transport.PacketSender

/-! Every handler of incoming packets follows the machine, and what it answers says what it kept. -/

namespace Zetta

namespace StreamState

/-- A stream has gone on without losing data or its final size. -/
structure Advances (before after : StreamState) : Prop where
  final : after.finalRxOffset = before.finalRxOffset
  retained : ∀ position,
    position < before.receiveBuffer.readHead ∨ before.receiveBuffer.Covered position →
      position < after.receiveBuffer.readHead ∨ after.receiveBuffer.Covered position

/-- Going on step by step. -/
theorem Advances.trans {before middle after : StreamState} (first : Advances before middle)
    (second : Advances middle after) : Advances before after :=
  ⟨second.final.trans first.final, fun _ held => second.retained _ (first.retained _ held)⟩

/-- What was retained stays so. -/
theorem Advances.keeps {before after : StreamState} (advances : Advances before after)
    {offset length : Nat} (retained : before.Retained offset length) :
    after.Retained offset length :=
  fun position lower upper => advances.retained position (retained position lower upper)

/-- A forwarding round hands data out in order and forgets nothing else. -/
theorem Sound.forward_advances {stream : StreamState} (sound : stream.Sound) :
    Advances stream stream.pumpAll.2.finish := by
  have forwarded := pumpAll_forwarded sound.buffer
  have rest := forwarded.rest
  generalize stream.pumpAll.2 = pumped at forwarded rest ⊢
  rw [finish_eq]
  refine ⟨?_, fun position held => ?_⟩
  · show pumped.finalRxOffset = stream.finalRxOffset
    rw [rest]
  · -- What is no longer covered was handed out, and lies below the read head now.
    show position < pumped.receiveBuffer.readHead ∨ pumped.receiveBuffer.Covered position
    have head := forwarded.readHead
    rcases held with below | covered
    · left
      omega
    · by_cases passed : position < pumped.receiveBuffer.readHead
      · exact .inl passed
      · exact .inr ((forwarded.covered position).mpr ⟨covered, not_lt.mp passed⟩)

/-- Accounting changes no data. -/
theorem Bookkeeping.advances {before after : StreamState} (kept : Bookkeeping before after) :
    Advances before after := by
  rw [kept.rest]
  exact ⟨rfl, fun position held => held⟩

/-- Growing the window moves the data and keeps it. -/
theorem Sound.grow_advances {stream : StreamState} (sound : stream.Sound) {newWindow : Nat}
    (larger : stream.windowSize ≤ newWindow) :
    Advances stream { stream with
      receiveBuffer := stream.receiveBuffer.resize newWindow, windowSize := newWindow } := by
  have resized := StreamReceiveBuffer.resize_resized sound.buffer
    (show stream.receiveBuffer.capacity ≤ newWindow by rw [sound.capacity]; exact larger)
  refine ⟨rfl, fun position held => ?_⟩
  rcases held with below | covered
  · exact .inl (resized.readHead.symm ▸ below)
  · exact .inr ((resized.covered position).mpr covered)

/-- Counting what was read is accounting, and a window that should grow is a larger one. -/
theorem considerScaling_spec (stream : StreamState) (consumed : Nat) (rtt : Duration)
    (maxStreamWindow : Nat) (now : Instant) :
    Bookkeeping stream (stream.considerScaling consumed rtt maxStreamWindow now).2 ∧
      ∀ newWindow, (stream.considerScaling consumed rtt maxStreamWindow now).1 = some newWindow →
        (stream.considerScaling consumed rtt maxStreamWindow now).2.windowSize < newWindow := by
  unfold considerScaling
  split
  · dsimp only
    split
    · refine ⟨⟨rfl, le_rfl, id, id, rfl⟩, fun newWindow grows => ?_⟩
      -- The window is doubled only when that makes it larger.
      dsimp only at grows
      split at grows
      · rename_i scaled
        cases grows
        exact scaled.2
      · cases grows
    · exact ⟨⟨rfl, le_rfl, id, id, rfl⟩, nofun⟩
  · exact ⟨⟨rfl, le_rfl, id, id, rfl⟩, nofun⟩

end StreamState

namespace ZtConnectionActor

open Program

variable {CC : Type} [Hkdf] {env : Environment}

/-- A step of a stream that leaves nothing in the history. -/
theorem Moves.stream {self : ZtConnectionActor CC} {id : Nat} {before after : StreamState}
    (found : self.streams.find? id = some before) (step : StreamStep env.heard id before after []) :
    Moves env self (self.putStream id after) := by
  have taken : CoreStep env self.toSession _ :=
    .stream found step (by simp) (by simp) (Nat.zero_le _)
  rw [List.append_nil] at taken
  exact .single taken rfl

/-- The actor moved along the machine, and a stream went on from a given state. -/
structure Keeps (env : Environment) (origin : ZtConnectionActor CC) (id : Nat) (base : StreamState)
    (after : ZtConnectionActor CC) : Prop where
  moves : Moves env origin after
  stream : ∃ final, after.streams.find? id = some final ∧ base.Advances final

namespace Keeps

variable {origin middle after : ZtConnectionActor CC} {id : Nat} {base : StreamState}

/-- A further step of the stream, in the machine and in what it retains. -/
theorem step (keeps : Keeps env origin id base middle) {current next : StreamState}
    (found : middle.streams.find? id = some current) (step : StreamStep env.heard id current next [])
    (advances : current.Advances next)
    (same : after.toSession =
      { middle.toSession with streams := middle.streams.insert id next })
    (outer : after.outer = middle.outer) : Keeps env origin id base after := by
  obtain ⟨final, stored, earlier⟩ := keeps.stream
  rw [found] at stored
  cases stored
  have moved : Moves env middle after := (Moves.stream found step).trans (.of_same same outer)
  refine ⟨keeps.moves.trans moved, next, ?_, earlier.trans advances⟩
  show after.toSession.streams.find? id = some next
  rw [same]
  exact SortedMap.find?_insert_self _ _ _

/-- Steps afterwards that leave the table of streams alone. -/
theorem quiet (keeps : Keeps env origin id base middle) (moves : Moves env middle after)
    (streams : after.streams = middle.streams) : Keeps env origin id base after := by
  refine ⟨keeps.moves.trans moves, ?_⟩
  rw [streams]
  exact keeps.stream

/-- Sending afterwards leaves the stream alone. -/
theorem sends (keeps : Keeps env origin id base middle) (sends : Sends middle after) :
    Keeps env origin id base after :=
  keeps.quiet (.of_sends sends) sends.streams

end Keeps

/-- Draining a stream is a forwarding round and some accounting. -/
theorem drainStream_keeps {origin self : ZtConnectionActor CC} {id bytesRead : Nat}
    {before stream : StreamState} (sound : origin.Sound)
    (found : origin.streams.find? id = some before)
    (same : self.toSession =
      { origin.toSession with streams := origin.streams.insert id stream })
    (outer : self.outer = origin.outer)
    (prepared : StreamState.Prepared env.heard id before (stream.consume bytesRead).2 bytesRead)
    (reads : bytesRead = 0 ∨ env.allowed origin.toSession (.read id bytesRead)) :
    Keeps env origin id (stream.consume bytesRead).2 (self.drainStream id bytesRead stream).2.2 ∧
      ∀ newWindow, (self.drainStream id bytesRead stream).2.1 = some newWindow →
        ∃ final, (self.drainStream id bytesRead stream).2.2.streams.find? id = some final ∧
          final.windowSize < newWindow := by
  have baseSound := prepared.sound (sound.streams id before found).2
  -- The forwarding round leaves its report and the chunks in the history, and accepts nothing.
  have free : ((Effect.reported id bytesRead ::
      (stream.consume bytesRead).2.pumpAll.1.map (Effect.pushed id)).flatMap
        (Effect.accepted id)).length = 0 := by simp [Effect.accepted, List.flatMap_map]
  have forwarded := CoreStep.stream found (.forward prepared) (by
    intro bytes member
    have same : bytes = bytesRead := by simpa using member
    rw [same]
    exact reads) (by simp) (by rw [free]; exact Nat.zero_le _)
  rw [free, Nat.sub_zero] at forwarded
  have advances := baseSound.forward_advances
  generalize base : (stream.consume bytesRead).2 = prior at forwarded advances
  generalize finished : prior.pumpAll.2.finish = final at forwarded advances
  have round : Keeps env origin id prior
      { self.putStream id final with
        log := self.log ++ [.reported id bytesRead] ++ prior.pumpAll.1.map (.pushed id) } := by
    refine ⟨.single ?_ outer, final, SortedMap.find?_insert_self _ _ _, advances⟩
    convert forwarded using 1
    show { self.toSession with
      streams := self.streams.insert id final
      log := self.log ++ [Effect.reported id bytesRead] ++ prior.pumpAll.1.map (Effect.pushed id) } = _
    rw [same]
    simp
  -- What follows is accounting, and tells whether the window should grow.
  obtain ⟨accounting, grows⟩ := final.considerScaling_spec (stream.consume bytesRead).1 self.rtt
    self.config.maxStreamWindow self.host.now
  unfold drainStream
  simp only [base, finished]
  refine ⟨round.step (SortedMap.find?_insert_self _ _ _) (.bookkeeping accounting)
    accounting.advances ?_ rfl, fun newWindow scaled => ⟨_, SortedMap.find?_insert_self _ _ _,
      grows newWindow scaled⟩⟩
  simp only [putStream, SortedMap.insert_insert]

/-- A larger window keeps the stream, and is not granted when memory is short. -/
theorem scaleUpStream_keeps {origin self : ZtConnectionActor CC} {id newWindow : Nat}
    {base current : StreamState} (keeps : Keeps env origin id base self) (sound : origin.Sound)
    (found : self.streams.find? id = some current) (larger : current.windowSize < newWindow) :
    Keeps env origin id base (self.scaleUpStream id newWindow) := by
  have currentSound := ((keeps.moves.sound sound).streams id current found).2
  unfold scaleUpStream
  rw [found]
  dsimp only
  split
  · exact keeps.step found (.grow newWindow larger.le) (currentSound.grow_advances larger.le) rfl rfl
  · exact keeps

variable [HandshakeCrypto]

/-- Moving data to the application keeps the stream, and tells the peer of a larger window. -/
theorem forwardStreamData_keeps {origin self : ZtConnectionActor CC} {id bytesRead : Nat}
    {before stream : StreamState} (sound : origin.Sound)
    (found : origin.streams.find? id = some before)
    (same : self.toSession =
      { origin.toSession with streams := origin.streams.insert id stream })
    (outer : self.outer = origin.outer)
    (prepared : StreamState.Prepared env.heard id before (stream.consume bytesRead).2 bytesRead)
    (reads : bytesRead = 0 ∨ env.allowed origin.toSession (.read id bytesRead)) :
    Keeps env origin id (stream.consume bytesRead).2
      (exec (forwardStreamData id bytesRead) self).2 := by
  obtain ⟨drained, grows⟩ := drainStream_keeps sound found same outer prepared reads
  have stored : self.streams.find? id = some stream := by
    have streams := congrArg Session.streams same
    change self.streams = origin.streams.insert id stream at streams
    rw [streams, SortedMap.find?_insert_self]
  unfold forwardStreamData
  rw [exec_bind_get, stored]
  dsimp only
  rw [exec_bind_set, exec_bind_modify, exec_bind_get]
  -- The window may have grown before the new limit is computed.
  have scaled : Keeps env origin id (stream.consume bytesRead).2
      ((self.drainStream id bytesRead stream).2.1.elim (self.drainStream id bytesRead stream).2.2
        (scaleUpStream id · (self.drainStream id bytesRead stream).2.2)) := by
    cases window : (self.drainStream id bytesRead stream).2.1 with
    | none => exact drained
    | some newWindow =>
      obtain ⟨current, held, larger⟩ := grows newWindow window
      exact scaleUpStream_keeps drained sound held larger
  generalize (self.drainStream id bytesRead stream).2.1.elim (self.drainStream id bytesRead stream).2.2
    (scaleUpStream id · (self.drainStream id bytesRead stream).2.2) = ready at scaled ⊢
  split
  · exact scaled
  · rename_i current held
    split
    · rw [exec_bind_modify, exec_bind_modify]
      have small := (sound.streams id before found).1
      -- The new limit is noted, issued and sent.
      have accounting : StreamState.Bookkeeping current { current with
          lastSentMaxData := wrappingAdd current.expectedRxOffset current.windowSize } :=
        ⟨rfl, le_rfl, fun inside => inside, fun alive => alive, rfl⟩
      have noted : Keeps env origin id (stream.consume bytesRead).2 (ready.putStream id _) :=
        scaled.step held (.bookkeeping accounting) accounting.advances rfl rfl
      have issued : Keeps env origin id (stream.consume bytesRead).2 ((ready.putStream id _).note _) :=
        noted.quiet (.single (.issue (.maxStreamData id
        (wrappingAdd current.expectedRxOffset current.windowSize))
          ⟨small, _, SortedMap.find?_insert_self _ _ _, rfl⟩) rfl) rfl
      refine issued.sends (retransmitPayload_sends (issued.moves.sound sound) ?_ 0)
      exact List.mem_append_right _ List.mem_cons_self
    · exact scaled

/-- Starting to close leaves the connection closing, whatever happens to the packet. -/
theorem initiateClose_closing {self : ZtConnectionActor CC} (sound : self.Sound) :
    (exec initiateClose self).2.state = .closing := by
  unfold initiateClose sendPayload
  rw [exec_bind_modify, exec_bind_modify]
  have marked : Moves ⟨fun _ => False, fun _ _ => False, False⟩ self { self with state := .closing } :=
    .single (.setState .closing (by decide)) rfl
  have closing : Moves ⟨fun _ => False, fun _ _ => False, False⟩ { self with state := .closing }
      (note (.issued .close) { self with state := .closing }) := .single (.issue .close trivial) rfl
  have sent := retransmitPayload_sends (closing.sound (marked.sound sound))
    (List.mem_append_right _ List.mem_cons_self) 0
  exact sent.state

/-- A handler failed and the connection is closing. -/
structure Closing (env : Environment) (origin : ZtConnectionActor CC)
    (result : Except ZtError Unit × ZtConnectionActor CC) : Prop where
  moves : Moves env origin result.2
  failed : ∃ error, result.1 = .error error
  state : result.2.state = .closing

/-- A handler that closes the connection does so from wherever it got to. -/
theorem closeWith_closing {origin self : ZtConnectionActor CC} (moves : Moves env origin self)
    (sound : origin.Sound) (error : ZtError) : Closing env origin (exec (closeWith error) self) := by
  have selfSound := moves.sound sound
  exact ⟨moves.trans (initiateClose_moves selfSound), ⟨error, rfl⟩, initiateClose_closing selfSound⟩

omit [HandshakeCrypto] in
/-- Acknowledging is counting, and sending now and then. -/
theorem acknowledge_sends {self : ZtConnectionActor CC} (sound : self.Sound) :
    Sends self (exec acknowledge self).2 := by
  unfold acknowledge
  rw [exec_bind_modify, exec_bind_get]
  have counted : Sends self { self with pendingAcks := self.pendingAcks + 1 } := .of_same rfl rfl
  refine counted.trans ?_
  split
  · rw [exec_bind_attempt]
    exact flushAcks_sends sound
  · exact Sends.refl _

end ZtConnectionActor

namespace StreamState

/-- Data that ends at or below the read head was handed out. -/
theorem retained_of_le {stream : StreamState} {offset length : Nat}
    (passed : offset + length ≤ stream.receiveBuffer.readHead) : stream.Retained offset length :=
  fun _ _ upper => .inl (lt_of_lt_of_le upper passed)

/-- Data that was written is held, up to what had been handed out. -/
theorem retained_of_write {stream after : StreamState} (sound : stream.Sound) {offset added : Nat}
    {data : Bytes} (accepted : stream.receiveBuffer.write (max offset stream.receiveBuffer.readHead)
      (data.drop (stream.receiveBuffer.readHead - offset)) = some (added, after.receiveBuffer)) :
    after.Retained offset data.length := by
  have written := StreamReceiveBuffer.write_written sound.buffer (Nat.le_max_right _ _) accepted
  intro position lower upper
  by_cases passed : position < stream.receiveBuffer.readHead
  · exact .inl (written.readHead.symm ▸ passed)
  · -- The rest of the data was written from the read head on.
    refine .inr ((written.covered position).mpr (.inr ⟨by omega, ?_⟩))
    rw [List.length_drop]
    omega

end StreamState

namespace ZtConnectionActor

open Program

variable {CC : Type} [Hkdf] [HandshakeCrypto] {env : Environment}

/-- What becomes of data for a stream in the table: it is kept, or the connection closes. -/
inductive Received (env : Environment) (origin : ZtConnectionActor CC) (id offset length : Nat)
    (result : Except ZtError Unit × ZtConnectionActor CC) : Prop
  | kept (moves : Moves env origin result.2) (held : result.2.Holds id offset length)
  | closing (closing : Closing env origin result)

omit [HandshakeCrypto] in
/-- Either way the actor moved along the machine. -/
theorem Received.moves {origin : ZtConnectionActor CC} {id offset length : Nat}
    {result : Except ZtError Unit × ZtConnectionActor CC}
    (received : Received env origin id offset length result) : Moves env origin result.2 := by
  cases received with
  | kept moves held => exact moves
  | closing closing => exact closing.moves

omit [HandshakeCrypto] in
/-- The same after earlier steps. -/
theorem Received.after {first second : ZtConnectionActor CC} {id offset length : Nat}
    {result : Except ZtError Unit × ZtConnectionActor CC}
    (received : Received env second id offset length result) (moves : Moves env first second) :
    Received env first id offset length result := by
  cases received with
  | kept later held => exact .kept (moves.trans later) held
  | closing closing => exact .closing ⟨moves.trans closing.moves, closing.failed, closing.state⟩

/-- Data that was written is held, and what is contiguous goes to the application. -/
theorem forwardWritten_received {self : ZtConnectionActor CC} (sound : self.Sound)
    {id offset added : Nat} {streamType : StreamType} {data : Bytes} {stream : StreamState}
    {receiveBuffer : StreamReceiveBuffer} (found : self.streams.find? id = some stream)
    (arrived : HeardFrame env.heard (.stream id streamType offset data))
    (accepted : stream.receiveBuffer.write (max offset stream.receiveBuffer.readHead)
      (data.drop (stream.receiveBuffer.readHead - offset)) = some (added, receiveBuffer)) :
    Received env self id offset data.length (exec (do forwardStreamData id 0; acknowledge)
      (self.putStream id { stream with
        receiveBuffer := receiveBuffer
        bufferedBytes := saturatingAdd stream.bufferedBytes added })) := by
  generalize written : ({ stream with
    receiveBuffer := receiveBuffer
    bufferedBytes := saturatingAdd stream.bufferedBytes added } : StreamState) = base
  have prepared : StreamState.Prepared env.heard id stream (base.consume 0).2 0 := by
    rw [← written]
    exact .wrote arrived accepted
  have forwarded : Keeps env self id (base.consume 0).2
      (exec (forwardStreamData id 0) (self.putStream id base)).2 :=
    forwardStreamData_keeps sound found rfl rfl prepared (.inl rfl)
  have kept := ends_bind (Keeps env self id (base.consume 0).2) forwarded fun _ _ =>
    forwarded.sends (acknowledge_sends (forwarded.moves.sound sound))
  obtain ⟨final, stored, advances⟩ := kept.stream
  refine .kept kept.moves ⟨final, stored, advances.keeps ?_⟩
  rw [← written]
  exact StreamState.retained_of_write (sound.streams id stream found).2 accepted

/-- Data for a stream in the table is kept, or the connection closes. -/
theorem receiveStreamData_received {self : ZtConnectionActor CC} (sound : self.Sound) {id offset : Nat}
    {streamType : StreamType} {data : Bytes} {stream : StreamState}
    (found : self.streams.find? id = some stream)
    (arrived : HeardFrame env.heard (.stream id streamType offset data))
    (fits : offset + data.length < u64Size) :
    Received env self id offset data.length (exec (receiveStreamData id offset data stream) self) := by
  unfold receiveStreamData
  rw [exec_bind_get]
  split
  · exact .closing (closeWith_closing (.refl self) sound _)
  · simp only [checkedAdd, if_pos fits]
    split
    · exact .closing (closeWith_closing (.refl self) sound _)
    · rw [exec_bind_set]
      -- The highest offset seen is raised before anything else is checked.
      have raised : Moves env self (self.putStream id
          { stream with highestRxOffset := max stream.highestRxOffset (offset + data.length) }) :=
        .stream found (.raise arrived)
      have raisedSound := raised.sound sound
      split
      · rename_i passed
        rw [exec_modify]
        exact .kept raised ⟨_, SortedMap.find?_insert_self _ _ _, StreamState.retained_of_le passed⟩
      · split
        · exact .closing (closeWith_closing raised sound _)
        · split
          · exact .closing (closeWith_closing raised sound _)
          · rename_i added receiveBuffer accepted
            rw [exec_bind_modify]
            exact (forwardWritten_received raisedSound (SortedMap.find?_insert_self _ _ _) arrived
              accepted).after raised

/-- A stream of the peer that is not in the table and finds the table full. -/
def Refuses (self : ZtConnectionActor CC) (id : Nat) : Prop :=
  self.streams.find? id = none ∧ id % 2 = self.peerParity ∧
    self.localMaxStreams ≤ self.openedStreams self.peerParity

/-- The stream opened for data of a stream that is not in the table. -/
def peerStream (self : ZtConnectionActor CC) (localStreamType : StreamType) : StreamState :=
  .new localStreamType self.config.initialStreamWindow self.peerInitialStreamWindow self.host.now

/-- The connection once that stream is in the table and handed to the application. -/
def openedPeer (self : ZtConnectionActor CC) (id : Nat) (localStreamType : StreamType) :
    ZtConnectionActor CC :=
  { ((self.note (.created id)).note (.surfaced id)).putStream id (self.peerStream localStreamType) with
    incomingStreams := self.incomingStreams.send id }

/-- Stream data goes to the stream in the table, or to one opened for it, or nowhere. -/
theorem handleStream_eq (self : ZtConnectionActor CC) (id : Nat) (streamType : StreamType)
    (offset : Nat) (data : Bytes) :
    exec (handleStream id streamType offset data) self =
      match streamType.forPeer with
      | none => (.error (.invalidPacket "peer sent a receive-only stream type"), self)
      | some localStreamType =>
        match self.streams.find? id with
        | none =>
          if id % 2 ≠ self.peerParity then
            exec (closeWith (.invalidPacket "Invalid stream id parity")) self
          else if self.openedStreams self.peerParity ≥ self.localMaxStreams then
            (.error (.tooManyStreams self.localMaxStreams), self)
          else if self.incomingStreams.tryReserve incomingStreamsCapacity then
            exec (receiveStreamData id offset data (self.peerStream localStreamType))
              (self.openedPeer id localStreamType)
          else exec (closeWith .io) self
        | some stream =>
          if stream.streamType ≠ localStreamType then
            exec (closeWith (.invalidPacket "stream type changed during transmission")) self
          else exec (receiveStreamData id offset data stream) self := by
  -- A failure to open the stream ends the handler.
  have failed : ∀ (error : ZtError) (rest : PUnit → Act CC Unit),
      exec (do let opened ← closeWith error; rest opened) self = exec (closeWith error) self := by
    intro error rest
    unfold closeWith
    rw [bind_assoc, exec_bind_attempt, exec_bind_attempt]
    rfl
  unfold handleStream
  cases streamType.forPeer with
  | none => rfl
  | some localStreamType =>
    dsimp only
    rw [exec_bind_get]
    cases found : self.streams.find? id with
    | some stream =>
      rw [if_pos (by simp [found]), exec_bind_get, found]
      dsimp only
      split <;> rfl
    | none =>
      rw [if_neg (by simp [found])]
      unfold openPeerStream
      rw [bind_assoc, exec_bind_get]
      dsimp only
      split
      · exact failed _ _
      split
      · rfl
      split
      · -- The stream just opened is found, and has the type asked for.
        rw [exec_bind_set, exec_bind_get]
        have stored : (self.openedPeer id localStreamType).streams.find? id =
            some (self.peerStream localStreamType) := SortedMap.find?_insert_self _ _ _
        show exec (match (self.openedPeer id localStreamType).streams.find? id with
          | none => pure ()
          | some stream => _) (self.openedPeer id localStreamType) = _
        rw [stored]
        exact congrArg (exec · _) (if_neg (not_not.mpr rfl))
      · exact failed _ _

omit [HandshakeCrypto] in
/-- Opening a stream for data that arrived is a move. -/
theorem openedPeer_moves {self : ZtConnectionActor CC} {id offset : Nat} {streamType : StreamType}
    {data : Bytes} (absent : self.streams.find? id = none) (small : id < u32Size)
    (parity : id % 2 = self.peerParity)
    (arrived : HeardFrame env.heard (.stream id streamType offset data))
    (localStreamType : StreamType) : Moves env self (self.openedPeer id localStreamType) := by
  refine .single ?_ rfl
  have created : CoreStep env self.toSession _ :=
    .openPeer localStreamType self.host.now absent small parity arrived
  simpa [openedPeer, peerStream, putStream, note] using created

/-- Data for a stream that is refused is dropped, and nothing else changes. -/
theorem handleStream_refused {self : ZtConnectionActor CC} {id : Nat} (refuses : self.Refuses id)
    {streamType : StreamType} (sendable : streamType ≠ .unidirectionalIn) (offset : Nat)
    (data : Bytes) :
    ∃ error, exec (handleStream id streamType offset data) self = (.error error, self) := by
  obtain ⟨absent, parity, full⟩ := refuses
  refine ⟨.tooManyStreams self.localMaxStreams, ?_⟩
  rw [handleStream_eq, absent]
  cases streamType with
  | unidirectionalIn => exact absurd rfl sendable
  | bidirectional | unidirectionalOut =>
    dsimp only [StreamType.forPeer]
    rw [if_neg (not_not.mpr parity), if_pos full]

/-- Data for a stream that is not refused is kept, or the connection closes. -/
theorem handleStream_received {self : ZtConnectionActor CC} (sound : self.Sound) {id offset : Nat}
    {streamType : StreamType} {data : Bytes} (accepted : ¬ self.Refuses id) (small : id < u32Size)
    (sendable : streamType ≠ .unidirectionalIn)
    (arrived : HeardFrame env.heard (.stream id streamType offset data))
    (fits : offset + data.length < u64Size) :
    Received env self id offset data.length (exec (handleStream id streamType offset data) self) := by
  rw [handleStream_eq]
  split
  · rename_i foreign
    cases streamType <;> simp_all [StreamType.forPeer]
  rename_i localStreamType _
  split
  · rename_i absent
    split
    · exact .closing (closeWith_closing (.refl self) sound _)
    rename_i parity
    rw [if_neg fun full => accepted ⟨absent, not_not.mp parity, full⟩]
    split
    · have moves := openedPeer_moves absent small (not_not.mp parity) arrived localStreamType
      exact (receiveStreamData_received (moves.sound sound) (SortedMap.find?_insert_self _ _ _)
        arrived fits).after moves
    · exact .closing (closeWith_closing (.refl self) sound _)
  · rename_i stream found
    split
    · exact .closing (closeWith_closing (.refl self) sound _)
    · exact receiveStreamData_received sound found arrived fits

/-- What a handler of a frame did: it moved along the machine, and its success means something. -/
structure Handles (env : Environment) (origin : ZtConnectionActor CC) (settled : Session → Prop)
    (result : Except ZtError Unit × ZtConnectionActor CC) : Prop where
  moves : Moves env origin result.2
  settled : result.1 = .ok () → settled result.2.toSession

omit [HandshakeCrypto] in
/-- A handler that closes the connection has no success to explain. -/
theorem Closing.handles {origin : ZtConnectionActor CC}
    {result : Except ZtError Unit × ZtConnectionActor CC} (closing : Closing env origin result)
    (settled : Session → Prop) : Handles env origin settled result := by
  obtain ⟨error, failed⟩ := closing.failed
  refine ⟨closing.moves, fun succeeded => ?_⟩
  rw [failed] at succeeded
  cases succeeded

/-- Stream data that was handled is held. -/
theorem handleStream_handles {self : ZtConnectionActor CC} (sound : self.Sound) {id offset : Nat}
    {streamType : StreamType} {data : Bytes} (small : id < u32Size)
    (sendable : streamType ≠ .unidirectionalIn)
    (arrived : HeardFrame env.heard (.stream id streamType offset data))
    (fits : offset + data.length < u64Size) :
    Handles env self (·.Holds id offset data.length)
      (exec (handleStream id streamType offset data) self) := by
  by_cases refuses : self.Refuses id
  · obtain ⟨error, refused⟩ := handleStream_refused refuses sendable offset data
    rw [refused]
    exact ⟨.refl self, nofun⟩
  · cases handleStream_received sound refuses small sendable arrived fits with
    | kept moves held => exact ⟨moves, fun _ => held⟩
    | closing closing => exact closing.handles _

/-- The end of a stream is recorded if the stream is in the table, and ignored otherwise. -/
theorem handleStreamClose_handles {self : ZtConnectionActor CC} (sound : self.Sound)
    {id finalSize : Nat} (arrived : HeardFrame env.heard (.streamClose id finalSize)) :
    Handles env self (fun after => self.streams.contains id = true →
        ∃ stream, after.streams.find? id = some stream ∧ stream.finalRxOffset = some finalSize)
      (exec (handleStreamClose id finalSize) self) := by
  unfold handleStreamClose
  rw [exec_bind_get]
  cases found : self.streams.find? id with
  | none =>
    refine ⟨.refl self, fun _ known => ?_⟩
    simp [found] at known
  | some stream =>
    dsimp only
    split
    · exact (closeWith_closing (.refl self) sound _).handles _
    · rename_i consistent
      rw [exec_bind_set]
      generalize concluded : ({ stream with finalRxOffset := some finalSize } : StreamState) = base
      have prepared : StreamState.Prepared env.heard id stream (base.consume 0).2 0 := by
        rw [← concluded]
        refine .concluded arrived (by omega) fun existing recorded => ?_
        have both : stream.highestRxOffset ≤ finalSize ∧ existing = finalSize := by
          simpa [recorded] using consistent
        exact both.2
      have forwarded : Keeps env self id (base.consume 0).2
          (exec (forwardStreamData id 0) (self.putStream id base)).2 :=
        forwardStreamData_keeps sound found rfl rfl prepared (.inl rfl)
      obtain ⟨final, stored, advances⟩ := forwarded.stream
      refine ⟨forwarded.moves, fun _ _ => ⟨final, stored, ?_⟩⟩
      rw [advances.final, ← concluded]
      rfl

/-- A reset removes the stream, unless its size contradicts the data received. -/
theorem handleResetStream_moves {self : ZtConnectionActor CC} (sound : self.Sound)
    {streamId errorCode finalSize : Nat}
    (arrived : HeardFrame env.heard (.resetStream streamId errorCode finalSize)) :
    Moves env self (exec (handleResetStream streamId finalSize) self).2 := by
  unfold handleResetStream
  rw [exec_bind_get]
  cases found : self.streams.find? streamId with
  | none => exact .refl self
  | some stream =>
    dsimp only
    split
    · exact (closeWith_closing (.refl self) sound _).moves
    · rename_i above
      exact .single (.remove found (.reset arrived (by omega))) rfl

omit [HandshakeCrypto] in
/-- A new limit replaces the transmit window of a stream. -/
theorem handleMaxStreamData_moves (self : ZtConnectionActor CC) {id maxData : Nat}
    (arrived : HeardFrame env.heard (.maxStreamData id maxData)) (fits : maxData < u64Size) :
    Moves env self (self.handleMaxStreamData id maxData) := by
  unfold handleMaxStreamData
  split
  · exact .refl self
  · rename_i stream found
    exact .stream found (.limit maxData arrived fits)

omit [Hkdf] [HandshakeCrypto] in
/-- The answer to a path challenge concerns the address only. -/
theorem handlePathResponse_view (data : Bytes) (addr : Address) (self : ZtConnectionActor CC) :
    (handlePathResponse data addr self).ackView = self.ackView := by
  unfold handlePathResponse
  split <;> rfl

variable [CongestionController CC]

/-- An acknowledgment empties the window, and what it shows to be lost is sent again. -/
theorem handleAckFrame_moves {self : ZtConnectionActor CC} (sound : self.Sound)
    {largestAcked windowSize ackDelay : Nat} {ackRanges : List (Nat × Nat)}
    (arrived : HeardFrame env.heard (.ack largestAcked windowSize ackDelay ackRanges)) :
    Moves env self
      (exec (handleAckFrame largestAcked windowSize ackDelay ackRanges) self).2 := by
  unfold handleAckFrame
  rw [exec_bind_get]
  split
  · exact (closeWith_closing (.refl self) sound _).moves
  · have session := self.handleAck_toSession largestAcked windowSize ackDelay ackRanges []
    have remaining := self.handleAck_iter largestAcked windowSize ackDelay ackRanges []
    have again := self.handleAck_retransmits largestAcked windowSize ackDelay ackRanges []
    dsimp only
    rw [exec_bind_set]
    -- The packets that remain in flight are some of those before.
    have acknowledged : Moves env self
        (self.handleAck largestAcked windowSize ackDelay ackRanges []).2 := by
      have credited : Moves env self { self with remoteWindow := windowSize } :=
        .single (.credit arrived) rfl
      refine credited.trans
        (.single ?_ (self.handleAck_outer largestAcked windowSize ackDelay ackRanges []))
      rw [session]
      refine .send (.setUnacked _ fun entry member => ?_)
      rw [remaining] at member
      exact sound.unacked entry (List.mem_filter.mp member).1
    refine acknowledged.trans (.of_sends (retransmitAll_sends _ (acknowledged.sound sound) ?_))
    intro entry member
    -- What is sent again was in flight, hence issued.
    rw [again, List.nil_append] at member
    obtain ⟨⟨pn, up⟩, swept, rfl⟩ := List.mem_map.mp member
    have log := congrArg Session.log session
    change (self.handleAck largestAcked windowSize ackDelay ackRanges []).2.log = self.log at log
    rw [log]
    exact sound.unacked (pn, up) (List.mem_filter.mp swept).1

/-- Handling a frame of a conforming peer follows the machine, and success settles the frame. -/
theorem handleFrame_handles {self : ZtConnectionActor CC} (sound : self.Sound) {frame : Frame}
    (arrived : HeardFrame env.heard frame) (conforming : frame.Conforming) (addr : Address) :
    Handles env self (Settled · (frame.streamId?.any self.streams.contains) frame)
      (exec (handleFrame frame addr) self) := by
  have closed : Moves env self { self with state := .closed } :=
    .single (.setState .closed (by decide)) rfl
  cases frame with
  | stream id streamType offset data =>
    obtain ⟨small, fits, sendable⟩ := conforming
    exact handleStream_handles sound small sendable arrived fits
  | ack largestAcked windowSize ackDelay ackRanges =>
    exact ⟨handleAckFrame_moves sound arrived, fun _ => trivial⟩
  | connectionClose => exact ⟨closed, fun _ => trivial⟩
  | connectionCloseV2 errorCode reason => exact ⟨closed, fun _ => trivial⟩
  | streamClose id finalSize => exact handleStreamClose_handles sound arrived
  | maxStreamData id limit =>
    exact ⟨handleMaxStreamData_moves self arrived conforming, fun _ => trivial⟩
  | datagram data =>
    have view : (exec (handleFrame (.datagram data) addr) self).2.ackView = self.ackView := by
      show (if _ then _ else _ : ZtConnectionActor CC).ackView = _
      split <;> rfl
    exact ⟨.of_view view, fun _ => trivial⟩
  | maxStreams limit => exact ⟨.of_same rfl rfl, fun _ => trivial⟩
  | pathChallenge data =>
    exact ⟨.of_sends (sendFrameImmediate_sends self (show (Frame.pathResponse data).IsControl from
      conforming) addr), fun _ => trivial⟩
  | pathResponse data =>
    exact ⟨.of_view (handlePathResponse_view data addr self), fun _ => trivial⟩
  | ping => exact ⟨.of_sends (acknowledge_sends sound), fun _ => trivial⟩
  | resetStream streamId errorCode finalSize =>
    exact ⟨handleResetStream_moves sound arrived, fun _ => trivial⟩
  | stopSending | maxData => exact conforming.elim
  | streamsBlocked | dataBlocked | streamDataBlocked => exact ⟨.refl self, fun _ => trivial⟩
  | padding | handshake | cookie | crypto | transportParameters =>
    exact ⟨.refl self, fun _ => trivial⟩

/-- Handling the frames of a packet follows the machine, up to the first failure. -/
theorem handleFrames_moves (addr : Address) (frames : List Frame) {self : ZtConnectionActor CC}
    (sound : self.Sound) (arrived : ∀ frame ∈ frames, HeardFrame env.heard frame)
    (conforming : ∀ frame ∈ frames, frame.Conforming) :
    Moves env self (exec (handleFrames addr frames) self).2 := by
  induction frames generalizing self with
  | nil => exact .refl self
  | cons frame rest ih =>
    have heard := arrived frame List.mem_cons_self
    have handled := handleFrame_handles sound heard (conforming frame List.mem_cons_self) addr
    unfold handleFrames
    rw [exec_bind_get]
    refine ends_bind (Moves env self) handled.moves fun _ succeeded => ?_
    rw [exec_bind_modify]
    -- A frame that was handled without an error is noted, then the rest follows.
    have noted : Moves env self (note (.handled frame (frame.streamId?.any self.streams.contains))
        (exec (handleFrame frame addr) self).2) :=
      handled.moves.trans (.single (.handled frame _ heard
        (handled.settled (congrArg Prod.fst succeeded))) rfl)
    exact noted.trans (ih (noted.sound sound)
      (fun frame member => arrived frame (List.mem_cons_of_mem _ member))
      fun frame member => conforming frame (List.mem_cons_of_mem _ member))

/-- How a payload was opened: with a key at hand, or with the next one, which is then kept. -/
inductive OpensTo (self : ZtConnectionActor CC) (crypto : CryptoContext) (packetNumber : Nat)
    (aad : Bytes) (payload : Sealed) : ZtConnectionActor CC → Prop
  | current (opened : payload.openWith crypto.rxKey crypto.rxIv packetNumber aad =
      some payload.plaintext) : OpensTo self crypto packetNumber aad payload self
  | previous {prev : FallbackRxKeys} (kept : crypto.prevRx = some prev)
      (opened : payload.openWith prev.rxKey prev.rxIv packetNumber aad = some payload.plaintext) :
      OpensTo self crypto packetNumber aad payload self
  | next (opened : payload.openWith crypto.nextRxKey crypto.nextRxIv packetNumber aad =
      some payload.plaintext) :
      OpensTo self crypto packetNumber aad payload { self with
        crypto := some crypto.rotateKeys
        currentKeyEpoch := self.currentKeyEpoch + 1
        packetsSinceKeyUpdate := 0 }

omit [HandshakeCrypto] [CongestionController CC] in
/-- A payload that opens gives what was sealed, in one of these ways. -/
theorem openPayload_opens {self opened : ZtConnectionActor CC} {crypto : CryptoContext}
    {header : PacketHeader} {aad plaintext : Bytes} {payload : Sealed}
    (answered : self.openPayload crypto header aad payload = .ok (plaintext, opened)) :
    plaintext = payload.plaintext ∧
      OpensTo self crypto header.packetNumber aad payload opened := by
  unfold openPayload at answered
  split at answered
  · -- The next keys are tried, and kept because they fit.
    unfold CryptoContext.trialDecryptAndRotate at answered
    split at answered
    · cases answered
    · rename_i found rotated tried
      split at tried
      · rename_i text fits
        cases tried
        cases answered
        have same := Sealed.openWith_eq fits
        subst same
        exact ⟨rfl, .next fits⟩
      · cases tried
  · -- An older packet is opened with the keys that were kept.
    unfold CryptoContext.decryptInPlace at answered
    simp only [if_true] at answered
    split at answered
    · rename_i prev kept
      split at answered
      · rename_i text fits
        cases answered
        have same := Sealed.openWith_eq fits
        subst same
        exact ⟨rfl, .previous kept fits⟩
      · cases answered
    · cases answered
  · unfold CryptoContext.decryptInPlace at answered
    simp only [Bool.false_eq_true, if_false] at answered
    split at answered
    · rename_i text fits
      cases answered
      have same := Sealed.openWith_eq fits
      subst same
      exact ⟨rfl, .current fits⟩
    · cases answered

omit [HandshakeCrypto] [CongestionController CC] in
/-- Answering a new address with a challenge only sends. -/
theorem validatePath_sends (self : ZtConnectionActor CC) (addr : Address) :
    Sends self (exec (validatePath addr) self).2 := by
  unfold validatePath
  rw [exec_bind_get]
  split
  · split
    · rw [exec_bind_set, exec_bind_attempt]
      refine Sends.trans ?_ (sendFrameImmediate_sends _ ?_ addr)
      · exact Sends.of_same rfl rfl
      · exact beBytes_length 8 _
    · exact Sends.refl self
  · split
    · exact Sends.of_same rfl rfl
    · exact Sends.refl self

omit [HandshakeCrypto] [CongestionController CC] in
/-- Opening a packet moves along the machine, which may follow the peer to the next keys. -/
theorem OpensTo.moves {self opened : ZtConnectionActor CC} {crypto : CryptoContext}
    {packetNumber : Nat} {record : SentRecord} {payload : Sealed}
    (opens : OpensTo self crypto packetNumber record.packet.header.encode payload opened)
    (keys : self.crypto = some crypto) (arrived : env.heard record)
    (kind : record.packet.header.pType.isProtected = true)
    (body : record.packet.body = .encrypted payload) : Moves env self opened := by
  cases opens with
  | current | previous => exact .refl self
  | next fits =>
    -- The count starts again with the new keys.
    refine ⟨.single (.follow keys arrived kind body fits), rfl, fun _ => ?_⟩
    simp only [spend, Session.rotations]
    omega

omit [HandshakeCrypto] [CongestionController CC] in
/-- Becoming active is a step of the machine. -/
theorem activate_moves (self : ZtConnectionActor CC) : Moves env self self.activate := by
  unfold activate
  split
  · exact .single (.setState .active (by decide)) rfl
  · exact .refl self

/-- An opened packet is recorded, then its frames are handled. -/
theorem handleOpened_moves {self : ZtConnectionActor CC} (sound : self.Sound) {packetNumber : Nat}
    (fits : packetNumber < u64Size) (addr : Address) {frames : List Frame}
    (arrived : ∀ frame ∈ frames, HeardFrame env.heard frame)
    (conforming : ∀ frame ∈ frames, frame.Conforming) :
    Moves env self (exec (handleOpened packetNumber frames addr) self).2 := by
  unfold handleOpened
  have answered : Moves env self _ := .of_sends (validatePath_sends self addr)
  refine ends_bind (Moves env self) answered fun _ _ => ?_
  rw [exec_bind_modify]
  have marked : Moves env self
      (markProcessed (exec (validatePath addr) self).2 packetNumber) :=
    answered.trans (.single (.mark packetNumber fits) rfl)
  exact marked.trans (handleFrames_moves addr frames (marked.sound sound) arrived conforming)

/-- A packet that opens moves along the machine: new keys, the state, its number and its frames. -/
theorem processProtected_moves {self : ZtConnectionActor CC} (sound : self.Sound)
    (peer : env.Conforming) {record : SentRecord} (arrived : env.heard record)
    (kind : record.packet.header.pType.isProtected = true) {header : PacketHeader}
    (fits : header.packetNumber < u64Size) (addr : Address) :
    Moves env self (exec (processProtected header record.packet.body record.packet.header.encode
      addr) self).2 := by
  unfold processProtected
  rw [exec_bind_get]
  cases keys : self.crypto with
  | none => exact .refl self
  | some crypto =>
    cases body : record.packet.body with
    | clear payload =>
      dsimp only
      split <;> exact .refl self
    | encrypted payload =>
      dsimp only
      cases answered : self.openPayload crypto header record.packet.header.encode payload with
      | error error => exact .refl self
      | ok answer =>
        obtain ⟨plaintext, opened⟩ := answer
        obtain ⟨rfl, opens⟩ := openPayload_opens answered
        dsimp only
        rw [exec_bind_set]
        have ready := (opens.moves keys arrived kind body).trans opened.activate_moves
        refine ready.trans (handleOpened_moves (ready.sound sound) fits addr ?_ ?_)
        · intro frame member
          refine ⟨record, arrived, kind, ?_⟩
          simpa [Packet.frames, body] using member
        · intro frame member
          refine peer.frames frame ⟨record, arrived, kind, ?_⟩
          simpa [Packet.frames, body] using member

omit [CongestionController CC] in
/-- Without a secret for the key exchange a handshake response changes nothing. -/
theorem handleHandshakeResponse_ignored {self : ZtConnectionActor CC}
    (spent : self.ephemeralSecret = none) (header : PacketHeader) (body : Body) (aad : Bytes)
    (addr : Address) : (exec (handleHandshakeResponse header body aad addr) self).2 = self := by
  unfold handleHandshakeResponse
  rw [exec_bind_get]
  split
  · rfl
  · cases body with
    | clear payload =>
      dsimp only
      split <;> rfl
    | encrypted payload =>
      dsimp only
      split
      · rfl
      · split
        · rfl
        · rw [spent]
          rfl

/-- A packet that is no replay is processed along the machine. -/
theorem dispatchPacket_moves {self : ZtConnectionActor CC} (sound : self.Sound)
    (peer : env.Conforming) {record : SentRecord} (arrived : env.heard record)
    {header : PacketHeader} (kind : header.pType = record.packet.header.pType)
    (fits : header.packetNumber < u64Size) (addr : Address) :
    Moves env self (exec (dispatchPacket header record.packet.body record.packet.header.encode
      addr) self).2 := by
  have opens : record.packet.header.pType.isProtected = true → Moves env self
      (exec (if self.acceptsProtected then processProtected header record.packet.body
        record.packet.header.encode addr else pure ()) self).2 := by
    intro isProtected
    split
    · exact processProtected_moves sound peer arrived isProtected fits addr
    · exact .refl self
  unfold dispatchPacket
  rw [exec_bind_get]
  cases type : header.pType with
  | initial => exact .refl self
  | handshake =>
    dsimp only
    split
    · -- A connected endpoint holds no secret that a handshake response could use.
      rename_i handshaking
      have server : self.isClient = false := by
        by_contra client
        exact sound.client (by simpa using client) handshaking
      rw [handleHandshakeResponse_ignored (sound.server server)]
      exact .refl self
    · exact .refl self
  | retry =>
    rw [kind] at type
    exact absurd type (peer.kinds record arrived)
  | data | close | mtuProbe =>
    rw [kind] at type
    exact opens (by rw [type]; rfl)

/-- Every packet of a conforming peer is processed along the machine. -/
theorem processIncomingPacket_moves {self : ZtConnectionActor CC} (sound : self.Sound)
    (peer : env.Conforming) {record : SentRecord} (arrived : env.heard record) (addr : Address) :
    Moves env self
      (exec (processIncomingPacket (System.arriving record) addr) self).2 := by
  unfold processIncomingPacket
  rw [exec_bind_modify, exec_bind_get]
  generalize counted : ({ self with
    bytesReceived := self.bytesReceived + (System.arriving record).size } :
      ZtConnectionActor CC) = start
  have begun : Moves env self start := by
    rw [← counted]
    exact .of_same rfl rfl
  have startSound := begun.sound sound
  refine begun.trans ?_
  split
  · exact .refl start
  · split
    · -- A server answers a repeated Initial packet with its stored response.
      split
      · exact .refl start
      · rename_i response _
        rw [exec_bind_attempt]
        exact .of_sends (sendLong_sends start response.2.2 0)
    · dsimp only
      split
      · exact .refl start
      · have kind : (start.recovered (System.arriving record).header).pType =
            record.packet.header.pType := rfl
        have fits : (start.recovered (System.arriving record).header).packetNumber < u64Size :=
          expandPn_lt record.packet.header.onWire_packetNumber_lt _ _
        rw [show (System.arriving record).header.encode = _ from record.packet.header.encode_onWire]
        exact dispatchPacket_moves startSound peer arrived kind fits addr

end ZtConnectionActor
end Zetta
