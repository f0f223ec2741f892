import Zetta.Machine.Step

/-! The basic invariant of the session machine: what is sent was issued, and every number fits. -/

namespace Zetta

/-- The fields of a payload are values of their machine types, and data ends inside its offsets. -/
def UnackedPayload.Words : UnackedPayload → Prop
  | stream id streamType offset data =>
    id < u32Size ∧ offset + data.length < u64Size ∧ streamType ≠ .unidirectionalIn
  | streamClose id limit | maxStreamData id limit => id < u32Size ∧ limit < u64Size
  | resetStream id errorCode finalSize =>
    id < u32Size ∧ errorCode < u64Size ∧ finalSize < u64Size
  | connectionCloseV2 errorCode _ => errorCode < u64Size
  | initial _ | mtuProbe _ | close | datagram _ => True

/-- A frame as a receiver finds it, when the sender's history explains it. -/
def Carried (log : List Effect) (frame : Frame) : Prop :=
  ∃ source, Sendable log source ∧ frame = source.onWire

/-- A longer history explains at least as much. -/
theorem Sendable.mono {log more : List Effect} {frame : Frame} (sendable : Sendable log frame) :
    Sendable (log ++ more) frame := by
  rcases sendable with ⟨payload, headerLen, issued, same⟩ | control
  · exact .inl ⟨payload, headerLen, List.mem_append_left _ issued, same⟩
  · exact .inr control

/-- A longer history explains at least as many frames. -/
theorem Carried.mono {log more : List Effect} {frame : Frame} (carried : Carried log frame) :
    Carried (log ++ more) frame := by
  obtain ⟨source, sendable, same⟩ := carried
  exact ⟨source, sendable.mono, same⟩

/-- Padding needs no explanation. -/
theorem Carried.padding (log : List Effect) (len : Nat) : Carried log (.padding len) :=
  ⟨.padding len, .inr trivial, rfl⟩

/-- A frame small enough for a datagram is padding, or its fields fit their words. -/
theorem Sendable.words {log : List Effect} {frame : Frame} (sendable : Sendable log frame)
    (issued : ∀ payload, .issued payload ∈ log → payload.Words)
    (small : frame.encode.length ≤ maxUdpPayload) : (∃ len, frame = .padding len) ∨ frame.Words := by
  have limit : maxUdpPayload < 2 ^ 62 := by decide
  rcases sendable with ⟨payload, headerLen, member, rfl⟩ | control
  · -- The lengths are bounded by the packet, everything else by the payload.
    have fits := issued payload member
    cases payload with
    | initial cookie => exact .inl ⟨0, rfl⟩
    | mtuProbe targetSize => exact .inl ⟨_, rfl⟩
    | stream id streamType offset data =>
      obtain ⟨idFits, inside, -⟩ := fits
      refine .inr ⟨idFits, by omega, ?_⟩
      simp only [UnackedPayload.frame, Frame.encode, List.length_append] at small
      omega
    | streamClose id finalSize => exact .inr fits
    | maxStreamData id maxData => exact .inr fits
    | resetStream id errorCode finalSize => exact .inr fits
    | close => exact .inr trivial
    | connectionCloseV2 errorCode reason =>
      refine .inr ⟨fits, ?_⟩
      simp only [UnackedPayload.frame, Frame.encode, List.length_append] at small
      omega
    | datagram data =>
      refine .inr ?_
      simp only [UnackedPayload.frame, Frame.encode, List.length_append] at small
      show data.length < 2 ^ 62
      omega
  · cases frame with
    | padding len => exact .inl ⟨len, rfl⟩
    | ack | pathChallenge | pathResponse | streamsBlocked => exact .inr control
    | _ => exact control.elim

/-- What a receiver may rely on in a frame of a conforming peer. -/
def Frame.Conforming : Frame → Prop
  | stream id streamType offset data =>
    id < u32Size ∧ offset + data.length < u64Size ∧ streamType ≠ .unidirectionalIn
  | maxStreamData _ limit => limit < u64Size
  | pathChallenge data => data.length = 8
  -- No request of the application makes a connection send these frames.
  | stopSending .. | maxData _ => False
  | _ => True

/-- The packets heard are those of a conforming peer. -/
structure Environment.Conforming (env : Environment) : Prop where
  frames : ∀ frame, HeardFrame env.heard frame → frame.Conforming
  /-- A connection never sends a Retry; the endpoint does, before there is one. -/
  kinds : ∀ record, env.heard record → record.packet.header.pType ≠ .retry

/-- Frames that the sender's history explains are conforming. -/
theorem Carried.conforming {log : List Effect} {frame : Frame} (carried : Carried log frame)
    (issued : ∀ payload, .issued payload ∈ log → payload.Words) : frame.Conforming := by
  obtain ⟨source, sendable, rfl⟩ := carried
  rcases sendable with ⟨payload, headerLen, member, rfl⟩ | control
  · have fits := issued payload member
    cases payload with
    | stream id streamType offset data => exact fits
    | maxStreamData id maxData => exact fits.2
    | _ => trivial
  · cases source with
    | padding | ack | streamsBlocked | pathResponse => trivial
    | pathChallenge data => exact control
    | _ => exact control.elim

/-- What holds of a stream in every state: a well-formed buffer and offsets inside their words. -/
structure StreamState.Sound (stream : StreamState) : Prop where
  buffer : stream.receiveBuffer.WellFormed
  capacity : stream.receiveBuffer.capacity = stream.windowSize
  transmit : stream.nextTxOffset + stream.txWindow < u64Size
  /-- A conforming peer never asks to stop sending. -/
  open_ : stream.sendStoppedError = none

namespace StreamState

/-- A new stream is sound when its transmit window fits a word. -/
theorem new_sound (streamType : StreamType) (receiveWindow : Nat) {transmitWindow : Nat}
    (now : Instant) (fits : transmitWindow < u64Size) :
    (new streamType receiveWindow transmitWindow now).Sound where
  buffer := StreamReceiveBuffer.new_wellFormed receiveWindow
  capacity := rfl
  transmit := by simpa [new] using fits
  open_ := rfl

/-- What precedes a forwarding round keeps a stream sound. -/
theorem Prepared.sound {heard : SentRecord → Prop} {id bytesRead : Nat} {before base : StreamState}
    (prepared : Prepared heard id before base bytesRead) (sound : before.Sound) : base.Sound := by
  cases prepared with
  | wrote frame accepted =>
    have written := StreamReceiveBuffer.write_written sound.buffer (Nat.le_max_right _ _) accepted
    exact ⟨written.wellFormed, written.capacity.trans sound.capacity, sound.transmit, sound.open_⟩
  | concluded frame above same =>
    exact ⟨sound.buffer, sound.capacity, sound.transmit, sound.open_⟩
  | consumed bytesRead => exact ⟨sound.buffer, sound.capacity, sound.transmit, sound.open_⟩

/-- A forwarding round keeps a stream sound. -/
theorem Sound.forward {stream : StreamState} (sound : stream.Sound) :
    stream.pumpAll.2.finish.Sound := by
  have forwarded := pumpAll_forwarded sound.buffer
  -- The round changes the buffer and the channel, closing the channel its sending end only.
  have rest := forwarded.rest
  generalize stream.pumpAll.2 = pumped at forwarded rest ⊢
  rw [finish_eq]
  refine ⟨forwarded.wellFormed, ?_, ?_, ?_⟩
  · show pumped.receiveBuffer.capacity = pumped.windowSize
    rw [forwarded.capacity, sound.capacity, rest]
  · show pumped.nextTxOffset + pumped.txWindow < u64Size
    rw [rest]
    exact sound.transmit
  · show pumped.sendStoppedError = none
    rw [rest]
    exact sound.open_

end StreamState

/-- Every micro-step of a stream keeps it sound. -/
theorem StreamStep.sound {heard : SentRecord → Prop} {id : Nat} {before after : StreamState}
    {effects : List Effect} (step : StreamStep heard id before after effects)
    (sound : before.Sound) : after.Sound := by
  have transmit := sound.transmit
  cases step with
  | accept data opened writable fits =>
    refine ⟨sound.buffer, sound.capacity, ?_, sound.open_⟩
    show before.nextTxOffset + data.length + (before.txWindow - data.length) < u64Size
    omega
  | limit maxData frame fits =>
    refine ⟨sound.buffer, sound.capacity, ?_, sound.open_⟩
    show before.nextTxOffset + (maxData - before.nextTxOffset) < u64Size
    omega
  | raise frame => exact ⟨sound.buffer, sound.capacity, transmit, sound.open_⟩
  | forward prepared => exact (prepared.sound sound).forward
  | bookkeeping kept =>
    rw [kept.rest]
    exact ⟨sound.buffer, sound.capacity, transmit, sound.open_⟩
  | grow newWindow larger =>
    -- The window never shrinks, so the buffer keeps what it holds.
    have resized := StreamReceiveBuffer.resize_resized sound.buffer
      (show before.receiveBuffer.capacity ≤ newWindow by rw [sound.capacity]; exact larger)
    exact ⟨resized.wellFormed, StreamReceiveBuffer.resize_capacity _ _, transmit, sound.open_⟩

/-- Data is issued only by accepting it, and then its payload fits its words. -/
theorem StreamStep.issued {heard : SentRecord → Prop} {id : Nat} {before after : StreamState}
    {effects : List Effect} (step : StreamStep heard id before after effects)
    (sound : before.Sound) (small : id < u32Size) {payload : UnackedPayload}
    (member : .issued payload ∈ effects) : payload.Words := by
  have transmit := sound.transmit
  cases step with
  | accept data opened writable fits =>
    cases List.mem_singleton.mp member
    exact ⟨small, by omega, writable⟩
  | forward prepared => simp at member
  | limit | raise | bookkeeping | grow => cases member

/-- No micro-step of a stream creates one. -/
theorem StreamStep.uncreated {heard : SentRecord → Prop} {id : Nat} {before after : StreamState}
    {effects : List Effect} (step : StreamStep heard id before after effects) (other : Nat) :
    .created other ∉ effects := by
  intro member
  cases step with
  | accept data opened writable fits => cases List.mem_singleton.mp member
  | forward prepared => simp at member
  | limit | raise | bookkeeping | grow => cases member

/-- No micro-step of a stream sends a packet. -/
theorem StreamStep.silent {heard : SentRecord → Prop} {id : Nat} {before after : StreamState}
    {effects : List Effect} (step : StreamStep heard id before after effects) (record : SentRecord) :
    .sent record ∉ effects := by
  intro member
  cases step with
  | accept data opened writable fits => cases List.mem_singleton.mp member
  | forward prepared => simp at member
  | limit | raise | bookkeeping | grow => cases member

/-- Every frame a receiver finds in a packet is explained by the state the packet was built from. -/
theorem Built.carried {session : Session} {record : SentRecord} (built : Built session record)
    (issued : ∀ payload, .issued payload ∈ session.log → payload.Words) {frame : Frame}
    (member : frame ∈ record.packet.frames) : Carried session.log frame := by
  obtain ⟨crypto, source, pad, -, -, sendable, body⟩ := built.content
  have size := built.size
  simp only [Packet.size, body, Body.bytes, CryptoContext.encryptInPlace, List.length_append] at size
  simp only [Packet.frames, body, CryptoContext.encryptInPlace] at member
  rcases sendable.words issued (by omega) with ⟨len, rfl⟩ | words
  · -- Padding after padding is padding.
    rw [Frame.encode, ← List.replicate_add] at member
    obtain ⟨found, rfl⟩ := Frame.decodeFrames_padding _ member
    exact Carried.padding _ found
  · rw [Frame.decodeFrames_encode words] at member
    rcases List.mem_cons.mp member with rfl | rest
    · exact ⟨source, sendable, rfl⟩
    · split at rest
      · cases rest
      · rw [List.mem_singleton.mp rest]
        exact Carried.padding _ pad

/-- A protected packet that was sent: a short header, a number already used, explained frames. -/
structure SentSound (log : List Effect) (next : Nat) (record : SentRecord) : Prop where
  short : record.packet.header.isLong = false
  length : 1 ≤ record.packet.header.pnLen ∧ record.packet.header.pnLen ≤ 4
  number : record.packet.header.packetNumber < next
  carried : ∀ frame ∈ record.packet.frames, Carried log frame

/-- What holds of a history: payloads fit their words, and protected packets are explained. -/
structure LogSound (log : List Effect) (next : Nat) : Prop where
  issued : ∀ payload, .issued payload ∈ log → payload.Words
  sent : ∀ record, .sent record ∈ log → record.packet.header.pType.isProtected = true →
    SentSound log next record
  kinds : ∀ record, .sent record ∈ log → record.packet.header.pType ≠ .retry

/-- A packet stays sound as the history and the numbers grow. -/
theorem SentSound.mono {log more : List Effect} {next later : Nat} {record : SentRecord}
    (sound : SentSound log next record) (ahead : next ≤ later) :
    SentSound (log ++ more) later record where
  short := sound.short
  length := sound.length
  number := lt_of_lt_of_le sound.number ahead
  carried := fun frame member => (sound.carried frame member).mono

/-- A history grows by payloads that fit and by packets that are sound afterwards. -/
theorem LogSound.grow {log more : List Effect} {next later : Nat} (sound : LogSound log next)
    (ahead : next ≤ later) (issued : ∀ payload, .issued payload ∈ more → payload.Words)
    (sent : ∀ record, .sent record ∈ more → record.packet.header.pType.isProtected = true →
      SentSound (log ++ more) later record)
    (kinds : ∀ record, .sent record ∈ more → record.packet.header.pType ≠ .retry) :
    LogSound (log ++ more) later where
  issued := by
    intro payload member
    rcases List.mem_append.mp member with old | new
    · exact sound.issued payload old
    · exact issued payload new
  sent := by
    intro record member kind
    rcases List.mem_append.mp member with old | new
    · exact (sound.sent record old kind).mono ahead
    · exact sent record new kind
  kinds := by
    intro record member
    rcases List.mem_append.mp member with old | new
    · exact sound.kinds record old
    · exact kinds record new

/-- A history grows freely by what is neither issued nor sent. -/
theorem LogSound.quiet {log more : List Effect} {next : Nat} (sound : LogSound log next)
    (issued : ∀ payload, .issued payload ∉ more) (sent : ∀ record, .sent record ∉ more) :
    LogSound (log ++ more) next :=
  sound.grow le_rfl (fun payload member => absurd member (issued payload))
    (fun record member => absurd member (sent record))
    fun record member => absurd member (sent record)

/-- The ids of streams: those of the application are below the next one, and all have a history. -/
structure Names (own next : Nat) (streams : SortedMap Nat StreamState) (log : List Effect) :
    Prop where
  parity : next % 2 = own
  created : ∀ id, .created id ∈ log → id % 2 = own → id < next
  table : ∀ id stream, streams.find? id = some stream → .created id ∈ log

namespace Names

variable {own next : Nat} {streams : SortedMap Nat StreamState} {log : List Effect}

/-- The next id of the application was never used. -/
theorem fresh (names : Names own next streams log) : streams.find? next = none := by
  cases found : streams.find? next with
  | none => rfl
  | some stream =>
    have below := names.created next (names.table next stream found) names.parity
    omega

/-- The history grows by anything but new streams. -/
theorem grow (names : Names own next streams log) {more : List Effect}
    (same : ∀ id, .created id ∉ more) : Names own next streams (log ++ more) where
  parity := names.parity
  created := by
    intro id member
    rcases List.mem_append.mp member with old | new
    · exact names.created id old
    · exact absurd new (same id)
  table := fun id stream found => List.mem_append_left _ (names.table id stream found)

/-- A stream of the table is replaced. -/
theorem replace (names : Names own next streams log) {id : Nat} {before after : StreamState}
    (found : streams.find? id = some before) : Names own next (streams.insert id after) log where
  parity := names.parity
  created := names.created
  table := by
    intro other stored kept
    rw [SortedMap.find?_insert] at kept
    split at kept
    · rename_i same
      exact same ▸ names.table id before found
    · exact names.table other stored kept

/-- A stream leaves the table. -/
theorem erase (names : Names own next streams log) (id : Nat) :
    Names own next (streams.erase id) log where
  parity := names.parity
  created := names.created
  table := by
    intro other stored kept
    rw [SortedMap.find?_erase] at kept
    split at kept
    · cases kept
    · exact names.table other stored kept

/-- A stream enters the table: one the peer names, or the application's next one. -/
theorem insert (names : Names own next streams log) {id later : Nat} {stream : StreamState}
    {more : List Effect} (ahead : next ≤ later) (kept : later % 2 = own)
    (mine : id % 2 = own → id < later) (only : ∀ other, .created other ∈ more → other = id)
    (created : .created id ∈ more) : Names own later (streams.insert id stream) (log ++ more) where
  parity := kept
  created := by
    intro other member same
    rcases List.mem_append.mp member with old | new
    · exact lt_of_lt_of_le (names.created other old same) ahead
    · cases only other new
      exact mine same
  table := by
    intro other stored found
    rw [SortedMap.find?_insert] at found
    split at found
    · rename_i same
      exact same ▸ List.mem_append_right _ created
    · exact List.mem_append_left _ (names.table other stored found)

end Names

/-- What holds of a session after the handshake, in every state. -/
structure Session.Sound (session : Session) : Prop where
  streams : ∀ id stream, session.streams.find? id = some stream → id < u32Size ∧ stream.Sound
  log : LogSound session.log session.nextPacketNumber
  queue : ∀ entry ∈ session.unpacedQueue, .issued entry.1 ∈ session.log
  unacked : ∀ entry ∈ session.unackedPackets.iter, .issued entry.2.payload ∈ session.log
  number : session.nextPacketNumber < u64Size
  window : session.peerInitialStreamWindow < u64Size
  highest : ∀ highest, session.ackTracker.highestProcessed = some highest → highest < u64Size
  windows : session.replayWindow = session.ackTracker
  /-- A client has completed its handshake, and a server never holds a secret. -/
  client : session.isClient = true → session.state ≠ .handshaking
  server : session.isClient = false → session.ephemeralSecret = none
  names : Names session.localParity session.nextStreamId session.streams session.log

/-- The size a sound stream is closed with fits its word. -/
theorem Session.Sound.finalSize {session : Session} (sound : session.Sound) (id : Nat) :
    session.finalSize id < u64Size := by
  unfold Session.finalSize
  cases found : session.streams.find? id with
  | none => decide
  | some stream =>
    have transmit := (sound.streams id stream found).2.transmit
    show stream.nextTxOffset < u64Size
    omega

/-- What may be issued in a sound session fits its words. -/
theorem Issuable.words {allowed : Request → Prop} {session : Session} {payload : UnackedPayload}
    (issuable : Issuable allowed session payload) (sound : session.Sound) : payload.Words := by
  cases payload with
  | stream | initial => exact issuable.elim
  | streamClose id finalSize =>
    obtain ⟨small, rfl, -⟩ := issuable
    exact ⟨small, sound.finalSize id⟩
  | resetStream id errorCode finalSize =>
    obtain ⟨small, code, rfl, -⟩ := issuable
    exact ⟨small, code, sound.finalSize id⟩
  | maxStreamData id limit =>
    obtain ⟨small, stream, -, rfl⟩ := issuable
    exact ⟨small, Nat.mod_lt _ (by decide)⟩
  | connectionCloseV2 => exact issuable
  | mtuProbe | close | datagram => trivial

/-- Streams stay sound when one of them is replaced by a sound one. -/
theorem Session.Sound.insert {session : Session} (sound : session.Sound) {id : Nat}
    {stream : StreamState} (small : id < u32Size) (fresh : stream.Sound) (other : Nat)
    (stored : StreamState) (found : (session.streams.insert id stream).find? other = some stored) :
    other < u32Size ∧ stored.Sound := by
  rw [SortedMap.find?_insert] at found
  split at found
  · rename_i same
    cases found
    exact ⟨same ▸ small, fresh⟩
  · exact sound.streams other stored found

variable [Hkdf]

/-- Every micro-step of sending keeps a session sound. -/
theorem SendStep.sound {before after : Session} (step : SendStep before after)
    (sound : before.Sound) : after.Sound := by
  -- What is held was issued, and stays so as the history grows.
  have queue : ∀ more, ∀ entry ∈ before.unpacedQueue, .issued entry.1 ∈ before.log ++ more :=
    fun more entry member => List.mem_append_left more (sound.queue entry member)
  have unacked : ∀ more, ∀ entry ∈ before.unackedPackets.iter,
      .issued entry.2.payload ∈ before.log ++ more :=
    fun more entry member => List.mem_append_left more (sound.unacked entry member)
  cases step with
  | skipNumber fits =>
    have log := sound.log.grow (Nat.le_succ before.nextPacketNumber)
      (show ∀ payload, .issued payload ∈ ([] : List Effect) → payload.Words by simp) (by simp) (by simp)
    exact { sound with number := fits, log := by simpa using log }
  | emit record fits built =>
    have log : LogSound (before.log ++ [.sent record]) (before.nextPacketNumber + 1) := by
      refine sound.log.grow (by omega) (by simp) (fun other member kind => ?_) fun other member => ?_
      · cases List.mem_singleton.mp member
        have number := built.number
        exact ⟨built.short, built.length, by omega,
          fun frame found => (built.carried sound.log.issued found).mono⟩
      · cases List.mem_singleton.mp member
        have kind := built.kind
        intro retry
        rw [retry] at kind
        cases kind
    exact { sound with
      number := fits, log := log, queue := queue _, unacked := unacked _
      names := sound.names.grow (by simp) }
  | emitLong record long =>
    have log : LogSound (before.log ++ [.sent record]) before.nextPacketNumber := by
      refine sound.log.grow le_rfl (by simp) (fun other member kind => ?_) fun other member => ?_
      · cases List.mem_singleton.mp member
        cases type : record.packet.header.pType <;>
          simp [type, PacketType.isProtected, PacketType.isHandshake] at kind long
      · cases List.mem_singleton.mp member
        intro retry
        rw [retry] at long
        cases long
    exact { sound with
      log := log, queue := queue _, unacked := unacked _, names := sound.names.grow (by simp) }
  | setUnacked window issued => exact { sound with unacked := issued }
  | setQueue entries issued => exact { sound with queue := issued }
  | rotate keys =>
    exact { sound with
      log := sound.log.quiet (by simp) (by simp), queue := queue _, unacked := unacked _
      names := sound.names.grow (by simp) }

/-- Every micro-step keeps a session sound. -/
theorem CoreStep.sound {env : Environment} {before after : Session}
    (step : CoreStep env before after) (sound : before.Sound) : after.Sound := by
  -- What is held was issued, and stays so as the history grows.
  have queue : ∀ more, ∀ entry ∈ before.unpacedQueue, .issued entry.1 ∈ before.log ++ more :=
    fun more entry member => List.mem_append_left more (sound.queue entry member)
  have unacked : ∀ more, ∀ entry ∈ before.unackedPackets.iter,
      .issued entry.2.payload ∈ before.log ++ more :=
    fun more entry member => List.mem_append_left more (sound.unacked entry member)
  cases step with
  | setState state later => exact { sound with client := fun _ => later }
  | send step => exact step.sound sound
  | issue payload issuable =>
    have log : LogSound (before.log ++ [.issued payload]) before.nextPacketNumber := by
      refine sound.log.grow le_rfl (fun other member => ?_) (by simp) (by simp)
      cases List.mem_singleton.mp member
      exact issuable.words sound
    exact { sound with
      log := log, queue := queue _, unacked := unacked _, names := sound.names.grow (by simp) }
  | follow => exact { sound with }
  | credit frame => exact { sound with }
  | mark pn fits =>
    have windows : before.replayWindow.markProcessed pn = before.ackTracker.markProcessed pn := by
      rw [sound.windows]
    refine { sound with windows := windows, highest := fun highest reached => ?_ }
    -- The highest number is the old one or the one just marked.
    simp only [PacketWindow.markProcessed_highest, Option.some.injEq] at reached
    subst reached
    split
    · exact fits
    · rename_i old seen
      have bound := sound.highest old seen
      omega
  | openLocal streamType now acts absent fits =>
    have parity := sound.names.parity
    -- The next id moves on by two, so it keeps its parity and passes the one just used.
    have later : (before.nextStreamId + 2) % 2 = before.localParity := by omega
    exact { sound with
      streams := sound.insert (by omega) (StreamState.new_sound _ _ _ sound.window)
      log := sound.log.quiet (by simp) (by simp), queue := queue _, unacked := unacked _
      names := sound.names.insert (Nat.le_add_right _ 2) later (fun _ => Nat.lt_add_of_pos_right (by decide))
        (by simp) (by simp) }
  | openPeer streamType now absent fits parity frame =>
    exact { sound with
      streams := sound.insert fits (StreamState.new_sound _ _ _ sound.window)
      log := sound.log.quiet (by simp) (by simp), queue := queue _, unacked := unacked _
      names := sound.names.insert le_rfl sound.names.parity
        (fun own => absurd (own.symm.trans parity) before.parities_differ) (by simp) (by simp) }
  | remove found removal =>
    rename_i id stream effect
    refine { sound with
      streams := fun other stored kept => ?_
      log := sound.log.quiet ?_ ?_, queue := queue _, unacked := unacked _
      names := (sound.names.erase id).grow ?_ }
    · rw [SortedMap.find?_erase] at kept
      split at kept
      · cases kept
      · exact sound.streams other stored kept
    · intro payload member
      cases removal <;> simp at member
    · intro record member
      cases removal <;> simp at member
    · intro other member
      cases removal <;> simp at member
  | stream found step reads writes credit =>
    obtain ⟨small, soundStream⟩ := sound.streams _ _ found
    exact { sound with
      streams := sound.insert small (step.sound soundStream)
      log := sound.log.grow le_rfl (fun payload member => step.issued soundStream small member)
        (fun record member => absurd member (step.silent record))
        (fun record member => absurd member (step.silent record))
      queue := queue _, unacked := unacked _
      names := (sound.names.replace found).grow step.uncreated }
  | handled frame known arrived settled =>
    exact { sound with
      log := sound.log.quiet (by simp) (by simp), queue := queue _, unacked := unacked _
      names := sound.names.grow (by simp) }

end Zetta
