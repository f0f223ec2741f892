import Zetta.Machine.Sound
import Zetta.Proofs.Transport.Congestion

/-! Every way of sending follows the machine's sending steps and leaves the streams alone. -/

namespace Zetta
namespace ZtConnectionActor

open Program

variable {CC : Type}

/--
What an event can still spend on key updates: packets counted, packets the socket will take, and
the intervals already filled.
-/
def spend (self : ZtConnectionActor CC) : Nat :=
  self.packetsSinceKeyUpdate + self.host.sends.count .sent +
    self.config.keyUpdatePacketInterval * self.rotations

/-- Outside the session, the actor at most used up answers of the socket. -/
structure Idle (before after : ZtConnectionActor CC) : Prop where
  maxStreams : after.localMaxStreams = before.localMaxStreams
  interval : after.config.keyUpdatePacketInterval = before.config.keyUpdatePacketInterval
  count : after.packetsSinceKeyUpdate = before.packetsSinceKeyUpdate
  sends : after.host.sends.count .sent ≤ before.host.sends.count .sent

/-- Packets are counted only against what the socket takes, once no Initial payload is left. -/
def Spends (before after : ZtConnectionActor CC) : Prop :=
  after.config.keyUpdatePacketInterval = before.config.keyUpdatePacketInterval ∧
    (before.InitialFree → after.spend ≤ before.spend)

/-- A packet was taken by the socket and not yet counted, or need not be. -/
def Paid (before after : ZtConnectionActor CC) : Prop :=
  before.InitialFree → after.state ≠ .active ∨ after.spend + 1 ≤ before.spend

/-- The actor went through sending steps only. -/
def Sends [Hkdf] (before after : ZtConnectionActor CC) : Prop :=
  Relation.ReflTransGen SendStep before.toSession after.toSession ∧
    after.localMaxStreams = before.localMaxStreams ∧ Spends before after

/-- The actor has taken the number of a packet it is about to send, and done nothing else. -/
structure Numbered (before after : ZtConnectionActor CC) : Prop where
  fits : before.nextPacketNumber + 1 < u64Size
  session : after.toSession =
    { before.toSession with nextPacketNumber := before.nextPacketNumber + 1 }
  idle : Idle before after

namespace Idle

variable {before middle after : ZtConnectionActor CC}

/-- Nothing of it changed. -/
theorem of_outer (same : after.outer = before.outer) : Idle before after := by
  simp only [outer, Prod.mk.injEq] at same
  obtain ⟨maxStreams, count, sends, interval, -⟩ := same
  exact ⟨maxStreams, interval, count, by rw [sends]⟩

/-- One after the other. -/
theorem trans (first : Idle before middle) (second : Idle middle after) : Idle before after :=
  ⟨second.maxStreams.trans first.maxStreams, second.interval.trans first.interval,
    second.count.trans first.count, second.sends.trans first.sends⟩

/-- An idle actor spends nothing, as long as the keys stay. -/
theorem spends (idle : Idle before after) (keys : after.rotations = before.rotations) :
    Spends before after := by
  refine ⟨idle.interval, fun _ => ?_⟩
  have sends := idle.sends
  unfold spend
  rw [idle.interval, idle.count, keys]
  omega

end Idle

namespace Spends

variable {before middle after : ZtConnectionActor CC}

/-- Standing still spends nothing. -/
theorem refl (self : ZtConnectionActor CC) : Spends self self := ⟨rfl, fun _ => le_rfl⟩

/-- One after the other. -/
theorem trans (first : Spends before middle) (second : Spends middle after)
    (free : before.InitialFree → middle.InitialFree) : Spends before after :=
  ⟨second.1.trans first.1, fun start => (second.2 (free start)).trans (first.2 start)⟩

end Spends

section Primitives

/-- Taking a number takes the next one, or reports that the numbers have run out. -/
theorem getNextPacketNumber_exact (self : ZtConnectionActor CC) :
    (u64Size ≤ self.nextPacketNumber + 1 ∧
        exec getNextPacketNumber self = (.error .packetNumberOverflow, self)) ∨
      (self.nextPacketNumber + 1 < u64Size ∧
        exec getNextPacketNumber self = (.ok self.nextPacketNumber,
          { self with nextPacketNumber := self.nextPacketNumber + 1 })) := by
  unfold getNextPacketNumber
  rw [exec_bind_get]
  -- The checked addition is the only thing that can fail.
  by_cases fits : self.nextPacketNumber + 1 < u64Size
  · right
    simp only [checkedAdd, if_pos fits]
    exact ⟨fits, rfl⟩
  · left
    simp only [checkedAdd, if_neg fits]
    exact ⟨not_lt.mp fits, rfl⟩

/-- The call that seals a payload after a header. -/
def sealing (crypto : CryptoContext) (header : PacketHeader) (payload : Bytes) : Encryption :=
  ⟨crypto, header.packetNumber, header.encode, payload⟩

/-- The packet a header and a plaintext make under some keys. -/
def sealedPacket (crypto : CryptoContext) (header : PacketHeader) (plaintext : Bytes) : Packet :=
  ⟨header, .encrypted (crypto.encryptInPlace header.packetNumber header.encode plaintext)⟩

/-- Sealing fails if the host says so, and uses up its answer; otherwise it seals. -/
theorem sealWith_exact (crypto : CryptoContext) (header : PacketHeader) (payload : Bytes)
    (self : ZtConnectionActor CC) :
    (∃ error rest, self.host.sends = .cryptoError :: rest ∧
        exec (sealWith crypto header payload) self =
          (.error error, { self.encrypting (sealing crypto header payload) with
            host := { self.host with sends := rest } })) ∨
      self.host.sends.head? ≠ some .cryptoError ∧
        exec (sealWith crypto header payload) self =
          (.ok (sealedPacket crypto header payload),
            self.encrypting (sealing crypto header payload)) := by
  unfold sealWith
  rw [exec_bind_modify, exec_bind_get]
  split
  · rename_i rest answers
    exact .inl ⟨_, rest, answers, rfl⟩
  · rename_i other
    refine .inr ⟨fun first => ?_, rfl⟩
    obtain ⟨rest, answers⟩ := List.head?_eq_some_iff.mp first
    exact other rest answers

/-- A call of the packet protection was made under the connection's keys, or none was. -/
def Attempted (self : ZtConnectionActor CC) (header : PacketHeader) (payload : Bytes)
    (encryptions : List Encryption) : Prop :=
  encryptions = self.encryptions ∨
    ∃ crypto, self.crypto = some crypto ∧
      encryptions = self.encryptions ++ [sealing crypto header payload]

/-- With keys, protecting a packet fails if the host says so, and seals it otherwise. -/
theorem protectPacket_eq {self : ZtConnectionActor CC} {crypto : CryptoContext}
    (keys : self.crypto = some crypto) (header : PacketHeader) (payload : Bytes) :
    (∃ error rest, self.host.sends = .cryptoError :: rest ∧
        exec (protectPacket header payload) self =
          (.error error, { self.encrypting (sealing crypto header payload) with
            host := { self.host with sends := rest } })) ∨
      self.host.sends.head? ≠ some .cryptoError ∧
        exec (protectPacket header payload) self =
          (.ok (sealedPacket crypto header payload, crypto.epoch),
            self.encrypting (sealing crypto header payload)) := by
  unfold protectPacket
  rw [exec_bind_get, keys]
  dsimp only
  rcases sealWith_exact crypto header payload self with ⟨error, rest, answers, failed⟩ | ⟨other, sealed⟩
  · exact .inl ⟨error, rest, answers, exec_bind_error failed⟩
  · exact .inr ⟨other, exec_bind_ok sealed⟩

/-- Protecting a packet fails without keys or on the socket's account, or seals it. -/
theorem protectPacket_cases (header : PacketHeader) (payload : Bytes) (self : ZtConnectionActor CC) :
    (∃ error rest encryptions, rest <:+ self.host.sends ∧
        (self.crypto = none ∨ self.host.sends.head? ≠ some .sent) ∧
        self.Attempted header payload encryptions ∧
        exec (protectPacket header payload) self = (.error error, { self with
          host := { self.host with sends := rest }, encryptions := encryptions })) ∨
      ∃ crypto, self.crypto = some crypto ∧
        exec (protectPacket header payload) self =
          (.ok (sealedPacket crypto header payload, crypto.epoch),
            self.encrypting (sealing crypto header payload)) := by
  cases keys : self.crypto with
  | none =>
    refine .inl ⟨.unauthorized, _, _, List.suffix_rfl, .inl rfl, .inl rfl, ?_⟩
    unfold protectPacket
    rw [exec_bind_get, keys]
    rfl
  | some crypto =>
    rcases protectPacket_eq keys header payload with ⟨error, rest, answers, failed⟩ | ⟨-, sealed⟩
    · refine .inl ⟨error, rest, _, ?_, .inr (by simp [answers]), .inr ⟨crypto, keys, rfl⟩, failed⟩
      rw [answers]
      exact List.suffix_cons _ _
    · exact .inr ⟨crypto, rfl, sealed⟩

/-- What the socket does with a packet, what it answers and why it may refuse it. -/
inductive Handed (self : ZtConnectionActor CC) (packet : Packet) (epoch : Nat) :
    Except ZtError Unit × ZtConnectionActor CC → Prop
  /-- The limit on unverified clients keeps the packet back. -/
  | limited (state : self.state = .handshaking) (server : self.isClient = false)
      (excess : 3 * max self.bytesReceived 1 < self.bytesSent + packet.size) :
      Handed self packet epoch (.ok (), self)
  | taken {rest : List SendOutcome} (answers : self.host.sends = .sent :: rest)
      (affords : self.isClient = false → self.state = .handshaking →
        self.bytesSent + packet.size ≤ 3 * max self.bytesReceived 1)
      (fits : packet.size ≤ maxUdpPayload) :
      Handed self packet epoch (.ok (), { self.note (.sent ⟨packet, epoch, self.addr⟩) with
        bytesSent := self.bytesSent + packet.size
        host := { self.host with sends := rest } })
  | refused (blocked : Bool)
      (fault : self.host.sends.head? ≠ some .sent ∨ maxUdpPayload < packet.size)
      (calm : self.host.sends.head? = some .sent → blocked = self.socketBlocked) :
      Handed self packet epoch (.error .io, { self with
        host := { self.host with sends := self.host.sends.drop 1 }
        socketBlocked := blocked })

/-- That is what handing a packet to the socket does. -/
theorem sendmsgVectored_handed (packet : Packet) (epoch : Nat) (self : ZtConnectionActor CC) :
    self.Handed packet epoch (exec (sendmsgVectored packet epoch) self) := by
  unfold sendmsgVectored
  rw [exec_bind_get]
  dsimp only
  split
  · rename_i limited
    exact .limited limited.2.1 (by simpa using limited.1) limited.2.2
  · rename_i within
    have refused : ∀ blocked, self.host.sends.head? ≠ some .sent ∨ maxUdpPayload < packet.size →
      (self.host.sends.head? = some .sent → blocked = self.socketBlocked) →
      self.Handed packet epoch _ := fun blocked fault calm => .refused blocked fault calm
    unfold nextSend
    cases answers : self.host.sends with
    | nil =>
      rw [answers] at refused
      have same : ({ self.host with sends := [] } : Host) = self.host := by rw [← answers]
      rw [List.drop_nil, same] at refused
      exact refused true (.inl nofun) nofun
    | cons outcome rest =>
      rw [answers] at refused
      cases outcome with
      | sent =>
        dsimp only
        split
        · -- The packet goes out.
          rename_i fits
          refine .taken answers (fun server handshaking => ?_) fits
          simpa [server, handshaking] using within
        · rename_i large
          exact refused self.socketBlocked (.inr (not_le.mp large)) fun _ => rfl
      | wouldBlock => exact refused true (.inl nofun) nofun
      | ioError | cryptoError => exact refused self.socketBlocked (.inl nofun) fun _ => rfl

/-- The socket sends the packet to the current address, or the session does not change. -/
theorem sendmsgVectored_cases (packet : Packet) (epoch : Nat) (self : ZtConnectionActor CC) :
    Idle self (exec (sendmsgVectored packet epoch) self).2 ∧
      ((exec (sendmsgVectored packet epoch) self).2.toSession = self.toSession ∨
        packet.size ≤ maxUdpPayload ∧
          (exec (sendmsgVectored packet epoch) self).2.toSession =
            { self.toSession with log := self.log ++ [.sent ⟨packet, epoch, self.addr⟩] }) := by
  have handed := self.sendmsgVectored_handed packet epoch
  generalize exec (sendmsgVectored packet epoch) self = result at handed ⊢
  cases handed with
  | limited => exact ⟨.of_outer rfl, .inl rfl⟩
  | taken answers _ fits => exact ⟨⟨rfl, rfl, rfl, by simp [answers]⟩, .inr ⟨fits, rfl⟩⟩
  | refused => exact ⟨⟨rfl, rfl, rfl, (List.drop_sublist 1 _).count_le _⟩, .inl rfl⟩

/-- A packet the socket took in an active connection used up one of its answers. -/
theorem sendmsgVectored_ok {packet : Packet} {epoch : Nat} {self after : ZtConnectionActor CC}
    {answer : Unit} (succeeded : exec (sendmsgVectored packet epoch) self = (.ok answer, after)) :
    after.state ≠ .active ∨ after.host.sends.count .sent + 1 ≤ self.host.sends.count .sent := by
  have handed := self.sendmsgVectored_handed packet epoch
  rw [succeeded] at handed
  cases handed with
  | limited state =>
    left
    rw [state]
    decide
  | taken answers =>
    right
    simp [answers]

/-- A program that starts by taking a number stops at once or goes on with it. -/
theorem numbered_ends {β : Type} (property : ZtConnectionActor CC → Prop)
    {self : ZtConnectionActor CC} {next : Nat → Act CC β} (stuck : property self)
    (rest : ∀ after, Numbered self after →
      property (exec (next self.nextPacketNumber) after).2) :
    property (exec (getNextPacketNumber >>= next) self).2 := by
  rcases self.getNextPacketNumber_exact with ⟨-, failed⟩ | ⟨fits, taken⟩
  · rw [exec_bind_error failed]
    exact stuck
  · rw [exec_bind_ok taken]
    exact rest _ ⟨fits, rfl, .of_outer rfl⟩

/-- A program that protects a packet fails quietly or goes on with the sealed packet. -/
theorem protect_ends {β : Type} (property : ZtConnectionActor CC → Prop)
    {self : ZtConnectionActor CC} {header : PacketHeader} {plaintext : Bytes}
    {next : Packet × Nat → Act CC β}
    (failed : ∀ host encryptions, host.sends.count .sent ≤ self.host.sends.count .sent →
      self.Attempted header plaintext encryptions →
      property { self with host := host, encryptions := encryptions })
    (rest : ∀ crypto, self.crypto = some crypto →
      property (exec (next (sealedPacket crypto header plaintext, crypto.epoch))
        (self.encrypting (sealing crypto header plaintext))).2) :
    property (exec (protectPacket header plaintext >>= next) self).2 := by
  rcases protectPacket_cases header plaintext self with
    ⟨error, rest, encryptions, fewer, -, attempted, broken⟩ | ⟨crypto, keys, sealed⟩
  · rw [exec_bind_error broken]
    exact failed _ encryptions (fewer.sublist.count_le _) attempted
  · rw [exec_bind_ok sealed]
    exact rest crypto keys

/-- The scan for expired packets counts attempts and keeps every payload. -/
theorem expireSlots_payloads (now : Instant) (rto : Duration)
    (deque : List (Option UnackedPacket)) (pn : Nat) (expiry : Expiry) :
    (UnackedWindow.slots pn (expireSlots now rto pn deque expiry).1).map (fun entry => entry.2.payload) =
      (UnackedWindow.slots pn deque).map fun entry => entry.2.payload := by
  -- The scan keeps the slots in place, so both sides are walked together.
  induction deque generalizing pn expiry with
  | nil => rfl
  | cons slot rest ih =>
    cases slot with
    | none =>
      simp only [expireSlots, UnackedWindow.slots]
      exact ih _ _
    | some up =>
      unfold expireSlots
      split
      · split
        · simp only [UnackedWindow.slots, List.map_cons, ih]
        · dsimp only
          split
          · simp only [UnackedWindow.slots, List.map_cons]
          · simp only [UnackedWindow.slots, List.map_cons, ih]
      · simp only [UnackedWindow.slots, List.map_cons, ih]

end Primitives

variable [Hkdf]

namespace Sends

variable {before middle after : ZtConnectionActor CC}

/-- Standing still is sending nothing. -/
theorem refl (self : ZtConnectionActor CC) : Sends self self := ⟨.refl, rfl, .refl self⟩

/-- Sending issues no Initial payload. -/
theorem initialFree (sends : Sends before after) (free : before.InitialFree) : after.InitialFree :=
  fun cookie member => free cookie ((SentOnly.of_run sends.1).issued member)

/-- One sequence of sending steps after another. -/
theorem trans (first : Sends before middle) (second : Sends middle after) : Sends before after :=
  ⟨first.1.trans second.1, second.2.1.trans first.2.1, first.2.2.trans second.2.2 first.initialFree⟩

/-- A change outside the session is no step. -/
theorem of_idle (session : after.toSession = before.toSession) (idle : Idle before after) :
    Sends before after :=
  ⟨session ▸ .refl, idle.maxStreams, idle.spends (congrArg Session.rotations session)⟩

/-- A change that sending does not look at is no step. -/
theorem of_same (session : after.toSession = before.toSession)
    (same : after.outer = before.outer) : Sends before after :=
  of_idle session (.of_outer same)

/-- A single sending step that keeps the keys. -/
theorem single (step : SendStep before.toSession after.toSession) (idle : Idle before after)
    (epoch : after.currentKeyEpoch = before.currentKeyEpoch) : Sends before after :=
  ⟨.single step, idle.maxStreams, idle.spends (step.rotations epoch)⟩

/-- Sending keeps a session sound. -/
theorem sound (sends : Sends before after) (sound : before.Sound) : after.Sound :=
  invariant_run (fun _ _ holds step => step.sound holds) sound sends.1

end Sends

/-- The history of a sender only grows. -/
theorem Sends.keeps {before after : ZtConnectionActor CC} (sends : Sends before after)
    {effect : Effect} (member : effect ∈ before.log) : effect ∈ after.log := by
  obtain ⟨more, grown, -⟩ := (SentOnly.of_run sends.1).log
  rw [grown]
  exact List.mem_append_left more member

/-- A sender leaves the table of streams alone. -/
theorem Sends.streams {before after : ZtConnectionActor CC} (sends : Sends before after) :
    after.streams = before.streams := by
  have kept := congrArg Session.streams (SentOnly.of_run sends.1).rest
  exact kept

/-- A sender leaves the state of the connection alone. -/
theorem Sends.state {before after : ZtConnectionActor CC} (sends : Sends before after) :
    after.state = before.state := by
  have kept := congrArg Session.state (SentOnly.of_run sends.1).rest
  exact kept

omit [Hkdf] in
/-- Changes outside the session do not matter to a number taken. -/
theorem Numbered.quiet {before after later : ZtConnectionActor CC} (numbered : Numbered before after)
    (session : later.toSession = after.toSession) (idle : Idle after later) :
    Numbered before later :=
  ⟨numbered.fits, session.trans numbered.session, numbered.idle.trans idle⟩

omit [Hkdf] in
/-- Taking a number keeps the keys. -/
theorem Numbered.epoch {before after : ZtConnectionActor CC} (numbered : Numbered before after) :
    after.currentKeyEpoch = before.currentKeyEpoch := by
  have epoch := congrArg Session.currentKeyEpoch numbered.session
  exact epoch

/-- A number that was taken and not used is skipped. -/
theorem Numbered.skip {before after : ZtConnectionActor CC} (numbered : Numbered before after) :
    Sends before after := by
  refine Sends.single ?_ numbered.idle numbered.epoch
  rw [numbered.session]
  exact .skipNumber numbered.fits

/-- The same when sealing the packet fails. -/
theorem Numbered.broken {before after : ZtConnectionActor CC} (numbered : Numbered before after)
    {header : PacketHeader} {plaintext : Bytes} (host : Host) (encryptions : List Encryption)
    (fewer : host.sends.count .sent ≤ after.host.sends.count .sent)
    (_ : after.Attempted header plaintext encryptions) :
    Sends before { after with host := host, encryptions := encryptions } :=
  Numbered.skip (numbered.quiet rfl ⟨rfl, rfl, rfl, fewer⟩)

omit [Hkdf] in
/-- Writing down a call of the packet protection is outside the session. -/
theorem Numbered.encrypting {before after : ZtConnectionActor CC} (numbered : Numbered before after)
    (encryption : Encryption) : Numbered before (after.encrypting encryption) :=
  numbered.quiet rfl (.of_outer rfl)

omit [Hkdf] in
/-- Padding a short payload appends zero bytes. -/
theorem padShort_eq (pnLen : Nat) (payload : Bytes) :
    ∃ pad, padShort pnLen payload = payload ++ List.replicate pad 0 := by
  unfold padShort
  dsimp only
  split
  · exact ⟨_, rfl⟩
  · exact ⟨0, by simp⟩

/--
A frame that may be sent goes out under the number taken, or the number is skipped.

The header may be built before the address changes, so it comes from a state of its own.
-/
theorem Numbered.send {before builder sender : ZtConnectionActor CC} {pType : PacketType}
    {crypto : CryptoContext} {frame : Frame} (built : Numbered before builder)
    (numbered : Numbered before sender) (kind : pType.isProtected = true)
    (keys : builder.crypto = some crypto) (sendable : Sendable before.log frame) (pad : Nat) :
    Sends before (exec (sendmsgVectored
      (sealedPacket crypto (builder.shortHeader pType before.nextPacketNumber)
        (frame.encode ++ List.replicate pad 0)) crypto.epoch) sender).2 := by
  generalize same : sealedPacket crypto (builder.shortHeader pType before.nextPacketNumber)
    (frame.encode ++ List.replicate pad 0) = packet
  obtain ⟨idle, quiet | ⟨fits, sent⟩⟩ := sendmsgVectored_cases packet crypto.epoch sender
  · exact (numbered.quiet quiet idle).skip
  · -- The packet is built from the session as it was before the number was taken.
    have header : packet.header = builder.shortHeader pType before.nextPacketNumber := by rw [← same]; rfl
    have epoch := built.epoch
    have length := pnLength_bounds before.nextPacketNumber
      (builder.lowestUnacked before.nextPacketNumber - 1)
    have record : Built before.toSession ⟨packet, crypto.epoch, sender.addr⟩ := {
      short := by rw [header]; rfl
      kind := by rw [header]; exact kind
      number := by rw [header]; rfl
      phase := by rw [header, ← epoch]; rfl
      length := by rw [header]; exact length
      size := fits
      content := ⟨crypto, frame, pad, (congrArg Session.crypto built.session).symm.trans keys, rfl,
        sendable, by rw [← same]; rfl⟩ }
    refine Sends.single ?_ (numbered.idle.trans idle) ?_
    · rw [sent, numbered.session]
      exact .emit _ numbered.fits record
    · show Session.currentKeyEpoch _ = Session.currentKeyEpoch _
      rw [sent, numbered.session]

omit [Hkdf] in
/-- What the socket took in an active connection pays for counting it. -/
theorem Numbered.paid {before sender after : ZtConnectionActor CC} (numbered : Numbered before sender)
    {packet : Packet} {epoch : Nat} {answer : Unit}
    (succeeded : exec (sendmsgVectored packet epoch) sender = (.ok answer, after)) :
    Paid before after := by
  intro _
  have spec := sendmsgVectored_cases packet epoch sender
  rw [succeeded] at spec
  obtain ⟨idle, outcome⟩ := spec
  rcases sendmsgVectored_ok succeeded with inactive | taken
  · exact .inl inactive
  · right
    have keys : after.rotations = before.rotations := by
      rcases outcome with same | ⟨-, same⟩
      · show Session.rotations _ = Session.rotations _
        rw [same, numbered.session]
        rfl
      · show Session.rotations _ = Session.rotations _
        rw [same, numbered.session]
        simp [Session.rotations, Effect.isRotation]
    have overall := numbered.idle.trans idle
    have sends := numbered.idle.sends
    unfold spend
    rw [overall.interval, overall.count, keys]
    omega

/-- Counting a packet may move the keys on: a full interval is traded for one rotation. -/
theorem notePacketSent_run (self : ZtConnectionActor CC) :
    Relation.ReflTransGen SendStep self.toSession self.notePacketSent.toSession ∧
      self.notePacketSent.localMaxStreams = self.localMaxStreams ∧
      self.notePacketSent.config = self.config := by
  unfold notePacketSent
  split
  · exact ⟨.refl, rfl, rfl⟩
  · split
    · exact ⟨.refl, rfl, rfl⟩
    · rename_i crypto keys
      dsimp only
      split
      · exact ⟨.single (.rotate keys), rfl, rfl⟩
      · exact ⟨.refl, rfl, rfl⟩

/-- Counting costs one packet, and nothing unless the connection is active. -/
theorem notePacketSent_spend (self : ZtConnectionActor CC) :
    self.notePacketSent.spend ≤ self.spend + 1 ∧
      (self.state ≠ .active → self.notePacketSent.spend = self.spend) := by
  have counted := saturatingAdd_le self.packetsSinceKeyUpdate 1
  unfold notePacketSent
  split
  · exact ⟨Nat.le_succ _, fun _ => rfl⟩
  · rename_i active
    refine ⟨?_, fun inactive => absurd inactive active⟩
    split
    · exact Nat.le_succ _
    · dsimp only
      split
      · simp only [spend, note, Session.rotations, List.countP_append, List.countP_singleton,
          Effect.isRotation, if_true, Nat.mul_add, Nat.mul_one]
        omega
      · simp only [spend, Session.rotations]
        omega

/-- A packet that was paid for can be counted. -/
theorem Spends.noted {before sent : ZtConnectionActor CC} (spends : Spends before sent)
    (paid : Paid before sent) : Spends before sent.notePacketSent := by
  obtain ⟨-, -, config⟩ := sent.notePacketSent_run
  obtain ⟨cost, free⟩ := sent.notePacketSent_spend
  refine ⟨by rw [config, spends.1], fun start => ?_⟩
  have within := spends.2 start
  rcases paid start with inactive | bought
  · rw [free inactive]
    exact within
  · omega

/-- Sending and counting a packet that was paid for. -/
theorem Sends.noted {before sent : ZtConnectionActor CC} (sends : Sends before sent)
    (paid : Paid before sent) : Sends before sent.notePacketSent := by
  obtain ⟨run, maxStreams, -⟩ := sent.notePacketSent_run
  exact ⟨sends.1.trans run, maxStreams.trans sends.2.1, sends.2.2.noted paid⟩

/-- Remembering an issued payload keeps what is in flight issued. -/
theorem track_sends {self : ZtConnectionActor CC} (sound : self.Sound) {payload : UnackedPayload}
    (issued : .issued payload ∈ self.log) (pn retries sentBytes : Nat) (isMtuProbe : Bool) :
    Sends self (self.track pn payload retries sentBytes isMtuProbe) := by
  refine Sends.single (.setUnacked _ fun entry member => ?_) (.of_outer rfl) rfl
  rcases UnackedWindow.mem_iter_insert member with rfl | old
  · exact issued
  · exact sound.unacked entry old

/-- Remembering and counting a packet that was paid for. -/
theorem Sends.trackSent {before sent : ZtConnectionActor CC} (sends : Sends before sent)
    (paid : Paid before sent) (sound : before.Sound) {payload : UnackedPayload}
    (issued : .issued payload ∈ before.log) (pn retries sentBytes : Nat) (isMtuProbe : Bool) :
    Sends before (sent.trackSent pn payload retries sentBytes isMtuProbe) := by
  have tracked := sends.trans (track_sends (sends.sound sound) (sends.keeps issued) pn retries
    sentBytes isMtuProbe)
  refine Sends.noted ?_ ?_
  · exact tracked
  · exact paid

/-- Sending an issued payload in a packet of its own only sends. -/
theorem sendDataPacket_sends {self : ZtConnectionActor CC} (sound : self.Sound)
    {payload : UnackedPayload} (issued : .issued payload ∈ self.log) (retries : Nat) :
    Sends self (exec (sendDataPacket payload retries) self).2 := by
  unfold sendDataPacket
  refine numbered_ends (Sends self) (Sends.refl self) fun after numbered => ?_
  rw [exec_bind_get]
  refine protect_ends (Sends self) numbered.broken fun crypto keys => ?_
  obtain ⟨pad, padded⟩ := padShort_eq (after.shortHeader .data self.nextPacketNumber).pnLen
    (payload.frame (after.shortHeader .data self.nextPacketNumber).encode.length).encode
  rw [padded]
  have sendable : Sendable self.log
      (payload.frame (after.shortHeader .data self.nextPacketNumber).encode.length) :=
    .inl ⟨payload, _, issued, rfl⟩
  have sent := fun encryption => numbered.send (numbered.encrypting encryption)
    (show PacketType.isProtected .data = true from rfl) keys sendable pad
  -- Once the packet is out it is remembered and counted.
  refine ends_bind (Sends self) (sent _) fun _ succeeded => ?_
  rw [exec_modify]
  have paid := (numbered.encrypting _).paid succeeded
  refine Sends.trackSent ?_ ?_ sound issued _ _ _ _
  · exact sent _
  · exact paid

omit [Hkdf] in
/-- An acknowledgment of numbers that fit their words may be sent. -/
theorem ackFrame_control {self : ZtConnectionActor CC}
    (fits : ∀ highest, self.ackTracker.highestProcessed = some highest → highest < u64Size) :
    self.ackFrame.IsControl := by
  refine ⟨?_, Nat.mod_lt _ (by decide), ?_, fun range member => ?_⟩
  · cases seen : self.ackTracker.highestProcessed with
    | none => decide
    | some highest => exact fits highest seen
  · cases self.largestAckedReceivedAt with
    | none => exact Nat.two_pow_pos 64
    | some received => exact Nat.mod_lt _ (by decide)
  · -- The ranges end at or below the highest number processed.
    obtain ⟨highest, seen, upward, below⟩ := PacketWindow.getAckRanges_proper member
    exact ⟨upward, lt_of_le_of_lt below (fits highest seen)⟩

/-- Acknowledging only sends. -/
theorem flushAcks_sends {self : ZtConnectionActor CC} (sound : self.Sound) :
    Sends self (exec flushAcks self).2 := by
  unfold flushAcks
  rw [exec_bind_get]
  split
  · exact Sends.refl self
  · refine numbered_ends (Sends self) (Sends.refl self) fun after numbered => ?_
    rw [exec_bind_modify, exec_bind_get]
    have refreshed : Numbered self after.refreshLocalWindow := numbered.quiet rfl (.of_outer rfl)
    refine protect_ends (Sends self) refreshed.broken fun crypto keys => ?_
    obtain ⟨pad, padded⟩ := padShort_eq
      (after.refreshLocalWindow.shortHeader .data self.nextPacketNumber).pnLen
      after.refreshLocalWindow.ackFrame.encode
    rw [padded]
    have tracker : after.refreshLocalWindow.ackTracker = self.ackTracker := by
      rw [refreshed.session]
    have control : after.refreshLocalWindow.ackFrame.IsControl := by
      apply ackFrame_control
      rw [tracker]
      exact sound.highest
    have sent := fun encryption => refreshed.send (refreshed.encrypting encryption)
      (show PacketType.isProtected .data = true from rfl) keys (.inr control) pad
    rw [exec_bind_attempt]
    -- Whether or not the packet went out, the pending count is cleared.
    split
    · exact (sent _).trans (Sends.of_same rfl rfl)
    · rename_i succeeded
      rw [exec_bind_modify]
      have paid := (refreshed.encrypting _).paid (Prod.ext succeeded rfl)
      exact ((sent _).noted paid).trans (Sends.of_same rfl rfl)

/-- Sending one control frame at once only sends. -/
theorem sendFrameImmediate_sends (self : ZtConnectionActor CC) {frame : Frame}
    (control : frame.IsControl) (toAddr : Address) :
    Sends self (exec (sendFrameImmediate frame toAddr) self).2 := by
  unfold sendFrameImmediate
  refine numbered_ends (Sends self) (Sends.refl self) fun after numbered => ?_
  rw [exec_bind_get]
  refine protect_ends (Sends self) numbered.broken fun crypto keys => ?_
  obtain ⟨pad, padded⟩ := padShort_eq (after.shortHeader .data self.nextPacketNumber).pnLen
    frame.encode
  rw [padded, exec_bind_modify]
  generalize sealing crypto (after.shortHeader .data self.nextPacketNumber)
    (frame.encode ++ List.replicate pad 0) = encryption
  have moved : Numbered self { after.encrypting encryption with addr := toAddr } :=
    (numbered.encrypting encryption).quiet rfl (.of_outer rfl)
  have sent := numbered.send moved (show PacketType.isProtected .data = true from rfl) keys
    (.inr control) pad
  rw [exec_bind_attempt, exec_bind_modify]
  -- The address is put back, and the outcome handed on.
  refine sent.trans ?_
  split <;> exact Sends.of_same rfl rfl

/-- Sealing changes nothing in the session. -/
theorem sealWith_sends (crypto : CryptoContext) (header : PacketHeader) (payload : Bytes)
    (self : ZtConnectionActor CC) : Sends self (exec (sealWith crypto header payload) self).2 := by
  rcases sealWith_exact crypto header payload self with ⟨error, rest, answers, failed⟩ | ⟨-, sealed⟩
  · rw [failed]
    exact Sends.of_idle rfl ⟨rfl, rfl, rfl, by simp [answers]⟩
  · rw [sealed]
    exact Sends.of_same rfl rfl

omit [Hkdf] in
/-- A sealed packet has the header it was sealed with. -/
theorem sealWith_header {crypto : CryptoContext} {header : PacketHeader} {payload : Bytes}
    {self after : ZtConnectionActor CC} {packet : Packet}
    (answered : exec (sealWith crypto header payload) self = (.ok packet, after)) :
    packet.header = header := by
  rcases sealWith_exact crypto header payload self with ⟨error, rest, -, failed⟩ | ⟨-, sealed⟩
  · rw [failed] at answered
    cases answered
  · rw [sealed] at answered
    cases answered
    rfl

/-- A packet of the handshake goes out or does not. -/
theorem sendLong_sends (self : ZtConnectionActor CC) {packet : Packet}
    (long : packet.header.pType.isHandshake = true) (epoch : Nat) :
    Sends self (exec (sendmsgVectored packet epoch) self).2 := by
  obtain ⟨idle, quiet | ⟨-, sent⟩⟩ := sendmsgVectored_cases packet epoch self
  · exact Sends.of_idle quiet idle
  · refine Sends.single ?_ idle ?_
    · rw [sent]
      exact .emitLong _ long
    · show Session.currentKeyEpoch _ = Session.currentKeyEpoch _
      rw [sent]

/-- The actor's session went through steps of the machine, paying for the packets it counted. -/
def Moves (env : Environment) (before after : ZtConnectionActor CC) : Prop :=
  Relation.ReflTransGen (CoreStep env) before.toSession after.toSession ∧ Spends before after

namespace Moves

variable {env : Environment} {before middle after : ZtConnectionActor CC}

/-- Standing still is no step. -/
theorem refl (self : ZtConnectionActor CC) : Moves env self self := ⟨.refl, .refl self⟩

/-- Steps forget nothing of the history. -/
theorem log_grows (moves : Moves env before after) : before.log <+: after.log := by
  have run := moves.1
  generalize after.toSession = reached at run
  induction run with
  | refl => exact List.prefix_rfl
  | tail _ step ih => exact ih.trans step.log_grows

/-- Steps issue no Initial payload. -/
theorem initialFree (moves : Moves env before after) (free : before.InitialFree) :
    after.InitialFree :=
  invariant_run (fun _ _ holds step => step.initialFree holds) free moves.1

/-- Steps after steps. -/
theorem trans (first : Moves env before middle) (second : Moves env middle after) :
    Moves env before after :=
  ⟨first.1.trans second.1, first.2.trans second.2 first.initialFree⟩

/-- A single step that moves no keys on. -/
theorem single (step : CoreStep env before.toSession after.toSession)
    (same : after.outer = before.outer) : Moves env before after := by
  have epoch : after.currentKeyEpoch = before.currentKeyEpoch := by
    simp only [outer, Prod.mk.injEq] at same
    exact same.2.2.2.2
  exact ⟨.single step, (Idle.of_outer same).spends (step.rotations epoch)⟩

/-- A change outside the session is no step. -/
theorem of_same (session : after.toSession = before.toSession)
    (same : after.outer = before.outer) : Moves env before after := by
  refine ⟨?_, (Idle.of_outer same).spends (congrArg Session.rotations session)⟩
  rw [session]

/-- The same, as acknowledgment processing sees it. -/
theorem of_view (view : after.ackView = before.ackView) : Moves env before after :=
  of_same (congrArg Prod.fst view) (congrArg (fun view => view.2.2) view)

/-- Steps keep a session sound. -/
theorem sound (moves : Moves env before after) (sound : before.Sound) : after.Sound :=
  invariant_run (fun _ _ holds step => step.sound holds) sound moves.1

/-- Sending is one way to move. -/
theorem of_sends (sends : Sends before after) : Moves env before after :=
  ⟨sends.1.lift id fun _ _ step => CoreStep.send step, sends.2.2⟩

end Moves

variable [HandshakeCrypto]

/-- An Initial packet goes out under a number of its own, and its payload is remembered. -/
theorem sendInitialPacketInternal_sends {self : ZtConnectionActor CC} (sound : self.Sound)
    {cookie : Option Bytes} (issued : .issued (.initial cookie) ∈ self.log) (retries : Nat) :
    Sends self (exec (sendInitialPacketInternal cookie retries) self).2 := by
  unfold sendInitialPacketInternal
  refine numbered_ends (Sends self) (Sends.refl self) fun after numbered => ?_
  rw [exec_bind_get, exec_bind_modify]
  have skipped := numbered.skip
  split
  · exact skipped.trans (Sends.of_same rfl rfl)
  · -- The Initial keys are public, so sealing needs no state of the connection.
    have sealing := fun header payload =>
      skipped.trans (sealWith_sends (CryptoContext.initial after.dcid true) header payload
        { after with cookie := cookie.or after.cookie })
    refine ends_bind (Sends self) (sealing _ _) fun packet sealed => ?_
    have long := sealWith_header sealed
    rw [exec_bind_modify, exec_bind_attempt, exec_modify]
    -- The packet is counted even if the socket did not take it, so nothing is said of its price.
    refine Sends.trackSent (Sends.trans ?_ (sendLong_sends _ ?_ _)) ?_ sound issued _ _ _ _
    · exact sealing _ _
    · rw [long]
      rfl
    · exact fun free => absurd issued (free cookie)

/-- Sending an issued payload only sends, whichever packet carries it. -/
theorem sendPayloadWithRetries_sends {self : ZtConnectionActor CC} (sound : self.Sound)
    {payload : UnackedPayload} (issued : .issued payload ∈ self.log) (retries : Nat) :
    Sends self (exec (sendPayloadWithRetries payload retries) self).2 := by
  unfold sendPayloadWithRetries
  split
  · exact sendInitialPacketInternal_sends sound issued retries
  · exact sendDataPacket_sends sound issued retries

/-- A payload that cannot be sent again at once goes back to the queue. -/
theorem retransmitPayload_sends {self : ZtConnectionActor CC} (sound : self.Sound)
    {payload : UnackedPayload} (issued : .issued payload ∈ self.log) (retries : Nat) :
    Sends self (exec (retransmitPayload payload retries) self).2 := by
  unfold retransmitPayload
  have sent := sendPayloadWithRetries_sends sound issued retries
  rw [exec_bind_attempt]
  split
  · exact sent
  · -- The payload joins the queue, whose other entries were issued before.
    refine Sends.trans sent (Sends.single (.setQueue _ fun entry member => ?_)
      (.of_outer rfl) rfl)
    rcases List.mem_cons.mp member with rfl | old
    · exact sent.keeps issued
    · exact (sent.sound sound).queue entry old

/-- Sending several issued payloads again only sends. -/
theorem retransmitAll_sends [CongestionController CC] (payloads : List (UnackedPayload × Nat))
    {self : ZtConnectionActor CC} (sound : self.Sound)
    (issued : ∀ entry ∈ payloads, .issued entry.1 ∈ self.log) :
    Sends self (exec (retransmitAll payloads) self).2 := by
  induction payloads generalizing self with
  | nil => exact Sends.refl self
  | cons entry rest ih =>
    obtain ⟨payload, retries⟩ := entry
    unfold retransmitAll
    rw [exec_bind_attempt]
    have first := retransmitPayload_sends sound (issued _ List.mem_cons_self) retries
    exact first.trans (ih (first.sound sound) fun entry member =>
      first.keeps (issued entry (List.mem_cons_of_mem _ member)))

variable {env : Environment}

/-- A new payload is issued and sent. -/
theorem sendPayload_moves {self : ZtConnectionActor CC} (sound : self.Sound)
    {payload : UnackedPayload} (issuable : Issuable (env.allowed self.toSession) self.toSession payload) :
    Moves env self (exec (sendPayload payload) self).2 := by
  unfold sendPayload
  rw [exec_bind_modify]
  have issued : Moves env self (self.note (.issued payload)) := .single (.issue payload issuable) rfl
  refine issued.trans (.of_sends (retransmitPayload_sends (issued.sound sound) ?_ 0))
  exact List.mem_append_right _ List.mem_cons_self

/-- Closing a connection moves along the machine. -/
theorem initiateClose_moves {self : ZtConnectionActor CC} (sound : self.Sound) :
    Moves env self (exec initiateClose self).2 := by
  unfold initiateClose
  rw [exec_bind_modify]
  have closing : Moves env self { self with state := .closing } :=
    .single (.setState .closing (by decide)) rfl
  exact closing.trans (sendPayload_moves (closing.sound sound) trivial)

/-- Closing with an error moves along the machine. -/
theorem initiateCloseWithError_moves {self : ZtConnectionActor CC} (sound : self.Sound)
    {errorCode : Nat} (fits : errorCode < u64Size) (reason : Bytes) :
    Moves env self (exec (initiateCloseWithError errorCode reason) self).2 := by
  unfold initiateCloseWithError
  rw [exec_bind_modify]
  have closing : Moves env self { self with state := .closing } :=
    .single (.setState .closing (by decide)) rfl
  exact closing.trans (sendPayload_moves (closing.sound sound) fits)

/-- The end of a stream is announced with the size accepted so far. -/
theorem sendStreamClose_moves {self : ZtConnectionActor CC} (sound : self.Sound) {streamId : Nat}
    (small : streamId < u32Size) (asked : env.allowed self.toSession (.finish streamId)) :
    Moves env self (exec (sendStreamClose streamId) self).2 := by
  unfold sendStreamClose
  rw [exec_bind_get]
  exact sendPayload_moves sound ⟨small, rfl, asked⟩

/-- So is its reset. -/
theorem resetStream_moves {self : ZtConnectionActor CC} (sound : self.Sound)
    {streamId errorCode : Nat} (small : streamId < u32Size) (fits : errorCode < u64Size)
    (asked : env.allowed self.toSession (.finish streamId)) :
    Moves env self (exec (ZtConnectionActor.resetStream streamId errorCode) self).2 := by
  unfold ZtConnectionActor.resetStream
  rw [exec_bind_get]
  exact sendPayload_moves sound ⟨small, fits, rfl, asked⟩

omit [HandshakeCrypto] in
/-- A payload that could not be sent stays at the front of the queue, or the connection ends. -/
theorem pacedSendFailed_moves {self : ZtConnectionActor CC} (sound : self.Sound) (error : ZtError) :
    Moves env self (self.pacedSendFailed error).2 := by
  have closed : ∀ before : ZtConnectionActor CC, Moves env before { before with state := .closed } :=
    fun before => .single (.setState .closed (by decide)) rfl
  unfold pacedSendFailed
  split
  · exact .refl self
  · split
    · exact closed self
    · split
      · exact .refl self
      · rename_i payload retries rest front
        -- Counting the attempt leaves the payloads of the queue as they were.
        have counted : Moves env self
            { self with unpacedQueue := (payload, retries + 1) :: rest } := by
          refine .single (.send (.setQueue _ fun entry member => ?_)) rfl
          have held := fun entry member => sound.queue entry (front ▸ member)
          rcases List.mem_cons.mp member with rfl | old
          · exact held (payload, retries) List.mem_cons_self
          · exact held entry (List.mem_cons_of_mem _ old)
        dsimp only
        split
        · exact counted.trans (closed _)
        · exact counted

/-- Sending from the front of the queue moves along the machine, however far it gets. -/
theorem flushLoop_moves (fuel : Nat) {self : ZtConnectionActor CC} (sound : self.Sound) :
    Moves env self (exec (flushLoop fuel) self).2 := by
  -- Every round sends one payload of the queue, all of which were issued.
  induction fuel generalizing self with
  | zero => exact .refl self
  | succ fuel ih =>
    have paced : self.nextPace.2.toSession = self.toSession ∧
        self.nextPace.2.outer = self.outer := by
      unfold nextPace
      split <;> exact ⟨rfl, rfl⟩
    unfold flushLoop
    rw [exec_bind_get]
    split
    · exact .refl self
    · rename_i payload retries rest front
      dsimp only
      rw [exec_bind_set]
      have ready : Moves env self self.nextPace.2 := .of_same paced.1 paced.2
      refine ready.trans ?_
      have readySound := ready.sound sound
      split
      · exact .refl _
      · have issued : .issued payload ∈ self.nextPace.2.log := by
          rw [paced.1]
          exact sound.queue (payload, retries) (by rw [front]; exact List.mem_cons_self)
        have sent := sendPayloadWithRetries_sends readySound issued retries
        rw [exec_bind_attempt]
        split
        · rw [exec_bind_get, exec_bind_set]
          exact (Moves.of_sends sent).trans (pacedSendFailed_moves (sent.sound readySound) _)
        · rw [exec_bind_modify]
          -- The payload leaves the queue, the others stay.
          have popped : Moves env self.nextPace.2 { (exec (sendPayloadWithRetries payload retries)
              self.nextPace.2).2 with
                unpacedQueue := (exec (sendPayloadWithRetries payload retries)
                  self.nextPace.2).2.unpacedQueue.tail } := by
            refine (Moves.of_sends sent).trans
              (.single (.send (.setQueue _ fun entry member => ?_)) rfl)
            exact (sent.sound readySound).queue entry (List.mem_of_mem_tail member)
          refine Moves.trans ?_ (ih ?_)
          · exact popped
          · exact popped.sound readySound

/-- So does the whole round of pacing. -/
theorem flushPacingQueue_moves {self : ZtConnectionActor CC} (sound : self.Sound) :
    Moves env self (exec flushPacingQueue self).2 := by
  unfold flushPacingQueue
  rw [exec_bind_get]
  split
  · exact .refl self
  · exact flushLoop_moves _ sound

omit [HandshakeCrypto] in
/-- A payload that is issued as its packet goes out is remembered and counted. -/
theorem issueTracked_moves {origin self counted : ZtConnectionActor CC} (moves : Moves env origin self)
    (paid : Paid origin self) (sound : origin.Sound) {payload : UnackedPayload}
    (issuable : Issuable (env.allowed self.toSession) self.toSession payload) (pn retries sentBytes : Nat) (isMtuProbe : Bool)
    (same : counted.toSession =
      ((self.note (.issued payload)).track pn payload retries sentBytes isMtuProbe).toSession)
    (outer : counted.outer = self.outer) : Moves env origin counted.notePacketSent := by
  have issued : Moves env self (self.note (.issued payload)) := .single (.issue payload issuable) rfl
  have member : .issued payload ∈ (self.note (.issued payload)).log :=
    List.mem_append_right _ List.mem_cons_self
  have noted := issued.sound (moves.sound sound)
  have tracked := track_sends noted member pn retries sentBytes isMtuProbe
  have reached : Moves env self counted :=
    issued.trans ((Moves.of_sends tracked).trans (.of_same same outer))
  have total := moves.trans reached
  -- Issuing and remembering cost nothing, so the packet is still paid for.
  have stillPaid : Paid origin counted := by
    intro free
    have state := congrArg Session.state same
    change counted.state = self.state at state
    have cheap := reached.2.2 (moves.initialFree free)
    rcases paid free with inactive | bought
    · exact .inl (state ▸ inactive)
    · right
      omega
  obtain ⟨run, -, -⟩ := counted.notePacketSent_run
  exact ⟨total.1.trans (run.lift (fun session => session) fun _ _ step => CoreStep.send step),
    total.2.noted stillPaid⟩

omit [HandshakeCrypto] in
/-- A probe that went out is issued and remembered. -/
theorem sendMtuProbe_moves {self : ZtConnectionActor CC} (sound : self.Sound) :
    Moves env self (exec sendMtuProbe self).2 := by
  unfold sendMtuProbe
  rw [exec_bind_get]
  split
  · exact .refl self
  · split
    · exact .refl self
    · refine numbered_ends (Moves env self) (.refl self) fun after numbered => ?_
      rw [exec_bind_modify, exec_bind_get]
      have refreshed : Numbered self after.refreshLocalWindow := numbered.quiet rfl (.of_outer rfl)
      refine protect_ends (Moves env self) (fun host encryptions fewer attempted =>
        .of_sends (refreshed.broken host encryptions fewer attempted)) fun crypto keys => ?_
      -- A probe is padding, which may always be sent.
      have probe : Sendable self.log (.padding (self.mtuMin + (self.mtuMax - self.mtuMin) / 2 -
          ((after.refreshLocalWindow.shortHeader .mtuProbe self.nextPacketNumber).encode.length +
            16))) := .inr trivial
      have sent := fun encryption => refreshed.send (refreshed.encrypting encryption)
        (show PacketType.isProtected .mtuProbe = true from rfl) keys probe 0
      simp only [List.replicate_zero, List.append_nil] at sent
      rw [exec_bind_attempt]
      split
      · exact .of_sends (sent _)
      · rename_i succeeded
        rw [exec_modify]
        have paid := (refreshed.encrypting _).paid (Prod.ext succeeded rfl)
        exact issueTracked_moves (.of_sends (sent _)) paid sound (show Issuable _ _
          (.mtuProbe (self.mtuMin + (self.mtuMax - self.mtuMin) / 2)) from trivial) _ _ _ _ rfl rfl

section Accepting

variable [CongestionController CC]

/-- The actor after one of its streams accepted data. -/
def acceptData (streamId : Nat) (stream : StreamState) (data : Bytes)
    (self : ZtConnectionActor CC) : ZtConnectionActor CC :=
  { self.note (.issued (.stream streamId stream.streamType stream.nextTxOffset data)) with
    streams := self.streams.insert streamId { stream with
      nextTxOffset := stream.nextTxOffset + data.length
      txWindow := stream.txWindow - data.length }
    connTxOffset := saturatingAdd self.connTxOffset data.length
    remoteWindow := self.remoteWindow - data.length
    unpacedQueue := self.unpacedQueue ++
      [(.stream streamId stream.streamType stream.nextTxOffset data, 0)]
    queuedBytes := self.queuedBytes + data.length }

omit [Hkdf] [HandshakeCrypto] in
/-- Data is refused without a change, or accepted by an open stream within both windows. -/
theorem processOutgoingData_cases (self : ZtConnectionActor CC) (streamId : Nat) (data : Bytes) :
    (∃ error, exec (processOutgoingData streamId data) self = (.error error, self)) ∨
      ∃ stream, self.streams.find? streamId = some stream ∧ stream.sendStoppedError = none ∧
        stream.streamType ≠ .unidirectionalIn ∧ data.length ≤ stream.txWindow ∧
        data.length ≤ self.remoteWindow ∧
        exec (processOutgoingData streamId data) self =
          (.ok (), self.acceptData streamId stream data) := by
  unfold processOutgoingData
  rw [exec_bind_get]
  dsimp only
  -- Every check before the last one refuses the data and touches nothing.
  split
  · exact .inl ⟨_, rfl⟩
  · rename_i credit
    split
    · exact .inl ⟨_, rfl⟩
    · rename_i stream found
      split
      · exact .inl ⟨_, rfl⟩
      · rename_i opened
        split
        · exact .inl ⟨_, rfl⟩
        · rename_i writable
          split
          · exact .inl ⟨_, rfl⟩
          · rename_i fits
            split
            · exact .inl ⟨_, rfl⟩
            · exact .inr ⟨stream, found, opened, writable, not_lt.mp fits, not_lt.mp credit, rfl⟩

omit [HandshakeCrypto] in
/-- Accepted data takes the next offsets of its stream and joins the queue. -/
theorem processOutgoingData_moves {self : ZtConnectionActor CC} (sound : self.Sound)
    (streamId : Nat) (data : Bytes)
    (asked : self.streams.contains streamId = true → env.allowed self.toSession (.write streamId)) :
    Moves env self (exec (processOutgoingData streamId data) self).2 := by
  rcases processOutgoingData_cases self streamId data with
    ⟨error, refused⟩ | ⟨stream, found, opened, writable, fits, credit, taken⟩
  · rw [refused]
    exact .refl self
  · rw [taken]
    -- What the step costs is the length of the data.
    have cost : ([Effect.issued (.stream streamId stream.streamType stream.nextTxOffset data)].flatMap
        (Effect.accepted streamId)).length = data.length := by simp [Effect.accepted]
    -- The stream accepts the data, then its payload is queued.
    have accepted := CoreStep.stream found (.accept data opened writable fits) (by simp)
      (fun _ _ => asked (by simp [SortedMap.contains, found])) (by rw [cost]; exact credit)
    rw [cost] at accepted
    refine ⟨Relation.ReflTransGen.head accepted (.single (.send (.setQueue _ ?_))),
      Idle.spends ?_ ?_⟩
    · intro entry member
      rcases List.mem_append.mp member with old | new
      · exact List.mem_append_left _ (sound.queue entry old)
      · rw [List.mem_singleton.mp new]
        exact List.mem_append_right _ List.mem_cons_self
    · exact .of_outer rfl
    · simp [acceptData, note, Session.rotations, Effect.isRotation]

end Accepting

section Retransmission

omit [Hkdf] [HandshakeCrypto] in
/-- Expired probes change the search for the MTU only. -/
theorem noteExpiredProbes_essence [CongestionController CC] (expiry : Expiry)
    (self : ZtConnectionActor CC) (cc : CC) :
    (noteExpiredProbes expiry self).essence cc = self.essence cc := by
  have failures : ∀ (targets : List Nat) (self : ZtConnectionActor CC),
      (targets.foldl recordMtuProbeFailure self).essence cc = self.essence cc := by
    intro targets
    induction targets with
    | nil => exact fun self => rfl
    | cons target rest ih => exact fun self => ih (self.recordMtuProbeFailure target)
  unfold noteExpiredProbes
  dsimp only
  split
  · -- Falling back to the base MTU touches nothing else either.
    unfold recoverMtuBlackhole
    split <;> exact failures _ self
  · exact failures _ self

omit [Hkdf] [HandshakeCrypto] in
/-- Taking out expired packets touches only the accounts. -/
theorem drain_expired_essence (self : ZtConnectionActor CC) (toRetransmit toDrop : List Nat) (cc : CC) :
    (UnackedWindow.drain (expiredPacket toRetransmit) toDrop self.unackedPackets
        ([], self)).2.2.essence cc = self.essence cc := by
  refine UnackedWindow.drain_keeps
    (fun state : List (UnackedPayload × Nat) × ZtConnectionActor CC => state.2.essence cc)
    (fun pn up state => ?_) _ _ _
  unfold expiredPacket
  dsimp only
  split
  · rfl
  · split <;> rfl

omit [Hkdf] [HandshakeCrypto] in
/-- What it collects was issued. -/
theorem drain_expired {self : ZtConnectionActor CC} (sound : self.Sound)
    (toRetransmit toDrop : List Nat) :
    ∀ entry ∈ (UnackedWindow.drain (expiredPacket toRetransmit) toDrop self.unackedPackets
      ([], self)).2.1, .issued entry.1 ∈ self.log := by
  refine UnackedWindow.drain_preserves
    (fun state : List (UnackedPayload × Nat) × ZtConnectionActor CC =>
      ∀ entry ∈ state.1, .issued entry.1 ∈ self.log)
    (fun pn up state stored issued => ?_) toDrop ?_
  · unfold expiredPacket
    dsimp only
    -- Probes and datagrams are dropped; the payload of any other packet in flight was issued.
    split
    · exact issued
    · split
      · intro entry member
        rcases List.mem_append.mp member with old | new
        · exact issued entry old
        · rw [List.mem_singleton.mp new]
          exact sound.unacked (pn, up) stored
      · exact issued
  · simp

variable [CongestionController CC]

/-- What expired leaves the window, and what is reliable is sent again. -/
theorem dropExpired_moves (expiry : Expiry) {self : ZtConnectionActor CC} (sound : self.Sound) :
    Moves env self (exec (dropExpired expiry) self).2 := by
  have same := ackView_of_essence (self.drain_expired_essence expiry.toRetransmit expiry.toDrop)
  have issued := drain_expired sound expiry.toRetransmit expiry.toDrop
  have remaining := UnackedWindow.iter_drain (expiredPacket expiry.toRetransmit) expiry.toDrop
    self.unackedPackets ([], self)
  unfold dropExpired
  rw [exec_bind_get]
  generalize UnackedWindow.drain (expiredPacket expiry.toRetransmit) expiry.toDrop
    self.unackedPackets ([], self) = drained at same issued remaining
  obtain ⟨unacked, payloads, after⟩ := drained
  dsimp only at same issued remaining ⊢
  rw [exec_bind_set]
  have session : after.toSession = self.toSession := congrArg Prod.fst same
  have outer : after.outer = self.outer := congrArg (fun view => view.2.2) same
  -- The window shrinks, and the session is otherwise as it was.
  have dropped : Moves env self { after with unackedPackets := unacked } := by
    refine Moves.single ?_ outer
    rw [session]
    refine .send (.setUnacked _ fun entry member => ?_)
    rw [remaining] at member
    exact sound.unacked entry (List.mem_filter.mp member).1
  refine dropped.trans ?_
  split
  · exact .refl _
  · rw [exec_bind_modify]
    refine Moves.trans ?_ (.of_sends (retransmitAll_sends payloads ?_ fun entry member => ?_))
    · exact .of_same rfl rfl
    · exact dropped.sound sound
    · show .issued entry.1 ∈ after.log
      rw [session]
      exact issued entry member

/-- The retransmission timer moves along the machine, whether or not it gives up. -/
theorem handleRetransmits_moves {self : ZtConnectionActor CC} (sound : self.Sound) :
    Moves env self (exec handleRetransmits self).2 := by
  unfold handleRetransmits
  rw [exec_bind_get]
  dsimp only
  rw [exec_bind_set]
  generalize scanned : expireSlots self.host.now (max (self.rtt + self.rttvar * 4) (milliseconds 50))
    self.unackedPackets.basePn self.unackedPackets.deque ⟨[], [], [], false, false⟩ = scan
  obtain ⟨deque, expiry⟩ := scan
  -- The scan counts attempts on packets whose payloads were issued before.
  have counted : Moves env self
      { self with unackedPackets := { self.unackedPackets with deque := deque } } := by
    refine .single (.send (.setUnacked _ fun entry member => ?_)) rfl
    have payloads := expireSlots_payloads self.host.now
      (max (self.rtt + self.rttvar * 4) (milliseconds 50)) self.unackedPackets.deque
      self.unackedPackets.basePn ⟨[], [], [], false, false⟩
    rw [scanned] at payloads
    have listed : entry.2.payload ∈
        (UnackedWindow.slots self.unackedPackets.basePn deque).map fun entry => entry.2.payload :=
      List.mem_map_of_mem member
    rw [payloads] at listed
    obtain ⟨old, stored, same⟩ := List.mem_map.mp listed
    rw [← same]
    exact sound.unacked old stored
  have countedSound := counted.sound sound
  refine counted.trans ?_
  dsimp only
  split
  · -- Too many attempts: the connection starts closing.
    rw [exec_bind_attempt]
    exact initiateClose_moves countedSound
  · rw [exec_bind_modify]
    refine Moves.trans ?_ (dropExpired_moves expiry ?_)
    · exact .of_view (ackView_of_essence (noteExpiredProbes_essence expiry _))
    · have session := congrArg Prod.fst (ackView_of_essence (noteExpiredProbes_essence expiry
        { self with unackedPackets := { self.unackedPackets with deque := deque } }))
      simp only [ackView] at session
      rw [session]
      exact countedSound

end Retransmission

end ZtConnectionActor
end Zetta
