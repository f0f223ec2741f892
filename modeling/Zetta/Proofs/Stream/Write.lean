import Zetta.Lib.Refinement
import Zetta.Stream.Stream

/-! Writes through a stream handle: what a poll accepts, and where every accepted byte is. -/

namespace Zetta

/-- A reply that ends the write with an error. -/
def Reply.Fatal : Reply → Prop
  | .accepted => False
  | .refused .flowControlBlocked => False
  | .refused .congestionWindowFull => False
  | .refused (.pacingBlocked _) => False
  | .refused _ => True
  | .dropped => True

/-- Any other reply accepts the chunk or has it wait. -/
theorem Reply.cases_of_not_fatal {self : Reply} (mild : ¬ self.Fatal) :
    self = .accepted ∨ self = .refused .flowControlBlocked ∨ self = .refused .congestionWindowFull ∨
      ∃ delay, self = .refused (.pacingBlocked delay) := by
  unfold Reply.Fatal at mild
  split at mild <;> simp_all

namespace ZtStream

/-- The write in progress has failed already, and the next look at it tells. -/
def Failing (self : ZtStream) : Prop :=
  ∃ chunk reply, self.writeState = .sending chunk (some reply) ∧ reply.Fatal

/-! ### What a pass leaves alone -/

/-- An answer of the actor leaves the staged bytes and the kind of the stream alone. -/
theorem serve_fixed (self : ZtStream) (reply : Reply) :
    (self.serve reply).writeBuffer = self.writeBuffer ∧
      (self.serve reply).streamType = self.streamType := by
  unfold serve
  split <;> exact ⟨rfl, rfl⟩

/-- So do several answers. -/
theorem serveAll_fixed (self : ZtStream) (replies : List Reply) :
    (self.serveAll replies).writeBuffer = self.writeBuffer ∧
      (self.serveAll replies).streamType = self.streamType := by
  induction replies generalizing self with
  | nil => exact ⟨rfl, rfl⟩
  | cons reply rest ih =>
    obtain ⟨buffer, kind⟩ := ih (self.serve reply)
    obtain ⟨buffer', kind'⟩ := serve_fixed self reply
    exact ⟨buffer.trans buffer', kind.trans kind'⟩

/-- A look at the write in progress leaves them alone. -/
theorem look_fixed (failure : String) (turn : WriteTurn) (self : ZtStream) :
    (look failure turn self).2.writeBuffer = self.writeBuffer ∧
      (look failure turn self).2.streamType = self.streamType := by
  unfold look resend
  split
  all_goals try exact ⟨rfl, rfl⟩
  -- A chunk that waited is sent again or waits on; the staged bytes stay behind it.
  all_goals
    split
    · split <;> exact ⟨rfl, rfl⟩
    · exact ⟨rfl, rfl⟩

/-- A pass over the write in progress leaves them alone. -/
theorem advance_fixed (failure : String) (turn : WriteTurn) (self : ZtStream) :
    (advance failure turn self).2.writeBuffer = self.writeBuffer ∧
      (advance failure turn self).2.streamType = self.streamType := by
  obtain ⟨buffer, kind⟩ := look_fixed failure turn (self.serveAll turn.served)
  obtain ⟨buffer', kind'⟩ := serveAll_fixed self turn.served
  exact ⟨buffer.trans buffer', kind.trans kind'⟩

/-- A write in progress is settled without touching the staged bytes. -/
theorem settle_fixed (failure : String) (turns : List WriteTurn) (self : ZtStream) :
    (settle failure turns self).2.writeBuffer = self.writeBuffer ∧
      (settle failure turns self).2.streamType = self.streamType := by
  induction turns generalizing self with
  | nil =>
    unfold settle
    split <;> exact ⟨rfl, rfl⟩
  | cons turn rest ih =>
    unfold settle
    split
    · exact ⟨rfl, rfl⟩
    · have pass := advance_fixed failure turn self
      simp only
      split
      next next step =>
        rw [step] at pass
        exact ⟨(ih next).1.trans pass.1, (ih next).2.trans pass.2⟩
      next => exact pass

/-- Once settled, no write is in progress. -/
theorem settle_idle {failure : String} {turns : List WriteTurn} {self : ZtStream}
    (settled : (settle failure turns self).1 = .again) :
    (settle failure turns self).2.writeState = .idle := by
  induction turns generalizing self with
  | nil =>
    unfold settle at settled ⊢
    split at settled
    next idle => simpa only [if_pos idle] using idle
    next => cases settled
  | cons turn rest ih =>
    unfold settle at settled ⊢
    split at settled
    next idle => simpa only [if_pos idle] using idle
    next busy =>
      rw [if_neg busy]
      simp only at settled ⊢
      split at settled
      next next step => exact ih settled
      next other =>
        -- A pass that asks for another one is the other branch.
        exact (other (advance failure turn self).2 (Prod.ext settled rfl)).elim

/-! ### Progress of a write -/

/-- The actor accepts the awaited request once it has answered every earlier one. -/
theorem serveAll_accepts (self : ZtStream) (chunk : Bytes) (awaits : self.writeState = .sending chunk none) :
    (self.serveAll (List.replicate (self.abandoned.length + 1) .accepted)).writeState =
      .sending chunk (some .accepted) := by
  generalize earlier : self.abandoned = abandoned
  induction abandoned generalizing self with
  | nil =>
    show (self.serve .accepted).writeState = _
    unfold serve
    rw [earlier, awaits]
  | cons first rest ih =>
    -- The oldest answer goes to nobody and leaves the awaited request where it is.
    have served : self.serve .accepted =
        { self with abandoned := rest, accepted := self.accepted ++ [first] } := by
      unfold serve
      rw [earlier]
      rfl
    show ((self.serve .accepted).serveAll _).writeState = _
    rw [served]
    exact ih _ awaits rfl

/-- A busy handle makes the pass its first turn gives it. -/
theorem settle_cons {failure : String} {turn : WriteTurn} {rest : List WriteTurn} {self next : ZtStream}
    (busy : self.writeState ≠ .idle) (pass : advance failure turn self = (.again, next)) :
    settle failure (turn :: rest) self = settle failure rest next := by
  rw [settle, if_neg busy]
  simp only [pass]

/-- An idle handle is settled. -/
theorem settle_of_idle {failure : String} {turns : List WriteTurn} {self : ZtStream}
    (idle : self.writeState = .idle) : settle failure turns self = (.again, self) := by
  cases turns <;> rw [settle, if_pos idle]

/-- An awaited request settles when the actor accepts it. -/
theorem settles_awaited (failure : String) {self : ZtStream} {chunk : Bytes}
    (awaits : self.writeState = .sending chunk none) :
    ∃ turns, (settle failure turns self).1 = .again := by
  have accepted := serveAll_accepts self chunk awaits
  refine ⟨[{ served := List.replicate (self.abandoned.length + 1) .accepted }], ?_⟩
  rw [settle_cons (by simp [awaits]) (by rw [advance, look, accepted]), settle_of_idle rfl]

/-- A chunk that waits is sent again, and then accepted. -/
theorem settles_waiting (failure : String) {self : ZtStream} {chunk : Bytes}
    (waits : self.writeState = .blocked chunk ∨ self.writeState = .pacing chunk) :
    ∃ turns, (settle failure turns self).1 = .again := by
  have awaits : (self.dispatch chunk).writeState = .sending chunk none := rfl
  obtain ⟨turns, settled⟩ := settles_awaited failure awaits
  refine ⟨{ woken := true, room := true } :: turns, ?_⟩
  -- Both kinds of waiting end alike once the wait is over and the mailbox has room.
  have pass : advance failure { woken := true, room := true } self = (.again, self.dispatch chunk) := by
    rcases waits with blocked | pacing
    · simp [advance, look, serveAll, blocked, resend]
    · simp [advance, look, serveAll, pacing, resend]
  have busy : self.writeState ≠ .idle := by rcases waits with blocked | pacing <;> simp [*]
  rwa [settle_cons busy pass]

/-- A write in progress can settle unless it has failed already. -/
theorem settles_of_not_failing (failure : String) {self : ZtStream} (sound : ¬ self.Failing) :
    ∃ turns, (settle failure turns self).1 = .again := by
  -- One look takes a refused chunk into its waiting state; the rest is the previous lemma.
  have refused : ∀ chunk reply next, self.writeState = .sending chunk (some reply) →
      look failure {} self = (.again, { self with writeState := next }) →
      next = .blocked chunk ∨ next = .pacing chunk →
      ∃ turns, (settle failure turns self).1 = .again := by
    intro chunk reply next sending looked waits
    have waiting : ({ self with writeState := next } : ZtStream).writeState = .blocked chunk ∨
        ({ self with writeState := next } : ZtStream).writeState = .pacing chunk := waits
    obtain ⟨turns, settled⟩ := settles_waiting failure waiting
    exact ⟨{} :: turns, by rwa [settle_cons (by simp [sending]) looked]⟩
  cases state : self.writeState with
  | idle => exact ⟨[], by rw [settle_of_idle state]⟩
  | blocked chunk => exact settles_waiting failure (.inl state)
  | pacing chunk => exact settles_waiting failure (.inr state)
  | sending chunk reply =>
    cases reply with
    | none => exact settles_awaited failure state
    | some reply =>
      have mild : ¬ reply.Fatal := fun fatal => sound ⟨chunk, reply, state, fatal⟩
      obtain rfl | rfl | rfl | ⟨delay, rfl⟩ := Reply.cases_of_not_fatal mild
      · refine ⟨[{}], ?_⟩
        rw [settle_cons (by simp [state]) (by rw [advance, serveAll, List.foldl_nil, look, state]),
          settle_of_idle rfl]
      · exact refused chunk _ (.blocked chunk) state (by rw [look, state]) (.inl rfl)
      · exact refused chunk _ (.blocked chunk) state (by rw [look, state]) (.inl rfl)
      · exact refused chunk _ (.pacing chunk) state (by rw [look, state]) (.inr rfl)

/-- A write that has failed already does not settle. -/
theorem Failing.settle_ne {self : ZtStream} (failing : self.Failing) (failure : String)
    (turns : List WriteTurn) : (settle failure turns self).1 ≠ .again := by
  obtain ⟨chunk, reply, state, fatal⟩ := failing
  have busy : self.writeState ≠ .idle := by simp [state]
  cases turns with
  | nil => simp [settle, busy]
  | cons turn rest =>
    -- The answers of the actor come too late: the reply is in, and the first look reports it.
    have served : ∀ replies : List Reply, ∀ stream : ZtStream,
        stream.writeState = .sending chunk (some reply) →
        (stream.serveAll replies).writeState = .sending chunk (some reply) := by
      intro replies
      induction replies with
      | nil => exact fun stream state => state
      | cons first rest ih =>
        intro stream state
        refine ih _ ?_
        unfold serve
        split <;> simp_all
    have looked : (advance failure turn self).1 ≠ .again := by
      unfold advance look
      rw [served turn.served self state]
      unfold Reply.Fatal at fatal
      split at fatal <;> simp_all
    rw [settle, if_neg busy]
    split
    next next pass => exact (looked (by rw [pass])).elim
    next => exact looked

/-- Without staged bytes for a chunk, a write takes a byte; with them it may find no room. -/
theorem stage_written (buf : Bytes) (host : WriteHost) (self : ZtStream) :
    (self.stage buf host).1 = min (chunkSize host.mtu - self.writeBuffer.length) buf.length := by
  unfold stage
  simp only [(serveAll_fixed self host.between).1]
  split <;> rfl

/-- When a write on an open stream takes bytes, and how many. -/
theorem pollWrite_ok_iff {self : ZtStream} {buf : Bytes} {host : WriteHost} {count : Nat}
    (writable : self.streamType ≠ .unidirectionalIn) (isOpen : host.closed = false) :
    (self.pollWrite buf host).1 = .ready (.ok count) ↔
      (settle "Write failed: " host.turns self).1 = .again ∧
      if chunkSize host.mtu ≤ self.writeBuffer.length then
        host.roomBefore ∧
          count = min (chunkSize host.mtu - (self.writeBuffer.length - chunkSize host.mtu)) buf.length
      else count = min (chunkSize host.mtu - self.writeBuffer.length) buf.length := by
  unfold pollWrite
  rw [if_neg writable, isOpen, if_neg Bool.false_ne_true,
    ← (settle_fixed "Write failed: " host.turns self).1]
  obtain ⟨outcome, settled⟩ := settle "Write failed: " host.turns self
  cases outcome with
  | pending => simp
  | failed error => simp
  | again =>
    -- What is staged decides whether a chunk goes first, and so how much room is left.
    by_cases full : chunkSize host.mtu ≤ settled.writeBuffer.length
    · cases host.roomBefore
      · simp [full]
      · simp [full, stage_written, dispatchStaged, dispatch, eq_comm]
    · simp [full, stage_written, eq_comm]

/--
A write on an open stream never answers that it took nothing, exactly while less than two chunks of
the current size are staged or the write in progress has failed already.

The bytes were staged under the chunk size of their time, which may have been more than twice as
large.
-/
theorem pollWrite_progress (self : ZtStream) (buf : Bytes) (mtu : Nat)
    (writable : self.streamType ≠ .unidirectionalIn) (offered : buf ≠ []) :
    (∀ host : WriteHost, host.mtu = mtu → host.closed = false →
      (self.pollWrite buf host).1 ≠ .ready (.ok 0)) ↔
    self.writeBuffer.length < 2 * chunkSize mtu ∨ self.Failing := by
  have positive := chunkSize_pos mtu
  have some_byte : 0 < buf.length := List.length_pos_iff.mpr offered
  constructor
  · -- Were two chunks staged, the actor could settle everything before and take just one of them.
    intro never
    by_contra neither
    rw [not_or, not_lt] at neither
    obtain ⟨turns, settled⟩ := settles_of_not_failing "Write failed: " neither.2
    refine never { turns, mtu, roomBefore := true } rfl rfl
      ((pollWrite_ok_iff writable rfl).mpr ⟨settled, ?_⟩)
    rw [if_pos (by simp only; omega)]
    exact ⟨rfl, by simp only; omega⟩
  · rintro few host rfl isOpen nothing
    obtain ⟨settled, count⟩ := (pollWrite_ok_iff writable isOpen).mp nothing
    rcases few with few | failing
    · -- Less than two chunks leave room in the second one.
      split at count
      · omega
      · omega
    · exact failing.settle_ne _ _ settled

/-- A new stream takes a byte, or has the caller wait. -/
theorem new_stream_progress : (∀ host : WriteHost, host.mtu = 1200 → host.closed = false →
    ((new .bidirectional).pollWrite [1] host).1 ≠ .ready (.ok 0)) ∧ [(1 : UInt8)] ≠ [] :=
  ⟨(pollWrite_progress (new .bidirectional) [1] 1200 (by decide) (by decide)).mpr (.inl (by decide)),
    by decide⟩

/-- A stream whose chunk of a 2400-byte path found the actor's mailbox full. -/
def stagedJumbo : ZtStream :=
  ((new .bidirectional).pollWrite (List.replicate 2336 7) { mtu := 2400 }).2

/-- After the path fell back to 1200 bytes, the next write answers that it took nothing. -/
theorem fallback_writes_nothing :
    (stagedJumbo.pollWrite [1] { mtu := 1200, roomBefore := true }).1 = .ready (.ok 0) := by
  decide +kernel

/-! ### Where the written bytes are -/

/-- The chunk of the write in progress, unless the actor has accepted it. -/
def held (self : ZtStream) : Bytes :=
  match self.writeState with
  | .idle => []
  | .sending chunk reply => if reply = some .accepted then [] else chunk
  | .blocked chunk => chunk
  | .pacing chunk => chunk

/-- The bytes accepted by the actor, then those of the write in progress, then those staged. -/
def account (self : ZtStream) : Bytes := self.accepted.flatten ++ self.held ++ self.writeBuffer

/-- No request is abandoned, and these are the bytes the handle answers for. -/
def Answers (self : ZtStream) (written : Bytes) : Prop :=
  self.abandoned = [] ∧ self.account = written

/-- An answer of the actor moves the chunk of the write in progress to the accepted ones, or nothing. -/
theorem Answers.serve {self : ZtStream} {written : Bytes} (answers : self.Answers written)
    (reply : Reply) : (self.serve reply).Answers written := by
  obtain ⟨none_left, total⟩ := answers
  unfold ZtStream.serve
  rw [none_left]
  split
  next contrary => cases contrary
  next chunk _ awaits =>
    refine ⟨rfl, total ▸ ?_⟩
    -- The chunk is counted among the accepted bytes from now on, or still as held.
    by_cases accepts : reply = .accepted <;> simp [account, held, awaits, accepts, Reply.takes]
  next => exact ⟨none_left, total⟩

/-- So do several answers. -/
theorem Answers.serveAll {self : ZtStream} {written : Bytes} (answers : self.Answers written)
    (replies : List Reply) : (self.serveAll replies).Answers written := by
  induction replies generalizing self with
  | nil => exact answers
  | cons reply rest ih => exact ih (answers.serve reply)

/-- While no write is in progress and no request is abandoned, the actor has nothing to answer. -/
theorem serveAll_of_idle {self : ZtStream} (idle : self.writeState = .idle) (none_left : self.abandoned = [])
    (replies : List Reply) : self.serveAll replies = self := by
  induction replies with
  | nil => rfl
  | cons reply rest ih =>
    have quiet : self.serve reply = self := by rw [serve, none_left, idle]
    show (self.serve reply).serveAll rest = self
    rwa [quiet]

/-- A chunk that waits is the handle's to answer for, whatever comes of the wait. -/
theorem Answers.resend {self : ZtStream} {written chunk : Bytes} (answers : self.Answers written)
    (waits : self.writeState = .blocked chunk ∨ self.writeState = .pacing chunk) (turn : WriteTurn) :
    (self.resend chunk turn).2.Answers written := by
  obtain ⟨none_left, total⟩ := answers
  unfold ZtStream.resend
  -- No answer is awaited during the wait, so sending again abandons no request.
  have quiet : self.awaited = [] := by
    rcases waits with blocked | pacing
    · rw [awaited, blocked]
    · rw [awaited, pacing]
  have holds : self.held = chunk := by
    rcases waits with blocked | pacing
    · rw [held, blocked]
    · rw [held, pacing]
  rw [account, holds] at total
  split
  · split
    · exact ⟨by simp [dispatch, none_left, quiet], total⟩
    · exact ⟨none_left, total⟩
  · exact ⟨none_left, by rw [account, holds, total]⟩

/-- A look that reports no failure keeps every byte. -/
theorem Answers.look {self : ZtStream} {written : Bytes} (answers : self.Answers written)
    {failure : String} {turn : WriteTurn}
    (succeeds : ∀ error, (self.look failure turn).1 ≠ .failed error) :
    (self.look failure turn).2.Answers written := by
  obtain ⟨none_left, total⟩ := answers
  unfold ZtStream.look at succeeds ⊢
  split
  next => exact ⟨none_left, total⟩
  next => exact ⟨none_left, total⟩
  next state => exact ⟨none_left, by simpa [account, held, state] using total⟩
  next state => exact ⟨none_left, by simpa [account, held, state] using total⟩
  next state => exact ⟨none_left, by simpa [account, held, state] using total⟩
  next state => exact ⟨none_left, by simpa [account, held, state] using total⟩
  next error _ _ _ state => simp [state] at succeeds
  next state => simp [state] at succeeds
  next chunk state => exact Answers.resend ⟨none_left, total⟩ (.inl state) turn
  next chunk state => exact Answers.resend ⟨none_left, total⟩ (.inr state) turn

/-- A write in progress that settles or waits keeps every byte. -/
theorem Answers.settle {self : ZtStream} {written : Bytes} (answers : self.Answers written)
    {failure : String} {turns : List WriteTurn}
    (succeeds : ∀ error, (settle failure turns self).1 ≠ .failed error) :
    (settle failure turns self).2.Answers written := by
  induction turns generalizing self with
  | nil =>
    unfold ZtStream.settle
    split <;> exact answers
  | cons turn rest ih =>
    have looked : (∀ error, (advance failure turn self).1 ≠ .failed error) →
        (advance failure turn self).2.Answers written := (answers.serveAll turn.served).look
    unfold ZtStream.settle at succeeds ⊢
    split
    next => exact answers
    next busy =>
      rw [if_neg busy] at succeeds
      simp only at succeeds ⊢
      -- A pass that stops the loop is what the loop reports, failures included.
      split at succeeds
      next next pass =>
        rw [pass] at looked
        exact ih (looked (by simp)) succeeds
      next => exact looked succeeds

/-- Handing over staged bytes, with no write in progress, moves them from the buffer to that write. -/
theorem Answers.dispatchStaged {self : ZtStream} {written : Bytes} (answers : self.Answers written)
    (idle : self.writeState = .idle) (size : Nat) : (self.dispatchStaged size).Answers written := by
  obtain ⟨none_left, total⟩ := answers
  refine ⟨by simp [ZtStream.dispatchStaged, dispatch, awaited, idle, none_left], ?_⟩
  rw [← total]
  simp [ZtStream.dispatchStaged, dispatch, account, held, idle]

/-- Staging bytes adds them at the end. -/
theorem Answers.append {self : ZtStream} {written : Bytes} (answers : self.Answers written)
    (bytes : Bytes) :
    { self with writeBuffer := self.writeBuffer ++ bytes }.Answers (written ++ bytes) :=
  ⟨answers.1, by rw [← answers.2]; exact (List.append_assoc _ _ _).symm⟩

/-- Staging keeps every byte if no write is in progress, or the bytes do not fill a chunk. -/
theorem Answers.stage {self : ZtStream} {written : Bytes} (answers : self.Answers written)
    {buf : Bytes} {host : WriteHost}
    (calm : self.writeState = .idle ∨ self.writeBuffer.length + buf.length < chunkSize host.mtu) :
    (self.stage buf host).2.Answers (written ++ buf.take (self.stage buf host).1) := by
  rw [stage_written]
  have served := (answers.serveAll host.between).append
    (buf.take (min (chunkSize host.mtu - self.writeBuffer.length) buf.length))
  unfold ZtStream.stage
  simp only [(serveAll_fixed self host.between).1] at served ⊢
  split
  next full =>
    rcases calm with idle | few
    · -- Nothing is in progress, so the handle is free to wait for the chunk now handed over.
      rw [serveAll_of_idle idle answers.1] at served ⊢
      exact served.dispatchStaged idle _
    · have length := full.1
      simp only [List.length_append, List.length_take] at length
      omega
  next => exact served

/-- A write keeps every byte unless it hands over a second chunk behind the first. -/
theorem Answers.pollWrite {self : ZtStream} {written : Bytes} (answers : self.Answers written)
    {buf : Bytes} {host : WriteHost}
    (calm : self.writeBuffer.length < chunkSize host.mtu ∨
      self.writeBuffer.length + buf.length < 2 * chunkSize host.mtu)
    (succeeds : ∀ error, (self.pollWrite buf host).1 ≠ .ready (.error error)) :
    match (self.pollWrite buf host).1 with
    | .ready (.ok count) => (self.pollWrite buf host).2.Answers (written ++ buf.take count)
    | _ => (self.pollWrite buf host).2.Answers written := by
  unfold ZtStream.pollWrite at succeeds ⊢
  split at succeeds
  next => exact absurd rfl (succeeds _)
  next writable =>
    rw [if_neg writable]
    split at succeeds
    next => exact absurd rfl (succeeds _)
    next isOpen =>
      rw [if_neg isOpen]
      have kept := (settle_fixed "Write failed: " host.turns self).1
      have sound : (∀ error, (ZtStream.settle "Write failed: " host.turns self).1 ≠ .failed error) →
          (ZtStream.settle "Write failed: " host.turns self).2.Answers written := answers.settle
      have idle : (ZtStream.settle "Write failed: " host.turns self).1 = .again →
          (ZtStream.settle "Write failed: " host.turns self).2.writeState = .idle := settle_idle
      generalize ZtStream.settle "Write failed: " host.turns self = result
        at succeeds kept sound idle ⊢
      obtain ⟨outcome, next⟩ := result
      cases outcome with
      | failed error => exact absurd rfl (succeeds error)
      | pending => exact sound (by simp)
      | again =>
        have owed : next.Answers written := sound (by simp)
        by_cases full : chunkSize host.mtu ≤ next.writeBuffer.length
        · by_cases room : host.roomBefore
          · simp only [if_pos full, if_pos room]
            -- The chunk staged earlier is in progress now, so the caller's bytes must not fill another.
            refine (owed.dispatchStaged (idle rfl) (chunkSize host.mtu)).stage (.inr ?_)
            simp only [ZtStream.dispatchStaged, dispatch, List.length_drop]
            simp only at kept
            rw [kept] at full ⊢
            omega
          · simp only [if_pos full, if_neg room]
            exact owed
        · simp only [if_neg full]
          exact owed.stage (.inl (idle rfl))

/-- A flush that does not fail keeps every byte, and once it is done the actor has accepted them. -/
theorem Answers.flush {self : ZtStream} {written : Bytes} (answers : self.Answers written)
    {turns : List WriteTurn} (succeeds : ∀ error, (flush turns self).1 ≠ .ready (.error error)) :
    (flush turns self).2.Answers written ∧
      ((flush turns self).1 = .ready (.ok ()) → (flush turns self).2.accepted.flatten = written) := by
  -- A flush is done when nothing is in progress and nothing is staged.
  have done : self.writeState = .idle ∧ self.writeBuffer = [] → self.accepted.flatten = written := by
    intro ⟨idle, empty⟩
    simpa [account, held, idle, empty] using answers.2
  induction turns generalizing self with
  | nil =>
    unfold ZtStream.flush
    split
    next finished => exact ⟨answers, fun _ => done finished⟩
    next => exact ⟨answers, by simp⟩
  | cons turn rest ih =>
    have again : ∀ next : ZtStream, next.Answers written →
        (∀ error, (ZtStream.flush rest next).1 ≠ .ready (.error error)) →
        (ZtStream.flush rest next).2.Answers written ∧ ((ZtStream.flush rest next).1 = .ready (.ok ()) →
          (ZtStream.flush rest next).2.accepted.flatten = written) := by
      intro next owed mild
      refine ih owed mild ?_
      intro ⟨idle, empty⟩
      simpa [account, held, idle, empty] using owed.2
    unfold ZtStream.flush at succeeds ⊢
    split at succeeds
    next finished =>
      rw [if_pos finished]
      exact ⟨answers, fun _ => done finished⟩
    next unfinished =>
      rw [if_neg unfinished]
      simp only at succeeds ⊢
      split at succeeds
      next idle =>
        rw [if_pos idle]
        rw [serveAll_of_idle idle answers.1] at succeeds ⊢
        split at succeeds
        next room =>
          rw [if_pos room]
          exact again _ (answers.dispatchStaged idle _) succeeds
        next full =>
          rw [if_neg full]
          exact ⟨answers, by simp⟩
      next busy =>
        rw [if_neg busy]
        have looked : (∀ error, (advance "Flush failed: " turn self).1 ≠ .failed error) →
            (advance "Flush failed: " turn self).2.Answers written :=
          (answers.serveAll turn.served).look
        generalize advance "Flush failed: " turn self = pass at succeeds looked ⊢
        obtain ⟨outcome, next⟩ := pass
        cases outcome with
        | again => exact again next (looked (by simp)) succeeds
        | pending => exact ⟨looked (by simp), by simp⟩
        | failed error => exact absurd rfl (succeeds error)

end ZtStream

/-! ### Runs of a writer -/

/-- What can happen to the write side of a stream. -/
inductive WriteCall where
  | write (buf : Bytes) (host : ZtStream.WriteHost)
  | flush (turns : List ZtStream.WriteTurn)
  | shutdown (turns : List ZtStream.WriteTurn) (room : Bool)
  /-- The actor answers a request. -/
  | served (reply : Reply)
  deriving DecidableEq, Repr

/-- What the caller is told. -/
inductive WriteAnswer where
  | written (poll : Poll (Except IoError Nat))
  | flushed (poll : Poll (Except IoError Unit))
  | silent
  deriving DecidableEq

/-- The caller is told of an error. -/
def WriteAnswer.IsError : WriteAnswer → Prop
  | .written (.ready (.error _)) => True
  | .flushed (.ready (.error _)) => True
  | _ => False

instance (answer : WriteAnswer) : Decidable answer.IsError := by
  unfold WriteAnswer.IsError
  split <;> infer_instance

/-- A stream and the bytes its writes were reported to take. -/
structure Writer where
  stream : ZtStream
  written : Bytes
  deriving DecidableEq

namespace Writer

/-- A writer on a new stream. -/
def new (streamType : StreamType) : Writer := ⟨.new streamType, []⟩

/-- The bytes a write was reported to take. -/
def taken (buf : Bytes) : Poll (Except IoError Nat) → Bytes
  | .ready (.ok count) => buf.take count
  | _ => []

/-- One call, or one answer of the actor. -/
def step (call : WriteCall) (self : Writer) : WriteAnswer × Writer :=
  match call with
  | .write buf host =>
    let (answer, stream) := self.stream.pollWrite buf host
    (.written answer, ⟨stream, self.written ++ taken buf answer⟩)
  | .flush turns =>
    let (answer, stream) := self.stream.pollFlush turns
    (.flushed answer, { self with stream })
  | .shutdown turns room =>
    let (answer, stream) := self.stream.pollShutdown turns room
    (.flushed answer, { self with stream })
  | .served reply => (.silent, { self with stream := self.stream.serve reply })

/--
A write meets less than a chunk of the current size, or does not fill a second one.

Otherwise it may hand over two chunks in one call, and then no longer waits for the answer to the
first.
-/
def Calm (call : WriteCall) (self : Writer) : Prop :=
  match call with
  | .write buf host =>
    self.stream.writeBuffer.length < ZtStream.chunkSize host.mtu ∨
      self.stream.writeBuffer.length + buf.length < 2 * ZtStream.chunkSize host.mtu
  | _ => True

instance (call : WriteCall) (self : Writer) : Decidable (Calm call self) := by
  unfold Calm
  split <;> infer_instance

/-- Accepted, held and staged bytes are the written ones, and after a flush all are accepted. -/
def Conserves (call : WriteCall) (self : Writer) : Prop :=
  (step call self).2.stream.account = (step call self).2.written ∧
    ((step call self).1 = .flushed (.ready (.ok ())) →
      (step call self).2.stream.accepted.flatten = (step call self).2.written)

/-- A flush of a handle that answers for its bytes leaves it so, and when done they are accepted. -/
theorem answers_pollFlush {self : ZtStream} {written : Bytes} (answers : self.Answers written)
    {turns : List ZtStream.WriteTurn}
    (succeeds : ∀ error, (self.pollFlush turns).1 ≠ .ready (.error error)) :
    (self.pollFlush turns).2.Answers written ∧
      ((self.pollFlush turns).1 = .ready (.ok ()) →
        (self.pollFlush turns).2.accepted.flatten = written) := by
  unfold ZtStream.pollFlush at succeeds ⊢
  split at succeeds
  next => exact absurd rfl (succeeds _)
  next writable =>
    rw [if_neg writable]
    exact answers.flush succeeds

/-- What a flush guarantees, a shutdown guarantees. -/
theorem answers_pollShutdown {self : ZtStream} {written : Bytes} (answers : self.Answers written)
    {turns : List ZtStream.WriteTurn} {room : Bool}
    (succeeds : ∀ error, (self.pollShutdown turns room).1 ≠ .ready (.error error)) :
    (self.pollShutdown turns room).2.Answers written ∧
      ((self.pollShutdown turns room).1 = .ready (.ok ()) →
        (self.pollShutdown turns room).2.accepted.flatten = written) := by
  have flushed : (∀ error, (self.pollFlush turns).1 ≠ .ready (.error error)) → _ :=
    answers_pollFlush answers
  unfold ZtStream.pollShutdown at succeeds ⊢
  split at succeeds
  next => exact absurd rfl (succeeds _)
  next writable =>
    rw [if_neg writable]
    generalize ZtStream.pollFlush turns self = result at succeeds flushed ⊢
    obtain ⟨outcome, next⟩ := result
    match outcome with
    | .pending => exact flushed (by simp)
    | .ready (.error error) => exact absurd rfl (succeeds error)
    | .ready (.ok ()) =>
      -- The stream is closed behind the last byte, or the caller has to come back for it.
      obtain ⟨owed, all⟩ := flushed (by simp)
      cases room with
      | false => exact ⟨owed, by simp⟩
      | true => exact ⟨owed, fun _ => all rfl⟩

/-- A calm step without an error keeps every byte. -/
theorem step_answers {call : WriteCall} {self : Writer} (calm : Calm call self)
    (succeeds : ¬ (step call self).1.IsError) (answers : self.stream.Answers self.written) :
    (step call self).2.stream.Answers (step call self).2.written ∧ Conserves call self := by
  suffices kept : (step call self).2.stream.Answers (step call self).2.written ∧
      ((step call self).1 = .flushed (.ready (.ok ())) →
        (step call self).2.stream.accepted.flatten = (step call self).2.written) from
    ⟨kept.1, kept.1.2, kept.2⟩
  cases call with
  | write buf host =>
    have wrote := answers.pollWrite calm
      (fun error failed => succeeds (by simp [step, failed, WriteAnswer.IsError]))
    refine ⟨?_, by simp [step]⟩
    simp only [step]
    generalize self.stream.pollWrite buf host = result at wrote
    obtain ⟨outcome, next⟩ := result
    match outcome with
    | .ready (.ok count) => exact wrote
    | .ready (.error error) => simpa [taken] using wrote
    | .pending => simpa [taken] using wrote
  | flush turns =>
    have mild : ∀ error, (self.stream.pollFlush turns).1 ≠ .ready (.error error) :=
      fun error failed => succeeds (by simp only [step, failed, WriteAnswer.IsError])
    obtain ⟨owed, all⟩ := answers_pollFlush answers mild
    exact ⟨owed, fun done => all (WriteAnswer.flushed.inj done)⟩
  | shutdown turns room =>
    have mild : ∀ error, (self.stream.pollShutdown turns room).1 ≠ .ready (.error error) :=
      fun error failed => succeeds (by simp only [step, failed, WriteAnswer.IsError])
    obtain ⟨owed, all⟩ := answers_pollShutdown answers mild
    exact ⟨owed, fun done => all (WriteAnswer.flushed.inj done)⟩
  | served reply => exact ⟨answers.serve reply, by simp [step]⟩

/--
In every run of calm calls without a reported error, the chunks the actor accepted, the chunk of the
write in progress and the staged bytes make up the bytes reported written, and after a flush the
actor has accepted them all.
-/
theorem writes_conserved (streamType : StreamType) (calls : List WriteCall)
    (calm : Refinement.Permitted step (fun call self => Calm call self ∧ ¬ (step call self).1.IsError)
      calls (new streamType)) :
    Refinement.Permitted step Conserves calls (new streamType) := by
  have keeps : ∀ call (self : Writer), (Calm call self ∧ ¬ (step call self).1.IsError) →
      self.stream.Answers self.written →
      (step call self).2.stream.Answers (step call self).2.written ∧ Conserves call self :=
    fun call self allowed answers => step_answers allowed.1 allowed.2 answers
  exact (calm.invariant keeps ⟨rfl, rfl⟩).2

/-- Three bytes are written, refused once for a full congestion window, and flushed. -/
def retried : List WriteCall :=
  [.write [1, 2, 3] { mtu := 1200 },
    .flush [{ room := true }],
    .served (.refused .congestionWindowFull),
    .flush [{}, { woken := true, room := true }],
    .served .accepted,
    .flush [{}]]

/-- A run with a refusal and a retry keeps its three bytes. -/
theorem retried_conserved :
    Refinement.Permitted step (fun call self => Calm call self ∧ ¬ (step call self).1.IsError)
      retried (new .bidirectional) ∧
    Refinement.Permitted step Conserves retried (new .bidirectional) :=
  ⟨by decide, writes_conserved .bidirectional retried (by decide)⟩

/--
A chunk is staged while the mailbox is full, and the next write hands over that chunk and its own.

The actor refuses the first for want of room, accepts the second after room was made, and the
caller flushes.
-/
def hurried : List WriteCall :=
  [.write (List.replicate 1136 1) { mtu := 1200 },
    .write (List.replicate 1136 2) { mtu := 1200, roomBefore := true, roomAfter := true },
    .served (.refused .flowControlBlocked),
    .served .accepted,
    .flush [{}]]

/-- The flush succeeds without any error, and the first chunk is lost. -/
theorem hurried_loses_chunk :
    (∀ answer ∈ (Refinement.run step hurried (new .bidirectional)).1, ¬ answer.IsError) ∧
    (Refinement.run step hurried (new .bidirectional)).1.getLast? = some (.flushed (.ready (.ok ()))) ∧
    (Refinement.run step hurried (new .bidirectional)).2.stream.accepted.flatten ≠
      (Refinement.run step hurried (new .bidirectional)).2.written := by
  decide +kernel

end Writer

end Zetta
