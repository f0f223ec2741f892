import Zetta.Lib.Refinement
import Zetta.Stream.Stream

/-! Reads through a stream handle: every byte is handed over once, and every byte is credited once. -/

namespace Zetta

/-- The credit a message to the actor reports. -/
def StreamNotice.credit : StreamNotice → Nat
  | .streamDataRead bytesRead => bytesRead
  | .closeStream => 0

namespace ZtStream

/-- The credit reported to the actor so far. -/
def reported (self : ZtStream) : Nat := (self.notices.map StreamNotice.credit).sum

/--
The bytes handed over, then the unread rest, are the chunks taken; the credit, reported or deferred,
is the number of bytes handed over.
-/
structure Accounts (stream : ZtStream) (handed : Bytes) : Prop where
  bytes : handed ++ stream.unread = stream.taken.flatten
  credit : stream.reported + stream.pendingReadCredit = handed.length

/-- So many bytes passed the channel, or are in it. -/
def carried (self : ZtStream) : Nat := (self.taken ++ self.receiver).flatten.length

/-- A message to the actor adds its credit. -/
theorem reported_notify (self : ZtStream) (bytesRead : Nat) :
    (self.notify bytesRead).reported = self.reported + bytesRead := by
  simp [reported, notify, StreamNotice.credit]

/-- Deferred credit is reported in full or stays deferred. -/
theorem Accounts.reportCredit {self : ZtStream} {handed : Bytes} (accounts : self.Accounts handed)
    (room : Bool) : (self.reportCredit room).Accounts handed := by
  unfold ZtStream.reportCredit
  split
  · refine ⟨accounts.bytes, ?_⟩
    have sum := reported_notify self self.pendingReadCredit
    rw [accounts.credit] at sum
    exact sum
  · exact accounts

/-- Handing over a part of the chunk being read credits that part. -/
theorem Accounts.consume {self : ZtStream} {handed : Bytes} (accounts : self.Accounts handed)
    (fits : self.carried < u64Size) (capacity : Nat) (room : Bool) :
    (self.consume capacity room).2.Accounts
      (handed ++ (self.consume capacity room).1) := by
  refine Accounts.reportCredit ⟨?_, ?_⟩ room
  · rw [← accounts.bytes, List.append_assoc]
    exact congrArg (handed ++ ·) (List.take_append_drop _ _)
  · -- Credit never exceeds the bytes the channel carried, so the addition does not saturate.
    have length := congrArg List.length accounts.bytes
    have sum := accounts.credit
    have bound : self.taken.flatten.length ≤ self.carried := by simp [carried]
    have exact_sum : saturatingAdd self.pendingReadCredit (min self.unread.length capacity) =
        self.pendingReadCredit + min self.unread.length capacity := by
      rw [List.length_append] at length
      unfold saturatingAdd
      omega
    show self.reported + saturatingAdd self.pendingReadCredit _ = _
    rw [exact_sum, ← Nat.add_assoc, sum, List.length_append]
    show _ = handed.length + (self.unread.take _).length
    rw [List.length_take]
    omega

/-- Dropping a chunk without an unread byte loses nothing. -/
theorem Accounts.dropRead {self : ZtStream} {handed : Bytes} (accounts : self.Accounts handed)
    (empty : self.unread = []) : { self with currentReadChunk := none }.Accounts handed :=
  ⟨by rw [← accounts.bytes, empty]; rfl, accounts.credit⟩

/-- A chunk taken from the channel is unread as a whole. -/
theorem Accounts.take {self : ZtStream} {handed : Bytes} (accounts : self.Accounts handed)
    (empty : self.unread = []) (chunk : Bytes) (rest : List Bytes) :
    { self with
      currentReadChunk := some chunk
      receiver := rest
      taken := self.taken ++ [chunk] }.Accounts handed := by
  refine ⟨?_, accounts.credit⟩
  have bytes := accounts.bytes
  rw [empty, List.append_nil] at bytes
  simp [bytes, unread]

/-- Reporting credit leaves the channel alone. -/
theorem carried_reportCredit (self : ZtStream) (room : Bool) :
    (self.reportCredit room).carried = self.carried := by
  unfold ZtStream.reportCredit
  split <;> rfl

/-- The bytes a read hands over. -/
def handedBy : Poll (Except IoError Bytes) → Bytes
  | .ready (.ok bytes) => bytes
  | _ => []

/-- An unread byte is read without a look into the channel. -/
theorem readLoop_unread {self : ZtStream} (unread : 0 < self.unread.length) (capacity : Nat)
    (host : ReadHost) (waiting : List Bytes) :
    readLoop capacity host waiting self =
      (.ready (.ok (self.consume capacity host.roomAfter).1),
        (self.consume capacity host.roomAfter).2) := by
  cases waiting <;> rw [readLoop] <;> exact if_pos unread

/-- A read keeps the accounts, and nothing gets into the channel or out of it but by being taken. -/
theorem Accounts.readLoop {self : ZtStream} {handed : Bytes} (accounts : self.Accounts handed)
    {waiting : List Bytes} (all : self.receiver = waiting) (fits : self.carried < u64Size)
    (capacity : Nat) (host : ReadHost) :
    (readLoop capacity host waiting self).2.Accounts
        (handed ++ handedBy (readLoop capacity host waiting self).1) ∧
      (readLoop capacity host waiting self).2.carried = self.carried := by
  induction waiting generalizing self with
  | nil =>
    by_cases some_byte : 0 < self.unread.length
    · rw [readLoop_unread some_byte]
      exact ⟨accounts.consume fits capacity host.roomAfter, carried_reportCredit _ _⟩
    · -- The channel is empty: the read waits or ends, and hands nothing over.
      have dropped := accounts.dropRead (List.eq_nil_of_length_eq_zero (by omega))
      rw [ZtStream.readLoop, if_neg some_byte]
      simp only
      split
      · split
        · exact ⟨by simpa [handedBy] using dropped, rfl⟩
        · exact ⟨by simpa [handedBy] using dropped, rfl⟩
      · exact ⟨by simpa [handedBy] using dropped, rfl⟩
  | cons chunk rest ih =>
    by_cases some_byte : 0 < self.unread.length
    · rw [readLoop_unread some_byte]
      exact ⟨accounts.consume fits capacity host.roomAfter, carried_reportCredit _ _⟩
    · -- The oldest chunk becomes the one being read, and the loop starts over.
      have took := accounts.take (List.eq_nil_of_length_eq_zero (by omega)) chunk rest
      have moved : ({ self with
          currentReadChunk := some chunk
          receiver := rest
          taken := self.taken ++ [chunk] } : ZtStream).carried = self.carried := by
        simp [carried, all]
      rw [ZtStream.readLoop, if_neg some_byte]
      obtain ⟨kept, same⟩ := ih took rfl (by rw [moved]; exact fits)
      exact ⟨kept, same.trans moved⟩

/-- So does a poll of the reader. -/
theorem Accounts.pollRead {self : ZtStream} {handed : Bytes} (accounts : self.Accounts handed)
    (fits : self.carried < u64Size) (capacity : Nat) (host : ReadHost) :
    (self.pollRead capacity host).2.Accounts
        (handed ++ handedBy (self.pollRead capacity host).1) ∧
      (self.pollRead capacity host).2.carried = self.carried := by
  unfold ZtStream.pollRead
  split
  · exact ⟨by simpa [handedBy] using accounts, rfl⟩
  · -- Deferred credit is offered first; this changes neither the chunk at hand nor the channel.
    have offered : ∀ stream : ZtStream,
        stream = (if 0 < self.pendingReadCredit then self.reportCredit host.roomBefore else self) →
        stream.Accounts handed ∧ stream.carried = self.carried := by
      rintro stream rfl
      split
      · exact ⟨accounts.reportCredit _, carried_reportCredit _ _⟩
      · exact ⟨accounts, rfl⟩
    obtain ⟨ready, same⟩ := offered _ rfl
    obtain ⟨kept, still⟩ := ready.readLoop rfl (by rw [same]; exact fits) capacity host
    exact ⟨kept, still.trans same⟩

/-- The bytes a received chunk hands over. -/
def receivedBy : Option (Except ZtError (Option Bytes)) → Bytes
  | some (.ok (some bytes)) => bytes
  | _ => []

/-- A received chunk is handed over and credited as a whole. -/
theorem Accounts.recvResult {self : ZtStream} {handed : Bytes} (accounts : self.Accounts handed)
    (host : ReadHost) :
    (self.recvResult host).2.Accounts (handed ++ receivedBy (self.recvResult host).1) ∧
      (self.recvResult host).2.carried = self.carried := by
  unfold ZtStream.recvResult
  split
  · exact ⟨by simpa [receivedBy] using accounts, rfl⟩
  · by_cases some_byte : 0 < self.unread.length
    · -- The rest of the chunk at hand goes first.
      rw [if_pos some_byte]
      refine ⟨⟨?_, ?_⟩, rfl⟩
      · exact (List.append_nil _).trans accounts.bytes
      · have sum := accounts.credit
        have more : (({ self with currentReadChunk := none } : ZtStream).notify self.unread.length).reported =
            self.reported + self.unread.length := reported_notify _ _
        show (notify _ _).reported + self.pendingReadCredit = (handed ++ self.unread).length
        rw [more, List.length_append]
        omega
    · have empty : self.unread = [] := List.eq_nil_of_length_eq_zero (by omega)
      have dropped := accounts.dropRead empty
      rw [if_neg some_byte]
      simp only
      split
      next chunk rest waiting =>
        refine ⟨⟨?_, ?_⟩, by simp [carried, notify, waiting]⟩
        · have bytes := accounts.bytes
          rw [empty, List.append_nil] at bytes
          simp [receivedBy, notify, unread, bytes]
        · have sum := accounts.credit
          have more := reported_notify { self with
            currentReadChunk := none
            receiver := rest
            taken := self.taken ++ [chunk] } chunk.length
          show (notify _ _).reported + self.pendingReadCredit = (handed ++ chunk).length
          rw [more, List.length_append]
          show self.reported + _ + _ = _
          omega
      next =>
        -- Nothing is received while the channel is empty, or after its end.
        split
        · split
          · exact ⟨by simpa [receivedBy] using dropped, rfl⟩
          · exact ⟨by simpa [receivedBy] using dropped, rfl⟩
        · exact ⟨by simpa [receivedBy] using dropped, rfl⟩

end ZtStream

/-! ### Runs of a reader -/

/-- What can happen to the read side of a stream. -/
inductive ReadCall where
  | pollRead (capacity : Nat) (host : ZtStream.ReadHost)
  | recvResult (host : ZtStream.ReadHost)
  /-- The actor puts a chunk into the channel. -/
  | deliver (chunk : Bytes)
  deriving DecidableEq, Repr

/-- The bytes a call puts into the channel. -/
def ReadCall.delivers : ReadCall → Nat
  | .deliver chunk => chunk.length
  | _ => 0

/--
What happens to the read side of one stream.

Offsets in a stream are 64-bit words, so its channel never carries more bytes than these can count.
-/
structure ReadRun where
  calls : List ReadCall
  fits : (calls.map ReadCall.delivers).sum < u64Size

/-- A stream and the bytes its reads handed over. -/
structure Reader where
  stream : ZtStream
  handed : Bytes
  deriving DecidableEq

namespace Reader

/-- A reader of a new stream. -/
def new (streamType : StreamType) : Reader := ⟨.new streamType, []⟩

/-- One call, or one chunk from the actor. -/
def step (call : ReadCall) (self : Reader) : Unit × Reader :=
  match call with
  | .pollRead capacity host =>
    let (answer, stream) := self.stream.pollRead capacity host
    ((), ⟨stream, self.handed ++ ZtStream.handedBy answer⟩)
  | .recvResult host =>
    let (answer, stream) := self.stream.recvResult host
    ((), ⟨stream, self.handed ++ ZtStream.receivedBy answer⟩)
  | .deliver chunk => ((), { self with stream := self.stream.deliver chunk })

/-- After the call, every byte taken was handed over or is unread, and every byte handed over is credited. -/
def Exact (call : ReadCall) (self : Reader) : Prop :=
  (step call self).2.handed ++ (step call self).2.stream.unread =
      (step call self).2.stream.taken.flatten ∧
    (step call self).2.stream.reported + (step call self).2.stream.pendingReadCredit =
      (step call self).2.handed.length

/-- One call keeps the accounts, and the channel carries more only by what the actor puts into it. -/
theorem step_accounts {call : ReadCall} {self : Reader} (fits : self.stream.carried < u64Size)
    (accounts : self.stream.Accounts self.handed) :
    (step call self).2.stream.Accounts (step call self).2.handed ∧
      (step call self).2.stream.carried = self.stream.carried + call.delivers := by
  cases call with
  | pollRead capacity host => exact accounts.pollRead fits capacity host
  | recvResult host => exact accounts.recvResult host
  | deliver chunk =>
    refine ⟨⟨accounts.bytes, accounts.credit⟩, ?_⟩
    simp [step, ZtStream.deliver, ZtStream.carried, ReadCall.delivers, Nat.add_assoc]

/-- A run from any state whose accounts are right, with so much more to come. -/
theorem exact_of_accounts {calls : List ReadCall} {self : Reader}
    (fits : self.stream.carried + (calls.map ReadCall.delivers).sum < u64Size)
    (accounts : self.stream.Accounts self.handed) : Refinement.Permitted step Exact calls self := by
  induction calls generalizing self with
  | nil => trivial
  | cons call rest ih =>
    rw [List.map_cons, List.sum_cons] at fits
    have one : self.stream.carried < u64Size := by omega
    obtain ⟨kept, carried⟩ := @step_accounts call self one accounts
    exact ⟨⟨kept.bytes, kept.credit⟩, ih (by omega) kept⟩

end Reader

end Zetta
