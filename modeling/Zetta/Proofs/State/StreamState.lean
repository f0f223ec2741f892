import Zetta.State.StreamState
import Zetta.Proofs.State.StreamBuffer

/-! Laws of stream state: one forwarding round moves everything contiguous, or finds the channel full. -/

namespace Zetta
namespace StreamState

/-- A stream whose data at the read head is neither missing nor in the channel yet. -/
def Pending (self : StreamState) : Prop := self.receiveBuffer.Covered self.receiveBuffer.readHead

/-- Whether the next chunk finds room. -/
def hasRoom (self : StreamState) : Bool :=
  self.appTx && self.channel.tryReserve appChannelCapacity

/-- The stream after its contiguous data went into the channel. -/
def moved (self : StreamState) (chunk : Bytes) (receiveBuffer : StreamReceiveBuffer) : StreamState :=
  { self with receiveBuffer := receiveBuffer, channel := self.channel.send chunk }

/-- After a chunk was read there is no second one, whether or not the channel has room. -/
theorem pump_exhausted {self : StreamState} (wf : self.receiveBuffer.WellFormed)
    (exhausted : ¬ self.Pending) (fuel : Nat) : self.pump fuel = ([], self) := by
  cases fuel with
  | zero => rfl
  | succ fuel =>
    have nothing := (StreamReceiveBuffer.readContiguous_eq_none_iff wf).mpr exhausted
    simp only [pump, nothing]
    split <;> rfl

/-- A forwarding round moves the contiguous run in one chunk, if there is one and it finds room. -/
theorem pumpAll_eq {self : StreamState} (wf : self.receiveBuffer.WellFormed) :
    self.pumpAll =
      if self.hasRoom then
        match self.receiveBuffer.readContiguous with
        | none => ([], self)
        | some (chunk, receiveBuffer) => ([chunk], self.moved chunk receiveBuffer)
      else ([], self) := by
  unfold pumpAll
  rw [pump]
  cases room : self.hasRoom with
  | false =>
    simp only [hasRoom] at room
    simp [room]
  | true =>
    simp only [hasRoom] at room
    simp only [room, if_true]
    cases read : self.receiveBuffer.readContiguous with
    | none => simp
    | some answer =>
      obtain ⟨chunk, receiveBuffer⟩ := answer
      have drained := StreamReceiveBuffer.readContiguous_drained wf read
      -- The first chunk was the whole run, so the second round finds nothing.
      have wellFormed : (self.moved chunk receiveBuffer).receiveBuffer.WellFormed :=
        drained.wellFormed
      have rest := pump_exhausted wellFormed drained.exhausted
        self.receiveBuffer.receivedRanges.entries.length
      simp only [moved] at rest ⊢
      simp [rest]

/-- What a forwarding round does to a stream. -/
structure Forwarded (before after : StreamState) (chunks : List Bytes) : Prop where
  wellFormed : after.receiveBuffer.WellFormed
  capacity : after.receiveBuffer.capacity = before.receiveBuffer.capacity
  readHead : after.receiveBuffer.readHead = before.receiveBuffer.readHead + chunks.flatten.length
  handed : ∀ index, index < chunks.flatten.length →
    before.receiveBuffer.Covered (before.receiveBuffer.readHead + index) ∧
      chunks.flatten[index]? = before.receiveBuffer.byteAt (before.receiveBuffer.readHead + index)
  covered : ∀ position, after.receiveBuffer.Covered position ↔
    before.receiveBuffer.Covered position ∧ after.receiveBuffer.readHead ≤ position
  kept : ∀ position, after.receiveBuffer.byteAt position = before.receiveBuffer.byteAt position
  nonempty : ∀ chunk ∈ chunks, chunk ≠ []
  sent : after.channel.sent = before.channel.sent ++ chunks
  /-- Data stays behind only when the channel was full or no longer open. -/
  full : after.Pending → before.appTx = true → before.channel.receiverAlive = true →
    appChannelCapacity ≤ before.channel.sent.length - before.channel.taken
  /-- Nothing else changes. -/
  rest : after = { before with
    receiveBuffer := after.receiveBuffer, channel := { before.channel with sent := after.channel.sent } }

/-- Moving nothing is a forwarding round when nothing is pending or there is no room. -/
theorem Forwarded.nothing {self : StreamState} (wf : self.receiveBuffer.WellFormed)
    (stuck : self.Pending → self.hasRoom = false) : Forwarded self self [] where
  wellFormed := wf
  capacity := rfl
  readHead := rfl
  handed := by simp
  covered := fun position => ⟨fun held => ⟨held, (wf.window held).1⟩, fun held => held.1⟩
  kept := fun _ => rfl
  nonempty := by simp
  sent := by simp
  full := fun pending opened alive => by
    have blocked := stuck pending
    simpa [hasRoom, Channel.tryReserve, opened, alive] using blocked
  rest := rfl

/-- Every forwarding round does what the description says. -/
theorem pumpAll_forwarded {self : StreamState} (wf : self.receiveBuffer.WellFormed) :
    Forwarded self self.pumpAll.2 self.pumpAll.1 := by
  rw [pumpAll_eq wf]
  split
  · cases read : self.receiveBuffer.readContiguous with
    | none =>
      have nothing := (StreamReceiveBuffer.readContiguous_eq_none_iff wf).mp read
      exact Forwarded.nothing wf fun pending => absurd pending nothing
    | some answer =>
      obtain ⟨chunk, receiveBuffer⟩ := answer
      have drained := StreamReceiveBuffer.readContiguous_drained wf read
      exact {
        wellFormed := drained.wellFormed
        capacity := drained.capacity
        readHead := by simpa [moved] using drained.readHead
        handed := by simpa using drained.handed
        covered := drained.covered
        kept := drained.kept
        nonempty := by simpa using drained.some
        sent := rfl
        full := fun pending => absurd pending drained.exhausted
        rest := rfl }
  · rename_i blocked
    exact Forwarded.nothing wf fun _ => by simpa using blocked

/-- Closing a finished channel touches nothing but its sending end. -/
theorem finish_eq (self : StreamState) :
    self.finish = { self with appTx := self.finish.appTx } := by
  unfold finish
  split
  · split <;> rfl
  · rfl

end StreamState
end Zetta
