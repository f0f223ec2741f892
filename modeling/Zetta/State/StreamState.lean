import Zetta.Protocol.Frame
import Zetta.State.StreamBuffer

/-! The per-stream receive and transmit state, and the channel that feeds the application. -/

namespace Zetta

/--
A bounded channel to the application.

The items sent so far are kept in full; those not yet taken are the ones in the channel.
-/
structure Channel (α : Type) where
  sent : List α
  taken : Nat
  receiverAlive : Bool

namespace Channel

variable {α : Type}

/-- A channel nothing was sent on. -/
def new : Channel α := ⟨[], 0, true⟩

/-- Whether one more item can be sent: the receiver exists and the channel is not full. -/
def tryReserve (self : Channel α) (capacity : Nat) : Bool :=
  self.receiverAlive && self.sent.length - self.taken < capacity

/-- Send an item for which room was found. -/
def send (self : Channel α) (item : α) : Channel α := { self with sent := self.sent ++ [item] }

/-- The application takes the oldest item. -/
def recv (self : Channel α) : Channel α :=
  if self.taken < self.sent.length then { self with taken := self.taken + 1 } else self

/-- The application drops its end. -/
def dropReceiver (self : Channel α) : Channel α := { self with receiverAlive := false }

end Channel

/-- How many chunks a stream's channel holds. -/
def appChannelCapacity : Nat := 2048

/-- Per-stream receive and transmit state. -/
structure StreamState where
  expectedRxOffset : Nat
  nextTxOffset : Nat
  receiveBuffer : StreamReceiveBuffer
  windowSize : Nat
  txWindow : Nat
  bufferedBytes : Nat
  /-- Whether the sending end of the channel is still open. -/
  appTx : Bool
  channel : Channel Bytes
  highestRxOffset : Nat
  finalRxOffset : Option Nat
  sendStoppedError : Option Nat
  lastSentMaxData : Nat
  /-- When the window was last considered for automatic growth. -/
  lastWindowUpdate : Instant
  /-- Bytes the application consumed since then. -/
  bytesReadInEpoch : Nat
  streamType : StreamType

namespace StreamState

/-- The state of a stream on which nothing was sent or received. -/
def new (streamType : StreamType) (receiveWindow transmitWindow : Nat) (now : Instant) :
    StreamState where
  expectedRxOffset := 0
  nextTxOffset := 0
  receiveBuffer := .new receiveWindow
  windowSize := receiveWindow
  txWindow := transmitWindow
  bufferedBytes := 0
  appTx := true
  channel := .new
  highestRxOffset := 0
  finalRxOffset := none
  sendStoppedError := none
  lastSentMaxData := receiveWindow
  lastWindowUpdate := now
  bytesReadInEpoch := 0
  streamType := streamType

/-- Count bytes the application reported as read, as far as they were buffered. -/
def consume (self : StreamState) (bytesRead : Nat) : Nat × StreamState :=
  let consumed := min bytesRead self.bufferedBytes
  (consumed,
    { self with
      bufferedBytes := self.bufferedBytes - consumed
      expectedRxOffset := saturatingAdd self.expectedRxOffset consumed })

/-- Move contiguous chunks into the channel while it has room, answering those moved. -/
def pump : Nat → StreamState → List Bytes × StreamState
  | 0, self => ([], self)
  | fuel + 1, self =>
    if self.appTx && self.channel.tryReserve appChannelCapacity then
      match self.receiveBuffer.readContiguous with
      | none => ([], self)
      | some (chunk, receiveBuffer) =>
        let (chunks, pumped) := pump fuel
          { self with receiveBuffer := receiveBuffer, channel := self.channel.send chunk }
        (chunk :: chunks, pumped)
    else ([], self)

/-- Move what can be moved; every chunk uses up a recorded range. -/
def pumpAll (self : StreamState) : List Bytes × StreamState :=
  self.pump (self.receiveBuffer.receivedRanges.entries.length + 1)

/-- Close the channel once every byte up to the final size was moved into it. -/
def finish (self : StreamState) : StreamState :=
  match self.finalRxOffset with
  | some finalSize =>
    if self.receiveBuffer.readHead ≥ finalSize then { self with appTx := false } else self
  | none => self

end StreamState
end Zetta
