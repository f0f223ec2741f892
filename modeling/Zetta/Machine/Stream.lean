import Zetta.Transport.IncomingHandler

/-! One stream by itself: what frames, reads and the application's channel do to its state. -/

namespace Zetta

/-- What goes with a report that the application read some bytes. -/
structure Reading where
  bytesRead : Nat
  rtt : Duration
  now : Instant
  maxStreamWindow : Nat
  /-- Whether the connection's buffers leave room for a larger window. -/
  room : Bool
  deriving DecidableEq, Repr

namespace StreamState

/-- Data at an offset; a frame that is refused can still raise the highest offset. -/
def receive (self : StreamState) (offset : Nat) (data : Bytes) : StreamState :=
  match checkedAdd offset data.length with
  | none => self
  | some endOffset =>
    if self.finalRxOffset.any fun finalSize => endOffset > finalSize then self
    else
      let readHead := self.receiveBuffer.readHead
      let raised := { self with highestRxOffset := max self.highestRxOffset endOffset }
      if endOffset ≤ readHead then raised
      else if endOffset > saturatingAdd self.expectedRxOffset self.windowSize then raised
      else
        -- The part before the read head was received before.
        match self.receiveBuffer.write (max offset readHead) (data.drop (readHead - offset)) with
        | none => raised
        | some (added, receiveBuffer) =>
          { raised with
            receiveBuffer := receiveBuffer
            bufferedBytes := saturatingAdd self.bufferedBytes added }

/-- The peer's final size, unless it contradicts what was received or declared. -/
def finalise (self : StreamState) (finalSize : Nat) : StreamState :=
  if finalSize < self.highestRxOffset ∨
      self.finalRxOffset.any (fun existing => existing ≠ finalSize) then self
  else { self with finalRxOffset := some finalSize }

/-- The stream once the bytes read are counted and what can move has moved to the application. -/
def handOver (self : StreamState) (bytesRead : Nat) : List Bytes × StreamState :=
  let (chunks, moved) := (self.consume bytesRead).2.pumpAll
  (chunks, moved.finish)

/-- The stream once a larger window was considered, and the window asked for. -/
def considered (self : StreamState) (reading : Reading) : Option Nat × StreamState :=
  (self.handOver reading.bytesRead).2.considerScaling (self.consume reading.bytesRead).1 reading.rtt
    reading.maxStreamWindow reading.now

/-- A larger window, if one was asked for and there is room. -/
def widen (self : StreamState) (newWindow : Option Nat) (room : Bool) : StreamState :=
  match newWindow with
  | none => self
  | some size =>
    if room then { self with receiveBuffer := self.receiveBuffer.resize size, windowSize := size }
    else self

/-- The stream a report leaves, before the peer is told of its window. -/
def ready (self : StreamState) (reading : Reading) : StreamState :=
  (self.considered reading).2.widen (self.considered reading).1 reading.room

/-- The credit a report makes the connection grant: something was read and a quarter is free. -/
def granted (self : StreamState) (reading : Reading) : Option Nat :=
  let stream := self.ready reading
  let maxData := wrappingAdd stream.expectedRxOffset stream.windowSize
  if (self.consume reading.bytesRead).1 > 0 ∧
      maxData - stream.lastSentMaxData ≥ stream.windowSize / 4 then some maxData
  else none

/-- The stream after a report of the application. -/
def forward (self : StreamState) (reading : Reading) : StreamState :=
  (self.granted reading).elim (self.ready reading) fun maxData =>
    { self.ready reading with lastSentMaxData := maxData }

end StreamState

/-- What can happen to a stream in the table. -/
inductive StreamOp where
  | receive (offset : Nat) (data : Bytes)
  | finalise (finalSize : Nat)
  /-- The application reads, or received data is moved on without it. -/
  | forward (reading : Reading)
  /-- The peer grants credit. -/
  | extend (maxData : Nat)
  /-- The peer wants no more data. -/
  | stop (errorCode : Nat)
  /-- The application writes. -/
  | send (length : Nat)
  /-- The application takes a chunk. -/
  | recv
  /-- The application drops its end. -/
  | dropReceiver
  deriving DecidableEq, Repr

namespace StreamOp

/-- The stream afterwards. -/
def apply : StreamOp → StreamState → StreamState
  | receive offset data, stream => stream.receive offset data
  | finalise finalSize, stream => stream.finalise finalSize
  | forward reading, stream => stream.forward reading
  | extend maxData, stream => { stream with txWindow := maxData - stream.nextTxOffset }
  | stop errorCode, stream => { stream with sendStoppedError := some errorCode }
  | send length, stream =>
    { stream with
      nextTxOffset := stream.nextTxOffset + length
      txWindow := stream.txWindow - length }
  | recv, stream => { stream with channel := stream.channel.recv }
  | dropReceiver, stream => { stream with channel := stream.channel.dropReceiver }

/-- The bytes the application reports as read. -/
def reads : StreamOp → Nat
  | forward reading => reading.bytesRead
  | _ => 0

/-- The credit granted to the peer. -/
def grants : StreamOp → StreamState → List Nat
  | forward reading, stream => (stream.granted reading).toList
  | _, _ => []

/-- The stream after a sequence of operations. -/
def run (ops : List StreamOp) (stream : StreamState) : StreamState :=
  ops.foldl (fun stream op => op.apply stream) stream

/-- The credit granted on the way. -/
def granted : List StreamOp → StreamState → List Nat
  | [], _ => []
  | op :: rest, stream => op.grants stream ++ granted rest (op.apply stream)

end StreamOp
end Zetta
