import Zetta.Transport.Actor

/-! Acknowledgment processing, loss detection and the path MTU of a connection. -/

namespace Zetta

/-- A congestion controller that increases additively and halves on loss. -/
structure RenoController where
  cwnd : Nat
  ssthresh : Nat
  mtu : Nat
  lastCongestionTime : Option Instant
  deriving DecidableEq, Repr

namespace RenoController

/-- A controller with an initial window. -/
def new (initialCwnd mtu : Nat) : RenoController := ⟨initialCwnd, u64Size - 1, mtu, none⟩

/-- Grow the window: exponentially below the threshold, additively above it. -/
def onPacketAcked (self : RenoController) (bytesAcked : Nat) : RenoController :=
  if self.cwnd < self.ssthresh then { self with cwnd := wrappingAdd self.cwnd bytesAcked }
  else
    let increment := wrappingMul self.mtu bytesAcked / max self.cwnd self.mtu
    { self with cwnd := wrappingAdd self.cwnd (max increment 1) }

/-- Halve the window, at most once in a round-trip time. -/
def onCongestionEvent (self : RenoController) (rtt : Duration) (now : Instant) : RenoController :=
  match self.lastCongestionTime with
  | some lastLoss => if now - lastLoss < rtt then self else reduce self
  | none => reduce self
where
  /-- The reduction itself. -/
  reduce (self : RenoController) : RenoController :=
    let ssthresh := max (self.cwnd / 2) (wrappingMul self.mtu 2)
    { self with lastCongestionTime := some now, ssthresh := ssthresh, cwnd := ssthresh }

end RenoController

instance : CongestionController RenoController where
  onPacketAcked self bytesAcked _ _ := self.onPacketAcked bytesAcked
  onCongestionEvent := RenoController.onCongestionEvent
  cwnd self := self.cwnd
  setMtu self mtu := { self with mtu := mtu }

namespace ZtConnectionActor

variable {CC : Type} [CongestionController CC]

/-- The number of the next packet; the numbers must not run out. -/
def getNextPacketNumber : Act CC Nat := do
  let self ← get
  match checkedAdd self.nextPacketNumber 1 with
  | none => throw .packetNumberOverflow
  | some next =>
    set { self with nextPacketNumber := next }
    pure self.nextPacketNumber

/-- The bytes buffered on all streams. -/
def getTotalBufferedBytes (self : ZtConnectionActor CC) : Nat :=
  (self.streams.values.map StreamState.bufferedBytes).sum

/-- The receive memory of all streams. -/
def totalAllocatedBufferSize (self : ZtConnectionActor CC) : Nat :=
  self.streams.values.foldl
    (fun total stream => saturatingAdd total stream.receiveBuffer.allocatedSize) 0

/-- A probe of this size arrived, so the path carries it. -/
def recordMtuProbeSuccess (self : ZtConnectionActor CC) (targetSize : Nat) :
    ZtConnectionActor CC :=
  let self := { self with
    mtuProbeSuccesses := saturatingAdd self.mtuProbeSuccesses 1
    mtuMin := max self.mtuMin targetSize }
  if targetSize > self.mtu then
    { self with mtu := targetSize, cc := CongestionController.setMtu self.cc targetSize }
  else self

/-- A probe of this size was lost, so the search goes on below it. -/
def recordMtuProbeFailure (self : ZtConnectionActor CC) (targetSize : Nat) :
    ZtConnectionActor CC :=
  { self with
    mtuProbeFailures := saturatingAdd self.mtuProbeFailures 1
    mtuMax := min self.mtuMax (targetSize - 1) }

/-- Fall back to the base MTU when large packets keep being lost; answers whether it did. -/
def recoverMtuBlackhole (self : ZtConnectionActor CC) : Bool × ZtConnectionActor CC :=
  if self.mtu ≤ self.baseMtu then (false, self)
  else
    (true, { self with
      mtu := self.baseMtu
      mtuMin := self.baseMtu
      mtuMax := max (self.mtu - 1) self.baseMtu
      cc := CongestionController.setMtu self.cc self.baseMtu
      mtuBlackholeRecoveries := saturatingAdd self.mtuBlackholeRecoveries 1 })

/-- Whether a packet number was processed before. -/
def isReplay (self : ZtConnectionActor CC) (pn : Nat) : Bool := self.replayWindow.isReplay pn

/-- The packet numbers to acknowledge, as ranges. -/
def getAckRanges (self : ZtConnectionActor CC) : List (Nat × Nat) := self.ackTracker.getAckRanges

/-- Record a packet number for replay detection and for acknowledgment. -/
def markProcessed (self : ZtConnectionActor CC) (pn : Nat) : ZtConnectionActor CC :=
  let isNewHighest := self.ackTracker.highestProcessed.all fun highest => pn ≥ highest
  { self with
    largestAckedReceivedAt :=
      if isNewHighest then some self.host.now else self.largestAckedReceivedAt
    replayWindow := self.replayWindow.markProcessed pn
    ackTracker := self.ackTracker.markProcessed pn }

/-- Whether an acknowledgment speaks only of numbers that were sent. -/
def isAckValid (self : ZtConnectionActor CC) (largestAcked : Nat) (ackRanges : List (Nat × Nat)) :
    Bool :=
  -- Before the first packet there is no highest number to compare with.
  !(self.nextPacketNumber == 0 || largestAcked > self.nextPacketNumber - 1 ||
    ackRanges.any fun range => range.1 > range.2 || range.2 > largestAcked)

/-- What one acknowledgment adds up to. -/
structure AckTally where
  bytesAcked : Nat
  bytesInFlightAcked : Nat
  sampleRtt : Option Duration

/-- Count a packet as acknowledged. -/
def AckTally.count (tally : AckTally) (now : Instant) (up : UnackedPacket) : AckTally where
  bytesAcked := if up.isMtuProbe then tally.bytesAcked else tally.bytesAcked + up.payload.len
  bytesInFlightAcked := tally.bytesInFlightAcked + up.sentBytes
  sampleRtt :=
    if tally.sampleRtt.isNone ∧ up.retries = 0 then some (now - up.sentAt) else tally.sampleRtt

/-- A packet the peer reported as received. -/
def sackPacket (pn : Nat) (up : UnackedPacket) (state : AckTally × ZtConnectionActor CC) :
    AckTally × ZtConnectionActor CC :=
  let (tally, self) := state
  let tally := tally.count self.host.now up
  if up.isMtuProbe then
    let probed := self.mtuProbes.contains pn
    let self := { self with mtuProbes := self.mtuProbes.erase pn }
    if probed ∧ up.payload.len > self.mtu then (tally, self.recordMtuProbeSuccess up.payload.len)
    else (tally, self)
  else (tally, self)

/-- The packets of one acknowledged range that fall into the window. -/
def sackRange (state : UnackedWindow × AckTally × ZtConnectionActor CC) (range : Nat × Nat) :
    UnackedWindow × AckTally × ZtConnectionActor CC :=
  let lower := max range.1 state.1.basePn
  let upper := min range.2 (state.1.basePn + state.1.deque.length)
  if lower ≤ upper then
    UnackedWindow.drain sackPacket (List.range' lower (upper + 1 - lower)) state.1 state.2
  else state

/-- A packet older than the peer's window tracks, taken as acknowledged. -/
def cumulativePacket (_ : Nat) (up : UnackedPacket) (state : AckTally × ZtConnectionActor CC) :
    AckTally × ZtConnectionActor CC :=
  (state.1.count state.2.host.now up, state.2)

/-- Whether a packet counts as lost once a number was acknowledged. -/
def isLost (self : ZtConnectionActor CC) (largestAckedPn : Nat) (entry : Nat × UnackedPacket) :
    Bool :=
  let timeThreshold := max self.host.scaledRtt (milliseconds 15)
  entry.1 + 3 ≤ largestAckedPn || self.host.now - entry.2.sentAt > timeThreshold

/-- What loss detection collects. -/
structure LossTally where
  fastRetransmits : List (UnackedPayload × Nat)
  lossDetected : Bool

/-- A lost packet: probes and datagrams are given up, everything else is sent again. -/
def lostPacket (pn : Nat) (up : UnackedPacket) (state : LossTally × ZtConnectionActor CC) :
    LossTally × ZtConnectionActor CC :=
  let (tally, self) := state
  let self := { self with bytesInFlight := self.bytesInFlight - up.sentBytes }
  if up.isMtuProbe then
    let self := { self with mtuProbes := self.mtuProbes.erase pn }
    match up.payload with
    | .mtuProbe targetSize => (tally, self.recordMtuProbeFailure targetSize)
    | _ => (tally, self)
  else if up.payload.isDatagram then ({ tally with lossDetected := true }, self)
  else (⟨tally.fastRetransmits ++ [(up.payload, up.retries)], true⟩, self)

/-- Fold a round-trip sample into the estimate, without the peer's delay. -/
def updateRtt (self : ZtConnectionActor CC) (sample ackDelay : Duration) : ZtConnectionActor CC :=
  let rtt := if sample > ackDelay then sample - ackDelay else sample
  if self.rttInitialized then
    let error := max self.rtt rtt - min self.rtt rtt
    { self with rttvar := (self.rttvar * 3 + error) / 4, rtt := (self.rtt * 7 + rtt) / 8 }
  else { self with rtt := rtt, rttvar := rtt / 2, rttInitialized := true }

/-- First pass: the packets the peer reported as received. -/
def sackPass (self : ZtConnectionActor CC) (sackRanges : List (Nat × Nat)) :
    UnackedWindow × AckTally × ZtConnectionActor CC :=
  sackRanges.foldl sackRange (self.unackedPackets, ⟨0, 0, none⟩, self)

/-- Second pass: the packets older than the peer's window can report on. -/
def cumulativePass (largestAckedPn : Nat) (unacked : UnackedWindow)
    (state : AckTally × ZtConnectionActor CC) : UnackedWindow × AckTally × ZtConnectionActor CC :=
  let oldestTracked := largestAckedPn - 2047
  let cumulativeAcked := (unacked.iter.takeWhile fun entry => entry.1 < oldestTracked).map Prod.fst
  UnackedWindow.drain cumulativePacket cumulativeAcked unacked state

/-- Third pass: the packets given up as lost, by gap and by time. -/
def lossPass (largestAckedPn : Nat) (fastRetransmits : List (UnackedPayload × Nat))
    (unacked : UnackedWindow) (self : ZtConnectionActor CC) :
    UnackedWindow × LossTally × ZtConnectionActor CC :=
  let lostPns := ((unacked.iter.takeWhile fun entry => entry.1 < largestAckedPn).filter
    (self.isLost largestAckedPn)).map Prod.fst
  let self := { self with packetsLost := saturatingAdd self.packetsLost lostPns.length }
  UnackedWindow.drain lostPacket lostPns unacked (⟨fastRetransmits, false⟩, self)

/-- The congestion window and the round-trip estimate after the passes. -/
def settleAck (self : ZtConnectionActor CC) (tally : AckTally) (lossDetected : Bool)
    (ackDelayUs : Nat) : ZtConnectionActor CC :=
  let self := if lossDetected then
      { self with cc := CongestionController.onCongestionEvent self.cc self.rtt self.host.now }
    else self
  let self := { self with bytesInFlight := self.bytesInFlight - tally.bytesInFlightAcked }
  let self := match tally.sampleRtt with
    | some sample => self.updateRtt sample (ackDelayUs * 1000)
    | none => self
  if tally.bytesAcked > 0 then
    { self with
      cc := CongestionController.onPacketAcked self.cc tally.bytesAcked self.rtt self.host.now }
  else self

/--
Process an acknowledgment: forget acknowledged packets, detect losses, adjust the window.

The answer is the list of payloads to send again, appended to the one given.
-/
def handleAck (self : ZtConnectionActor CC) (largestAckedPn windowSize ackDelayUs : Nat)
    (sackRanges : List (Nat × Nat)) (fastRetransmits : List (UnackedPayload × Nat)) :
    List (UnackedPayload × Nat) × ZtConnectionActor CC :=
  let sacked := self.sackPass sackRanges
  let aged := cumulativePass largestAckedPn sacked.1 sacked.2
  let swept := lossPass largestAckedPn fastRetransmits aged.1 aged.2.2
  let settled := { swept.2.2 with unackedPackets := swept.1 }.settleAck aged.2.1
    swept.2.1.lossDetected ackDelayUs
  (swept.2.1.fastRetransmits, { settled with remoteWindow := windowSize })

end ZtConnectionActor
end Zetta
