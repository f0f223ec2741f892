import Zetta.Machine.Stream
import Zetta.Transport.History
import Zetta.Transport.IncomingHandler

/-! The books of a connection: what is queued, in flight and on the wire, and every way they change. -/

namespace Zetta

/-- Whether a payload is a probe for a larger MTU. -/
def UnackedPayload.isProbe : UnackedPayload → Bool
  | mtuProbe _ => true
  | _ => false

/-- Whether a payload carries data of a stream. -/
def UnackedPayload.isStream : UnackedPayload → Bool
  | stream .. => true
  | _ => false

/-- Whether a frame carries application data. -/
def Frame.isData : Frame → Bool
  | stream .. | datagram _ => true
  | _ => false

/-- Whether a frame can make its receiver start closing the connection, as a violation. -/
def Frame.mayClose : Frame → Bool
  | stream .. | ack .. | streamClose .. | resetStream .. => true
  | _ => false

/-- Whether a frame closes the connection of its receiver. -/
def Frame.isClose : Frame → Bool
  | connectionClose | connectionCloseV2 .. => true
  | _ => false

/-- The frames that close are not among those that may start closing. -/
theorem Frame.mayClose_of_isClose {frame : Frame} (shutting : frame.isClose = true) :
    frame.mayClose = false := by
  cases frame with
  | connectionClose | connectionCloseV2 => rfl
  | _ => cases shutting

/-- No frame that may start closing the connection comes after one that closed it. -/
def Frame.Orderly (frames : List Frame) : Prop :=
  frames.Pairwise fun earlier later => earlier.isClose = true → later.mayClose = false

/-- The search for the path MTU: the size in use, and the sizes known to pass and not to fail. -/
structure MtuSearch where
  mtu : Nat
  low : Nat
  high : Nat
  deriving DecidableEq, Repr

/-- What became of a probe. -/
inductive ProbeOutcome where
  | passed (target : Nat)
  | failed (target : Nat)
  deriving DecidableEq, Repr

/-- The size a probe tried. -/
def ProbeOutcome.target : ProbeOutcome → Nat
  | passed target | failed target => target

namespace MtuSearch

/-- What the search learns from a probe; one that passed counts if it is larger than the size in use. -/
def learn (self : MtuSearch) : ProbeOutcome → MtuSearch
  | .passed target => if self.mtu < target then ⟨target, max self.low target, self.high⟩ else self
  | .failed target => { self with high := min self.high (target - 1) }

/-- The search starts again at the base, below the size that stopped passing. -/
def recover (self : MtuSearch) (base : Nat) : MtuSearch := ⟨base, base, max (self.mtu - 1) base⟩

end MtuSearch

/--
The books of a connection.

The hand holds payloads that are neither queued nor in flight: one just issued, or those of lost
packets, until each is sent or queued. Between two handlers it is empty.
-/
structure Books where
  config : ZtConfig
  isClient : Bool
  state : ConnectionState
  nextPacketNumber : Nat
  dcid : Bytes
  crypto : Option CryptoContext
  currentKeyEpoch : Nat
  ephemeralSecret : Option Bytes
  streams : SortedMap Nat StreamState
  nextStreamId : Nat
  localMaxStreams : Nat
  peerMaxStreams : Nat
  unackedPackets : UnackedWindow
  bytesInFlight : Nat
  unpacedQueue : List (UnackedPayload × Nat)
  queuedBytes : Nat
  bytesReceived : Nat
  bytesSent : Nat
  search : MtuSearch
  baseMtu : Nat
  /-- The numbers of probes in flight, with the sizes they try. -/
  mtuProbes : SortedMap Nat Nat
  probeFailures : Nat
  datagrams : Channel Bytes
  log : List Effect
  /-- The socket's answers still to come in this turn. -/
  sends : List SendOutcome
  hand : List (UnackedPayload × Nat)

/-- An actor's search for the path MTU. -/
def ZtConnectionActor.search {CC : Type} (self : ZtConnectionActor CC) : MtuSearch :=
  ⟨self.mtu, self.mtuMin, self.mtuMax⟩

/-- The books of an actor, with some payloads in hand. -/
def ZtConnectionActor.books {CC : Type} (self : ZtConnectionActor CC)
    (hand : List (UnackedPayload × Nat)) : Books where
  config := self.config
  isClient := self.isClient
  state := self.state
  nextPacketNumber := self.nextPacketNumber
  dcid := self.dcid
  crypto := self.crypto
  currentKeyEpoch := self.currentKeyEpoch
  ephemeralSecret := self.ephemeralSecret
  streams := self.streams
  nextStreamId := self.nextStreamId
  localMaxStreams := self.localMaxStreams
  peerMaxStreams := self.peerMaxStreams
  unackedPackets := self.unackedPackets
  bytesInFlight := self.bytesInFlight
  unpacedQueue := self.unpacedQueue
  queuedBytes := self.queuedBytes
  bytesReceived := self.bytesReceived
  bytesSent := self.bytesSent
  search := self.search
  baseMtu := self.baseMtu
  mtuProbes := self.mtuProbes
  probeFailures := self.mtuProbeFailures
  datagrams := self.datagrams
  log := self.log
  sends := self.host.sends
  hand := hand

/-- What may happen beyond the routine, as far as the event and the state it finds decide it. -/
structure Licence where
  /-- A probe is sent. -/
  probes : Books → Prop
  /-- The MTU falls back to the base. -/
  recovers : Books → Prop
  /-- A payload that counts bytes is sent past the queue for the first time. -/
  issues : Books → UnackedPayload → Prop
  /-- Data is accepted from the application. -/
  writes : Books → UnackedPayload → Prop
  /-- The connection starts closing. -/
  closes : Books → Prop
  /-- The connection is closed at once. -/
  shuts : Books → Prop
  /-- A datagram of the peer is handed to the application. -/
  pushes : Bytes → Prop
  /-- The peer names the id it is to be reached under. -/
  names : Bytes → Prop
  /-- The application opens a stream. -/
  opens : Books → Prop
  /-- The peer reports a packet number as received. -/
  reports : Nat → Prop
  /-- A packet number is too old to be reported on. -/
  outdates : Nat → Prop
  /-- The application reports bytes of a stream as read. -/
  reads : Books → Nat → Nat → Prop

/-- Everything may happen. -/
def Licence.free : Licence where
  probes _ := True
  recovers _ := True
  issues _ _ := True
  writes _ _ := True
  closes _ := True
  shuts _ := True
  pushes _ := True
  names _ := True
  opens _ := True
  reports _ := True
  outdates _ := True
  reads _ _ _ := True

/-- What one licence allows in some state, another allows there as well. -/
structure Licence.Within (licence other : Licence) (books : Books) : Prop where
  probes : licence.probes books → other.probes books
  recovers : licence.recovers books → other.recovers books
  issues : ∀ payload, licence.issues books payload → other.issues books payload
  writes : ∀ payload, licence.writes books payload → other.writes books payload
  closes : licence.closes books → other.closes books
  shuts : licence.shuts books → other.shuts books
  pushes : ∀ data, licence.pushes data → other.pushes data
  names : ∀ id, licence.names id → other.names id
  opens : licence.opens books → other.opens books
  reports : ∀ pn, licence.reports pn → other.reports pn
  outdates : ∀ pn, licence.outdates pn → other.outdates pn
  reads : ∀ id bytesRead, licence.reads books id bytesRead → other.reads books id bytesRead

/-- The connection may start closing whatever happened, and is not closed at once. -/
def Licence.narrowed (licence : Licence) : Licence :=
  { licence with closes := fun _ => True, shuts := fun _ => False }

/-- The numbers an acknowledgment reports on. -/
def Frame.Reports (ranges : List (Nat × Nat)) (pn : Nat) : Prop :=
  ∃ range ∈ ranges, range.1 ≤ pn ∧ pn ≤ range.2

/-- An acknowledgment may report the numbers of its ranges, and pass over those that are too old. -/
structure Licence.Acknowledges (licence : Licence) (largestAcked : Nat) (ranges : List (Nat × Nat)) :
    Prop where
  reports : ∀ pn, Frame.Reports ranges pn → licence.reports pn
  outdates : ∀ pn, pn < largestAcked - 2047 → ¬ Frame.Reports ranges pn → licence.outdates pn

/--
A packet may start closing the connection, after others of its frames if it comes to that, its
datagrams may be handed to the application, and a response may name the id of the server.
-/
structure Licence.Receives (licence : Licence) (packet : Packet) : Prop where
  closes : (∀ books, licence.closes books) ∨
    Frame.Orderly packet.frames ∧ ∀ books : Books, books.state ≠ .closed → licence.closes books
  pushes : packet.header.pType.isProtected = true →
    ∀ data, .datagram data ∈ packet.frames → licence.pushes data
  names : packet.header.pType = .handshake → licence.names packet.header.scid
  acknowledges : ∀ largest window delay ranges, .ack largest window delay ranges ∈ packet.frames →
    licence.Acknowledges largest ranges

namespace Books

/-- The parity of the stream ids the endpoint's own application opens. -/
def localParity (self : Books) : Nat := if self.isClient then 0 else 1

/-- The parity of the stream ids the peer opens. -/
def peerParity (self : Books) : Nat := if self.isClient then 1 else 0

/-- How many streams in the table have ids of a parity. -/
def openedStreams (self : Books) (parity : Nat) : Nat :=
  (self.streams.keys.filter fun id => id % 2 = parity).length

/-- The receive memory of all streams, as the connection adds it up. -/
def allocated (self : Books) : Nat :=
  self.streams.values.foldl
    (fun total stream => saturatingAdd total stream.receiveBuffer.allocatedSize) 0

/-- The header of a packet after the handshake. -/
def header (self : Books) (pType : PacketType) (number pnLen : Nat) : PacketHeader :=
  ⟨pType, false, 0, self.dcid, [], number, self.currentKeyEpoch % 2 ≠ 0, pnLen⟩

/-- A packet with a short header, sealed under the keys in use. -/
def Seals (self : Books) (pType : PacketType) (number : Nat) (text : PacketHeader → Bytes)
    (record : SentRecord) : Prop :=
  ∃ crypto pnLen, self.crypto = some crypto ∧ 1 ≤ pnLen ∧ pnLen ≤ 4 ∧ record.epoch = crypto.epoch ∧
    record.packet = ⟨self.header pType number pnLen, .encrypted (crypto.encryptInPlace number
      (self.header pType number pnLen).encode (text (self.header pType number pnLen)))⟩

/-- The plaintext of a packet with one frame. -/
def frameText (frame : Frame) (header : PacketHeader) : Bytes :=
  ZtConnectionActor.padShort header.pnLen frame.encode

/-- The plaintext of a packet that carries a payload. -/
def payloadText (payload : UnackedPayload) (header : PacketHeader) : Bytes :=
  frameText (payload.frame header.encode.length) header

/-- The plaintext of a probe, which fills the packet up to the size it tries. -/
def probeText (target : Nat) (header : PacketHeader) : Bytes :=
  (Frame.padding (target - (header.encode.length + 16))).encode

/-- The packet made for a payload; that of an Initial payload has a long header. -/
inductive Builds (self : Books) : UnackedPayload → SentRecord → Prop
  | initial {record : SentRecord} (cookie : Option Bytes) (long : record.packet.header.isLong = true) :
      Builds self (.initial cookie) record
  | data {payload : UnackedPayload} {record : SentRecord} (ordinary : ∀ cookie, payload ≠ .initial cookie)
      (seals : self.Seals .data self.nextPacketNumber (payloadText payload) record) :
      Builds self payload record

/-- A server lets no more than three times what it heard out before the client is known. -/
def Affords (self : Books) (size : Nat) : Prop :=
  self.isClient = false → self.state = .handshaking →
    self.bytesSent + size ≤ 3 * max self.bytesReceived 1

/-- What becomes of a packet handed to the socket: it goes out, or it does not. -/
inductive Offers (self : Books) (record : SentRecord) : Books → Prop
  | taken {rest : List SendOutcome} (answers : self.sends = .sent :: rest)
      (affords : self.Affords record.packet.size) (fits : record.packet.size ≤ maxUdpPayload) :
      Offers self record { self with
        sends := rest
        log := self.log ++ [.sent record]
        bytesSent := self.bytesSent + record.packet.size }
  | held {rest : List SendOutcome} (fewer : rest <:+ self.sends) :
      Offers self record { self with sends := rest }

/-- Why a payload that counts bytes can fail to go out. -/
def Faults (self : Books) (payload : UnackedPayload) : Prop :=
  payload.len = 0 ∨ u64Size ≤ self.nextPacketNumber + 1 ∨ self.crypto = none ∨
    self.sends.head? ≠ some .sent ∨ maxUdpPayload < payload.len + self.dcid.length + 64

/-- A payload fails to go out, and at most a number and some of the socket's answers are used up. -/
inductive Fails (self : Books) (payload : UnackedPayload) : Books → Prop
  | mk {number : Nat} {rest : List SendOutcome}
      (drawn : number = self.nextPacketNumber ∨
        number = self.nextPacketNumber + 1 ∧ self.nextPacketNumber + 1 < u64Size)
      (fewer : rest <:+ self.sends) (fault : self.Faults payload) :
      Fails self payload { self with nextPacketNumber := number, sends := rest }

/-- A packet under the next number joins those in flight. -/
def launch (self : Books) (packet : UnackedPacket) : Books :=
  { self with
    nextPacketNumber := self.nextPacketNumber + 1
    unackedPackets := self.unackedPackets.insert self.nextPacketNumber packet
    bytesInFlight := self.bytesInFlight + packet.sentBytes }

/-- The bytes of some packets. -/
def bytesOf (packets : List (Nat × UnackedPacket)) : Nat :=
  (packets.map fun entry => entry.2.sentBytes).sum

/-- The sizes that the probes among some packets tried. -/
def probeTargets (packets : List (Nat × UnackedPacket)) : List Nat :=
  (packets.filter fun entry => entry.2.isMtuProbe).map fun entry => entry.2.payload.len

/-- A packet that leaves takes its entry among the probes with it. -/
def forget (probes : SortedMap Nat Nat) (entry : Nat × UnackedPacket) : SortedMap Nat Nat :=
  if entry.2.isMtuProbe then probes.erase entry.1 else probes

/-- A probe that is lost is counted. -/
def recordLoss (failures : Nat) (entry : Nat × UnackedPacket) : Nat :=
  if entry.2.isMtuProbe && entry.2.payload.isProbe then saturatingAdd failures 1 else failures

/--
What became of the packets that left the window, as far as probes go.

They were reported as received, or taken as received because they are too old, or given up. In the
second case the table of probes is not told.
-/
inductive Fates (licence : Licence) (self : Books) :
    List (Nat × UnackedPacket) → SortedMap Nat Nat → Nat → Prop
  | mk {reported outdated lost : List (Nat × UnackedPacket)}
      (told : ∀ entry ∈ reported, licence.reports entry.1)
      (old : ∀ entry ∈ outdated, licence.outdates entry.1) :
      Fates licence self ((reported ++ outdated) ++ lost)
        ((reported ++ lost).foldl forget self.mtuProbes) (lost.foldl recordLoss self.probeFailures)

end Books

/-- The connection has room for the receive memory an operation on a stream takes. -/
inductive StreamOp.Affords (books : Books) (id : Nat) (stream : StreamState) : StreamOp → Prop
  /-- The first write allocates the buffer. -/
  | receive (offset : Nat) (data : Bytes)
      (budget : stream.receiveBuffer.allocatedSize = 0 →
        saturatingAdd books.allocated stream.windowSize ≤ books.config.maxConnectionBuffer) :
      Affords books id stream (.receive offset data)
  /-- A larger window grows the buffer, after data was moved out of it. -/
  | forward (reading : Reading) (most : reading.maxStreamWindow = books.config.maxStreamWindow)
      (budget : reading.room = true → ∀ newWindow, (stream.considered reading).1 = some newWindow →
        saturatingAdd ({ books with
            streams := books.streams.insert id (stream.considered reading).2 } : Books).allocated
          (newWindow - (stream.considered reading).2.windowSize) ≤ books.config.maxConnectionBuffer) :
      Affords books id stream (.forward reading)
  | finalise (finalSize : Nat) : Affords books id stream (.finalise finalSize)
  | extend (maxData : Nat) : Affords books id stream (.extend maxData)
  | stop (errorCode : Nat) : Affords books id stream (.stop errorCode)
  | send (length : Nat) : Affords books id stream (.send length)
  | recv : Affords books id stream .recv
  | dropReceiver : Affords books id stream .dropReceiver

/-- How the table of streams changes, apart from new streams. -/
inductive TableStep (licence : Licence) (books : Books) : SortedMap Nat StreamState → Prop
  | tended {id : Nat} {stream : StreamState} (op : StreamOp)
      (found : books.streams.find? id = some stream) (affords : op.Affords books id stream)
      (may : op.reads = 0 ∨ licence.reads books id op.reads) :
      TableStep licence books (books.streams.insert id (op.apply stream))
  | dropped (id : Nat) : TableStep licence books (books.streams.erase id)

/-- How the connection's state changes, apart from the end of a client's handshake. -/
inductive PhaseStep (licence : Licence) (books : Books) : ConnectionState → Prop
  | activated (state : books.state = .handshaking) (server : books.isClient = false) :
      PhaseStep licence books .active
  | closing (may : licence.closes books) : PhaseStep licence books .closing
  | closed (may : licence.shuts books) : PhaseStep licence books .closed

/-- An effect that is neither a packet nor a new payload or stream. -/
def Effect.isAside : Effect → Bool
  | sent _ | issued _ | created _ => false
  | _ => true

/--
One deed of a handler, as the books show it.

Every handler of the actor is a sequence of these, whatever the peer sends, so an invariant of them
is one of the actor.
-/
inductive Deed [Hkdf] (licence : Licence) : Books → Books → Prop
  /-- Answers of the socket are used up. -/
  | hear {books : Books} {rest : List SendOutcome} (fewer : rest <:+ books.sends) :
      Deed licence books { books with sends := rest }
  | note {books : Books} {effect : Effect} (aside : effect.isAside = true) :
      Deed licence books { books with log := books.log ++ [effect] }
  | count {books : Books} (bytes : Nat) :
      Deed licence books { books with bytesReceived := books.bytesReceived + bytes }
  /-- A number is taken. -/
  | draw {books : Books} (fits : books.nextPacketNumber + 1 < u64Size) :
      Deed licence books { books with nextPacketNumber := books.nextPacketNumber + 1 }
  /-- One frame goes out in a packet that is not remembered. -/
  | post {books after : Books} {record : SentRecord} {frame : Frame} {number : Nat}
      (loose : frame.isData = false) (drawn : number + 1 = books.nextPacketNumber)
      (seals : books.Seals .data number (Books.frameText frame) record)
      (offers : books.Offers record after) : Deed licence books after
  /-- A packet of the handshake goes out again. -/
  | postLong {books after : Books} {record : SentRecord}
      (long : record.packet.header.isLong = true) (offers : books.Offers record after) :
      Deed licence books after
  /-- A payload is issued, to be sent past the queue. -/
  | issue {books : Books} {payload : UnackedPayload}
      (may : payload.len = 0 ∨ licence.issues books payload)
      (small : payload.len ≤ books.search.mtu - 64) (searches : payload.isProbe = false)
      (unstreamed : payload.isStream = false) :
      Deed licence books { books with
        log := books.log ++ [.issued payload]
        hand := (payload, 0) :: books.hand }
  /-- The first payload in hand goes out. -/
  | dispatch {books offered : Books} {payload : UnackedPayload} {retries : Nat}
      {rest : List (UnackedPayload × Nat)} {record : SentRecord} (now : Instant)
      (held : books.hand = (payload, retries) :: rest) (fits : books.nextPacketNumber + 1 < u64Size)
      (builds : books.Builds payload record) (offers : books.Offers record offered) :
      Deed licence books { offered.launch
        ⟨payload, now, retries, payload.isProbe, record.packet.size⟩ with hand := rest }
  /-- The first payload in hand fails to go out, and goes to the front of the queue. -/
  | requeue {books failed : Books} {payload : UnackedPayload} {retries : Nat}
      {rest : List (UnackedPayload × Nat)} (held : books.hand = (payload, retries) :: rest)
      (fails : books.Fails payload failed) :
      Deed licence books { failed with
        hand := rest
        unpacedQueue := (payload, retries) :: failed.unpacedQueue }
  /-- A first Initial fails to go out, and is given up. -/
  | forsake {books failed : Books} {cookie : Option Bytes} {retries : Nat}
      {rest : List (UnackedPayload × Nat)} (held : books.hand = (.initial cookie, retries) :: rest)
      (fails : books.Fails (.initial cookie) failed) :
      Deed licence books { failed with hand := rest }
  /-- Data is accepted from the application. -/
  | write {books : Books} {id offset : Nat} {streamType : StreamType} {data : Bytes}
      {stream : StreamState} (may : licence.writes books (.stream id streamType offset data))
      (found : books.streams.find? id = some stream) (kind : stream.streamType = streamType)
      (sendable : streamType ≠ .unidirectionalIn) :
      Deed licence books { books with
        log := books.log ++ [.issued (.stream id streamType offset data)]
        unpacedQueue := books.unpacedQueue ++ [(.stream id streamType offset data, 0)]
        queuedBytes := books.queuedBytes + data.length }
  /-- The payload at the front of the queue goes out. -/
  | paced {books offered : Books} {payload : UnackedPayload} {retries : Nat}
      {rest : List (UnackedPayload × Nat)} {record : SentRecord} (now : Instant)
      (front : books.unpacedQueue = (payload, retries) :: rest)
      (fits : books.nextPacketNumber + 1 < u64Size) (builds : books.Builds payload record)
      (offers : books.Offers record offered) :
      Deed licence books { offered.launch
          ⟨payload, now, retries, payload.isProbe, record.packet.size⟩ with
        unpacedQueue := rest
        queuedBytes := offered.queuedBytes - payload.len }
  /-- The payload at the front failed to go out once more. -/
  | retry {books : Books} {payload : UnackedPayload} {retries : Nat}
      {rest : List (UnackedPayload × Nat)} (front : books.unpacedQueue = (payload, retries) :: rest) :
      Deed licence books { books with unpacedQueue := (payload, retries + 1) :: rest }
  /-- A probe goes out, halfway between the sizes known to pass and to fail. -/
  | probe {books offered : Books} {record : SentRecord} {target : Nat} (now : Instant)
      (may : licence.probes books) (open_ : books.search.low + 10 < books.search.high)
      (halfway : target = books.search.low + (books.search.high - books.search.low) / 2)
      (fits : books.nextPacketNumber + 1 < u64Size)
      (seals : books.Seals .mtuProbe books.nextPacketNumber (Books.probeText target) record)
      (small : record.packet.size ≤ maxUdpPayload)
      (offers : books.Offers record offered) :
      Deed licence books { offered.launch ⟨.mtuProbe target, now, 0, true, record.packet.size⟩ with
        log := offered.log ++ [.issued (.mtuProbe target)]
        bytesInFlight := saturatingAdd offered.bytesInFlight record.packet.size
        mtuProbes := offered.mtuProbes.insert offered.nextPacketNumber target }
  /-- The count of packets moves the keys on. -/
  | rotate {books : Books} {crypto : CryptoContext} (keys : books.crypto = some crypto)
      (active : books.state = .active) :
      Deed licence books { books with
        crypto := some crypto.rotateKeys
        currentKeyEpoch := books.currentKeyEpoch + 1
        log := books.log ++ [.rotated books.currentKeyEpoch] }
  /-- A packet of the peer opens under the next keys. -/
  | follow {books : Books} {crypto : CryptoContext} (keys : books.crypto = some crypto)
      (accepts : books.state = .active ∨ books.isClient = false) :
      Deed licence books { books with
        crypto := some crypto.rotateKeys
        currentKeyEpoch := books.currentKeyEpoch + 1 }
  | phase {books : Books} {state : ConnectionState} (step : PhaseStep licence books state) :
      Deed licence books { books with state := state }
  /-- A client completes its handshake. -/
  | complete {books : Books} {secret dcid : Bytes} (master : Bytes) (peerMaxStreams : Nat)
      (state : books.state = .handshaking) (held : books.ephemeralSecret = some secret)
      (may : licence.names dcid) :
      Deed licence books { books with
        state := .active
        dcid := dcid
        crypto := some ((CryptoContext.withSecret master true).applyEpochKeys 0)
        ephemeralSecret := none
        peerMaxStreams := peerMaxStreams
        unackedPackets := .new
        bytesInFlight := 0 }
  /-- The application opens a stream. -/
  | openLocal {books : Books} {streamType : StreamType} (transmitWindow : Nat) (now : Instant)
      (may : licence.opens books) (sendable : streamType ≠ .unidirectionalIn)
      (room : books.openedStreams books.localParity < books.peerMaxStreams)
      (fits : books.nextStreamId + 2 < u32Size) :
      Deed licence books { books with
        streams := books.streams.insert books.nextStreamId
          (.new streamType books.config.initialStreamWindow transmitWindow now)
        nextStreamId := books.nextStreamId + 2
        log := books.log ++ [.created books.nextStreamId] }
  /-- The peer opens a stream. -/
  | openPeer {books : Books} {id : Nat} (streamType : StreamType) (transmitWindow : Nat)
      (now : Instant) (parity : id % 2 = books.peerParity) (absent : books.streams.find? id = none)
      (room : books.openedStreams books.peerParity < books.localMaxStreams) :
      Deed licence books { books with
        streams := books.streams.insert id
          (.new streamType books.config.initialStreamWindow transmitWindow now)
        log := books.log ++ [.created id] }
  /-- The peer admits more streams. -/
  | grant {books : Books} {limit : Nat} (more : books.peerMaxStreams ≤ limit) :
      Deed licence books { books with peerMaxStreams := limit }
  | table {books : Books} {streams : SortedMap Nat StreamState} (step : TableStep licence books streams) :
      Deed licence books { books with streams := streams }
  /-- A datagram is pushed to the application. -/
  | push {books : Books} {data : Bytes} (may : licence.pushes data) :
      Deed licence books { books with datagrams := books.datagrams.send data }
  /-- The application uses its end of the channel of datagrams. -/
  | take {books : Books} {datagrams : Channel Bytes} (same : datagrams.sent = books.datagrams.sent) :
      Deed licence books { books with datagrams := datagrams }
  /-- Packets that expired have their attempts counted. -/
  | rescan {books : Books} {window : UnackedWindow}
      (extent : window.extent = books.unackedPackets.extent)
      (same : window.contents = books.unackedPackets.contents) :
      Deed licence books { books with unackedPackets := window }
  /--
  Packets leave the window: acknowledged, lost or expired.

  Their probes teach the search, and reliable payloads of those lost are taken in hand.
  -/
  | settle {books : Books} {window : UnackedWindow} {gone : List (Nat × UnackedPacket)}
      {outcomes : List ProbeOutcome} {search : MtuSearch} {again : List (UnackedPayload × Nat)}
      {mtuProbes : SortedMap Nat Nat} {probeFailures : Nat}
      (parts : books.unackedPackets.iter.Perm (gone ++ window.iter))
      (extent : window.extent = books.unackedPackets.extent)
      (known : (outcomes.map ProbeOutcome.target).Sublist (Books.probeTargets gone))
      (learned : search = outcomes.foldl MtuSearch.learn books.search ∨
        licence.recovers books ∧ books.baseMtu < books.search.mtu ∧
          search = (outcomes.foldl MtuSearch.learn books.search).recover books.baseMtu)
      (reliable : ∀ entry ∈ again, ∃ packet ∈ gone, packet.2.isMtuProbe = false ∧
        packet.2.payload.isDatagram = false ∧ entry.1 = packet.2.payload)
      (fates : books.Fates licence gone mtuProbes probeFailures) :
      Deed licence books { books with
        unackedPackets := window
        bytesInFlight := books.bytesInFlight - Books.bytesOf gone
        search := search
        mtuProbes := mtuProbes
        probeFailures := probeFailures
        hand := again ++ books.hand }

/-- A deed under one licence is one under any that allows as much. -/
theorem Deed.mono [Hkdf] {licence other : Licence} {before after : Books}
    (deed : Deed licence before after) (within : licence.Within other before) :
    Deed other before after := by
  cases deed with
  | hear fewer => exact .hear fewer
  | note aside => exact .note aside
  | count bytes => exact .count bytes
  | draw fits => exact .draw fits
  | post loose drawn seals offers => exact .post loose drawn seals offers
  | postLong long offers => exact .postLong long offers
  | issue may small searches unstreamed =>
    exact .issue (may.imp_right (within.issues _)) small searches unstreamed
  | dispatch now held fits builds offers => exact .dispatch now held fits builds offers
  | requeue held fails => exact .requeue held fails
  | forsake held fails => exact .forsake held fails
  | write may found kind sendable => exact .write (within.writes _ may) found kind sendable
  | paced now front fits builds offers => exact .paced now front fits builds offers
  | retry front => exact .retry front
  | probe now may open_ halfway fits seals small offers =>
    exact .probe now (within.probes may) open_ halfway fits seals small offers
  | rotate keys active => exact .rotate keys active
  | follow keys accepts => exact .follow keys accepts
  | phase step =>
    cases step with
    | activated state server => exact .phase (.activated state server)
    | closing may => exact .phase (.closing (within.closes may))
    | closed may => exact .phase (.closed (within.shuts may))
  | complete master limit state held may =>
    exact .complete master limit state held (within.names _ may)
  | openLocal transmitWindow now may sendable room fits =>
    exact .openLocal transmitWindow now (within.opens may) sendable room fits
  | openPeer streamType transmitWindow now parity absent room =>
    exact .openPeer streamType transmitWindow now parity absent room
  | grant more => exact .grant more
  | table step =>
    cases step with
    | tended op found affords may =>
      exact .table (.tended op found affords (may.imp_right (within.reads _ _)))
    | dropped id => exact .table (.dropped id)
  | push may => exact .push (within.pushes _ may)
  | take same => exact .take same
  | rescan extent same => exact .rescan extent same
  | settle parts extent known learned reliable fates =>
    refine .settle parts extent known ?_ reliable ?_
    · exact learned.imp_right fun recovered => ⟨within.recovers recovered.1, recovered.2⟩
    · cases fates with
      | mk told old =>
        exact .mk (fun entry member => within.reports _ (told entry member))
          fun entry member => within.outdates _ (old entry member)

/-- Without leave to close the connection, no deed closes it. -/
theorem Deed.stays_open [Hkdf] {licence : Licence} {before after : Books}
    (deed : Deed licence.narrowed before after) (open_ : before.state ≠ .closed) :
    after.state ≠ .closed := by
  cases deed with
  | post _ _ _ offers | postLong _ offers | dispatch _ _ _ _ offers | paced _ _ _ _ offers
  | probe _ _ _ _ _ _ _ offers => cases offers <;> exact open_
  | requeue _ fails | forsake _ fails => cases fails; exact open_
  | phase step =>
    cases step with
    | activated | closing => exact nofun
    | closed may => exact absurd may id
  | complete => exact nofun
  | _ => exact open_

/-- One handler of an actor is a sequence of deeds, whatever else is in hand. -/
def Does [Hkdf] {CC : Type} (licence : Licence) (before after : ZtConnectionActor CC) : Prop :=
  ∀ hand, Relation.ReflTransGen (Deed licence) (before.books hand) (after.books hand)

namespace Does

variable [Hkdf] {CC : Type} {licence : Licence} {before middle after : ZtConnectionActor CC}

/-- Standing still does nothing. -/
theorem refl (self : ZtConnectionActor CC) : Does licence self self := fun _ => .refl

/-- One handler after another. -/
theorem trans (first : Does licence before middle) (second : Does licence middle after) :
    Does licence before after := fun hand => (first hand).trans (second hand)

instance : IsTrans (ZtConnectionActor CC) (Does licence) := ⟨fun _ _ _ => trans⟩

/-- A change the books do not show. -/
theorem of_same (same : ∀ hand, after.books hand = before.books hand) : Does licence before after := by
  intro hand
  rw [same hand]

/-- A single deed. -/
theorem single (deed : ∀ hand, Deed licence (before.books hand) (after.books hand)) :
    Does licence before after := fun hand => .single (deed hand)

/-- A handler that does not close the connection closes it only while it is open. -/
theorem narrow (does : Does licence.narrowed before after) (open_ : before.state ≠ .closed)
    (closes : ∀ books : Books, books.state ≠ .closed → licence.closes books) :
    Does licence before after ∧ after.state ≠ .closed := by
  -- Along the deeds the connection stays open, so each of them may start closing it.
  have walk : ∀ {first last : Books}, Relation.ReflTransGen (Deed licence.narrowed) first last →
      first.state ≠ .closed → Relation.ReflTransGen (Deed licence) first last ∧ last.state ≠ .closed := by
    intro first last deeds open_
    induction deeds with
    | refl => exact ⟨.refl, open_⟩
    | tail _ deed ih =>
      obtain ⟨deeds, still⟩ := ih
      refine ⟨deeds.tail (deed.mono ?_), deed.stays_open still⟩
      exact ⟨id, id, fun _ => id, fun _ => id, fun _ => closes _ still, False.elim, fun _ => id, fun _ => id,
        id, fun _ => id, fun _ => id, fun _ _ => id⟩
  exact ⟨fun hand => (walk (does hand) open_).1, (walk (does []) open_).2⟩

end Does
end Zetta
