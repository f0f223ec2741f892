import Zetta.Transport.Endpoint

/-! The server's side of the handshake: Retry packets, the replay filter and new connections. -/

namespace Zetta

open Program

/-- What an Initial packet's frames said so far. -/
structure InitialFrames where
  handshake : Option HandshakeFields
  cookie : Option Bytes
  parameters : Option TransportParameters

/-- Pick out of an Initial packet's frames what the handshake needs. -/
def scanInitial : List Frame → InitialFrames → Except ZtError InitialFrames
  | [], found => .ok found
  | frame :: rest, found =>
    match frame with
    -- A later handshake or cookie frame replaces an earlier one.
    | .handshake publicKey edPublicKey transcriptHash signature alpn =>
      scanInitial rest
        { found with handshake := some ⟨publicKey, edPublicKey, transcriptHash, signature, alpn⟩ }
    | .cookie token => scanInitial rest { found with cookie := some token }
    | .transportParameters received =>
      match received.validate with
      | .error error => .error error
      | .ok valid =>
        if found.parameters.isSome then .error (.invalidPacket "duplicate transport parameters")
        else scanInitial rest { found with parameters := some valid }
    | _ => scanInitial rest found

/-- What chance and the host contribute to one execution of the handshake. -/
structure HandshakeDraw where
  /-- The clock of the process, in milliseconds. -/
  now : Nat
  /-- Whether this execution sweeps the replay filter; one in 128 does. -/
  sweep : Bool
  ephemeralSecret : Bytes
  /-- The connection ids drawn, as long as the ones before were taken. -/
  scids : Fin 10 → ConnectionId
  /-- Whether the socket takes the packet sent in answer. -/
  sends : Bool
  /-- What the new actor's host answers before its first turn. -/
  host : Host

variable [Hkdf]

/-- Open an Initial packet and read its frames; an unreadable one is dropped without an error. -/
def readInitial (packet : Packet) (addr : Address) : Except ZtError (Option ClientHello) :=
  if packet.size < 1200 then .ok none
  else if !packet.header.isLong ∨ packet.header.pType ≠ .initial then .ok none
  else if packet.header.version ≠ protocolVersion then .ok none
  else
    match packet.body with
    -- Bytes that nobody sealed are too short for a tag or carry none that matches.
    | .clear _ => .ok none
    | .encrypted payload =>
      -- The number is used as it came, without recovering its high bytes.
      match (CryptoContext.initial packet.header.dcid false).decryptInPlace
          packet.header.packetNumber packet.header.encode payload false with
      | .error _ => .ok none
      | .ok plaintext =>
        -- Whatever follows a frame that does not decode is left unread.
        match scanInitial (Frame.decodeFrames plaintext).1 ⟨none, none, none⟩ with
        | .error error => .error error
        | .ok found =>
          match found.handshake, found.parameters with
          | none, _ => .error (.invalidPacket "No handshake frame in Initial")
          | some _, none => .error (.invalidPacket "No transport parameters in Initial")
          | some handshake, some parameters =>
            .ok (some ⟨packet.header, addr, packet.size, handshake, parameters, found.cookie⟩)

namespace ZtEndpoint

variable {CC : Type} [HandshakeCrypto] [EndpointCrypto]

/-- A program of the endpoint. -/
abbrev Serve (CC α : Type) := Prog (ZtEndpoint CC) ZtError α

omit [Hkdf] [HandshakeCrypto] [EndpointCrypto] in
/-- Hand a packet to the socket; a failure is only logged. -/
def trySend (draw : HandshakeDraw) (packet : Packet) (addr : Address) (self : ZtEndpoint CC) :
    ZtEndpoint CC :=
  if draw.sends then { self with sent := self.sent ++ [⟨packet, 0, addr⟩] } else self

omit [Hkdf] [HandshakeCrypto] in
/-- The packet that asks a client to come back with a cookie. -/
def retryPacket (self : ZtEndpoint CC) (hello : ClientHello) (now : Nat) : Packet :=
  ⟨⟨.retry, true, protocolVersion, hello.header.scid, [], hello.header.packetNumber, false, 1⟩,
    .clear (makeRetryCookie self.cookieKey hello.addr hello.header.scid now)⟩

omit [Hkdf] [HandshakeCrypto] in
/-- The cookie an Initial carries, if it is in force for that client. -/
def validCookie? (self : ZtEndpoint CC) (hello : ClientHello) (now : Nat) : Option Bytes :=
  hello.cookie.filter fun cookie =>
    verifyRetryCookie self.cookieKey hello.addr hello.header.scid cookie now
      self.config.cookieMaxAgeMs

omit [Hkdf] [HandshakeCrypto] [EndpointCrypto] in
/-- Forget the cookies that were consumed too long ago. -/
def sweepFilter (now : Nat) (self : ZtEndpoint CC) : ZtEndpoint CC :=
  { self with
    handshakeReplayFilter :=
      Expiry.sweep self.handshakeReplayFilter self.config.cookieMaxAgeMs now }

omit [Hkdf] [HandshakeCrypto] [EndpointCrypto] in
/-- Whether a cookie was consumed, as far as the replay filter remembers. -/
def isConsumed (self : ZtEndpoint CC) (cookie : Bytes) : Bool :=
  (cookieMac? cookie).any fun mac => Expiry.holds self.handshakeReplayFilter mac

omit [Hkdf] [EndpointCrypto] in
/-- Check the client's transcript and signature, and the application's policy on its key. -/
def checkInitial (self : ZtEndpoint CC) (hello : ClientHello) : Except ZtError Unit :=
  let expectedHash := HandshakeCrypto.sha256 hello.transcript
  if !HandshakeCrypto.isValidKey hello.handshake.edPublicKey then
    .error (.crypto "Invalid Ed25519 Public Key")
  else if expectedHash ≠ hello.handshake.transcriptHash then .error (.crypto "Invalid Transcript Hash")
  else if !HandshakeCrypto.verify hello.handshake.edPublicKey expectedHash
      hello.handshake.signature then
    .error (.crypto "Invalid Handshake Signature")
  else if !self.verifyPeerKey hello.handshake.edPublicKey then .error .unauthorized
  else .ok ()

omit [Hkdf] [HandshakeCrypto] [EndpointCrypto] in
/-- Remember a cookie as consumed. -/
def consume (cookie : Bytes) (now : Nat) (self : ZtEndpoint CC) : ZtEndpoint CC :=
  { self with
    handshakeReplayFilter := self.handshakeReplayFilter ++ (cookieMac? cookie).toList.map (·, now) }

omit [Hkdf] [HandshakeCrypto] [EndpointCrypto] in
/-- The first of the drawn connection ids that is not in use. -/
def drawScid (draw : HandshakeDraw) (self : ZtEndpoint CC) : Option ConnectionId :=
  (List.ofFn draw.scids).find? fun id => !self.isRouted id.val

/-- Route a new connection, queue its handle and spawn its actor. -/
def install (accepted : Acceptance) (self : ZtEndpoint CC) : ZtEndpoint CC :=
  { self with
    routingTable := (accepted.scid.val, self.tasks.length) :: self.routingTable
    incoming := self.incoming.send accepted.scid.val
    tasks := self.tasks ++ [accepted.actor self.toEndpointIdentity]
    acceptances := self.acceptances ++ [accepted] }

/-- Make a connection and put its handle on the accept queue, or drop it when that is full. -/
def createConnection (draw : HandshakeDraw) (hello : ClientHello) : Serve CC Unit := do
  let self ← get
  match self.drawScid draw with
  | none => throw .connectionIdExhausted
  | some scid =>
    if !self.incoming.tryReserve acceptQueueCapacity then
      -- The entry in the routing table is taken back at once.
      pure ()
    else
      let accepted : Acceptance := ⟨hello, scid, draw.ephemeralSecret, draw.host⟩
      set (self.install accepted)
      modify (trySend draw (accepted.response self.toEndpointIdentity).1 hello.addr)

/--
Let a client in that came back with a cookie.

The source looks the cookie up once more before it inserts it, which in one uninterrupted
execution finds what the first look found.
-/
def acceptInitial (draw : HandshakeDraw) (hello : ClientHello) (cookie : Bytes) : Serve CC Unit := do
  if draw.sweep then modify (sweepFilter draw.now) else pure ()
  let self ← get
  if self.isConsumed cookie then pure ()
  else
    match self.checkInitial hello with
    | .error error => throw error
    | .ok () => do
      modify (consume cookie draw.now)
      createConnection draw hello

/-- Process an Initial packet that belongs to no connection. -/
def handleHandshake (draw : HandshakeDraw) (packet : Packet) (addr : Address) : Serve CC Unit := do
  match readInitial packet addr with
  | .error error => throw error
  | .ok none => pure ()
  | .ok (some hello) => do
    let self ← get
    match self.validCookie? hello draw.now with
    | none => modify (trySend draw (self.retryPacket hello draw.now) addr)
    | some cookie =>
      if hello.handshake.alpn ≠ self.config.alpn then
        throw (.invalidPacket "ALPN negotiation failed")
      else acceptInitial draw hello cookie

end ZtEndpoint
end Zetta
