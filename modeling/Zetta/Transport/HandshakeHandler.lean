import Zetta.Transport.PacketSender

/-! The client's side of the handshake: the server's response and Retry packets. -/

namespace Zetta

/-- The fields of a handshake frame. -/
structure HandshakeFields where
  publicKey : Bytes
  edPublicKey : Bytes
  transcriptHash : Bytes
  signature : Bytes
  alpn : Bytes
  deriving DecidableEq, Repr

/-- Pick the handshake frame and the transport parameters out of a response. -/
def scanHandshake : List Frame → Option HandshakeFields × Option TransportParameters →
    Except ZtError (Option HandshakeFields × Option TransportParameters)
  | [], found => .ok found
  | frame :: rest, (handshake, parameters) =>
    match frame with
    -- A later handshake frame replaces an earlier one.
    | .handshake publicKey edPublicKey transcriptHash signature alpn =>
      scanHandshake rest (some ⟨publicKey, edPublicKey, transcriptHash, signature, alpn⟩, parameters)
    | .transportParameters received =>
      if parameters.isSome then .error (.invalidPacket "duplicate transport parameters")
      else
        match received.validate with
        | .error error => .error error
        | .ok valid => scanHandshake rest (handshake, some valid)
    | _ => scanHandshake rest (handshake, parameters)

namespace ZtConnectionActor

variable {CC : Type} [Hkdf] [HandshakeCrypto]

/-- Open a response under the public Initial keys and read its frames. -/
def readHandshakeResponse (header : PacketHeader) (aad : Bytes) (payload : Sealed) :
    Except ZtError (HandshakeFields × TransportParameters) := do
  let crypto := CryptoContext.initial header.dcid true
  let plaintext ← crypto.decryptInPlace header.packetNumber aad payload false
  let (frames, failure) := Frame.decodeFrames plaintext
  let (handshake, parameters) ← scanHandshake frames (none, none)
  match failure, handshake, parameters with
  | some error, _, _ => throw error
  | none, none, _ => throw (.crypto "No handshake")
  | none, some _, none => throw (.invalidPacket "No transport parameters in Handshake")
  | none, some handshake, some parameters => return (handshake, parameters)

/-- Check a response against the transcript, the server's signature and the peer policy. -/
def checkHandshakeResponse (self : ZtConnectionActor CC) (header : PacketHeader)
    (handshake : HandshakeFields) (remoteParameters : TransportParameters) : Except ZtError Unit := do
  let localParameters := TransportParameters.fromConfig self.config
  -- The response continues the client's own transcript.
  let expectedHash := HandshakeCrypto.sha256
    (clientTranscript self.scid self.dcid self.publicKey self.cookie localParameters ++
      header.scid ++ handshake.publicKey ++ remoteParameters.transcriptBytes)
  if handshake.alpn ≠ self.config.alpn then throw (.crypto "ALPN negotiation failed")
  else if expectedHash ≠ handshake.transcriptHash then throw (.crypto "Invalid Transcript Hash")
  else if !HandshakeCrypto.isValidKey handshake.edPublicKey then throw (.crypto "Invalid EdPK")
  else if !HandshakeCrypto.verify handshake.edPublicKey expectedHash handshake.signature then
    throw (.crypto "Invalid Sig")
  else if !HandshakeCrypto.verifyPeerKey handshake.edPublicKey then throw .unauthorized

/-- Install the keys and limits agreed on; the Initial packet needs no acknowledgment any more. -/
def completeHandshake (self : ZtConnectionActor CC) (header : PacketHeader) (addr : Address)
    (secret : Bytes) (handshake : HandshakeFields) (remoteParameters : TransportParameters) :
    ZtConnectionActor CC :=
  let shared := HandshakeCrypto.sharedSecret secret handshake.publicKey
  let self := { self with
    ephemeralSecret := none
    dcid := header.scid
    crypto := some (CryptoContext.fromSharedSecret shared self.scid header.scid self.config.psk true)
    addr := addr
    peerMaxStreams := remoteParameters.maxStreams
    peerInitialStreamWindow := remoteParameters.initialStreamWindow
    remoteWindow := remoteParameters.initialMaxData
    peerMaxDatagramSize := remoteParameters.maxDatagramSize
    idleTimeout := min self.config.idleTimeout (milliseconds remoteParameters.idleTimeoutMs)
    state := .active }
  { self.markProcessed header.packetNumber with
    unackedPackets := self.unackedPackets.clear
    bytesInFlight := 0 }

/-- The server's response to the Initial packet. -/
def handleHandshakeResponse (header : PacketHeader) (body : Body) (aad : Bytes) (addr : Address) :
    Act CC Unit := do
  let self ← get
  if header.version ≠ protocolVersion then throw (.invalidPacket "Unsupported version")
  else
    match body with
    -- Bytes that nobody sealed carry no matching tag.
    | .clear payload =>
      if payload.length < 16 then pure () else throw (.crypto "Decryption failed: aead::Error")
    | .encrypted payload =>
      match readHandshakeResponse header aad payload with
      | .error error => throw error
      | .ok (handshake, remoteParameters) =>
        match self.checkHandshakeResponse header handshake remoteParameters with
        | .error error => throw error
        | .ok () =>
          match self.ephemeralSecret with
          | none => throw (.crypto "Ephemeral secret already consumed")
          | some secret => set (self.completeHandshake header addr secret handshake remoteParameters)

/-- A Retry packet: start again with the cookie it carries. -/
def handleRetryPacket (body : Body) : Act CC Unit := sendInitialPacket (some body.bytes)

end ZtConnectionActor
end Zetta
