import Zetta.Transport.Network

/-! A concrete key exchange, a client and a server, to evaluate the handshake on. -/

namespace Zetta
namespace Meeting

/-- A key derivation that keeps the secret: keys of one direction and epoch differ with it. -/
scoped instance : Hkdf where
  extract _ material := material
  expand secret label length :=
    match label with
    | .clientKey epoch => 1 :: UInt8.ofNat epoch :: secret
    | .serverKey epoch => 2 :: UInt8.ofNat epoch :: secret
    | .masterSecret | .initialSecret => secret
    | _ => List.replicate length 0

/-- The first thirty-two bytes of a text that is long enough. -/
def digest (text : Bytes) : { bytes : Bytes // bytes.length = 32 } :=
  ⟨(text ++ List.replicate 32 0).take 32, by simp⟩

/-- A hash that is the text itself, signatures of the right size, and an exclusive-or exchange. -/
scoped instance : HandshakeCrypto where
  sha256 text := text
  sign _ _ := List.replicate 64 0
  isValidKey _ := true
  verify _ _ _ := true
  sharedSecret secret publicKey := List.zipWith (· ^^^ ·) (digest secret).val publicKey
  verifyPeerKey _ := true

/-- Codes that show the end of the text first, where the time is. -/
scoped instance : EndpointCrypto where
  hmac _ text := digest text.reverse
  addressBytes addr := [UInt8.ofNat addr]
  publicKey secret := digest secret

/-- Both sides of the exchange compute the same secret. -/
theorem sharedSecret_comm (left right : Bytes) :
    HandshakeCrypto.sharedSecret left (EndpointCrypto.publicKey right).val =
      HandshakeCrypto.sharedSecret right (EndpointCrypto.publicKey left).val := by
  show List.zipWith _ (digest left).val (digest right).val =
    List.zipWith _ (digest right).val (digest left).val
  rw [List.zipWith_comm]
  congr 1
  funext first second
  exact UInt8.xor_comm second first

/-- A host whose socket takes a number of packets. -/
def hostTaking (sends : Nat) : Host := ⟨0, List.replicate sends .sent, [], 0, 0⟩

/-- An attempt to connect, with a pre-shared key or without. -/
def attempt (psk : Option Bytes) : Attempt RenoController where
  address := 5
  server := 1
  config := { ZtConfig.default with psk := psk }
  valid := ZtConfig.default_valid
  scid := ⟨List.replicate 8 1, List.length_replicate⟩
  dcid := ⟨List.replicate 8 2, List.length_replicate⟩
  ephemeralSecret := [3]
  edSigningKey := [4]
  edPublicKey := digest [5]
  controller := RenoController.new

/-- A client about to connect. -/
def client (psk : Option Bytes) : ZtConnectionActor RenoController := (attempt psk).actor (hostTaking 0)

/-- What the server is bound with. -/
def identity : EndpointIdentity RenoController :=
  ⟨ZtConfig.default, ZtConfig.default_valid, [6], digest [7], [8], fun _ => true, RenoController.new⟩

/-- The draw of one execution: no sweep, and connection ids that start from a byte. -/
def draw (now : Nat) (first : UInt8) : HandshakeDraw :=
  ⟨now, false, [9], fun index => ⟨List.replicate 8 (first + UInt8.ofNat index), by simp⟩, true,
    hostTaking 0⟩

/-- The draw of one datagram: every mailbox has room, and a handshake may start. -/
def routed (first : UInt8) : RouterDraw := ⟨draw 0 first, 0, true, true, true⟩

/-- An Initial of the client, as it arrives. -/
def initial (cookie : Option Bytes) (number : Nat) : Packet :=
  let header := (⟨.initial, true, protocolVersion, (client none).dcid, (client none).scid, number,
    false, 1⟩ : PacketHeader)
  let payload := (client none).initialPayload [4] cookie header.encode.length
  ⟨header.onWire, .encrypted
    ((CryptoContext.initial (client none).dcid true).encryptInPlace number header.encode payload)⟩

/-- What the server reads from it. -/
def hello (cookie : Option Bytes) (number : Nat) : ClientHello where
  header := (initial cookie number).header
  addr := 5
  size := 1200
  handshake := ⟨(client none).publicKey, (client none).edPublicKey,
    clientTranscript (client none).scid (client none).dcid (client none).publicKey cookie
      (.fromConfig ZtConfig.default), List.replicate 64 0, ZtConfig.default.alpn⟩
  parameters := .fromConfig ZtConfig.default
  cookie := cookie

/-- The cookie the server makes for the client at a time. -/
def cookie (now : Nat) : Bytes := makeRetryCookie identity.cookieKey 5 (client none).scid now

/-- The second Initial of the client is accepted. -/
def acceptance : Acceptance :=
  ⟨hello (some (cookie 1000)) 1, ⟨List.replicate 8 9, rfl⟩, [9], hostTaking 0⟩

/-- The server's actor for that client. -/
def server : ZtConnectionActor RenoController := acceptance.actor identity

/-- The actor of a server that grants little credit. -/
def narrowServer : ZtConnectionActor RenoController :=
  acceptance.actor { identity with
    config := { ZtConfig.default with initialStreamWindow := 8, maxStreamWindow := 16 }
    valid := by decide }

/-- The keys of that client once it has heard the response. -/
def clientKeys : CryptoContext :=
  .fromSharedSecret (HandshakeCrypto.sharedSecret [3] acceptance.publicKey) (client none).scid
    acceptance.scid.val none true

/-- A packet of that client with some frames, as it arrives. -/
def message (number : Nat) (frames : List Frame) : Packet :=
  let header := (⟨.data, false, 0, acceptance.scid.val, [], number, false, 1⟩ : PacketHeader)
  ⟨header.onWire, .encrypted
    (clientKeys.encryptInPlace number header.encode (frames.flatMap Frame.encode))⟩

/-- A host whose socket would block. -/
def hostBlocked : Host := ⟨0, [.wouldBlock], [], 0, 0⟩

end Meeting
end Zetta
