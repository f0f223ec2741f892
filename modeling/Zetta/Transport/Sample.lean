import Zetta.Transport.System

/-! A concrete key derivation and a connected pair of endpoints, to evaluate the model on. -/

namespace Zetta
namespace Sample

/-- A key derivation whose keys tell the direction and the epoch by their first byte and length. -/
scoped instance : Hkdf where
  extract _ material := material
  expand _ label length :=
    match label with
    | .clientKey epoch => 1 :: List.replicate epoch 0
    | .serverKey epoch => 2 :: List.replicate epoch 0
    | _ => List.replicate length 0

/-- Handshake functions that accept everything; no packet after the handshake needs them. -/
scoped instance : HandshakeCrypto where
  sha256 text := text
  sign _ _ := []
  isValidKey _ := true
  verify _ _ _ := true
  sharedSecret _ _ := []
  verifyPeerKey _ := true

/-- A host whose socket takes a number of packets. -/
def hostTaking (sends : Nat) : Host := ⟨0, List.replicate sends .sent, [], 0, 0⟩

/-- The default configuration with small limits on streams and their windows. -/
def config (streams window : Nat) : ZtConfig :=
  { ZtConfig.default with maxConcurrentStreams := streams, initialStreamWindow := window }

/-- A side that has just completed the handshake. -/
def endpoint (config : ZtConfig) (isClient : Bool) : ZtConnectionActor RenoController :=
  { ZtConnectionActor.new RenoController.new ⟨config, isClient, 0, [1], [2], [], none, none, []⟩
      (hostTaking 0) with
    state := if isClient then .active else .handshaking
    crypto := some ((CryptoContext.withSecret [] isClient).applyEpochKeys 0) }

/-- Two sides with the same configuration. -/
def system (config : ZtConfig) : System RenoController :=
  ⟨endpoint config true, endpoint config false⟩

/-- A side on which nothing happened yet is fresh. -/
theorem endpoint_fresh {config : ZtConfig} (window : config.initialStreamWindow < u64Size)
    (isClient : Bool) : (endpoint config isClient).Fresh where
  streams := rfl
  log := by simp [endpoint, ZtConnectionActor.new]
  queue := by simp [endpoint, ZtConnectionActor.new]
  unacked := by simp [endpoint, ZtConnectionActor.new, UnackedWindow.new, UnackedWindow.iter,
    UnackedWindow.slots]
  windows := rfl
  highest := by simp [endpoint, ZtConnectionActor.new, PacketWindow.new]
  number := show 0 < u64Size by decide
  window := window
  epoch := rfl

/-- The two sides are connected. -/
theorem system_connected {config : ZtConfig} (valid : config.validate = .ok ())
    (window : config.initialStreamWindow < u64Size) : (system config).Connected [] where
  client := endpoint_fresh window true
  server := endpoint_fresh window false
  clientRole := rfl
  serverRole := rfl
  clientState := rfl
  serverState := rfl
  serverSecret := rfl
  clientIds := rfl
  serverIds := rfl
  clientConfig := valid
  serverConfig := valid
  clientWindow := rfl
  serverWindow := rfl
  clientCredit := rfl
  serverCredit := rfl
  clientKeys := rfl
  serverKeys := rfl

end Sample
end Zetta
