import Zetta.Machine.Keys
import Zetta.Proofs.Transport.Holdings
import Zetta.Proofs.Transport.Nonces

/-! The epoch of a connection is that of its keys, and every packet shows the parity of its own. -/

namespace Zetta

namespace Books

variable [Hkdf]

/-- The keys in use are those of the connection's epoch, and so were those of every packet sent. -/
structure Keyed (books : Books) (crypto : CryptoContext) (master : Bytes) : Prop where
  keys : crypto.Keyed master books.isClient
  epoch : crypto.epoch = books.currentKeyEpoch
  sent : ∀ record, .sent record ∈ books.log → record.packet.header.isLong = false →
    record.Stamped master books.isClient

/-- Epochs agree once there are keys; before that only the handshake was sent. -/
structure Coherent (books : Books) : Prop where
  /-- A client has no keys while its handshake is under way. -/
  secret : books.ephemeralSecret.isSome = true → books.isClient = true ∧ books.crypto = none
  before : books.crypto = none → books.currentKeyEpoch = 0 ∧
    ∀ record, .sent record ∈ books.log → record.packet.header.isLong = true
  after : ∀ crypto, books.crypto = some crypto → ∃ master, books.Keyed crypto master

/-- A packet sealed with the keys in use is stamped with their epoch. -/
theorem Seals.stamped {books : Books} {crypto : CryptoContext} {master : Bytes} {pType : PacketType}
    {number : Nat} {text : PacketHeader → Bytes} {record : SentRecord}
    (seals : books.Seals pType number text record) (held : books.crypto = some crypto)
    (keyed : books.Keyed crypto master) : record.Stamped master books.isClient := by
  obtain ⟨used, pnLen, current, -, -, epoch, packet⟩ := seals
  -- The keys it was sealed under are those in use.
  rw [held] at current
  cases current
  have same : record.epoch = books.currentKeyEpoch := epoch.trans keyed.epoch
  constructor
  · rw [packet, same]
    rfl
  · rw [packet, epoch, ← keyed.keys.txKey, ← keyed.keys.txIv]
    exact ⟨_, rfl⟩

/-- So is every packet with a short header that goes out. -/
theorem Sends.stamped {books : Books} {crypto : CryptoContext} {master : Bytes} {record : SentRecord}
    (sends : books.Sends record) (short : record.packet.header.isLong = false)
    (held : books.crypto = some crypto) (keyed : books.Keyed crypto master) :
    record.Stamped master books.isClient := by
  have mixed : record.packet.header.isLong ≠ true := by
    rw [short]
    decide
  cases sends with
  | long long => exact absurd long mixed
  | loose _ seals => exact seals.stamped held keyed
  | carries _ builds =>
    cases builds with
    | initial _ long => exact absurd long mixed
    | data _ seals => exact seals.stamped held keyed
  | probes seals => exact seals.stamped held keyed

omit [Hkdf] in
/-- Without keys only packets of the handshake go out. -/
theorem Sends.long_of_bare {books : Books} {record : SentRecord} (sends : books.Sends record)
    (bare : books.crypto = none) : record.packet.header.isLong = true := by
  have unsealed : ∀ {pType : PacketType} {number : Nat} {text : PacketHeader → Bytes},
      ¬ books.Seals pType number text record := by
    rintro pType number text ⟨crypto, pnLen, held, -⟩
    rw [bare] at held
    cases held
  cases sends with
  | long long => exact long
  | loose _ seals => exact absurd seals unsealed
  | carries _ builds =>
    cases builds with
    | initial _ long => exact long
    | data _ seals => exact absurd seals unsealed
  | probes seals => exact absurd seals unsealed

/-- Whatever a deed does to the keys, epochs still agree. -/
theorem Coherent.moves {before after : Books} (coherent : before.Coherent) (keys : before.KeyStep after)
    (role : after.isClient = before.isClient)
    (sent : ∀ record, .sent record ∈ after.log → .sent record ∈ before.log ∨ before.Sends record) :
    after.Coherent := by
  -- Packets sent so far are stamped as long as the master secret is the same.
  have stamped : ∀ crypto master, before.crypto = some crypto → before.Keyed crypto master →
      ∀ record, .sent record ∈ after.log → record.packet.header.isLong = false →
      record.Stamped master after.isClient := by
    intro crypto master held keyed record member short
    rw [role]
    rcases sent record member with old | new
    · exact keyed.sent record old short
    · exact new.stamped short held keyed
  have long : before.crypto = none → ∀ record, .sent record ∈ after.log →
      record.packet.header.isLong = true := by
    intro bare record member
    rcases sent record member with old | new
    · exact (coherent.before bare).2 record old
    · exact new.long_of_bare bare
  cases keys with
  | kept crypto epoch secret =>
    constructor
    · rw [secret, role, crypto]
      exact coherent.secret
    · rw [crypto, epoch]
      exact fun bare => ⟨(coherent.before bare).1, long bare⟩
    · rw [crypto]
      intro held keys
      obtain ⟨master, keyed⟩ := coherent.after held keys
      exact ⟨master, role ▸ keyed.keys, epoch ▸ keyed.epoch, stamped held master keys keyed⟩
  | @moved crypto held rotated epoch secret =>
    obtain ⟨master, keyed⟩ := coherent.after crypto held
    constructor
    · intro left
      rw [secret] at left
      rw [(coherent.secret left).2] at held
      cases held
    · rw [rotated]
      exact nofun
    · rw [rotated]
      rintro _ ⟨⟩
      refine ⟨master, role ▸ keyed.keys.rotate, ?_, stamped crypto master held keyed⟩
      rw [epoch, ← keyed.epoch]
      rfl
  | installed master left fresh epoch secret =>
    obtain ⟨client, bare⟩ := coherent.secret left
    constructor
    · rw [secret]
      exact nofun
    · rw [fresh]
      exact nofun
    · rw [fresh]
      rintro _ ⟨⟩
      refine ⟨master, ?_, ?_, fun record member short => ?_⟩
      · rw [role, client]
        exact CryptoContext.keyed_start master true
      · rw [epoch, (coherent.before bare).1]
        rfl
      · -- Nothing with a short header was sent before there were keys.
        rw [long bare record member] at short
        cases short

/-- Every deed keeps the epochs in step. -/
theorem coherent_keeps (licence : Licence) : Books.Keeps licence Coherent where
  host _ _ coherent := ⟨coherent.secret, coherent.before, fun crypto held => by
    obtain ⟨master, keyed⟩ := coherent.after crypto held
    exact ⟨master, keyed.keys, keyed.epoch, keyed.sent⟩⟩
  deed deed coherent := coherent.moves deed.keyStep deed.fixed.1 fun _ member => deed.sent member

end Books

namespace ZtConnectionActor

open Books

variable {CC : Type} [Hkdf] [HandshakeCrypto]

/-- A client starts without keys, and a server with those of the first epoch. -/
theorem Created.coherent [EndpointCrypto] {actor : ZtConnectionActor CC} (created : Created actor) :
    (actor.books []).Coherent := by
  cases created with
  | client controller seed role host => exact ⟨fun _ => ⟨role, rfl⟩, fun _ => ⟨rfl, nofun⟩, nofun⟩
  | server identity accepted =>
    refine ⟨nofun, nofun, ?_⟩
    rintro _ ⟨⟩
    exact ⟨_, CryptoContext.keyed_start _ false, rfl, nofun⟩

/--
In every state of a run, and after any of the deeds of a turn, once there are keys their epoch is
the connection's, and every packet with a short header that was sent shows the parity of the epoch
whose sending key sealed it.
-/
theorem epochs_coherent [EndpointCrypto] [CongestionController CC] {actor : ZtConnectionActor CC}
    (created : Created actor) (host : Host) (events : List (Event × Host)) (turn : Host)
    {self : ZtConnectionActor CC}
    (reached : Does Licence.free { (actor.start host).turns events with host := turn } self)
    {crypto : CryptoContext} (keys : self.crypto = some crypto) :
    self.currentKeyEpoch = crypto.epoch ∧ ∃ master, crypto.Keyed master self.isClient ∧
      ∀ record, .sent record ∈ self.log → record.packet.header.isLong = false →
        record.packet.header.keyPhase = decide (record.epoch % 2 ≠ 0) ∧
        ∃ plaintext, record.packet.body = .encrypted
          ⟨(epochKeys master self.isClient record.epoch).txKey,
            makeNonceFromIv (epochKeys master self.isClient record.epoch).txIv
              record.packet.header.packetNumber, record.packet.header.encode, plaintext⟩ := by
  have started : ((actor.start host).books []).Coherent :=
    (coherent_keeps Licence.free).start created.coherent
  have run : (((actor.start host).turns events).books []).Coherent :=
    (coherent_keeps Licence.free).turns events started
  have coherent : (self.books []).Coherent := (coherent_keeps Licence.free).does reached run
  obtain ⟨master, keyed⟩ := coherent.after crypto keys
  refine ⟨keyed.epoch.symm, master, keyed.keys, fun record member short => ?_⟩
  have stamped := keyed.sent record member short
  exact ⟨stamped.phase, stamped.body⟩

end ZtConnectionActor

open Meeting in
/-- A server that has sent one datagram is in the epoch of its keys, and the packet shows it. -/
theorem sent_datagram_phased :
    ∃ self : ZtConnectionActor RenoController,
      self = (server.start (hostTaking 0)).turns [(.sendDatagram [1, 2, 3], hostTaking 2)] ∧
      self.crypto.map (·.epoch) = some self.currentKeyEpoch ∧
      ∃ record, .sent record ∈ self.log ∧ record.packet.header.isLong = false ∧
        record.packet.header.keyPhase = decide (record.epoch % 2 ≠ 0) := by
  have created : ZtConnectionActor.Created server := .server identity acceptance
  -- The state reached is kept abstract, so that it is not evaluated here.
  have whole : ∀ self : ZtConnectionActor RenoController,
      self = (server.start (hostTaking 0)).turns [(.sendDatagram [1, 2, 3], hostTaking 2)] →
      ∀ crypto record, self.crypto = some crypto → .sent record ∈ self.log →
      record.packet.header.isLong = false → self.currentKeyEpoch = crypto.epoch ∧
        record.packet.header.keyPhase = decide (record.epoch % 2 ≠ 0) := by
    intro self same crypto record keys member short
    have reached : Does Licence.free { (server.start (hostTaking 0)).turns
        [(.sendDatagram [1, 2, 3], hostTaking 2)] with host := self.host } self := by
      rw [← same]
      exact Does.refl self
    obtain ⟨epoch, master, -, sent⟩ := ZtConnectionActor.epochs_coherent created (hostTaking 0)
      [(.sendDatagram [1, 2, 3], hostTaking 2)] self.host reached keys
    exact ⟨epoch, (sent record member short).1⟩
  have sends : ∃ record, .sent record ∈ ((server.start (hostTaking 0)).turns
      [(.sendDatagram [1, 2, 3], hostTaking 2)]).log ∧ record.packet.header.isLong = false := by
    have found : (((server.start (hostTaking 0)).turns
        [(.sendDatagram [1, 2, 3], hostTaking 2)]).log.any fun effect =>
          effect.sent?.any (!·.packet.header.isLong)) = true := by decide +kernel
    obtain ⟨effect, member, short⟩ := List.any_eq_true.mp found
    cases effect with
    | sent record => exact ⟨record, member, by simpa [Effect.sent?] using short⟩
    | _ => cases short
  have keys : ((server.start (hostTaking 0)).turns
      [(.sendDatagram [1, 2, 3], hostTaking 2)]).crypto.isSome = true := by decide +kernel
  obtain ⟨record, member, short⟩ := sends
  obtain ⟨crypto, held⟩ := Option.isSome_iff_exists.mp keys
  obtain ⟨epoch, phase⟩ := whole _ rfl crypto record held member short
  refine ⟨_, rfl, ?_, record, member, short, phase⟩
  rw [held, epoch]
  rfl

end Zetta
