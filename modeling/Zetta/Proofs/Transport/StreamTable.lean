import Zetta.Proofs.State.StreamAccount
import Zetta.Proofs.Transport.Holdings
import Zetta.Proofs.Transport.Nonces

/-! The table of streams: which ids are in it, how many of them, and what becomes of their streams. -/

namespace Zetta

/-- The id of a stream that enters the table. -/
def Effect.created? : Effect → Option Nat
  | created id => some id
  | _ => none

/-- The ids under which streams entered the table, in order. -/
def ZtConnectionActor.createdIds {CC : Type} (self : ZtConnectionActor CC) : List Nat :=
  self.log.filterMap Effect.created?

namespace Books

/-- The ids under which streams entered the table, in order. -/
def createdIds (self : Books) : List Nat := self.log.filterMap Effect.created?

/-- Those of them the application opened. -/
def ownIds (self : Books) : List Nat := self.createdIds.filter fun id => id % 2 = self.localParity

/-- What no deed changes that opens no stream. -/
structure Steady (before after : Books) : Prop where
  nextStreamId : after.nextStreamId = before.nextStreamId
  limit : after.localMaxStreams = before.localMaxStreams
  created : after.createdIds = before.createdIds

/-- What a deed does to the streams and to their limits. -/
inductive StreamStep (licence : Licence) (before after : Books) : Prop
  | idle (steady : before.Steady after) (streams : after.streams = before.streams)
      (limit : before.peerMaxStreams ≤ after.peerMaxStreams)
      (entering : after.state = .handshaking → before.state = .handshaking)
  /-- A client learns how many streams it may open. -/
  | completed (steady : before.Steady after) (streams : after.streams = before.streams)
      (entering : before.state = .handshaking) (done : after.state = .active)
      (secret : before.ephemeralSecret.isSome = true)
  | changed (steady : before.Steady after) (table : TableStep licence before after.streams)
      (limit : after.peerMaxStreams = before.peerMaxStreams) (state : after.state = before.state)
  | openedLocal {streamType : StreamType} (transmitWindow : Nat) (now : Instant)
      (may : licence.opens before) (room : before.openedStreams before.localParity < before.peerMaxStreams)
      (fits : before.nextStreamId + 2 < u32Size)
      (same : after = { before with
        streams := before.streams.insert before.nextStreamId
          (.new streamType before.config.initialStreamWindow transmitWindow now)
        nextStreamId := before.nextStreamId + 2
        log := before.log ++ [.created before.nextStreamId] })
  | openedPeer {id : Nat} (streamType : StreamType) (transmitWindow : Nat) (now : Instant)
      (parity : id % 2 = before.peerParity) (absent : before.streams.find? id = none)
      (room : before.openedStreams before.peerParity < before.localMaxStreams)
      (same : after = { before with
        streams := before.streams.insert id
          (.new streamType before.config.initialStreamWindow transmitWindow now)
        log := before.log ++ [.created id] })

/-- An effect that is no new stream leaves the ids as they are. -/
theorem createdIds_append {log : List Effect} {effect : Effect} (other : effect.created? = none) :
    (log ++ [effect]).filterMap Effect.created? = log.filterMap Effect.created? := by
  simp [other]

/-- Handing a packet to the socket creates no stream. -/
theorem Offers.steady {before after : Books} {record : SentRecord} (offers : before.Offers record after) :
    before.Steady after := by
  cases offers with
  | taken => exact ⟨rfl, rfl, createdIds_append rfl⟩
  | held => exact ⟨rfl, rfl, rfl⟩

end Books

/-- Every deed is one of these, as far as streams go. -/
theorem Deed.streamStep [Hkdf] {licence : Licence} {before after : Books}
    (deed : Deed licence before after) : before.StreamStep licence after := by
  cases deed with
  | hear | count | draw | retry | follow | push | take | rescan | settle =>
    exact .idle ⟨rfl, rfl, rfl⟩ rfl le_rfl id
  | @note effect aside =>
    refine .idle ⟨rfl, rfl, Books.createdIds_append ?_⟩ rfl le_rfl id
    cases effect with
    | created => cases aside
    | _ => rfl
  | issue | write | rotate => exact .idle ⟨rfl, rfl, Books.createdIds_append rfl⟩ rfl le_rfl id
  | post _ _ _ offers | postLong _ offers | dispatch _ _ _ _ offers | paced _ _ _ _ offers =>
    have steady := offers.steady
    cases offers <;> exact .idle ⟨rfl, rfl, steady.created⟩ rfl le_rfl id
  | probe _ _ _ _ _ _ _ offers =>
    have steady := offers.steady
    cases offers <;>
      exact .idle ⟨rfl, rfl, (Books.createdIds_append rfl).trans steady.created⟩ rfl le_rfl id
  | requeue _ fails | forsake _ fails => cases fails; exact .idle ⟨rfl, rfl, rfl⟩ rfl le_rfl id
  | phase step => cases step <;> exact .idle ⟨rfl, rfl, rfl⟩ rfl le_rfl nofun
  | complete _ _ state held =>
    exact .completed ⟨rfl, rfl, rfl⟩ rfl state rfl (Option.isSome_iff_exists.mpr ⟨_, held⟩)
  | openLocal transmitWindow now may _ room fits => exact .openedLocal transmitWindow now may room fits rfl
  | openPeer streamType transmitWindow now parity absent room =>
    exact .openedPeer streamType transmitWindow now parity absent room rfl
  | grant more => exact .idle ⟨rfl, rfl, rfl⟩ rfl more id
  | table step => exact .changed ⟨rfl, rfl, rfl⟩ step rfl rfl

/-- A stream in the table after a step was there before it, and at most one thing happened to it. -/
theorem TableStep.origin {licence : Licence} {books : Books} {streams : SortedMap Nat StreamState}
    (step : TableStep licence books streams) {id : Nat} {stream : StreamState}
    (found : streams.find? id = some stream) :
    ∃ first, books.streams.find? id = some first ∧ (stream = first ∨
      ∃ op : StreamOp, stream = op.apply first ∧ (op.reads = 0 ∨ licence.reads books id op.reads)) := by
  cases step with
  | @tended other first op present _ may =>
    rw [SortedMap.find?_insert] at found
    split at found
    · rename_i same
      subst same
      cases found
      exact ⟨first, present, .inr ⟨op, rfl, may⟩⟩
    · exact ⟨stream, found, .inl rfl⟩
  | dropped other =>
    rw [SortedMap.find?_erase] at found
    split at found
    · cases found
    · exact ⟨stream, found, .inl rfl⟩

namespace Books

/-- The two parities differ. -/
theorem parities_differ (books : Books) : books.localParity ≠ books.peerParity := by
  unfold localParity peerParity
  split <;> decide

/-- Every id has one of them. -/
theorem parity_cases (books : Books) (id : Nat) :
    id % 2 = books.localParity ∨ id % 2 = books.peerParity := by
  unfold localParity peerParity
  split <;> omega

/-- Where no stream is opened, the application's ids stay as they are. -/
theorem Steady.ownIds {before after : Books} (steady : before.Steady after)
    (role : after.isClient = before.isClient) : after.ownIds = before.ownIds := by
  unfold Books.ownIds localParity
  rw [role, steady.created]

/-- So they do where the peer opens one. -/
theorem ownIds_openedPeer {books : Books} {id : Nat} (parity : id % 2 = books.peerParity)
    (stream : StreamState) : ownIds { books with
      streams := books.streams.insert id stream
      log := books.log ++ [.created id] } = books.ownIds := by
  have other : ¬ id % 2 = books.localParity := fun own => books.parities_differ (own.symm.trans parity)
  simp only [ownIds, createdIds, List.filterMap_append, List.filter_append]
  refine (congrArg _ (List.filter_cons_of_neg ?_)).trans (List.append_nil _)
  exact fun own => other (of_decide_eq_true own)

/-- The application's ids only grow, and nobody else's have their parity. -/
structure Numbered (books : Books) : Prop where
  parity : books.nextStreamId % 2 = books.localParity
  fits : books.nextStreamId < u32Size
  increasing : books.ownIds.Pairwise (· < ·)
  below : ∀ id ∈ books.ownIds, id < books.nextStreamId
  known : ∀ id stream, books.streams.find? id = some stream → id ∈ books.createdIds
  peers : books.openedStreams books.peerParity ≤ books.localMaxStreams

/-- Where no stream is opened, nothing of this changes. -/
theorem Numbered.steady {before after : Books} (numbered : before.Numbered)
    (role : after.isClient = before.isClient) (steady : before.Steady after)
    (kept : ∀ id stream, after.streams.find? id = some stream →
      ∃ first, before.streams.find? id = some first) : after.Numbered := by
  have own : after.localParity = before.localParity := by unfold localParity; rw [role]
  have peer : after.peerParity = before.peerParity := by unfold peerParity; rw [role]
  have ids := steady.ownIds role
  refine ⟨?_, ?_, ids ▸ numbered.increasing, ?_, fun id stream found => ?_, ?_⟩
  · rw [steady.nextStreamId, own]
    exact numbered.parity
  · rw [steady.nextStreamId]
    exact numbered.fits
  · rw [ids, steady.nextStreamId]
    exact numbered.below
  · obtain ⟨first, present⟩ := kept id stream found
    rw [steady.created]
    exact numbered.known id first present
  · rw [steady.limit, peer]
    refine le_trans (SortedMap.keys_filter_le fun id _ stored => ?_) numbered.peers
    obtain ⟨stream, found⟩ := (SortedMap.mem_keys_iff _ _).mp stored
    exact (SortedMap.mem_keys_iff _ _).mpr (kept id stream found)

/-- A stream of the application's own takes the next id, which is larger than all before. -/
theorem Numbered.openedLocal {books : Books} (numbered : books.Numbered)
    (fits : books.nextStreamId + 2 < u32Size) (stream : StreamState) :
    Numbered { books with
      streams := books.streams.insert books.nextStreamId stream
      nextStreamId := books.nextStreamId + 2
      log := books.log ++ [.created books.nextStreamId] } := by
  have ids : ownIds { books with
      streams := books.streams.insert books.nextStreamId stream
      nextStreamId := books.nextStreamId + 2
      log := books.log ++ [.created books.nextStreamId] } = books.ownIds ++ [books.nextStreamId] := by
    simp only [ownIds, createdIds, List.filterMap_append, List.filter_append]
    exact congrArg _ (List.filter_cons_of_pos (decide_eq_true numbered.parity))
  refine ⟨?_, fits, ids ▸ ?_, ids ▸ fun id member => ?_, fun id other found => ?_, ?_⟩
  · rw [Nat.add_mod_right]
    exact numbered.parity
  · refine List.pairwise_append.mpr ⟨numbered.increasing, List.pairwise_singleton _ _, ?_⟩
    intro id member next last
    rw [List.mem_singleton.mp last]
    exact numbered.below id member
  · show id < books.nextStreamId + 2
    rcases List.mem_append.mp member with old | last
    · have below := numbered.below id old
      omega
    · rw [List.mem_singleton.mp last]
      omega
  · show id ∈ (books.log ++ [Effect.created books.nextStreamId]).filterMap Effect.created?
    rw [List.filterMap_append]
    rw [SortedMap.find?_insert] at found
    split at found
    · rename_i same
      exact List.mem_append_right _ (same ▸ List.mem_cons_self)
    · exact List.mem_append_left _ (numbered.known id other found)
  · -- The new id does not count among those of the peer.
    refine le_trans (SortedMap.keys_filter_le fun id theirs stored => ?_) numbered.peers
    obtain ⟨other, found⟩ := (SortedMap.mem_keys_iff _ _).mp stored
    rw [SortedMap.find?_insert] at found
    split at found
    · rename_i same
      rw [same] at theirs
      exact absurd (numbered.parity.symm.trans (of_decide_eq_true theirs)) books.parities_differ
    · exact (SortedMap.mem_keys_iff _ _).mpr ⟨other, found⟩

/-- A stream of the peer counts against the limit, and leaves the application's ids alone. -/
theorem Numbered.openedPeer {books : Books} (numbered : books.Numbered) {id : Nat}
    (parity : id % 2 = books.peerParity)
    (room : books.openedStreams books.peerParity < books.localMaxStreams) (stream : StreamState) :
    Numbered { books with
      streams := books.streams.insert id stream
      log := books.log ++ [.created id] } := by
  have ids := ownIds_openedPeer parity stream
  refine ⟨numbered.parity, numbered.fits, ids ▸ numbered.increasing, ids ▸ numbered.below,
    fun key other found => ?_, ?_⟩
  · show key ∈ (books.log ++ [Effect.created id]).filterMap Effect.created?
    rw [List.filterMap_append]
    rw [SortedMap.find?_insert] at found
    split at found
    · rename_i same
      exact List.mem_append_right _ (same ▸ List.mem_cons_self)
    · exact List.mem_append_left _ (numbered.known key other found)
  · exact (SortedMap.keys_filter_insert_le _ _ _ _).trans room

/-- No deed breaks it. -/
theorem numbered_keeps [Hkdf] (licence : Licence) : Books.Keeps licence Numbered where
  host _ _ numbered := ⟨numbered.parity, numbered.fits, numbered.increasing, numbered.below,
    numbered.known, numbered.peers⟩
  deed := by
    intro before after deed numbered
    cases deed.streamStep with
    | idle steady streams | completed steady streams =>
      exact numbered.steady deed.fixed.1 steady fun id stream found => ⟨stream, streams ▸ found⟩
    | changed steady table =>
      refine numbered.steady deed.fixed.1 steady fun id stream found => ?_
      obtain ⟨first, present, -⟩ := table.origin found
      exact ⟨first, present⟩
    | openedLocal _ _ _ _ fits same => exact same ▸ numbered.openedLocal fits _
    | openedPeer _ _ _ parity _ room same => exact same ▸ numbered.openedPeer parity room _

/-- Client and server stay what they are. -/
theorem role_keeps [Hkdf] (licence : Licence) (isClient : Bool) :
    Books.Keeps licence fun books => books.isClient = isClient where
  host _ _ same := same
  deed deed same := deed.fixed.1.trans same

/-- The application opens no stream. -/
def closedLicence : Licence := { Licence.free with opens := fun _ => False }

/-- Nobody else adds to its ids. -/
theorem ownIds_keeps [Hkdf] (ids : List Nat) :
    Books.Keeps closedLicence fun books => books.ownIds = ids where
  host _ _ same := same
  deed := by
    intro before after deed same
    cases deed.streamStep with
    | idle steady | completed steady | changed steady =>
      exact (steady.ownIds deed.fixed.1).trans same
    | openedLocal _ _ may => exact may.elim
    | openedPeer _ _ _ parity _ _ opened =>
      rw [opened, ownIds_openedPeer parity]
      exact same

/-- The application opens streams only once a client has heard how many it may open. -/
def informedLicence : Licence :=
  { Licence.free with opens := fun books => books.isClient = true → books.state ≠ .handshaking }

/-- The application's streams are within the limit of the peer. -/
structure Admitted (books : Books) : Prop where
  own : books.openedStreams books.localParity ≤ books.peerMaxStreams
  /-- The limit is only replaced while there are none. -/
  entering : books.isClient = true → books.state = .handshaking →
    books.openedStreams books.localParity = 0
  server : books.isClient = false → books.ephemeralSecret = none

/-- Fewer streams in the table make no more of one parity. -/
theorem openedStreams_le {before after : Books} {parity : Nat}
    (kept : ∀ id stream, id % 2 = parity → after.streams.find? id = some stream →
      ∃ first, before.streams.find? id = some first) :
    after.openedStreams parity ≤ before.openedStreams parity := by
  apply SortedMap.keys_filter_le
  intro id own stored
  obtain ⟨stream, found⟩ := (SortedMap.mem_keys_iff _ _).mp stored
  exact (SortedMap.mem_keys_iff _ _).mpr (kept id stream (of_decide_eq_true own) found)

/-- A server never holds the secret of a client. -/
theorem Admitted.keeps_server [Hkdf] {licence : Licence} {before after : Books}
    (admitted : before.Admitted) (deed : Deed licence before after) :
    after.isClient = false → after.ephemeralSecret = none := by
  rw [deed.fixed.1]
  intro server
  cases deed.keyStep with
  | kept _ _ secret | moved _ _ _ secret => exact secret.trans (admitted.server server)
  | installed _ _ _ _ secret => exact secret

/-- No deed lets the application's streams exceed the limit. -/
theorem admitted_keeps [Hkdf] : Books.Keeps informedLicence Admitted where
  host _ _ admitted := ⟨admitted.own, admitted.entering, admitted.server⟩
  deed := by
    intro before after deed admitted
    have role := deed.fixed.1
    have parity : after.localParity = before.localParity := by unfold localParity; rw [role]
    have server := admitted.keeps_server deed
    -- Where no stream of the application is added, both parts follow from how many there are.
    have fewer : after.openedStreams before.localParity ≤ before.openedStreams before.localParity →
        before.peerMaxStreams ≤ after.peerMaxStreams →
        (after.state = .handshaking → before.state = .handshaking) → after.Admitted := by
      intro less limit entering
      refine ⟨parity ▸ less.trans (admitted.own.trans limit), fun client early => ?_, server⟩
      rw [parity]
      exact Nat.le_zero.mp (less.trans (admitted.entering (role ▸ client) (entering early)).le)
    cases deed.streamStep with
    | idle steady streams limit entering =>
      exact fewer (openedStreams_le fun id stream _ found => ⟨stream, streams ▸ found⟩) limit entering
    | completed steady streams entering done secret =>
      -- Only a client completes a handshake, and it had no streams of its own yet.
      have client : before.isClient = true := by
        by_contra other
        rw [admitted.server (by simpa using other)] at secret
        cases secret
      have none : after.openedStreams before.localParity ≤ 0 :=
        (openedStreams_le fun id stream _ found => ⟨stream, streams ▸ found⟩).trans
          (admitted.entering client entering).le
      refine ⟨parity ▸ none.trans (Nat.zero_le _), fun _ early => ?_, server⟩
      rw [done] at early
      cases early
    | changed steady table limit state =>
      refine fewer (openedStreams_le fun id stream _ found => ?_) limit.ge fun early => state ▸ early
      obtain ⟨first, present, -⟩ := table.origin found
      exact ⟨first, present⟩
    | openedLocal transmitWindow now may room fits same =>
      subst same
      refine ⟨(SortedMap.keys_filter_insert_le _ _ _ _).trans room, fun client early => ?_, server⟩
      exact absurd early (may client)
    | openedPeer streamType transmitWindow now theirs absent room same =>
      subst same
      refine fewer (openedStreams_le fun id stream own found => ?_) le_rfl fun early => early
      dsimp only at found
      rw [SortedMap.find?_insert] at found
      split at found
      · rename_i equal
        rw [equal] at own
        exact absurd (own.symm.trans theirs) before.parities_differ
      · exact ⟨stream, found⟩

/-- Every stream in the table comes from one of an earlier state, or was opened since. -/
def Descends (origin books : Books) : Prop :=
  ∃ more, books.createdIds = origin.createdIds ++ more ∧
    ∀ id stream, books.streams.find? id = some stream → id ∈ more ∨
      ∃ first ops, origin.streams.find? id = some first ∧ stream = StreamOp.run ops first

/-- A stream that is opened is new. -/
theorem Descends.opened {origin books : Books} (descends : origin.Descends books) (id : Nat)
    (opened : StreamState) (nextStreamId : Nat) :
    origin.Descends { books with
      streams := books.streams.insert id opened
      nextStreamId := nextStreamId
      log := books.log ++ [.created id] } := by
  obtain ⟨more, created, each⟩ := descends
  refine ⟨more ++ [id], ?_, fun key stream found => ?_⟩
  · rw [← List.append_assoc, ← created]
    exact List.filterMap_append
  · dsimp only at found
    rw [SortedMap.find?_insert] at found
    split at found
    · rename_i same
      exact .inl (List.mem_append_right _ (same ▸ List.mem_cons_self))
    · exact (each key stream found).imp_left (List.mem_append_left _)

/-- Along deeds a stream that stays in the table goes through operations only. -/
theorem descends_keeps [Hkdf] (licence : Licence) (origin : Books) :
    Books.Keeps licence origin.Descends where
  host _ _ descends := descends
  deed := by
    intro before after deed descends
    cases deed.streamStep with
    | idle steady streams | completed steady streams =>
      unfold Descends
      rw [steady.created, streams]
      exact descends
    | changed steady table =>
      obtain ⟨more, created, each⟩ := descends
      refine ⟨more, steady.created.trans created, fun id stream found => ?_⟩
      obtain ⟨first, present, happened⟩ := table.origin found
      refine (each id first present).imp_right ?_
      rintro ⟨start, ops, there, run⟩
      rcases happened with rfl | ⟨op, rfl, -⟩
      · exact ⟨start, ops, there, run⟩
      · refine ⟨start, ops ++ [op], there, ?_⟩
        rw [run]
        simp only [StreamOp.run, List.foldl_append, List.foldl_cons, List.foldl_nil]
    | openedLocal _ _ _ _ _ same => exact same ▸ descends.opened _ _ _
    | openedPeer _ _ _ _ _ _ same => exact same ▸ descends.opened _ _ before.nextStreamId

/-- What new streams have and no operation breaks, every stream in the table has. -/
theorem each_keeps [Hkdf] {licence : Licence} {property : StreamState → Prop}
    (new : ∀ streamType receiveWindow transmitWindow now,
      property (.new streamType receiveWindow transmitWindow now))
    (apply : ∀ {books : Books} {id : Nat} {stream : StreamState} (op : StreamOp),
      books.streams.find? id = some stream → op.reads = 0 ∨ licence.reads books id op.reads →
      property stream → property (op.apply stream)) :
    Books.Keeps licence fun books =>
      ∀ id stream, books.streams.find? id = some stream → property stream where
  host _ _ each := each
  deed := by
    intro before after deed each id stream found
    have opened : ∀ {key : Nat} {other : StreamState}, property other →
        (before.streams.insert key other).find? id = some stream → property stream := by
      intro key other fresh found
      rw [SortedMap.find?_insert] at found
      split at found
      · cases found
        exact fresh
      · exact each id stream found
    cases deed.streamStep with
    | idle _ streams | completed _ streams => exact each id stream (streams ▸ found)
    | changed _ table =>
      obtain ⟨first, present, happened⟩ := table.origin found
      rcases happened with rfl | ⟨op, rfl, may⟩
      · exact each id _ present
      · exact apply op present may (each id first present)
    | openedLocal transmitWindow now _ _ _ same =>
      subst same
      exact opened (new _ _ transmitWindow now) found
    | openedPeer streamType transmitWindow now _ _ _ same =>
      subst same
      exact opened (new streamType _ transmitWindow now) found

/-- Nothing is held for a stream that is only received. -/
def Outward (books : Books) : Prop :=
  ∀ id streamType offset data, books.Holds (.stream id streamType offset data) →
    streamType ≠ .unidirectionalIn

/-- No deed takes up anything for such a stream. -/
theorem outward_keeps [Hkdf] (licence : Licence) : Books.Keeps licence Outward where
  host _ _ outward := outward
  deed := by
    intro before after deed outward id streamType offset data held
    rcases deed.origin held with old | fresh
    · exact outward id streamType offset data old
    · cases fresh with
      | issued _ _ _ unstreamed => cases unstreamed
      | written _ _ _ sendable => exact sendable

/-- Data is accepted while the streams are those of one state. -/
def writingLicence (streams : SortedMap Nat StreamState) : Licence :=
  { Licence.free with writes := fun books _ => books.streams = streams }

/-- A payload is none of a stream, or it is of one that data can be sent on. -/
def Written (streams : SortedMap Nat StreamState) (effect : Effect) : Prop :=
  ∀ id streamType offset data, effect = .issued (.stream id streamType offset data) →
    ∃ stream, streams.find? id = some stream ∧ stream.streamType = streamType ∧
      streamType ≠ .unidirectionalIn

/-- What is accepted from the application belongs to a stream it can send on. -/
theorem written_keeps [Hkdf] (streams : SortedMap Nat StreamState) (log : List Effect) :
    Books.Keeps (writingLicence streams) (Grown (Written streams) log) := by
  apply grown_keeps
  rintro books effect noted id streamType offset data rfl
  cases noted with
  | aside aside => cases aside
  | issued fresh =>
    cases fresh with
    | issued _ _ _ unstreamed => cases unstreamed
    | @written _ _ _ _ stream may found kind sendable =>
      have same : books.streams = streams := may
      exact ⟨stream, same ▸ found, kind, sendable⟩

end Books

namespace ZtConnectionActor

open Books Program

variable {CC : Type} [Hkdf] [HandshakeCrypto] [CongestionController CC]

omit [HandshakeCrypto] [CongestionController CC] in
/-- A request for a stream takes the next id, or creates none. -/
theorem openStream_created (self : ZtConnectionActor CC) (streamType : StreamType) :
    (exec (openStream streamType) self).2.createdIds = self.createdIds ∨
      (exec (openStream streamType) self).2.createdIds = self.createdIds ++ [self.nextStreamId] := by
  unfold openStream
  rw [exec_bind_get]
  split
  · exact .inl rfl
  split
  · -- The peer hears that the limit is reached, and sending creates no stream.
    left
    rw [exec_bind_logged]
    have blocked : (Frame.streamsBlocked (self.peerMaxStreams % u64Size)).IsControl :=
      Nat.mod_lt _ (by decide)
    have sends := self.sendFrameImmediate_sends blocked self.addr
    obtain ⟨more, grown, each⟩ := (SentOnly.of_run sends.1).log
    have none : more.filterMap Effect.created? = [] := by
      refine List.filterMap_eq_nil_iff.mpr fun effect member => ?_
      cases each effect member <;> rfl
    show List.filterMap Effect.created? _ = _
    refine (congrArg (List.filterMap Effect.created?) grown).trans ?_
    rw [List.filterMap_append, none, List.append_nil]
    rfl
  split
  · exact .inl rfl
  · exact .inr List.filterMap_append

/-- The id of the stream the application opens in one turn, if it opens one. -/
def openedIn (self : ZtConnectionActor CC) (event : Event) (host : Host) : List Nat :=
  match event with
  | .openStream _ => (self.step event host).createdIds.drop self.createdIds.length
  | _ => []

/-- The ids of the streams the application opens in the course of some turns. -/
def openedIds : ZtConnectionActor CC → List (Event × Host) → List Nat
  | _, [] => []
  | self, turn :: rest => self.openedIn turn.1 turn.2 ++ (self.step turn.1 turn.2).openedIds rest

/-- A turn that opens a stream adds its id to the application's. -/
theorem ownIds_open {self : ZtConnectionActor CC} (parity : self.nextStreamId % 2 = self.localParity)
    (streamType : StreamType) (host : Host) :
    ((self.step (.openStream streamType) host).books []).ownIds = (self.books []).ownIds ++
      (self.step (.openStream streamType) host).createdIds.drop self.createdIds.length := by
  have role : ((self.step (.openStream streamType) host).books []).isClient = self.isClient :=
    have keeps := role_keeps Licence.free self.isClient
    keeps.step (Licence.free_covers _ _) rfl
  have created : (self.step (.openStream streamType) host).createdIds = self.createdIds ∨
      (self.step (.openStream streamType) host).createdIds = self.createdIds ++ [self.nextStreamId] := by
    unfold step
    split
    · exact .inl rfl
    split
    · exact .inl rfl
    · exact openStream_created { self with host := host } streamType
  show ((self.step (.openStream streamType) host).createdIds).filter _ = _
  unfold localParity
  rw [role]
  rcases created with same | more
  · rw [same, List.drop_length, List.append_nil]
    rfl
  · rw [more, List.drop_left, List.filter_append]
    exact congrArg _ (List.filter_cons_of_pos (decide_eq_true parity))

/-- No other turn does. -/
theorem ownIds_other {self : ZtConnectionActor CC} {event : Event} {host : Host}
    (other : ∀ streamType, event ≠ .openStream streamType) :
    ((self.step event host).books []).ownIds = (self.books []).ownIds := by
  have covers : closedLicence.Covers event { self with host := host } :=
    { Licence.free_covers event { self with host := host } with
      receives := fun packet _ _ => Licence.receives_any (fun _ => trivial) (fun _ => trivial)
        (fun _ => trivial) (fun _ => trivial) (fun _ => trivial) packet
      opens := fun streamType opens => absurd opens (other streamType) }
  exact (ownIds_keeps _).step covers rfl

/-- Either way the application's ids grow by what it opens. -/
theorem ownIds_step {self : ZtConnectionActor CC} (parity : self.nextStreamId % 2 = self.localParity)
    (event : Event) (host : Host) : ((self.step event host).books []).ownIds =
      (self.books []).ownIds ++ self.openedIn event host := by
  by_cases opens : ∃ streamType, event = .openStream streamType
  · obtain ⟨streamType, rfl⟩ := opens
    exact ownIds_open parity streamType host
  · have other : ∀ streamType, event ≠ .openStream streamType :=
      fun streamType same => opens ⟨streamType, same⟩
    have none : self.openedIn event host = [] := by
      unfold openedIn
      split
      · exact absurd rfl (other _)
      · rfl
    rw [none, List.append_nil]
    exact ownIds_other other

/-- So the ids the application opens are all there are of its parity. -/
theorem ownIds_turns {self : ZtConnectionActor CC} (numbered : (self.books []).Numbered)
    (events : List (Event × Host)) :
    ((self.turns events).books []).ownIds = (self.books []).ownIds ++ self.openedIds events := by
  -- The induction is on the turns, each of which leaves the next id with the right parity.
  induction events generalizing self with
  | nil => exact (List.append_nil _).symm
  | cons turn rest ih =>
    have next : ((self.step turn.1 turn.2).books []).Numbered :=
      (numbered_keeps Licence.free).step (Licence.free_covers _ _) numbered
    have later := ih next
    rw [ownIds_step numbered.parity, List.append_assoc] at later
    exact later

/-- The application of a client opens streams only after the handshake. -/
def Informed (self : ZtConnectionActor CC) (event : Event) (_ : Host) : Prop :=
  ∀ streamType, event = .openStream streamType → self.isClient = true → self.state ≠ .handshaking

omit [Hkdf] [HandshakeCrypto] [CongestionController CC] in
/-- Such a turn keeps to the limit of the peer. -/
theorem Informed.covers {self : ZtConnectionActor CC} {event : Event} {host : Host}
    (informed : self.Informed event host) : informedLicence.Covers event { self with host := host } :=
  { Licence.free_covers event { self with host := host } with
    receives := fun packet _ _ => Licence.receives_any (fun _ => trivial) (fun _ => trivial)
      (fun _ => trivial) (fun _ => trivial) (fun _ => trivial) packet
    opens := fun streamType opens _ => informed streamType opens }

/-- What holds of the table of streams after some turns. -/
structure TableKept (start : ZtConnectionActor CC) (events : List (Event × Host)) : Prop where
  /-- Ids are never used twice, since each is larger than those before. -/
  increasing : (start.openedIds events).Pairwise (· < ·)
  own : ∀ id ∈ start.openedIds events, id % 2 = start.localParity ∧ id < u32Size
  /-- The last ids are followed by an error. -/
  exhausted : u32Size ≤ (start.turns events).nextStreamId + 2 → ∀ streamType host,
    ∃ error, (exec (openStream streamType) { start.turns events with host := host }).1 = .error error
  others : ∀ id ∈ (start.turns events).streams.keys,
    id ∈ start.openedIds events ∨ id % 2 = start.peerParity
  peerLimit : (start.turns events).openedStreams start.peerParity ≤ (start.turns events).localMaxStreams
  ownLimit : Throughout Informed start events →
    (start.turns events).openedStreams start.localParity ≤ (start.turns events).peerMaxStreams
  /-- Later turns leave the type alone, unless the id was given up and used again. -/
  types : ∀ more id first last, (start.turns events).streams.find? id = some first →
    ((start.turns events).turns more).streams.find? id = some last →
    id ∉ ((start.turns events).turns more).createdIds.drop (start.turns events).createdIds.length →
    last.streamType = first.streamType
  queued : ∀ entry ∈ (start.turns events).unpacedQueue, ∀ id streamType offset data,
    entry.1 = .stream id streamType offset data → streamType ≠ .unidirectionalIn
  /-- What the next turn queues belongs to a stream the table has, of the type it has. -/
  accepted : ∀ event host id streamType offset data,
    .issued (.stream id streamType offset data) ∈
      ((start.turns events).step event host).log.drop (start.turns events).log.length →
    ∃ stream, (start.turns events).streams.find? id = some stream ∧
      stream.streamType = streamType ∧ streamType ≠ .unidirectionalIn

omit [CongestionController CC] in
/-- An actor starts without streams, and with the first id of its parity. -/
theorem Created.numbered [EndpointCrypto]
    {actor : ZtConnectionActor CC} (created : Created actor) : (actor.books []).Numbered := by
  cases created with
  | client controller seed role host =>
    refine ⟨?_, ?_, .nil, nofun, nofun, Nat.zero_le _⟩
    · show (if seed.isClient then 2 else 1) % 2 = if seed.isClient then 0 else 1
      rw [role]
      rfl
    · show (if seed.isClient then 2 else 1) < u32Size
      rw [role]
      decide
  | server identity accepted =>
    exact ⟨rfl, show 1 < u32Size by decide, .nil, nofun, nofun, Nat.zero_le _⟩

omit [CongestionController CC] in
/-- A server starts without the secret of a client. -/
theorem Created.admitted [EndpointCrypto]
    {actor : ZtConnectionActor CC} (created : Created actor) : (actor.books []).Admitted := by
  cases created with
  | client controller seed role host =>
    refine ⟨Nat.zero_le _, fun _ _ => rfl, fun server => ?_⟩
    exact absurd (role.symm.trans server) nofun
  | server identity accepted => exact ⟨Nat.zero_le _, nofun, fun _ => rfl⟩

omit [Hkdf] [HandshakeCrypto] [CongestionController CC] in
/-- An exhausted space of ids is an error. -/
theorem openStream_exhausted {self : ZtConnectionActor CC} (full : u32Size ≤ self.nextStreamId + 2)
    (streamType : StreamType) : ∃ error, (exec (openStream streamType) self).1 = .error error := by
  unfold openStream
  rw [exec_bind_get]
  split
  · exact ⟨_, rfl⟩
  split
  · rw [exec_bind_logged]
    exact ⟨_, rfl⟩
  · exact ⟨_, rfl⟩

/-- A stream that stays in the table goes through operations only. -/
theorem turns_descends {self : ZtConnectionActor CC} {more : List (Event × Host)} {id : Nat}
    {first last : StreamState} (found : self.streams.find? id = some first)
    (after : (self.turns more).streams.find? id = some last)
    (kept : id ∉ (self.turns more).createdIds.drop self.createdIds.length) :
    ∃ ops, last = StreamOp.run ops first := by
  have same : (self.books []).Descends (self.books []) :=
    ⟨[], (List.append_nil _).symm, fun _ stream there => .inr ⟨stream, [], there, rfl⟩⟩
  obtain ⟨rest, created, each⟩ := (descends_keeps Licence.free (self.books [])).turns more same
  have grown : (self.turns more).createdIds = self.createdIds ++ rest := created
  rw [grown, List.drop_left] at kept
  rcases each id last after with opened | ⟨start, ops, there, run⟩
  · exact absurd opened kept
  · have equal : start = first := Option.some.inj (there.symm.trans found)
    exact ⟨ops, equal ▸ run⟩

omit [CongestionController CC] in
/-- An actor starts with nothing to send for a stream. -/
theorem Created.outward [EndpointCrypto]
    {actor : ZtConnectionActor CC} (created : Created actor) : (actor.books []).Outward := by
  intro id streamType offset data held
  cases created <;> rcases held with ⟨_, member, _⟩ | ⟨_, member, _⟩ | ⟨_, member, _⟩ <;> cases member

/-- What a turn accepts from the application belongs to a stream it can send on. -/
theorem step_written (self : ZtConnectionActor CC) (event : Event) (host : Host) :
    Grown (Written self.streams) self.log ((self.step event host).books []) := by
  have covers : (writingLicence self.streams).Covers event { self with host := host } :=
    { Licence.free_covers event { self with host := host } with
      writes := fun _ _ _ _ _ _ => rfl
      receives := fun packet _ _ => Licence.receives_any (fun _ => trivial) (fun _ => trivial)
        (fun _ => trivial) (fun _ => trivial) (fun _ => trivial) packet }
  exact (written_keeps self.streams self.log).step covers (.refl rfl)

/--
In every run of an actor, in either role and whatever the peer sends, the ids the application opens
increase and have its parity, all other ids in the table have that of the peer, both sides' streams
keep to the limits, a live stream keeps its type, and nothing is queued for a stream that is only
received.
-/
theorem streamTable_kept [EndpointCrypto] {actor : ZtConnectionActor CC} (created : Created actor)
    (host : Host) (events : List (Event × Host)) : TableKept (actor.start host) events := by
  have numbers := numbered_keeps Licence.free
  have first : ((actor.start host).books []).Numbered := numbers.start created.numbered
  have numbered : (((actor.start host).turns events).books []).Numbered := numbers.turns events first
  have fresh : ((actor.start host).books []).ownIds = [] := by
    have keeps := ownIds_keeps (actor.books []).ownIds
    rw [keeps.start rfl]
    cases created <;> rfl
  have ids := ownIds_turns first events
  rw [fresh, List.nil_append] at ids
  have role : (((actor.start host).turns events).books []).isClient = (actor.start host).isClient :=
    (role_keeps Licence.free _).turns events rfl
  have own : (((actor.start host).turns events).books []).localParity =
      (actor.start host).localParity := by
    unfold localParity Session.localParity
    rw [role]
  have peer : (((actor.start host).turns events).books []).peerParity =
      (actor.start host).peerParity := by
    unfold peerParity Session.peerParity
    rw [role]
  exact {
    increasing := ids ▸ numbered.increasing
    own := fun id opened => by
      rw [← ids] at opened
      have parity := of_decide_eq_true (List.mem_filter.mp opened).2
      exact ⟨parity.trans own, (numbered.below id opened).trans numbered.fits⟩
    exhausted := fun full streamType turn =>
      have here : u32Size ≤ ({ (actor.start host).turns events with host := turn } :
        ZtConnectionActor CC).nextStreamId + 2 := full
      openStream_exhausted here streamType
    others := fun id stored => by
      obtain ⟨stream, found⟩ := (SortedMap.mem_keys_iff _ _).mp stored
      have known := numbered.known id stream found
      rw [← ids, ← peer]
      rcases parity_cases (((actor.start host).turns events).books []) id with parity | parity
      · exact .inl (List.mem_filter.mpr ⟨known, decide_eq_true parity⟩)
      · exact .inr parity
    peerLimit := peer ▸ numbered.peers
    ownLimit := fun informed => by
      have step : ∀ (self : ZtConnectionActor CC) event turn, self.Informed event turn →
          (self.books []).Admitted → ((self.step event turn).books []).Admitted :=
        fun self event turn informed admitted => admitted_keeps.step informed.covers admitted
      have admitted := turns_invariant step informed (admitted_keeps.start created.admitted)
      rw [← own]
      exact admitted.own
    types := fun more id earlier last found after kept => by
      obtain ⟨ops, run⟩ := turns_descends found after kept
      rw [run]
      exact (StreamOp.run_fixed ops earlier).1
    queued := fun entry member id streamType offset data same => by
      have outward := outward_keeps Licence.free
      have held : (((actor.start host).turns events).books []).Outward :=
        outward.turns events (outward.start created.outward)
      exact held id streamType offset data (.inl ⟨entry, member, same⟩)
    accepted := fun event turn id streamType offset data member => by
      obtain ⟨more, grown, each⟩ := step_written ((actor.start host).turns events) event turn
      have same : (((actor.start host).turns events).step event turn).log =
        ((actor.start host).turns events).log ++ more := grown
      rw [same, List.drop_left] at member
      exact each _ member id streamType offset data rfl }

end ZtConnectionActor

open Meeting in
/-- A server that opens two streams gives them its first two ids, and has no more than it may. -/
theorem opened_streams_kept :
    (server.start (hostTaking 0)).openedIds [(.openStream .bidirectional, hostTaking 2),
        (.openStream .unidirectionalOut, hostTaking 2)] = [1, 3] ∧
      ((server.start (hostTaking 0)).openedIds [(.openStream .bidirectional, hostTaking 2),
        (.openStream .unidirectionalOut, hostTaking 2)]).Pairwise (· < ·) ∧
      ((server.start (hostTaking 0)).turns [(.openStream .bidirectional, hostTaking 2),
        (.openStream .unidirectionalOut, hostTaking 2)]).openedStreams
          (server.start (hostTaking 0)).localParity ≤
        ((server.start (hostTaking 0)).turns [(.openStream .bidirectional, hostTaking 2),
          (.openStream .unidirectionalOut, hostTaking 2)]).peerMaxStreams := by
  have created : ZtConnectionActor.Created server := .server identity acceptance
  have kept := ZtConnectionActor.streamTable_kept created (hostTaking 0)
    [(.openStream .bidirectional, hostTaking 2), (.openStream .unidirectionalOut, hostTaking 2)]
  refine ⟨by decide +kernel, kept.increasing, kept.ownLimit ⟨?_, ?_, trivial⟩⟩
  -- A server is no client, whatever state it is in.
  · exact fun _ _ client => absurd client (by decide +kernel)
  · exact fun _ _ client => absurd client (by decide +kernel)

end Zetta
