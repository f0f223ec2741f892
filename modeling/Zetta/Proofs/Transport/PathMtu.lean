import Zetta.Proofs.Transport.Holdings
import Zetta.Proofs.Transport.Nonces

/-! The search for the path MTU keeps its bounds in order as long as no probe outlives them. -/

namespace Zetta

namespace MtuSearch

/-- The size in use is the one known to pass, between the base and the sizes known to fail. -/
structure WellFormed (search : MtuSearch) (base most : Nat) : Prop where
  base : base ≤ search.mtu
  same : search.mtu = search.low
  ordered : search.low ≤ search.high
  most : search.high ≤ most

variable {search : MtuSearch} {base most : Nat}

/-- What becomes of a probe between the bounds leaves them in order. -/
theorem WellFormed.learn (well : search.WellFormed base most) {outcome : ProbeOutcome}
    (above : search.low < outcome.target) (below : outcome.target < search.high) :
    (search.learn outcome).WellFormed base most := by
  obtain ⟨least, same, ordered, greatest⟩ := well
  cases outcome with
  | passed target =>
    change search.low < target at above
    change target < search.high at below
    show (if search.mtu < target then _ else search : MtuSearch).WellFormed base most
    rw [if_pos (by omega)]
    refine ⟨?_, ?_, ?_, greatest⟩ <;> dsimp only <;> omega
  | failed target =>
    change search.low < target at above
    refine ⟨least, same, ?_, ?_⟩ <;> dsimp only [MtuSearch.learn] <;> omega

/-- So does starting again from the base. -/
theorem WellFormed.recover (well : search.WellFormed base most) :
    (search.recover base).WellFormed base most := by
  obtain ⟨least, same, ordered, greatest⟩ := well
  unfold MtuSearch.recover
  refine ⟨Nat.le_refl _, rfl, ?_, ?_⟩ <;> dsimp only <;> omega

/-- Halfway between bounds that are far enough apart is strictly between them. -/
theorem halfway_between (wide : search.low + 10 < search.high) :
    search.low < search.low + (search.high - search.low) / 2 ∧
      search.low + (search.high - search.low) / 2 < search.high := by
  omega

end MtuSearch

namespace Books

/-- What the probes of a window tried depends on its contents only. -/
theorem probeTargets_contents (window : UnackedWindow) :
    probeTargets window.iter =
      (window.contents.filter fun entry => entry.2.2.1).map fun entry => entry.2.1.len := by
  unfold probeTargets UnackedWindow.contents
  rw [List.filter_map, List.map_map]
  rfl

/-- A packet more that is no probe. -/
theorem probeTargets_launched {window : UnackedWindow} {number : Nat} {packet : UnackedPacket}
    (past : window.extent ≤ number) :
    probeTargets (window.insert number packet).iter =
      probeTargets window.iter ++ if packet.isMtuProbe then [packet.payload.len] else [] := by
  rw [UnackedWindow.iter_insert_end packet past, probeTargets_append]
  cases flag : packet.isMtuProbe <;> simp [probeTargets, flag]

/-- The probes of a window are those that leave it and those that stay. -/
theorem probeTargets_parts {window rest : UnackedWindow} {gone : List (Nat × UnackedPacket)}
    (parts : window.iter.Perm (gone ++ rest.iter)) :
    (probeTargets window.iter).Perm (probeTargets gone ++ probeTargets rest.iter) := by
  rw [← probeTargets_append]
  exact (parts.filter _).map _

/-- The search is in order, and there is at most one probe in flight, strictly between its bounds. -/
structure Searching (books : Books) : Prop where
  search : books.search.WellFormed books.baseMtu books.config.mtuMax
  extent : books.unackedPackets.extent ≤ books.nextPacketNumber
  single : (probeTargets books.unackedPackets.iter).length ≤ 1
  between : ∀ target ∈ probeTargets books.unackedPackets.iter,
    books.search.low < target ∧ target < books.search.high

end Books

/-- A probe is sent, and the MTU falls back, only when no other probe is in flight. -/
def Licence.lone : Licence :=
  { Licence.free with
    probes := fun books => Books.probeTargets books.unackedPackets.iter = []
    recovers := fun books => books.baseMtu < books.search.mtu →
      Books.probeTargets books.unackedPackets.iter = [] }

namespace Books

/-- Packets that leave the window teach the search what keeps it in order. -/
theorem Searching.settled {books : Books} (searching : books.Searching) {window : UnackedWindow}
    {gone : List (Nat × UnackedPacket)} {outcomes : List ProbeOutcome}
    (parts : books.unackedPackets.iter.Perm (gone ++ window.iter))
    (known : (outcomes.map ProbeOutcome.target).Sublist (probeTargets gone)) :
    (outcomes.foldl MtuSearch.learn books.search).WellFormed books.baseMtu books.config.mtuMax ∧
      (probeTargets window.iter).length ≤ 1 ∧ ∀ target ∈ probeTargets window.iter,
        (outcomes.foldl MtuSearch.learn books.search).low < target ∧
          target < (outcomes.foldl MtuSearch.learn books.search).high := by
  have split := probeTargets_parts parts
  have total := split.length_eq.symm.trans_le searching.single
  rw [List.length_append] at total
  cases outcomes with
  | nil =>
    -- Nothing was learned, and what is left was there before.
    refine ⟨searching.search, by omega, fun target left => ?_⟩
    exact searching.between target (split.mem_iff.mpr (List.mem_append_right _ left))
  | cons outcome more =>
    -- The only probe left the window.
    have long := known.length_le
    simp only [List.map_cons, List.length_cons, List.length_map] at long
    have last : more = [] := List.length_eq_zero_iff.mp (by omega)
    subst last
    have none : probeTargets window.iter = [] := List.length_eq_zero_iff.mp (by omega)
    have member : outcome.target ∈ probeTargets gone :=
      known.subset (List.mem_singleton_self outcome.target)
    obtain ⟨above, below⟩ := searching.between _ (split.mem_iff.mpr (List.mem_append_left _ member))
    rw [none]
    exact ⟨searching.search.learn above below, Nat.zero_le _, nofun⟩

/-- What keeps the search in order is said of the packets in flight. -/
theorem Searching.of_flight {before after : Books} {flight : Flight} (same : after.flight = flight)
    (base : after.baseMtu = before.baseMtu) (config : after.config = before.config)
    (search : flight.search.WellFormed before.baseMtu before.config.mtuMax)
    (extent : flight.window.extent ≤ flight.number)
    (single : (probeTargets flight.window.iter).length ≤ 1)
    (between : ∀ target ∈ probeTargets flight.window.iter,
      flight.search.low < target ∧ target < flight.search.high) : after.Searching := by
  subst same
  refine ⟨?_, extent, single, between⟩
  rw [base, config]
  exact search

/-- Every deed keeps the search in order, if probes are sent one at a time. -/
theorem searching_keeps [Hkdf] :
    Books.Keeps Licence.lone fun books => books.Marked ∧ books.Searching where
  host _ _ holds := ⟨⟨holds.1.queue, holds.1.hand, holds.1.window⟩,
    ⟨holds.2.search, holds.2.extent, holds.2.single, holds.2.between⟩⟩
  deed := by
    intro before after deed holds
    refine ⟨(marked_keeps _).deed deed holds.1, ?_⟩
    obtain ⟨marked, kept⟩ := holds
    obtain ⟨search, extent, single, between⟩ := kept
    obtain ⟨-, config, base⟩ := deed.fixed
    cases deed.flightStep with
    | kept later same => exact .of_flight same base config search (extent.trans later) single between
    | @launched packet held mark same =>
      have plain : packet.isMtuProbe = false := mark.trans (marked.plain held)
      have targets := @probeTargets_launched _ _ packet extent
      rw [plain, if_neg (by decide), List.append_nil] at targets
      exact .of_flight same base config search (UnackedWindow.extent_insert_end packet extent).le
        (targets ▸ single) (targets ▸ between)
    | @probed now target size may wide halfway _ _ same =>
      -- It is the only one, halfway between the bounds.
      have targets := @probeTargets_launched _ _ ⟨.mtuProbe target, now, 0, true, size⟩ extent
      have alone : probeTargets before.unackedPackets.iter = [] := may
      rw [alone, if_pos rfl, List.nil_append] at targets
      have inside := MtuSearch.halfway_between wide
      rw [← halfway] at inside
      refine .of_flight same base config search
        (UnackedWindow.extent_insert_end ⟨.mtuProbe target, now, 0, true, size⟩ extent).le
        (congrArg List.length targets).le fun found member => ?_
      have last : found ∈ [target] := targets ▸ member
      rw [List.mem_singleton.mp last]
      exact inside
    | completed _ same => exact .of_flight same base config search (Nat.zero_le _) (Nat.zero_le _) nofun
    | @rescanned window rest contents same =>
      have targets : probeTargets window.iter = probeTargets before.unackedPackets.iter := by
        rw [probeTargets_contents, contents, probeTargets_contents]
      exact .of_flight same base config search (rest.trans_le extent) (targets ▸ single)
        (targets ▸ between)
    | settled parts rest known learned _ same =>
      have searching : before.Searching := ⟨search, extent, single, between⟩
      obtain ⟨ordered, fewer, inside⟩ := searching.settled parts known
      rcases learned with rfl | ⟨may, above, rfl⟩
      · exact .of_flight same base config ordered (rest.trans_le extent) fewer inside
      · -- The MTU falls back, and no probe is left.
        have alone : probeTargets before.unackedPackets.iter = [] := may above
        refine .of_flight same base config ordered.recover (rest.trans_le extent) fewer fun target member => ?_
        have held := (probeTargets_parts parts).mem_iff.mpr (List.mem_append_right _ member)
        rw [alone] at held
        cases held

end Books

/-- Probes are sent while the search stands where it stood. -/
def Licence.probing (search : MtuSearch) : Licence :=
  { Licence.free with probes := fun books => books.search = search }

namespace Books

/-- A history has grown by probes between the bounds of a search only, apart from other effects. -/
def Probed (search : MtuSearch) (log : List Effect) (books : Books) : Prop :=
  ∃ more, books.log = log ++ more ∧
    ∀ target, .issued (.mtuProbe target) ∈ more → search.low < target ∧ target < search.high

/-- No deed sends a probe that is not between those bounds. -/
theorem probed_keeps [Hkdf] (search : MtuSearch) (log : List Effect) :
    Books.Keeps (Licence.probing search) (Probed search log) := by
  have allowed : ∀ (books : Books) (effect : Effect), books.Notes (Licence.probing search) effect →
      ∀ target, effect = .issued (.mtuProbe target) → search.low < target ∧ target < search.high := by
    rintro books effect noted target rfl
    cases noted with
    | aside aside => cases aside
    | issued fresh =>
      cases fresh with
      | issued _ _ searches => cases searches
      | probed may wide halfway =>
        -- The bounds halved are the ones the turn found, since a turn probes before it learns.
        have same : books.search = search := may
        rw [halfway, ← same]
        exact MtuSearch.halfway_between wide
  have keeps := Books.grown_keeps log allowed
  refine ⟨fun {before after} deed probed => ?_, fun _ _ probed => probed⟩
  obtain ⟨more, same, inside⟩ := probed
  obtain ⟨rest, grown, each⟩ := keeps.deed deed
    ⟨more, same, fun effect member target issued => inside target (issued ▸ member)⟩
  exact ⟨rest, grown, fun target member => each _ member target rfl⟩

end Books

namespace ZtConnectionActor

open Books

variable {CC : Type}

/-- No probe is in flight. -/
def ProbeFree (self : ZtConnectionActor CC) : Prop :=
  ∀ entry ∈ self.unackedPackets.iter, entry.2.isMtuProbe = false

/-- Then no size is being tried. -/
theorem ProbeFree.targets {self : ZtConnectionActor CC} (free : self.ProbeFree) :
    probeTargets self.unackedPackets.iter = [] := by
  unfold probeTargets
  rw [List.filter_eq_nil_iff.mpr fun entry member => by rw [free entry member]; exact nofun]
  rfl

/-- No probe is in flight when the next one is due, or when the MTU may fall back to the base. -/
structure Unambiguous (actor : ZtConnectionActor CC) (event : Event) (_ : Host) : Prop where
  probing : event = .mtuProbeTimer → actor.ProbeFree
  recovering : event = .rtoTimer → actor.baseMtu < actor.mtu →
    (∃ entry ∈ actor.unackedPackets.iter, entry.2.isReliable = true ∧ 3 ≤ entry.2.retries) →
    actor.ProbeFree

/-- Nothing else is asked of a turn. -/
theorem Unambiguous.covers {actor : ZtConnectionActor CC} {event : Event} {host : Host}
    (clear : actor.Unambiguous event host) : Licence.lone.Covers event { actor with host := host } where
  probes due _ := (clear.probing due).targets
  recovers due often _ window contents larger := by
    -- The window was only looked through by then.
    show probeTargets window.iter = []
    rw [probeTargets_contents, contents, ← probeTargets_contents]
    exact (clear.recovering due larger often).targets
  issues _ _ _ _ := trivial
  writes _ _ _ _ _ _ := trivial
  closes _ _ := trivial
  receives packet _ _ := Licence.receives_any (fun _ => trivial) (fun _ => trivial) (fun _ => trivial)
    (fun _ => trivial) (fun _ => trivial) packet
  shuts _ := trivial
  opens _ _ _ := trivial
  reads _ _ _ _ := trivial

variable [Hkdf] [HandshakeCrypto] [CongestionController CC]

/-- A turn sends a probe only between the bounds it found. -/
theorem step_probed (self : ZtConnectionActor CC) (event : Event) (host : Host) :
    Probed self.search self.log ((self.step event host).books []) := by
  have covers : (Licence.probing self.search).Covers event { self with host := host } := {
    probes := fun _ _ => rfl
    recovers := fun _ _ _ _ _ => trivial
    issues := fun _ _ _ _ => trivial
    writes := fun _ _ _ _ _ _ => trivial
    closes := fun _ _ => trivial
    receives := fun packet _ _ => Licence.receives_any (fun _ => trivial) (fun _ => trivial)
      (fun _ => trivial) (fun _ => trivial) (fun _ => trivial) packet
    shuts := fun _ => trivial
    opens := fun _ _ _ => trivial
    reads := fun _ _ _ _ => trivial }
  exact (probed_keeps self.search self.log).step covers ⟨[], (List.append_nil _).symm, nofun⟩

/--
In every run in which no probe is in flight when the next one is due or when the MTU may fall back,
the bounds of the search are in order in every state and after any of the deeds of a turn. A probe is
sent strictly between the bounds found, whatever is in flight.
-/
theorem search_in_order [EndpointCrypto] {actor : ZtConnectionActor CC} (created : Created actor)
    (valid : actor.config.validate = .ok ()) (host : Host) {events : List (Event × Host)}
    (clear : (actor.start host).Throughout Unambiguous events) :
    (∀ turn (self : ZtConnectionActor CC),
      Does Licence.lone { (actor.start host).turns events with host := turn } self →
      self.baseMtu ≤ self.mtu ∧ self.mtu = self.mtuMin ∧ self.mtuMin ≤ self.mtuMax ∧
        self.mtuMax ≤ self.config.mtuMax) ∧
      ∀ event turn, ∃ more,
        (((actor.start host).turns events).step event turn).log =
          ((actor.start host).turns events).log ++ more ∧
        ∀ target, .issued (.mtuProbe target) ∈ more →
          ((actor.start host).turns events).mtuMin < target ∧
            target < ((actor.start host).turns events).mtuMax := by
  refine ⟨fun turn self reached => ?_, fun event turn => step_probed _ event turn⟩
  -- A new connection has sent nothing, and its bounds are those of its configuration.
  have new : (actor.books []).Marked ∧ (actor.books []).Searching := by
    have least := (ZtConfig.mtu_bounds valid).2
    cases created <;>
    · exact ⟨⟨nofun, nofun, nofun⟩,
        ⟨⟨Nat.le_refl _, rfl, least, Nat.le_refl _⟩, Nat.zero_le _, Nat.zero_le _, nofun⟩⟩
  have keeps (self : ZtConnectionActor CC) (event : Event) (host : Host)
      (lone : self.Unambiguous event host)
      (holds : (self.books []).Marked ∧ (self.books []).Searching) :
      ((self.step event host).books []).Marked ∧ ((self.step event host).books []).Searching :=
    searching_keeps.step lone.covers holds
  -- Turns keep the search in order, and so do the deeds of the turn under way.
  have run := turns_invariant keeps clear (searching_keeps.start new)
  obtain ⟨-, searching⟩ := searching_keeps.does reached run
  exact ⟨searching.search.base, searching.search.same, searching.search.ordered, searching.search.most⟩

end ZtConnectionActor

namespace Meeting

/-- The client is heard, and a probe is sent. -/
def probing : List (Event × Host) :=
  [(.incomingPacket (message 2 [.ping]) 5, hostTaking 1), (.mtuProbeTimer, hostTaking 1)]

/-- The probe arrives at the client. -/
def probeHeard : Event × Host := (.incomingPacket (message 3 [.ack 1 100000 0 [(1, 1)]]) 5, hostTaking 1)

/-- A second probe is sent before the first is answered, and only the first is. -/
def overlapping : List (Event × Host) :=
  probing ++ [(.mtuProbeTimer, hostTaking 1), probeHeard,
    (.rtoTimer, { hostTaking 1 with now := 100000000000 })]

end Meeting

open Meeting in
/--
Two probes of one size are in flight. The first is acknowledged and the second is lost: the size in
use is then above every size that may still be tried.
-/
theorem overlapping_probes_cross :
    server.config.validate = .ok () ∧
      ((server.start (hostTaking 0)).turns overlapping).mtuMin = 5100 ∧
      ((server.start (hostTaking 0)).turns overlapping).mtuMax = 5099 ∧
      ¬ ((server.start (hostTaking 0)).turns overlapping).mtuMin ≤
        ((server.start (hostTaking 0)).turns overlapping).mtuMax := by
  refine ⟨ZtConfig.default_valid, ?_, ?_, ?_⟩ <;> decide +kernel

open Meeting in
/-- A single probe that is acknowledged raises the MTU and leaves the bounds in order. -/
theorem single_probe_in_order :
    ((server.start (hostTaking 0)).turns (probing ++ [probeHeard])).mtu = 5100 ∧
      ((server.start (hostTaking 0)).turns (probing ++ [probeHeard])).mtuMin ≤
        ((server.start (hostTaking 0)).turns (probing ++ [probeHeard])).mtuMax := by
  have created : ZtConnectionActor.Created server := .server _ _
  have idle : ((server.start (hostTaking 0)).turns [(.incomingPacket (message 2 [.ping]) 5,
      hostTaking 1)]).ProbeFree := by
    unfold ZtConnectionActor.ProbeFree
    decide +kernel
  have clear : (server.start (hostTaking 0)).Throughout ZtConnectionActor.Unambiguous
      (probing ++ [probeHeard]) :=
    ⟨⟨nofun, nofun⟩, ⟨fun _ => idle, nofun⟩, ⟨nofun, nofun⟩, trivial⟩
  -- The state reached is kept abstract, so that it is not evaluated here.
  have whole : ∀ run, run = (server.start (hostTaking 0)).turns (probing ++ [probeHeard]) →
      run.mtuMin ≤ run.mtuMax := by
    intro run same
    have reached : Does Licence.lone { (server.start (hostTaking 0)).turns (probing ++ [probeHeard])
        with host := run.host } run := by
      rw [← same]
      exact Does.refl run
    exact ((ZtConnectionActor.search_in_order created ZtConfig.default_valid (hostTaking 0) clear).1
      run.host run reached).2.2.1
  exact ⟨by decide +kernel, whole _ rfl⟩

end Zetta
