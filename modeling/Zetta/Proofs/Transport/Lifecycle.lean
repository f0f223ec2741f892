import Zetta.Proofs.Transport.Handling
import Zetta.Proofs.Transport.Nonces

/-! A connection only moves forward, unless a frame starts closing what another frame has closed. -/

namespace Zetta

/-- The place of a state in the life of a connection. -/
def ConnectionState.rank : ConnectionState → Nat
  | handshaking => 0
  | active => 1
  | closing => 2
  | closed => 3

/-- One state comes no later than another. -/
def ConnectionState.Precedes (earlier later : ConnectionState) : Prop := earlier.rank ≤ later.rank

instance (earlier later : ConnectionState) : Decidable (earlier.Precedes later) :=
  inferInstanceAs (Decidable (_ ≤ _))

/-- Closed is the last state. -/
theorem ConnectionState.precedes_closed (state : ConnectionState) : state.Precedes .closed := by
  cases state <;> decide

/-- All other states come no later than closing. -/
theorem ConnectionState.precedes_closing {state : ConnectionState} (open_ : state ≠ .closed) :
    state.Precedes .closing := by
  cases state with
  | closed => exact absurd rfl open_
  | _ => decide

/-- A connection starts closing only while it is not closed. -/
def Licence.forward : Licence :=
  { Licence.free with closes := fun books => books.state ≠ .closed }

/-- No deed under that licence moves the state back. -/
theorem Deed.forward [Hkdf] {before after : Books} (deed : Deed Licence.forward before after) :
    before.state.Precedes after.state := by
  cases deed with
  | post _ _ _ offers | postLong _ offers | dispatch _ _ _ _ offers | paced _ _ _ _ offers
  | probe _ _ _ _ _ _ _ offers => cases offers <;> exact Nat.le_refl _
  | requeue _ fails | forsake _ fails => cases fails; exact Nat.le_refl _
  | phase step =>
    cases step with
    | activated state =>
      rw [state]
      exact Nat.zero_le _
    | closing may => exact ConnectionState.precedes_closing may
    | closed => exact ConnectionState.precedes_closed _
  | complete _ _ state =>
    rw [state]
    exact Nat.zero_le _
  | _ => exact Nat.le_refl _

/-- Nor does a handler. -/
theorem Does.forward [Hkdf] {CC : Type} {before after : ZtConnectionActor CC}
    (does : Does Licence.forward before after) : before.state.Precedes after.state := by
  have walk : ∀ {first last : Books}, Relation.ReflTransGen (Deed Licence.forward) first last →
      first.state.Precedes last.state := by
    intro first last deeds
    induction deeds with
    | refl => exact Nat.le_refl _
    | tail _ deed ih => exact Nat.le_trans ih deed.forward
  exact walk (does [])

namespace ZtConnectionActor

open Program

variable {CC : Type} [Hkdf] [HandshakeCrypto] [CongestionController CC]

/-- Frames handled one after the other; the first error ends them all. -/
theorem handleFrames_append (addr : Address) (first rest : List Frame) (self : ZtConnectionActor CC) :
    exec (handleFrames addr (first ++ rest)) self =
      match exec (handleFrames addr first) self with
      | (.ok _, after) => exec (handleFrames addr rest) after
      | (.error error, after) => (.error error, after) := by
  induction first generalizing self with
  | nil => rfl
  | cons frame others ih =>
    rw [List.cons_append, handleFrames, handleFrames, exec_bind_get, exec_bind_get, exec_bind, exec_bind]
    cases exec (handleFrame frame addr) self with
    | mk outcome after =>
      cases outcome with
      | error error => rfl
      | ok value =>
        dsimp only
        rw [exec_bind_modify, exec_bind_modify]
        exact ih _

/-- Handling more of the frames of a packet never moves the state back. -/
theorem handleFrames_forward {addr : Address} {frames : List Frame} {self : ZtConnectionActor CC}
    (orderly : Frame.Orderly frames) (open_ : self.state ≠ .closed) {fewer more : Nat}
    (ordered : fewer ≤ more) :
    (exec (handleFrames addr (frames.take fewer)) self).2.state.Precedes
      (exec (handleFrames addr (frames.take more)) self).2.state := by
  have split : frames.take more = frames.take fewer ++ (frames.take more).drop fewer := by
    conv_lhs => rw [← List.take_append_drop fewer (frames.take more), List.take_take,
      Nat.min_eq_left ordered]
  have orderly : Frame.Orderly (frames.take fewer ++ (frames.take more).drop fewer) := by
    rw [← split]
    exact orderly.sublist (List.take_sublist _ _)
  rw [split]
  generalize frames.take fewer = first at *
  generalize (frames.take more).drop fewer = rest at *
  have handled : Does Licence.forward self (exec (handleFrames addr first) self).2 ∧
      (exec (handleFrames addr first) self).2.Settled rest :=
    handleFrames_orderly addr first rest self orderly (fun closed => absurd closed open_)
      (fun _ still => still) (fun _ => trivial) (fun _ _ => trivial)
      fun _ _ _ _ _ => ⟨fun _ _ => trivial, fun _ _ _ => trivial⟩
  obtain ⟨-, settled⟩ := handled
  rw [handleFrames_append]
  cases ended : exec (handleFrames addr first) self with
  | mk outcome after =>
    rw [ended] at settled
    cases outcome with
    | error error => exact Nat.le_refl _
    | ok value =>
      have others : Frame.Orderly (rest ++ []) := by
        rw [List.append_nil]
        exact (List.pairwise_append.mp orderly).2.1
      have remaining : after.Settled (rest ++ []) := by
        rw [List.append_nil]
        exact settled
      have does : Does Licence.forward after (exec (handleFrames addr rest) after).2 :=
        (handleFrames_orderly addr rest [] after others remaining (fun _ still => still)
          (fun _ => trivial) (fun _ _ => trivial)
          fun _ _ _ _ _ => ⟨fun _ _ => trivial, fun _ _ _ => trivial⟩).1
      exact does.forward

/-- The states after each number of frames of a packet, if it gets as far as its frames. -/
def frameStates (self : ZtConnectionActor CC) (packet : Packet) (addr : Address) :
    List ConnectionState :=
  match self.opened? packet with
  | some opened =>
    if packet.header.pType.isProtected && self.getsThrough packet then
      (List.range (packet.frames.length + 1)).map fun handled =>
        (exec (handleOpened (self.numberOf packet) (packet.frames.take handled) addr)
          opened.activate).2.state
    else []
  | none => []

/-- The states passed through in the course of a turn: at its start, frame by frame, and at its end. -/
def passes (self : ZtConnectionActor CC) (event : Event) (host : Host) : List ConnectionState :=
  let frames := match event with
    | .incomingPacket packet addr =>
      if self.running && self.state ≠ .closed then
        ({ self with host := host } : ZtConnectionActor CC).frameStates packet addr
      else []
    | _ => []
  self.state :: frames ++ [(self.step event host).state]

/-- The states passed through in the course of a run. -/
def passed : ZtConnectionActor CC → List (Event × Host) → List ConnectionState
  | self, [] => [self.state]
  | self, turn :: rest => self.passes turn.1 turn.2 ++ passed (self.step turn.1 turn.2) rest

/-- In every packet, no frame that may start closing the connection follows one that closes it. -/
def Ordered (_ : ZtConnectionActor CC) (event : Event) (_ : Host) : Prop :=
  ∀ packet addr, event = .incomingPacket packet addr → Frame.Orderly packet.frames

omit [Hkdf] [HandshakeCrypto] [CongestionController CC] in
/-- A turn of an open connection then starts closing it only while it is open. -/
theorem Ordered.covers {self : ZtConnectionActor CC} {event : Event} {host : Host}
    (ordered : self.Ordered event host) (open_ : self.state ≠ .closed) :
    Licence.forward.Covers event { self with host := host } where
  probes _ _ := trivial
  recovers _ _ _ _ _ := trivial
  issues _ _ _ _ := trivial
  writes _ _ _ _ _ _ := trivial
  closes books same := by
    show books.state ≠ .closed
    rw [same]
    exact open_
  receives packet addr arrives :=
    ⟨.inr ⟨ordered packet addr arrives, fun _ still => still⟩, fun _ _ _ => trivial,
      fun _ => trivial, fun _ _ _ _ _ => ⟨fun _ _ => trivial, fun _ _ _ => trivial⟩⟩
  shuts _ := trivial
  opens _ _ _ := trivial
  reads _ _ _ _ := trivial

/-- One turn does not move the state back. -/
theorem step_forward {self : ZtConnectionActor CC} {event : Event} {host : Host}
    (ordered : self.Ordered event host) : self.state.Precedes (self.step event host).state := by
  by_cases open_ : self.state = .closed
  · -- A closed connection takes no more turns.
    unfold step
    rw [if_pos open_]
    split <;> exact Nat.le_refl _
  · rcases step_does (ordered.covers open_) with same | ⟨-, does⟩
    · have state := congrArg Books.state (same [])
      exact Nat.le_of_eq (congrArg ConnectionState.rank state.symm)
    · exact does.forward

/-- What is known when a packet gets as far as its frames: the state they are handled in. -/
theorem frames_between {self opened : ZtConnectionActor CC} {packet : Packet} (addr : Address)
    (kind : packet.header.pType.isProtected = true) (through : self.getsThrough packet = true)
    (answered : self.opened? packet = some opened) :
    ∃ ready : ZtConnectionActor CC, Does Licence.forward self ready ∧ ready.state ≠ .closed ∧
      (∀ frames, exec (handleOpened (self.numberOf packet) frames addr) opened.activate =
        exec (handleFrames addr frames) ready) ∧
      exec (processIncomingPacket packet addr) self = exec (handleFrames addr packet.frames) ready := by
  rcases self.processIncomingPacket_cases kind addr with drops | ⟨other, -, admits, processed⟩
  · rw [drops.ignored] at through
    cases through
  have same : other = opened := Option.some.inj (admits.answered.symm.trans answered)
  subst same
  -- The packet opened under keys that are known.
  have keyed : ∃ crypto payload plaintext, (self.counted packet).crypto = some crypto ∧
      (self.counted packet).openPayload crypto (self.recovered packet.header) packet.header.encode
        payload = .ok (plaintext, other) := by
    unfold opened? at answered
    split at answered
    · rename_i crypto payload keys _
      split at answered
      · rename_i plaintext found succeeded
        cases answered
        exact ⟨crypto, payload, plaintext, keys, succeeded⟩
      · cases answered
    · cases answered
  obtain ⟨crypto, payload, plaintext, keys, succeeded⟩ := keyed
  have accepts : (self.counted packet).acceptsProtected = true := admits.accepts
  obtain ⟨readied, still⟩ := opened_readied keys accepts succeeded (self.numberOf packet) addr
  have heard : Does Licence.forward self (self.counted packet) := .single fun _ => .count packet.size
  exact ⟨_, heard.trans (readied _), still, fun frames => handleOpened_eq _ _ frames addr,
    processed.trans (handleOpened_eq _ _ _ addr)⟩

omit [Hkdf] [HandshakeCrypto] [CongestionController CC] in
/-- States that rise with a number, between one that is no later and one that is no earlier. -/
theorem pairwise_climb {states : Nat → ConnectionState} {start stop : ConnectionState} {count : Nat}
    (first : start.Precedes (states 0))
    (climbs : ∀ {fewer more : Nat}, fewer ≤ more → (states fewer).Precedes (states more))
    (last : (states count).Precedes stop) :
    (start :: (List.range (count + 1)).map states ++ [stop]).Pairwise ConnectionState.Precedes := by
  have above : ∀ state ∈ (List.range (count + 1)).map states, start.Precedes state := by
    intro state member
    obtain ⟨number, -, rfl⟩ := List.mem_map.mp member
    exact Nat.le_trans first (climbs (Nat.zero_le number))
  have below : ∀ state ∈ (List.range (count + 1)).map states, state.Precedes stop := by
    intro state member
    obtain ⟨number, listed, rfl⟩ := List.mem_map.mp member
    exact Nat.le_trans (climbs (Nat.lt_succ_iff.mp (List.mem_range.mp listed))) last
  refine List.pairwise_append.mpr ⟨List.pairwise_cons.mpr ⟨above, ?_⟩, List.pairwise_singleton _ _, ?_⟩
  · exact List.pairwise_map.mpr (List.pairwise_lt_range.imp fun less => climbs less.le)
  · intro state member end_ same
    rw [List.mem_singleton.mp same]
    rcases List.mem_cons.mp member with rfl | between
    · exact Nat.le_trans first (Nat.le_trans (climbs (Nat.zero_le count)) last)
    · exact below state between

/-- The states passed through in one turn never fall. -/
theorem passes_forward {self : ZtConnectionActor CC} {event : Event} {host : Host}
    (ordered : self.Ordered event host) :
    (self.passes event host).Pairwise ConnectionState.Precedes := by
  have whole := step_forward ordered
  have short : [self.state, (self.step event host).state].Pairwise ConnectionState.Precedes :=
    List.pairwise_pair.mpr whole
  unfold passes
  cases event with
  | incomingPacket packet addr =>
    dsimp only
    split
    · rename_i awake
      unfold frameStates
      split
      · rename_i opened answered
        split
        · rename_i reached
          obtain ⟨kind, through⟩ := Bool.and_eq_true_iff.mp reached
          obtain ⟨ready, entered, still, handled, processed⟩ :=
            frames_between addr kind through answered
          have orderly := ordered packet addr rfl
          simp only [handled]
          refine pairwise_climb entered.forward (handleFrames_forward orderly still) ?_
          -- After the frames only the pacer runs.
          have stepped : (self.step (.incomingPacket packet addr) host).state =
              (exec resetPacing (exec (handleFrames addr packet.frames) ready).2).2.state := by
            obtain ⟨running, open_⟩ := Bool.and_eq_true_iff.mp awake
            unfold step
            rw [if_neg (by simp [running]), if_neg (of_decide_eq_true open_)]
            unfold handleEvent
            rw [exec_bind_logged, processed]
          rw [List.take_length, stepped]
          have paced : Does Licence.forward (exec (handleFrames addr packet.frames) ready).2
              (exec resetPacing (exec (handleFrames addr packet.frames) ready).2).2 :=
            resetPacing_does _ fun _ => trivial
          exact paced.forward
        · exact short
      · exact short
    · exact short
  | _ => exact short

/-- No state passed through in a run comes before the one it starts in. -/
theorem passed_after {self : ZtConnectionActor CC} {events : List (Event × Host)}
    (ordered : self.Throughout Ordered events) :
    ∀ state ∈ self.passed events, self.state.Precedes state := by
  induction events generalizing self with
  | nil =>
    intro state member
    rw [List.mem_singleton.mp member]
    exact Nat.le_refl _
  | cons turn rest ih =>
    intro state member
    have rises := passes_forward ordered.1
    rcases List.mem_append.mp member with now | later
    · rcases List.mem_cons.mp now with rfl | after
      · exact Nat.le_refl _
      · exact (List.pairwise_cons.mp rises).1 state after
    · exact Nat.le_trans (step_forward ordered.1) (ih ordered.2 state later)

/--
In a run in which no packet has a frame that may start closing the connection after one that closes
it, the states passed through, at every turn and after every frame, never fall.
-/
theorem states_forward {self : ZtConnectionActor CC} {events : List (Event × Host)}
    (ordered : self.Throughout Ordered events) :
    (self.passed events).Pairwise ConnectionState.Precedes := by
  induction events generalizing self with
  | nil => exact List.pairwise_singleton _ _
  | cons turn rest ih =>
    have rises := passes_forward ordered.1
    refine List.pairwise_append.mpr ⟨rises, ih ordered.2, ?_⟩
    -- The end of the turn lies between the states of this turn and those of the rest.
    intro earlier member later follows
    have ends : earlier.Precedes (self.step turn.1 turn.2).state := by
      rcases List.mem_append.mp member with before | last
      · exact (List.pairwise_append.mp rises).2.2 earlier before _ List.mem_cons_self
      · rw [List.mem_singleton.mp last]
        exact Nat.le_refl _
    exact Nat.le_trans ends (passed_after ordered.2 later follows)

end ZtConnectionActor

open Meeting in
/--
A packet closes the connection and then acknowledges a packet that was never sent: the connection
is closed after the first frame and closing after the second.
-/
theorem closed_connection_closes_again :
    (server.start (hostTaking 0)).passed
        [(.incomingPacket (message 2 [.connectionClose, .ack 100 0 0 []]) 5, hostTaking 3)] =
      [.handshaking, .active, .closed, .closing, .closing, .closing] ∧
    ¬ ((server.start (hostTaking 0)).passed
        [(.incomingPacket (message 2 [.connectionClose, .ack 100 0 0 []]) 5, hostTaking 3)]).Pairwise
          ConnectionState.Precedes := by
  constructor <;> decide +kernel

open Meeting in
/-- A packet that closes the connection with its last frame moves it forward only. -/
theorem ping_then_close_forward :
    ((server.start (hostTaking 0)).passed
      [(.incomingPacket (message 2 [.ping, .connectionClose]) 5, hostTaking 3)]).Pairwise
        ConnectionState.Precedes := by
  have orderly : Frame.Orderly (message 2 [.ping, .connectionClose]).frames := by
    unfold Frame.Orderly
    decide +kernel
  have ordered : (server.start (hostTaking 0)).Throughout ZtConnectionActor.Ordered
      [(.incomingPacket (message 2 [.ping, .connectionClose]) 5, hostTaking 3)] := by
    refine ⟨?_, trivial⟩
    rintro packet addr ⟨⟩
    exact orderly
  exact ZtConnectionActor.states_forward ordered

end Zetta
