import Zetta.Protocol.Frame

/-! Packets sent but not yet acknowledged, in a window indexed by packet number. -/

namespace Zetta

/-- The content of an unacknowledged packet. -/
inductive UnackedPayload where
  | initial (cookie : Option Bytes)
  | stream (streamId : Nat) (streamType : StreamType) (offset : Nat) (data : Bytes)
  | mtuProbe (targetSize : Nat)
  | streamClose (streamId finalSize : Nat)
  | maxStreamData (streamId maxData : Nat)
  | resetStream (streamId errorCode finalSize : Nat)
  | close
  | connectionCloseV2 (errorCode : Nat) (reason : Bytes)
  | datagram (data : Bytes)
  deriving DecidableEq, Repr

namespace UnackedPayload

/-- The bytes a payload counts for in congestion and pacing. -/
def len : UnackedPayload → Nat
  | initial _ => 0
  | stream _ _ _ data => data.length
  | datagram data => data.length
  | mtuProbe targetSize => targetSize
  | streamClose .. | maxStreamData .. | resetStream .. | connectionCloseV2 .. | close => 0

/-- Whether a payload is an unreliable datagram. -/
def isDatagram : UnackedPayload → Bool
  | datagram _ => true
  | _ => false

end UnackedPayload

/-- A packet that has been sent but not yet acknowledged. -/
structure UnackedPacket where
  payload : UnackedPayload
  sentAt : Instant
  retries : Nat
  isMtuProbe : Bool
  sentBytes : Nat
  deriving DecidableEq, Repr

/-- A sliding window of unacknowledged packets, one slot for each number from the base on. -/
structure UnackedWindow where
  basePn : Nat
  deque : List (Option UnackedPacket)
  len : Nat
  deriving DecidableEq, Repr

namespace UnackedWindow

/-- A window without packets. -/
def new : UnackedWindow := ⟨0, [], 0⟩

/-- Store a packet under its number, unless the window has moved past it. -/
def insert (self : UnackedWindow) (pn : Nat) (packet : UnackedPacket) : UnackedWindow :=
  let basePn := if self.len = 0 ∧ self.deque.isEmpty then pn else self.basePn
  if pn < basePn then { self with basePn := basePn }
  else
    let idx := pn - basePn
    let deque := self.deque ++ List.replicate (idx + 1 - self.deque.length) none
    let len := if (deque.getD idx none).isNone then self.len + 1 else self.len
    ⟨basePn, deque.set idx (some packet), len⟩

/-- Drop the empty slots at the front, moving the base past them. -/
def popFront : Nat → List (Option UnackedPacket) → Nat × List (Option UnackedPacket)
  | basePn, none :: rest => popFront (basePn + 1) rest
  | basePn, slots => (basePn, slots)

/-- Take the packet with a number out of the window. -/
def remove (self : UnackedWindow) (pn : Nat) : Option UnackedPacket × UnackedWindow :=
  if pn < self.basePn then (none, self)
  else
    let idx := pn - self.basePn
    if idx < self.deque.length then
      let val := self.deque.getD idx none
      let len := if val.isSome then self.len - 1 else self.len
      let (basePn, deque) := popFront self.basePn (self.deque.set idx none)
      (val, ⟨basePn, deque, len⟩)
    else (none, self)

/-- Take the packets with the given numbers out of the window, acting on each one that was there. -/
def drain {σ : Type} (act : Nat → UnackedPacket → σ → σ) :
    List Nat → UnackedWindow → σ → UnackedWindow × σ
  | [], self, state => (self, state)
  | pn :: rest, self, state =>
    match self.remove pn with
    | (some packet, self) => drain act rest self (act pn packet state)
    | (none, self) => drain act rest self state

/-- Forget every packet. -/
def clear (_ : UnackedWindow) : UnackedWindow := new

/-- The packets in slots from a base on, with their numbers. -/
def slots : Nat → List (Option UnackedPacket) → List (Nat × UnackedPacket)
  | _, [] => []
  | basePn, none :: rest => slots (basePn + 1) rest
  | basePn, some packet :: rest => (basePn, packet) :: slots (basePn + 1) rest

/-- The stored packets in the order of their numbers. -/
def iter (self : UnackedWindow) : List (Nat × UnackedPacket) := slots self.basePn self.deque

/-- The stored packet numbers in increasing order. -/
def keys (self : UnackedWindow) : List Nat := self.iter.map Prod.fst

/-- The packet with a number, and the window in which another one stands in its place. -/
def getMut (self : UnackedWindow) (pn : Nat) :
    Option (UnackedPacket × (UnackedPacket → UnackedWindow)) :=
  if pn < self.basePn then none
  else
    let idx := pn - self.basePn
    (self.deque.getD idx none).map fun packet =>
      (packet, fun changed => { self with deque := self.deque.set idx (some changed) })

/-- What a window holds, apart from the times and the attempts. -/
def contents (self : UnackedWindow) : List (Nat × UnackedPayload × Bool × Nat) :=
  self.iter.map fun entry => (entry.1, entry.2.payload, entry.2.isMtuProbe, entry.2.sentBytes)

/-- The number after the last slot of a window. -/
def extent (self : UnackedWindow) : Nat := self.basePn + self.deque.length

/-- Dropping empty slots keeps the packets and their numbers. -/
theorem slots_popFront (basePn : Nat) (deque : List (Option UnackedPacket)) :
    slots (popFront basePn deque).1 (popFront basePn deque).2 = slots basePn deque := by
  induction deque generalizing basePn with
  | nil => rfl
  | cons slot rest ih =>
    cases slot with
    -- An empty slot adds nothing, and the base moves with it.
    | none => exact ih (basePn + 1)
    | some packet => rfl

/-- No packet in the slots has a number below the base. -/
theorem le_of_mem_slots {basePn : Nat} {deque : List (Option UnackedPacket)}
    {entry : Nat × UnackedPacket} (member : entry ∈ slots basePn deque) : basePn ≤ entry.1 := by
  induction deque generalizing basePn with
  | nil => cases member
  | cons slot rest ih =>
    cases slot with
    | none => exact le_trans (Nat.le_succ _) (ih member)
    | some packet =>
      rcases List.mem_cons.mp member with same | later
      · rw [same]
      · exact le_trans (Nat.le_succ _) (ih later)

/-- Emptying a slot forgets the packet with its number and no other. -/
theorem slots_set_none (basePn idx : Nat) (deque : List (Option UnackedPacket)) :
    slots basePn (deque.set idx none) =
      (slots basePn deque).filter fun entry => entry.1 ≠ basePn + idx := by
  induction deque generalizing basePn idx with
  | nil => simp [slots]
  | cons slot rest ih =>
    -- Slots after the first have higher numbers, so the first one is told apart by its number.
    have later : ∀ entry ∈ slots (basePn + 1) rest, entry.1 ≠ basePn := fun entry member =>
      Nat.ne_of_gt (le_of_mem_slots member)
    cases idx with
    | zero =>
      have kept : (slots (basePn + 1) rest).filter (fun entry => entry.1 ≠ basePn) =
          slots (basePn + 1) rest := List.filter_eq_self.mpr (by simpa using later)
      cases slot with
      | none => simpa [slots] using kept.symm
      | some packet => simpa [slots] using kept.symm
    | succ idx =>
      have shifted := ih (basePn + 1) idx
      have number : basePn + 1 + idx = basePn + (idx + 1) := by omega
      rw [number] at shifted
      cases slot with
      | none => simpa [slots] using shifted
      | some packet => simpa [slots] using shifted

/-- A packet is stored under a number exactly when it is in that number's slot. -/
theorem mem_slots_iff {basePn pn : Nat} {deque : List (Option UnackedPacket)}
    {packet : UnackedPacket} :
    (pn, packet) ∈ slots basePn deque ↔
      basePn ≤ pn ∧ deque[pn - basePn]? = some (some packet) := by
  induction deque generalizing basePn with
  | nil => simp [slots]
  | cons slot rest ih =>
    -- The first slot has the base's own number, and the others are one base higher.
    rcases Nat.lt_trichotomy pn basePn with below | rfl | above
    · have absent : (pn, packet) ∉ slots basePn (slot :: rest) := fun member =>
        absurd (le_of_mem_slots member) (Nat.not_le.mpr below)
      simp only [absent, false_iff, not_and]
      omega
    · have absent : (pn, packet) ∉ slots (pn + 1) rest := fun member =>
        absurd (le_of_mem_slots member) (Nat.not_succ_le_self pn)
      cases slot with
      | none => simp [slots, absent]
      | some first => simp [slots, absent, eq_comm]
    · have index : pn - basePn = (pn - (basePn + 1)) + 1 := by omega
      have different : pn ≠ basePn := by omega
      rw [index, List.getElem?_cons_succ]
      cases slot with
      | none =>
        simp only [slots, ih]
        exact and_congr_left fun _ => by omega
      | some first =>
        simp only [slots, List.mem_cons, Prod.mk.injEq, different, false_and, false_or, ih]
        exact and_congr_left fun _ => by omega

/-- Removing a number forgets its packet and keeps every other one in order. -/
theorem iter_remove (self : UnackedWindow) (pn : Nat) :
    (self.remove pn).2.iter = self.iter.filter fun entry => entry.1 ≠ pn := by
  unfold remove
  split
  · -- Below the base nothing is stored.
    rename_i below
    refine (List.filter_eq_self.mpr fun entry member => ?_).symm
    have bound : self.basePn ≤ entry.1 := le_of_mem_slots member
    simp only [ne_eq, decide_not, Bool.not_eq_eq_eq_not, Bool.not_true, decide_eq_false_iff_not]
    omega
  · rename_i above
    dsimp only
    split
    · -- The slot is emptied, and the front cleaned up.
      have number : self.basePn + (pn - self.basePn) = pn := by omega
      have emptied := slots_set_none self.basePn (pn - self.basePn) self.deque
      rw [number] at emptied
      exact (slots_popFront _ _).trans emptied
    · rename_i outside
      refine (List.filter_eq_self.mpr fun entry member => ?_).symm
      have slot : self.deque[entry.1 - self.basePn]? = some (some entry.2) :=
        (mem_slots_iff.mp member).2
      obtain ⟨inside, -⟩ := List.getElem?_eq_some_iff.mp slot
      simp only [ne_eq, decide_not, Bool.not_eq_eq_eq_not, Bool.not_true, decide_eq_false_iff_not]
      omega

/-- Removing a number answers the packet stored under it. -/
theorem remove_eq_some_iff {self : UnackedWindow} {pn : Nat} {packet : UnackedPacket} :
    (self.remove pn).1 = some packet ↔ (pn, packet) ∈ self.iter := by
  unfold iter
  rw [mem_slots_iff]
  unfold remove
  split
  · rename_i below
    simp only [reduceCtorEq, false_iff, not_and]
    omega
  · rename_i above
    have reached : self.basePn ≤ pn := by omega
    dsimp only
    split
    · rename_i inside
      simp [reached, List.getElem?_eq_getElem inside, List.getD_eq_getElem?_getD]
    · rename_i outside
      rw [List.getElem?_eq_none (by omega)]
      simp

/-- Removing a number that is not stored answers nothing. -/
theorem remove_eq_none_iff {self : UnackedWindow} {pn : Nat} :
    (self.remove pn).1 = none ↔ ∀ packet, (pn, packet) ∉ self.iter := by
  simp only [← remove_eq_some_iff]
  exact Option.eq_none_iff_forall_ne_some

/-- The packets after an insertion are the inserted one and earlier ones. -/
theorem mem_iter_insert {self : UnackedWindow} {pn : Nat} {packet : UnackedPacket}
    {entry : Nat × UnackedPacket} (member : entry ∈ (self.insert pn packet).iter) :
    entry = (pn, packet) ∨ entry ∈ self.iter := by
  obtain ⟨number, stored⟩ := entry
  unfold insert at member
  dsimp only at member
  by_cases fresh : self.len = 0 ∧ self.deque.isEmpty = true
  · -- The first packet fixes the base.
    have blank : self.deque = [] := by simpa using fresh.2
    simp only [fresh, blank, iter] at member
    left
    simpa [slots] using member
  · simp only [fresh, if_false] at member
    by_cases above : pn < self.basePn
    · rw [if_pos above] at member
      exact .inr member
    · rw [if_neg above] at member
      have stored : (number, stored) ∈ slots self.basePn ((self.deque ++
          List.replicate (pn - self.basePn + 1 - self.deque.length) none).set
            (pn - self.basePn) (some packet)) := member
      obtain ⟨reached, slot⟩ := mem_slots_iff.mp stored
      rw [List.getElem?_set] at slot
      by_cases same : pn - self.basePn = number - self.basePn
      · -- The packet's own slot holds the new packet.
        rw [if_pos same, if_pos (by simp; omega)] at slot
        simp only [Option.some.injEq] at slot
        left
        rw [← slot]
        congr 1
        omega
      · -- Every other slot holds what it held, or is one of the empty ones added.
        rw [if_neg same] at slot
        right
        refine mem_slots_iff.mpr ⟨reached, ?_⟩
        by_cases old : number - self.basePn < self.deque.length
        · rwa [List.getElem?_append_left old] at slot
        · rw [List.getElem?_append_right (by omega), List.getElem?_replicate] at slot
          split at slot <;> simp at slot

/-- The packets stand in the order of their numbers. -/
theorem iter_sorted (self : UnackedWindow) :
    self.iter.Pairwise fun left right => left.1 < right.1 := by
  unfold iter
  generalize self.basePn = basePn
  generalize self.deque = deque
  induction deque generalizing basePn with
  | nil => exact .nil
  | cons slot rest ih =>
    cases slot with
    | none => exact ih (basePn + 1)
    -- What follows the first packet is stored from the next number on.
    | some packet => exact .cons (fun entry member => le_of_mem_slots member) (ih (basePn + 1))

/-- A scan that stops at the first number out of bounds sees every number within them. -/
theorem iter_takeWhile_lt (self : UnackedWindow) (bound : Nat) :
    (self.iter.takeWhile fun entry => entry.1 < bound) =
      self.iter.filter fun entry => entry.1 < bound := by
  have sorted := self.iter_sorted
  generalize self.iter = entries at sorted
  induction entries with
  | nil => rfl
  | cons head rest ih =>
    obtain ⟨below, tail⟩ := List.pairwise_cons.mp sorted
    by_cases inside : head.1 < bound
    · simp [inside, ih tail]
    · -- Every later number is higher still, so the filter drops them all.
      have outside : rest.filter (fun entry => entry.1 < bound) = [] :=
        List.filter_eq_nil_iff.mpr fun entry member => by
          have := below entry member
          simp only [decide_eq_true_eq]
          omega
      simp [inside, outside]

/-- Draining forgets exactly the listed numbers. -/
theorem iter_drain {σ : Type} (act : Nat → UnackedPacket → σ → σ) (pns : List Nat)
    (self : UnackedWindow) (state : σ) :
    (drain act pns self state).1.iter = self.iter.filter fun entry => entry.1 ∉ pns := by
  induction pns generalizing self state with
  | nil => simp [drain]
  | cons pn rest ih =>
    have forgotten := iter_remove self pn
    unfold drain
    split <;>
    · rename_i found
      rw [found] at forgotten
      rw [ih, forgotten, List.filter_filter]
      refine List.filter_congr fun entry _ => ?_
      simp [Bool.and_comm]

/-- Draining the numbers of the packets with a property keeps the packets without it. -/
theorem iter_drain_where {σ : Type} (act : Nat → UnackedPacket → σ → σ)
    (property : Nat × UnackedPacket → Bool) (self : UnackedWindow) (state : σ) :
    (drain act ((self.iter.filter property).map Prod.fst) self state).1.iter =
      self.iter.filter fun entry => !property entry := by
  rw [iter_drain]
  refine List.filter_congr fun entry member => ?_
  have named : entry.1 ∈ (self.iter.filter property).map Prod.fst ↔ property entry = true := by
    simp only [List.mem_map, List.mem_filter]
    constructor
    · -- A slot holds one packet, so the one found under the number is this one.
      intro ⟨⟨pn, other⟩, ⟨stored, holds⟩, number⟩
      cases number
      have same := (mem_slots_iff.mp stored).2.symm.trans (mem_slots_iff.mp member).2
      simp only [Option.some.injEq] at same
      rwa [same] at holds
    · exact fun holds => ⟨entry, ⟨member, holds⟩, rfl⟩
  simp [named]

/-- Draining the numbers of stored packets acts on each of these packets in turn. -/
theorem state_drain {σ : Type} (act : Nat → UnackedPacket → σ → σ)
    {doomed : List (Nat × UnackedPacket)} {self : UnackedWindow} (state : σ)
    (listed : doomed.Sublist self.iter) :
    (drain act (doomed.map Prod.fst) self state).2 =
      doomed.foldl (fun state entry => act entry.1 entry.2 state) state := by
  induction doomed generalizing self state with
  | nil => rfl
  | cons entry rest ih =>
    have stored : (self.remove entry.1).1 = some entry.2 :=
      remove_eq_some_iff.mpr (listed.subset (by simp))
    have sorted := List.pairwise_cons.mp (self.iter_sorted.sublist listed)
    -- The other doomed packets have other numbers, so they are still there afterwards.
    have others : rest.Sublist (self.remove entry.1).2.iter := by
      rw [iter_remove]
      have untouched : rest.filter (fun other => other.1 ≠ entry.1) = rest :=
        List.filter_eq_self.mpr fun other member => by
          simpa using Nat.ne_of_gt (sorted.1 other member)
      rw [← untouched]
      exact (List.sublist_of_cons_sublist listed).filter _
    simp only [List.map_cons, drain]
    split
    · rename_i found
      rw [found] at stored others
      cases stored
      exact ih _ others
    · rename_i found
      rw [found] at stored
      cases stored

/-- What every action on a stored packet preserves, draining preserves. -/
theorem drain_preserves {σ : Type} {act : Nat → UnackedPacket → σ → σ} (property : σ → Prop)
    {self : UnackedWindow} (preserved : ∀ pn packet state, (pn, packet) ∈ self.iter →
      property state → property (act pn packet state)) (pns : List Nat) {state : σ}
    (holds : property state) : property (drain act pns self state).2 := by
  induction pns generalizing self state with
  | nil => exact holds
  | cons pn rest ih =>
    -- What is stored after a removal was stored before it.
    have fewer : ∀ entry ∈ (self.remove pn).2.iter, entry ∈ self.iter := by
      intro entry member
      rw [iter_remove] at member
      exact (List.mem_filter.mp member).1
    unfold drain
    split
    · rename_i packet rest found
      have stored := remove_eq_some_iff.mp (congrArg Prod.fst found)
      rw [found] at fewer
      exact ih (fun pn packet state member => preserved pn packet state (fewer _ member))
        (preserved pn packet state stored holds)
    · rename_i rest found
      rw [found] at fewer
      exact ih (fun pn packet state member => preserved pn packet state (fewer _ member)) holds

/-- What no action touches, draining leaves alone. -/
theorem drain_keeps {σ τ : Type} {act : Nat → UnackedPacket → σ → σ} (view : σ → τ)
    (same : ∀ pn packet state, view (act pn packet state) = view state) (pns : List Nat)
    (self : UnackedWindow) (state : σ) : view (drain act pns self state).2 = view state :=
  drain_preserves (fun reached => view reached = view state)
    (fun pn packet reached _ kept => (same pn packet reached).trans kept) pns rfl

end UnackedWindow
end Zetta
