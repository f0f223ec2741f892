import Zetta.Lib.Refinement
import Zetta.Lib.SortedMap
import Zetta.State.Unacked

/-! The window of unacknowledged packets is a finite map from packet numbers to packets. -/

namespace Zetta

namespace UnackedWindow

/-- Some packets left a window, and the others stayed where they were. -/
structure Parts (before : UnackedWindow) (gone : List (Nat × UnackedPacket)) (after : UnackedWindow) :
    Prop where
  split : before.iter.Perm (gone ++ after.iter)
  extent : after.extent = before.extent

/-- Nothing left. -/
theorem Parts.refl (self : UnackedWindow) : Parts self [] self := ⟨.refl _, rfl⟩

/-- Some packets left, and then some others. -/
theorem Parts.trans {before middle after : UnackedWindow} {first second : List (Nat × UnackedPacket)}
    (left : Parts before first middle) (right : Parts middle second after) :
    Parts before (first ++ second) after := by
  refine ⟨left.split.trans ?_, right.extent.trans left.extent⟩
  rw [List.append_assoc]
  exact right.split.append_left first

/-- Dropping empty slots at the front moves the base by as many. -/
theorem popFront_extent (basePn : Nat) (deque : List (Option UnackedPacket)) :
    (popFront basePn deque).1 + (popFront basePn deque).2.length = basePn + deque.length := by
  induction deque generalizing basePn with
  | nil => rfl
  | cons slot rest ih =>
    cases slot with
    | none =>
      rw [popFront, ih, List.length_cons]
      omega
    | some packet => rfl

/-- Removing a packet leaves the end of the window where it was. -/
theorem remove_extent (self : UnackedWindow) (pn : Nat) : (self.remove pn).2.extent = self.extent := by
  unfold remove
  split
  · rfl
  · dsimp only
    split
    · have kept := popFront_extent self.basePn (self.deque.set (pn - self.basePn) none)
      rw [List.length_set] at kept
      exact kept
    · rfl

/-- The packet removed is the only one that leaves. -/
theorem remove_parts {self : UnackedWindow} {pn : Nat} {packet : UnackedPacket}
    (found : (self.remove pn).1 = some packet) : Parts self [(pn, packet)] (self.remove pn).2 := by
  refine ⟨?_, self.remove_extent pn⟩
  have stored := remove_eq_some_iff.mp found
  rw [iter_remove]
  -- Numbers are distinct, so the packets under this one are the packet itself.
  have alone : self.iter.filter (fun entry => entry.1 = pn) = [(pn, packet)] := by
    obtain ⟨front, back, parts⟩ := List.append_of_mem stored
    have sorted := self.iter_sorted
    rw [parts, List.pairwise_append, List.pairwise_cons] at sorted
    obtain ⟨-, ⟨later, -⟩, earlier⟩ := sorted
    have before : front.filter (fun entry => entry.1 = pn) = [] :=
      List.filter_eq_nil_iff.mpr fun entry member => by
        have below := earlier entry member (pn, packet) (by simp)
        simpa using Nat.ne_of_lt below
    have after : back.filter (fun entry => entry.1 = pn) = [] :=
      List.filter_eq_nil_iff.mpr fun entry member => by
        have above := later entry member
        simpa using Nat.ne_of_gt above
    rw [parts, List.filter_append, before, List.filter_cons, after]
    simp
  have halves := List.filter_append_perm (fun entry : Nat × UnackedPacket => entry.1 = pn) self.iter
  rw [alone] at halves
  refine halves.symm.trans (List.Perm.append_left _ (.of_eq (List.filter_congr fun entry _ => ?_)))
  simp

/-- Draining takes out packets of the window one by one, whatever is done with each. -/
theorem drain_gone (pns : List Nat) (self : UnackedWindow) :
    ∃ gone rest, Parts self gone rest ∧ (∀ entry ∈ gone, entry.1 ∈ pns) ∧
      ∀ {σ : Type} (act : Nat → UnackedPacket → σ → σ) (state : σ), drain act pns self state =
        (rest, gone.foldl (fun state entry => act entry.1 entry.2 state) state) := by
  induction pns generalizing self with
  | nil => exact ⟨[], self, .refl self, nofun, fun _ _ => rfl⟩
  | cons pn others ih =>
    obtain ⟨gone, rest, parts, named, drains⟩ := ih (self.remove pn).2
    have later : ∀ entry ∈ gone, entry.1 ∈ pn :: others :=
      fun entry member => List.mem_cons_of_mem _ (named entry member)
    cases found : (self.remove pn).1 with
    | some packet =>
      refine ⟨(pn, packet) :: gone, rest, (remove_parts found).trans parts, ?_, fun act state => ?_⟩
      · exact List.forall_mem_cons.mpr ⟨List.mem_cons_self, later⟩
      have pair : self.remove pn = (some packet, (self.remove pn).2) := Prod.ext found rfl
      rw [drain, pair]
      exact drains act _
    | none =>
      -- Nothing is stored under the number, so nothing leaves.
      have kept : Parts self [] (self.remove pn).2 := by
        refine ⟨?_, self.remove_extent pn⟩
        rw [iter_remove, List.nil_append, List.filter_eq_self.mpr]
        intro entry member
        have absent := remove_eq_none_iff.mp found
        have other : entry.1 ≠ pn := by
          rintro rfl
          exact absent entry.2 member
        simpa using other
      refine ⟨gone, rest, kept.trans parts, later, fun act state => ?_⟩
      have pair : self.remove pn = (none, (self.remove pn).2) := Prod.ext found rfl
      rw [drain, pair]
      exact drains act _

/-- Draining the numbers of stored packets takes out exactly these packets. -/
theorem drain_listed {doomed : List (Nat × UnackedPacket)} {self : UnackedWindow}
    (listed : doomed.Sublist self.iter) :
    ∃ rest, Parts self doomed rest ∧ ∀ {σ : Type} (act : Nat → UnackedPacket → σ → σ) (state : σ),
      drain act (doomed.map Prod.fst) self state =
        (rest, doomed.foldl (fun state entry => act entry.1 entry.2 state) state) := by
  obtain ⟨gone, rest, parts, -, drains⟩ := drain_gone (doomed.map Prod.fst) self
  -- Collecting the packets tells which ones they are.
  have collected := state_drain (fun pn packet list => (pn, packet) :: list) [] listed
  rw [drains] at collected
  have same : gone = doomed := by simpa using collected
  exact ⟨rest, same ▸ parts, fun act state => same ▸ drains act state⟩

/-- Slots after others are numbered after them. -/
theorem slots_append (basePn : Nat) (left right : List (Option UnackedPacket)) :
    slots basePn (left ++ right) = slots basePn left ++ slots (basePn + left.length) right := by
  induction left generalizing basePn with
  | nil => rfl
  | cons slot rest ih =>
    have shifted : basePn + 1 + rest.length = basePn + (rest.length + 1) := by omega
    cases slot with
    | none => simp only [List.cons_append, slots, ih, List.length_cons, shifted]
    | some packet => simp only [List.cons_append, slots, ih, List.length_cons, shifted]

/-- Empty slots hold nothing. -/
theorem slots_replicate (basePn count : Nat) : slots basePn (List.replicate count none) = [] := by
  induction count generalizing basePn with
  | zero => rfl
  | succ count ih => exact ih (basePn + 1)

/-- A stored packet's number is below the window's end. -/
theorem lt_extent_of_mem {self : UnackedWindow} {entry : Nat × UnackedPacket}
    (member : entry ∈ self.iter) : entry.1 < self.extent := by
  obtain ⟨reached, slot⟩ := mem_slots_iff.mp member
  obtain ⟨inside, -⟩ := List.getElem?_eq_some_iff.mp slot
  unfold extent
  omega

/-- A packet numbered past the window's end is put behind it, after as many empty slots as it takes. -/
theorem insert_end {self : UnackedWindow} {pn : Nat} (packet : UnackedPacket)
    (past : self.extent ≤ pn) :
    ∃ basePn gap, (self.insert pn packet).basePn = basePn ∧
      (self.insert pn packet).deque = self.deque ++ (List.replicate gap none ++ [some packet]) ∧
      slots basePn self.deque = self.iter ∧ basePn + self.deque.length + gap = pn ∧
      (self.len = 0 → self.deque = [] → gap = 0) := by
  unfold extent at past
  unfold insert
  dsimp only
  by_cases fresh : self.len = 0 ∧ self.deque.isEmpty = true
  · -- The first packet fixes the base.
    have blank : self.deque = [] := by simpa using fresh.2
    refine ⟨pn, 0, ?_⟩
    simp [fresh, blank, iter, slots]
  · rw [if_neg fresh, if_neg (by omega)]
    refine ⟨self.basePn, pn - self.basePn - self.deque.length, rfl, ?_, rfl, by omega,
      fun none blank => absurd ⟨none, by simp [blank]⟩ fresh⟩
    dsimp only
    have wide : pn - self.basePn + 1 - self.deque.length =
        (pn - self.basePn - self.deque.length) + 1 := by omega
    rw [List.set_append_right _ _ (by omega), wide, List.replicate_succ',
      List.set_append_right _ _ (by simp)]
    simp

/-- So it is the last of the packets. -/
theorem iter_insert_end {self : UnackedWindow} {pn : Nat} (packet : UnackedPacket)
    (past : self.extent ≤ pn) : (self.insert pn packet).iter = self.iter ++ [(pn, packet)] := by
  obtain ⟨basePn, gap, base, deque, old, number, -⟩ := insert_end packet past
  have placed : slots (basePn + self.deque.length) (List.replicate gap none ++ [some packet]) =
      [(pn, packet)] := by
    rw [slots_append, slots_replicate, List.length_replicate, number]
    rfl
  unfold iter
  rw [base, deque, slots_append, old, placed]
  rfl

/-- The window then ends after that number. -/
theorem extent_insert_end {self : UnackedWindow} {pn : Nat} (packet : UnackedPacket)
    (past : self.extent ≤ pn) : (self.insert pn packet).extent = pn + 1 := by
  obtain ⟨basePn, gap, base, deque, -, number, -⟩ := insert_end packet past
  unfold extent
  rw [base, deque]
  simp only [List.length_append, List.length_replicate, List.length_singleton]
  omega

/-- The map a window stands for. -/
def map (self : UnackedWindow) : SortedMap Nat UnackedPacket := ⟨self.iter, self.iter_sorted⟩

/-- What holds of every window besides the packets it stores. -/
structure WellFormed (window : UnackedWindow) : Prop where
  len : window.len = window.iter.length
  /-- The window starts with a packet, not with an empty slot. -/
  front : window.deque.head? ≠ some none

/-- A window without packets is well formed. -/
theorem new_wellFormed : new.WellFormed := ⟨rfl, nofun⟩

/-- The packet to be changed under a number is the one the map has there. -/
theorem getMut_fst (self : UnackedWindow) (pn : Nat) :
    (self.getMut pn).map Prod.fst = self.map.find? pn := by
  refine Option.ext fun packet => ?_
  rw [SortedMap.find?_eq_some_iff]
  show _ ↔ (pn, packet) ∈ slots self.basePn self.deque
  rw [mem_slots_iff]
  unfold getMut
  split
  · -- Below the base nothing is stored.
    rename_i below
    simp only [Option.map_none, reduceCtorEq, false_iff, not_and]
    omega
  · rename_i above
    have reached : self.basePn ≤ pn := by omega
    simp [reached, List.getD_eq_getElem?_getD, Option.getD_eq_iff]

/-- Removing a number forgets it in the map. -/
theorem map_remove (self : UnackedWindow) (pn : Nat) : (self.remove pn).2.map = self.map.erase pn := by
  unfold map SortedMap.erase
  congr 1
  exact self.iter_remove pn

/-- Removing a number answers what the map has there. -/
theorem remove_fst (self : UnackedWindow) (pn : Nat) : (self.remove pn).1 = self.map.find? pn := by
  refine Option.ext fun packet => ?_
  rw [SortedMap.find?_eq_some_iff]
  exact remove_eq_some_iff

/-- A packet numbered past the window's end is stored in the map. -/
theorem map_insert {self : UnackedWindow} {pn : Nat} (packet : UnackedPacket)
    (past : self.extent ≤ pn) : (self.insert pn packet).map = self.map.insert pn packet := by
  refine SortedMap.ext_find fun key => Option.ext fun stored => ?_
  rw [SortedMap.find?_eq_some_iff, SortedMap.find?_eq_some_iff, SortedMap.mem_entries_insert]
  show (key, stored) ∈ (self.insert pn packet).iter ↔ _ ∨ _ ∧ (key, stored) ∈ self.iter
  rw [iter_insert_end packet past, List.mem_append, List.mem_singleton, or_comm]
  -- What was stored before has a lower number.
  refine or_congr_right ⟨fun member => ⟨?_, member⟩, And.right⟩
  have bound := lt_extent_of_mem member
  exact Nat.ne_of_lt (Nat.lt_of_lt_of_le bound past)

/-- The window then has one more packet. -/
theorem insert_len {self : UnackedWindow} {pn : Nat} (packet : UnackedPacket)
    (past : self.extent ≤ pn) : (self.insert pn packet).len = self.len + 1 := by
  unfold extent at past
  unfold insert
  dsimp only
  split
  · rename_i fresh
    have blank : self.deque = [] := by simpa using fresh.2
    simp [blank]
  · -- The slot is one of the empty ones added behind the window.
    rw [if_neg (by omega)]
    dsimp only
    rw [List.getD_eq_getElem?_getD, List.getElem?_append_right (by omega), List.getElem?_replicate,
      if_pos (by split <;> rfl)]

/-- Storing a packet past the window's end keeps the window well formed. -/
theorem WellFormed.insert {self : UnackedWindow} {pn : Nat} (wf : self.WellFormed)
    (packet : UnackedPacket) (past : self.extent ≤ pn) : (self.insert pn packet).WellFormed where
  len := by
    rw [insert_len packet past, iter_insert_end packet past, wf.len]
    simp
  front := by
    obtain ⟨-, gap, -, deque, -, -, adjacent⟩ := insert_end packet past
    rw [deque]
    cases slots : self.deque with
    | nil =>
      -- In a window without slots the packet takes the first one.
      have none : self.len = 0 := by rw [wf.len, iter, slots]; rfl
      simp [adjacent none slots]
    | cons first rest => simpa [slots] using wf.front

/-- After dropping the empty slots at the front, the first slot holds a packet. -/
theorem popFront_head (basePn : Nat) (deque : List (Option UnackedPacket)) :
    (popFront basePn deque).2.head? ≠ some none := by
  induction deque generalizing basePn with
  | nil => nofun
  | cons slot rest ih =>
    cases slot with
    | none => exact ih (basePn + 1)
    | some packet => nofun

/-- Removing a number takes one packet out of the count if there was one. -/
theorem remove_len (self : UnackedWindow) (pn : Nat) :
    (self.remove pn).2.len = self.len - (self.remove pn).1.toList.length := by
  unfold remove
  split
  · rfl
  · dsimp only
    split
    · cases self.deque.getD (pn - self.basePn) none <;> rfl
    · rfl

/-- Removing a number keeps the window well formed. -/
theorem WellFormed.remove {self : UnackedWindow} (wf : self.WellFormed) (pn : Nat) :
    (self.remove pn).2.WellFormed where
  len := by
    rw [remove_len, wf.len]
    cases found : (self.remove pn).1 with
    | some packet =>
      have sizes := (remove_parts found).split.length_eq
      simp only [List.length_append, List.length_singleton] at sizes
      simp only [Option.toList_some, List.length_singleton]
      omega
    | none =>
      -- No packet has the number, so the filter keeps them all.
      have absent := remove_eq_none_iff.mp found
      rw [iter_remove, List.filter_eq_self.mpr]
      · rfl
      · intro entry member
        have other : entry.1 ≠ pn := fun same => absent entry.2 (same ▸ member)
        simpa using other
  front := by
    unfold UnackedWindow.remove
    split
    · exact wf.front
    · dsimp only
      split
      · exact popFront_head _ _
      · exact wf.front

/-- A packet stored in the place of another leaves as many as there were. -/
theorem slots_set_length {basePn idx : Nat} {deque : List (Option UnackedPacket)}
    {packet : UnackedPacket} (slot : deque[idx]? = some (some packet)) (changed : UnackedPacket) :
    (slots basePn (deque.set idx (some changed))).length = (slots basePn deque).length := by
  induction deque generalizing basePn idx with
  | nil => cases slot
  | cons first rest ih =>
    cases idx with
    | zero =>
      cases slot
      rfl
    | succ idx =>
      -- The first slot stays, and the change is among the rest.
      have inner := @ih (basePn + 1) idx slot
      cases first with
      | none => exact inner
      | some front => exact congrArg (· + 1) inner

/-- The packet to be changed is in its number's slot, and the change is written there. -/
theorem getMut_put {self : UnackedWindow} {pn : Nat} {packet : UnackedPacket}
    {put : UnackedPacket → UnackedWindow} (found : self.getMut pn = some (packet, put))
    (changed : UnackedPacket) :
    put changed = { self with deque := self.deque.set (pn - self.basePn) (some changed) } ∧
      self.basePn ≤ pn ∧ self.deque[pn - self.basePn]? = some (some packet) := by
  unfold getMut at found
  split at found
  · cases found
  · rename_i above
    simp only [Option.map_eq_some_iff, Prod.mk.injEq] at found
    obtain ⟨stored, slot, same, write⟩ := found
    subst same write
    refine ⟨rfl, by omega, ?_⟩
    simpa [List.getD_eq_getElem?_getD, Option.getD_eq_iff] using slot

/-- Changing a stored packet replaces it in the map. -/
theorem map_put {self : UnackedWindow} {pn : Nat} {packet : UnackedPacket}
    {put : UnackedPacket → UnackedWindow} (found : self.getMut pn = some (packet, put))
    (changed : UnackedPacket) : (put changed).map = self.map.insert pn changed := by
  obtain ⟨window, reached, slot⟩ := getMut_put found changed
  obtain ⟨inside, -⟩ := List.getElem?_eq_some_iff.mp slot
  refine SortedMap.ext_find fun key => Option.ext fun stored => ?_
  rw [SortedMap.find?_eq_some_iff, SortedMap.find?_eq_some_iff, SortedMap.mem_entries_insert, window]
  show (key, stored) ∈ slots self.basePn _ ↔ _ ∨ _ ∧ (key, stored) ∈ slots self.basePn self.deque
  rw [mem_slots_iff, mem_slots_iff, List.getElem?_set]
  by_cases same : key = pn
  · subst same
    simp [reached, inside, eq_comm]
  · -- Another number has another slot.
    simp only [Prod.mk.injEq, same, false_and, false_or, ne_eq, not_false_eq_true, true_and]
    refine and_congr_right fun above => ?_
    rw [if_neg (by omega)]

/-- Changing a stored packet keeps the window well formed. -/
theorem WellFormed.put {self : UnackedWindow} {pn : Nat} {packet : UnackedPacket}
    {put : UnackedPacket → UnackedWindow} (wf : self.WellFormed)
    (found : self.getMut pn = some (packet, put)) (changed : UnackedPacket) :
    (put changed).WellFormed := by
  obtain ⟨window, -, slot⟩ := getMut_put found changed
  rw [window]
  refine ⟨wf.len.trans (slots_set_length slot changed).symm, ?_⟩
  -- The first slot holds the packet it held, or the changed one.
  show (self.deque.set (pn - self.basePn) (some changed)).head? ≠ some none
  have front := wf.front
  cases slots : self.deque with
  | nil => nofun
  | cons first rest =>
    rw [slots] at front
    cases pn - self.basePn with
    | zero => nofun
    | succ idx => exact front

/-- Changing a stored packet leaves the window's end where it was. -/
theorem put_extent {self : UnackedWindow} {pn : Nat} {packet : UnackedPacket}
    {put : UnackedPacket → UnackedWindow} (found : self.getMut pn = some (packet, put))
    (changed : UnackedPacket) : (put changed).extent = self.extent := by
  rw [(getMut_put found changed).1]
  exact congrArg (self.basePn + ·) List.length_set

/-- What can be done with a window. -/
inductive Operation where
  | insert (pn : Nat) (packet : UnackedPacket)
  | remove (pn : Nat)
  | clear
  /-- Take the packet with a number by reference and write to it. -/
  | change (pn : Nat) (update : UnackedPacket → UnackedPacket)

namespace Operation

/-- The number an operation stores a packet under. -/
def inserted : Operation → Option Nat
  | insert pn _ => some pn
  | _ => none

/-- Perform an operation on a window; the answer is the packet it found. -/
def perform : Operation → UnackedWindow → Option UnackedPacket × UnackedWindow
  | insert pn packet, window => (none, window.insert pn packet)
  | remove pn, window => window.remove pn
  | clear, window => (none, window.clear)
  | change pn update, window =>
    match window.getMut pn with
    | some (packet, put) => (some packet, put (update packet))
    | none => (none, window)

/-- What an operation means for a map. -/
def onMap : Operation → SortedMap Nat UnackedPacket → Option UnackedPacket × SortedMap Nat UnackedPacket
  | insert pn packet, map => (none, map.insert pn packet)
  | remove pn, map => (map.find? pn, map.erase pn)
  | clear, _ => (none, .empty)
  | change pn update, map =>
    match map.find? pn with
    | some packet => (some packet, map.insert pn (update packet))
    | none => (none, map)

end Operation

/-- A window stands for a map, and every packet still to be stored comes after its end. -/
structure Represents (operations : List Operation) (window : UnackedWindow)
    (map : SortedMap Nat UnackedPacket) : Prop where
  wellFormed : window.WellFormed
  stands : window.map = map
  later : ∀ pn ∈ operations.filterMap Operation.inserted, window.extent ≤ pn
  increasing : (operations.filterMap Operation.inserted).Pairwise (· < ·)

namespace Represents

variable {op : Operation} {rest : List Operation} {window : UnackedWindow}
  {map : SortedMap Nat UnackedPacket}

/-- An operation that does not move the end leaves the later packets after it. -/
theorem of_extent {after : UnackedWindow} {next : SortedMap Nat UnackedPacket}
    (represents : Represents (op :: rest) window map) (bare : op.inserted = none)
    (wellFormed : after.WellFormed) (stands : after.map = next) (extent : after.extent ≤ window.extent) :
    Represents rest after next := by
  have later := represents.later
  have increasing := represents.increasing
  rw [List.filterMap_cons_none bare] at later increasing
  exact ⟨wellFormed, stands, fun pn member => extent.trans (later pn member), increasing⟩

/-- The window answers as the map does. -/
theorem answer (represents : Represents (op :: rest) window map) :
    (op.perform window).1 = (op.onMap map).1 := by
  obtain ⟨-, rfl, -, -⟩ := represents
  cases op with
  | insert pn packet => rfl
  | remove pn => exact window.remove_fst pn
  | clear => rfl
  | change pn update =>
    simp only [Operation.perform, Operation.onMap, ← getMut_fst]
    cases window.getMut pn <;> rfl

/-- The window stands for the map after the operation, too. -/
theorem next (represents : Represents (op :: rest) window map) :
    Represents rest (op.perform window).2 (op.onMap map).2 := by
  have wf := represents.wellFormed
  obtain rfl := represents.stands
  cases op with
  | insert pn packet =>
    have increasing : (pn :: rest.filterMap Operation.inserted).Pairwise (· < ·) :=
      represents.increasing
    rw [List.pairwise_cons] at increasing
    have past : window.extent ≤ pn := represents.later pn (List.mem_cons_self ..)
    refine ⟨wf.insert packet past, map_insert packet past, fun number member => ?_, increasing.2⟩
    -- The window now ends right after this packet, and later ones have higher numbers.
    have above := increasing.1 number member
    have ends := extent_insert_end packet past
    simp only [Operation.perform]
    omega
  | remove pn =>
    exact represents.of_extent rfl (wf.remove pn) (window.map_remove pn)
      (window.remove_extent pn).le
  | clear => exact represents.of_extent rfl new_wellFormed rfl (Nat.zero_le _)
  | change pn update =>
    have same := window.getMut_fst pn
    simp only [Operation.perform, Operation.onMap, ← same]
    cases found : window.getMut pn with
    | none => exact represents.of_extent rfl wf rfl le_rfl
    | some place =>
      obtain ⟨packet, put⟩ := place
      exact represents.of_extent rfl (wf.put found _) (map_put found _) (put_extent found _).le

end Represents

/-- Windows simulate maps as long as packets are stored under increasing numbers. -/
theorem simulates_map : Refinement.Simulates Operation.perform Operation.onMap Represents :=
  ⟨Represents.answer, Represents.next⟩

/-- A stored number survives the clipping of an acknowledged range to the window. -/
theorem clipped {self : UnackedWindow} {entry : Nat × UnackedPacket} (member : entry ∈ self.iter)
    {range : Nat × Nat} (inside : range.1 ≤ entry.1 ∧ entry.1 ≤ range.2) :
    max range.1 self.basePn ≤ entry.1 ∧
      entry.1 ≤ min range.2 (self.basePn + self.deque.length) := by
  have lower : self.basePn ≤ entry.1 := le_of_mem_slots member
  have upper : entry.1 < self.basePn + self.deque.length := lt_extent_of_mem member
  exact ⟨max_le inside.1 lower, le_min inside.2 upper.le⟩

/--
Whatever is stored under increasing numbers, removed, changed or cleared, the window is the map.

Every stored number lies within the slots, so an acknowledged range loses none when it is clipped.
-/
theorem refines_map (operations : List Operation)
    (increasing : (operations.filterMap Operation.inserted).Pairwise (· < ·)) :
    let (answers, window) := Refinement.run Operation.perform operations new
    let (expected, map) := Refinement.run Operation.onMap operations .empty
    answers = expected ∧ window.iter = map.entries ∧
      (∀ pn, (window.getMut pn).map Prod.fst = map.find? pn) ∧
      (window.iter.Pairwise fun left right => left.1 < right.1) ∧
      window.len = map.entries.length ∧ window.deque.head? ≠ some none ∧
      (∀ entry ∈ window.iter,
        window.basePn ≤ entry.1 ∧ entry.1 < window.basePn + window.deque.length) ∧
      (∀ entry ∈ window.iter, ∀ range : Nat × Nat, range.1 ≤ entry.1 → entry.1 ≤ range.2 →
        max range.1 window.basePn ≤ entry.1 ∧
          entry.1 ≤ min range.2 (window.basePn + window.deque.length)) := by
  have start : Represents operations new .empty :=
    ⟨new_wellFormed, rfl, fun _ _ => Nat.zero_le _, increasing⟩
  obtain ⟨answers, wellFormed, stands, -, -⟩ := simulates_map.run start
  dsimp only
  generalize Refinement.run Operation.perform operations new = run at *
  rw [← stands]
  exact ⟨answers, rfl, run.2.getMut_fst, run.2.iter_sorted, wellFormed.len, wellFormed.front,
    fun entry member => ⟨le_of_mem_slots member, lt_extent_of_mem member⟩,
    fun entry member range first last => clipped member ⟨first, last⟩⟩

/-- Two packets with a gap between them, the first removed: the window starts at the second. -/
theorem refines_map_gap :
    let packet : UnackedPacket := ⟨.close, 0, 0, false, 50⟩
    let operations := [.insert 3 packet, .insert 6 packet, .remove 3, .remove 4,
      .change 6 fun found => { found with retries := found.retries + 1 }]
    (Refinement.run Operation.perform operations new).1 =
        (Refinement.run Operation.onMap operations .empty).1 ∧
      (Refinement.run Operation.perform operations new).2 =
        ⟨6, [some { packet with retries := 1 }], 1⟩ := by
  intro packet operations
  exact ⟨(refines_map operations (by decide)).1, by decide⟩

end UnackedWindow

end Zetta
