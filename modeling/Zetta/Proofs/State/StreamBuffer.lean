import Mathlib.Order.MinMax
import Zetta.State.StreamBuffer
import Zetta.Lib.Intervals

/-! Laws of the receive buffer: what it covers, which bytes it holds, and its invariant. -/

namespace Zetta
namespace StreamReceiveBuffer

open Intervals

/-- A stream position that some recorded range holds. -/
def Covered (self : StreamReceiveBuffer) (position : Nat) : Prop :=
  Covers self.receivedRanges.entries position

/-- The byte stored in the cell of a stream position. -/
def byteAt (self : StreamReceiveBuffer) (position : Nat) : Option UInt8 :=
  self.buffer[position % self.capacity]?

/-- The invariant of a buffer that is only written at or above its read head. -/
structure WellFormed (held : StreamReceiveBuffer) : Prop where
  /-- A gap of at least one byte separates any two ranges. -/
  separated : Separated held.receivedRanges.entries
  /-- Every range lies between the two heads. -/
  between : ∀ range ∈ held.receivedRanges.entries,
    held.readHead ≤ range.1 ∧ range.2 ≤ held.writeHead
  /-- The heads stay in order, one window apart at most. -/
  heads : held.readHead ≤ held.writeHead ∧ held.writeHead ≤ held.readHead + held.capacity
  /-- The memory is the whole capacity, or nothing was ever stored. -/
  allocated : held.buffer.length = held.capacity ∨
    (held.buffer = [] ∧ held.receivedRanges.entries = [])

/-- A fresh buffer satisfies the invariant. -/
theorem new_wellFormed (capacity : Nat) : (new capacity).WellFormed where
  separated := ⟨by simp [new], by simp [new]⟩
  between := by simp [new]
  heads := by simp [new]
  allocated := by simp [new]

/-- A covered position lies inside the current window. -/
theorem WellFormed.window {self : StreamReceiveBuffer} (wf : self.WellFormed) {position : Nat}
    (covered : self.Covered position) :
    self.readHead ≤ position ∧ position < self.readHead + self.capacity := by
  obtain ⟨range, member, lower, upper⟩ := covered
  have bounds := wf.between range member
  have heads := wf.heads
  omega

/-- The touching ranges are the stored ones that overlap or share an end. -/
theorem mem_touching (self : StreamReceiveBuffer) (start stop : Nat) (range : Nat × Nat) :
    range ∈ self.touching start stop ↔
      range ∈ self.receivedRanges.entries ∧ Touches start stop range := by
  simp [touching, Touches]

/-- The folds over the touching ranges compute their join with the new range. -/
theorem merged_touching (self : StreamReceiveBuffer) (start stop : Nat) :
    Merged self.receivedRanges.entries start stop
      ((self.touching start stop).foldl (fun least range => min least range.1) start)
      ((self.touching start stop).foldl (fun greatest range => max greatest range.2) stop) := by
  -- Both folds are selections: the minimum for the order, the maximum for its converse.
  obtain ⟨low, lows, lowSource⟩ := foldl_select (· ≤ ·) min Prod.fst le_refl (fun _ _ _ => le_trans)
    min_le_left min_le_right min_choice (self.touching start stop) start
  obtain ⟨high, highs, highSource⟩ := foldl_select (· ≥ ·) max Prod.snd le_refl
    (fun _ _ _ first second => le_trans second first)
    le_max_left le_max_right max_choice (self.touching start stop) stop
  refine ⟨⟨low, fun range member touches => ?_⟩, ⟨high, fun range member touches => ?_⟩, ?_, ?_⟩
  · exact lows range ((self.mem_touching start stop range).mpr ⟨member, touches⟩)
  · exact highs range ((self.mem_touching start stop range).mpr ⟨member, touches⟩)
  · refine lowSource.imp_right fun ⟨range, member, same⟩ => ?_
    obtain ⟨stored, touches⟩ := (self.mem_touching start stop range).mp member
    exact ⟨range, stored, touches, same⟩
  · refine highSource.imp_right fun ⟨range, member, same⟩ => ?_
    obtain ⟨stored, touches⟩ := (self.mem_touching start stop range).mp member
    exact ⟨range, stored, touches, same⟩

/--
A range at or after the end that the join reaches was touching already.

The source merges it a second time; on separated ranges that changes nothing.
-/
theorem following_touches {ranges : List (Nat × Nat)} {start stop low high : Nat}
    (separated : Separated ranges) (merged : Merged ranges start stop low high)
    (proper : start < stop) {range : Nat × Nat} (member : range ∈ ranges)
    (after : stop ≤ range.1) (reached : range.1 ≤ high) : Touches start stop range := by
  have size := separated.nonempty range member
  refine ⟨?_, by omega⟩
  rcases merged.highSource with same | ⟨other, otherMember, touches, same⟩
  · omega
  · -- The range that gave the high end starts by the stop, so it is this one or ends before it.
    have bound := touches.1
    have otherSize := separated.nonempty other otherMember
    rcases separated.apart range member other otherMember with rfl | order | order
    · exact bound
    · omega
    · omega

/-- The join takes no key that an untouched range still holds. -/
theorem untouched_key_ne {ranges : List (Nat × Nat)} {start stop low high : Nat}
    (separated : Separated ranges) (merged : Merged ranges start stop low high)
    (proper : start < stop) {range : Nat × Nat} (member : range ∈ ranges)
    (untouched : ¬ Touches start stop range) : range.1 ≠ low := by
  have size := separated.nonempty range member
  have low_le := merged.lowest.1
  have high_ge := merged.highest.1
  rcases merged.apart separated member untouched with before | after
  · omega
  · omega

/-- Inserting the join after erasing the touching keys leaves it with the untouched ranges. -/
theorem mem_insert_join {self : StreamReceiveBuffer} {start stop low high : Nat}
    {removed : List Nat} (separated : Separated self.receivedRanges.entries)
    (proper : start < stop) (merged : Merged self.receivedRanges.entries start stop low high)
    (keys : ∀ key, key ∈ removed ↔
      ∃ range ∈ self.receivedRanges.entries, Touches start stop range ∧ range.1 = key)
    (range : Nat × Nat) :
    range ∈ ((removed.foldl SortedMap.erase self.receivedRanges).insert low high).entries ↔
      range = (low, high) ∨
        (range ∈ self.receivedRanges.entries ∧ ¬ Touches start stop range) := by
  rw [SortedMap.mem_entries_insert, SortedMap.mem_entries_erase_where (Touches start stop) keys]
  -- The insertion hides no kept range, since none of them has the join's key.
  refine or_congr_right (and_iff_right_of_imp fun ⟨member, untouched⟩ => ?_)
  exact untouched_key_ne separated merged proper member untouched

/-- Recording a range replaces the ranges it touches by their join with it. -/
theorem addRange_entries {self : StreamReceiveBuffer} {start stop : Nat}
    (separated : Separated self.receivedRanges.entries) (proper : start < stop) :
    ∃ low high, Merged self.receivedRanges.entries start stop low high ∧
      ∀ range, range ∈ (self.addRange start stop).2.receivedRanges.entries ↔
        range = (low, high) ∨
          (range ∈ self.receivedRanges.entries ∧ ¬ Touches start stop range) := by
  have merged := self.merged_touching start stop
  refine ⟨_, _, merged, ?_⟩
  simp only [addRange]
  cases located : self.receivedRanges.entries.find? fun range => decide (stop ≤ range.1) with
  | none => exact mem_insert_join separated proper merged (by simp [touching, Touches, and_assoc])
  | some following =>
    have member := List.mem_of_find?_eq_some located
    have after : stop ≤ following.1 := by simpa using List.find?_some located
    by_cases reached : following.1 ≤
        (self.touching start stop).foldl (fun greatest range => max greatest range.2) stop
    · -- The following range was merged already, so its end is no news.
      have touches := following_touches separated merged proper member after reached
      simp only [reached, if_true, max_eq_left (merged.highest.2 following member touches)]
      refine mem_insert_join separated proper merged fun key => ?_
      simp only [List.mem_append, List.mem_map, List.mem_singleton, mem_touching]
      constructor
      · rintro (⟨range, ⟨stored, touched⟩, same⟩ | rfl)
        · exact ⟨range, stored, touched, same⟩
        · exact ⟨following, member, touches, rfl⟩
      · rintro ⟨range, stored, touched, same⟩
        exact .inl ⟨range, ⟨stored, touched⟩, same⟩
    · simp only [reached, if_false]
      exact mem_insert_join separated proper merged (by simp [touching, Touches, and_assoc])

/-- The memory a write works on always has the full capacity. -/
theorem WellFormed.memory_length {self : StreamReceiveBuffer} (wf : self.WellFormed) :
    self.memory.length = self.capacity := by
  unfold memory
  split
  · simp
  · -- A buffer with cells is not the unallocated one.
    rename_i present
    rcases wf.allocated with full | ⟨blank, -⟩
    · exact full
    · simp [blank] at present

/-- A covered position was stored, so the memory holds its byte. -/
theorem WellFormed.memory_byteAt {self : StreamReceiveBuffer} (wf : self.WellFormed)
    {position : Nat} (covered : self.Covered position) :
    self.memory[position % self.capacity]? = self.byteAt position := by
  obtain ⟨range, member, -, -⟩ := id covered
  have window := wf.window covered
  rcases wf.allocated with full | ⟨-, blank⟩
  · -- The capacity is positive, so allocated memory is not empty.
    have present : self.buffer.isEmpty = false := by
      rw [List.isEmpty_eq_false_iff, ← List.length_pos_iff]
      omega
    simp [memory, byteAt, present]
  · simp [blank] at member

section Store

variable {self : StreamReceiveBuffer} {offset : Nat} {data : Bytes} (wf : self.WellFormed)
  (above : self.readHead ≤ offset) (some : data ≠ [])
  (within : offset + data.length ≤ self.readHead + self.capacity)

include wf above some within

/-- The wrapping copy loop writes the data in at most two chunks. -/
theorem store_buffer :
    (self.store offset data).buffer = Ring.place self.memory (offset % self.capacity) data := by
  have size := wf.memory_length
  have positive := List.length_pos_iff.mpr some
  have start : offset % self.capacity < self.capacity := Nat.mod_lt _ (by omega)
  exact Ring.storeLoop_eq_place (by omega) (by omega)

/-- A write keeps the memory at the full capacity. -/
theorem store_length : (self.store offset data).buffer.length = self.capacity := by
  have size := wf.memory_length
  have positive := List.length_pos_iff.mpr some
  have start : offset % self.capacity < self.capacity := Nat.mod_lt _ (by omega)
  rw [store_buffer wf above some within, Ring.place_length (by omega) (by omega), size]

/-- Positions of the window read the written data, and the memory elsewhere. -/
theorem store_byteAt {position : Nat} (lower : self.readHead ≤ position)
    (upper : position < self.readHead + self.capacity) :
    (self.store offset data).byteAt position =
      if offset ≤ position ∧ position < offset + data.length then data[position - offset]?
      else self.memory[position % self.capacity]? := by
  have size := wf.memory_length
  have fits : offset + data.length ≤ self.readHead + self.memory.length := by omega
  have inside : position < self.readHead + self.memory.length := by omega
  have placed := Ring.place_window (by omega) above fits lower inside
  unfold byteAt
  rw [store_buffer wf above some within]
  rw [size] at placed
  exact placed

end Store

/-- Recording a range inside the heads keeps the invariant. -/
theorem addRange_wellFormed {self : StreamReceiveBuffer} {start stop : Nat}
    (wf : self.WellFormed) (full : self.buffer.length = self.capacity) (proper : start < stop)
    (above : self.readHead ≤ start) (below : stop ≤ self.writeHead) :
    (self.addRange start stop).2.WellFormed := by
  obtain ⟨low, high, merged, entries⟩ := addRange_entries wf.separated proper
  refine ⟨separated_merge merged wf.separated proper entries, fun range member => ?_, wf.heads,
    .inl full⟩
  rcases (entries range).mp member with rfl | ⟨kept, -⟩
  · -- Each end of the join is an end of the new range or of a stored one.
    constructor
    · rcases merged.lowSource with same | ⟨other, stored, -, same⟩
      · exact same ▸ above
      · exact same ▸ (wf.between other stored).1
    · rcases merged.highSource with same | ⟨other, stored, -, same⟩
      · exact same ▸ below
      · exact same ▸ (wf.between other stored).2
  · exact wf.between range kept

/-- Recording a range adds exactly its positions to the covered ones. -/
theorem addRange_covered {self : StreamReceiveBuffer} {start stop : Nat}
    (wf : self.WellFormed) (proper : start < stop) (position : Nat) :
    (self.addRange start stop).2.Covered position ↔
      self.Covered position ∨ (start ≤ position ∧ position < stop) := by
  obtain ⟨low, high, merged, entries⟩ := addRange_entries wf.separated proper
  exact covers_merge merged entries position

/-- What an accepted write does: the new positions are covered and hold the data. -/
structure Written (before after : StreamReceiveBuffer) (offset : Nat) (data : Bytes) : Prop where
  wellFormed : after.WellFormed
  readHead : after.readHead = before.readHead
  capacity : after.capacity = before.capacity
  covered : ∀ position, after.Covered position ↔
    before.Covered position ∨ (offset ≤ position ∧ position < offset + data.length)
  fresh : ∀ position, offset ≤ position → position < offset + data.length →
    after.byteAt position = data[position - offset]?
  kept : ∀ position, before.Covered position →
    ¬ (offset ≤ position ∧ position < offset + data.length) →
    after.byteAt position = before.byteAt position

/-- Every accepted write at or above the read head stores its data and loses none. -/
theorem write_written {self after : StreamReceiveBuffer} {offset added : Nat} {data : Bytes}
    (wf : self.WellFormed) (above : self.readHead ≤ offset)
    (accepted : self.write offset data = some (added, after)) :
    Written self after offset data := by
  unfold write at accepted
  split at accepted
  · -- Empty data is accepted anywhere and changes nothing.
    rename_i blank
    have blank : data = [] := by simpa using blank
    cases accepted
    subst blank
    refine ⟨wf, rfl, rfl, fun position => ?_, fun position lower upper => ?_, fun _ _ _ => rfl⟩
    · simp only [List.length_nil]
      constructor
      · exact .inl
      · rintro (held | impossible)
        · exact held
        · omega
    · simp only [List.length_nil] at upper
      omega
  · rename_i present
    have present : data ≠ [] := by simpa using present
    have positive := List.length_pos_iff.mpr present
    split at accepted
    · cases accepted
    · rename_i endOffset fits
      obtain ⟨rfl, -⟩ := checkedAdd_eq_some_iff.mp fits
      split at accepted
      · cases accepted
      · rename_i roomy
        have within : offset + data.length ≤ self.readHead + self.capacity :=
          le_trans (not_lt.mp roomy) (wrappingAdd_le _ _)
        have full := store_length wf above present within
        have heads := wf.heads
        -- Storing the bytes first moves only the write head.
        have stored : (self.store offset data).WellFormed :=
          ⟨wf.separated, fun range member => ⟨(wf.between range member).1,
            le_trans (wf.between range member).2 (le_max_left _ _)⟩,
            ⟨le_trans heads.1 (le_max_left _ _), max_le heads.2 within⟩, .inl full⟩
        have same := congrArg Prod.snd (Option.some.inj accepted)
        simp only at same
        subst same
        refine ⟨addRange_wellFormed stored full (by omega) above (le_max_right _ _), rfl, rfl,
          addRange_covered stored (by omega), fun position lower upper => ?_,
          fun position held outside => ?_⟩
        · refine (store_byteAt wf above present within (by omega) (by omega)).trans ?_
          rw [if_pos ⟨lower, upper⟩]
        · have window := wf.window held
          refine (store_byteAt wf above present within window.1 window.2).trans ?_
          rw [if_neg outside, wf.memory_byteAt held]

/-- Dropping stale ranges keeps exactly those that reach past the read head. -/
theorem mem_dropStale (self : StreamReceiveBuffer) (range : Nat × Nat) :
    range ∈ self.dropStale.receivedRanges.entries ↔
      range ∈ self.receivedRanges.entries ∧
        ¬ (range.1 ≤ self.readHead ∧ range.2 ≤ self.readHead) := by
  unfold dropStale
  rw [SortedMap.mem_entries_erase_where
    fun range => range.1 ≤ self.readHead ∧ range.2 ≤ self.readHead]
  simp [and_assoc]

/-- Trimming changes nothing when no range starts before the read head. -/
theorem trimFirst_of_above {self : StreamReceiveBuffer}
    (above : ∀ range ∈ self.receivedRanges.entries, self.readHead ≤ range.1) :
    self.trimFirst = self := by
  unfold trimFirst
  split
  · rename_i range head
    have bound := above range (List.mem_of_head? head)
    rw [if_neg (by omega)]
  · rfl

/-- What a successful read does: it hands out the covered run at the read head. -/
structure Drained (before after : StreamReceiveBuffer) (chunk : Bytes) : Prop where
  wellFormed : after.WellFormed
  some : chunk ≠ []
  readHead : after.readHead = before.readHead + chunk.length
  capacity : after.capacity = before.capacity
  handed : ∀ index, index < chunk.length → before.Covered (before.readHead + index) ∧
    chunk[index]? = before.byteAt (before.readHead + index)
  covered : ∀ position, after.Covered position ↔
    before.Covered position ∧ after.readHead ≤ position
  kept : ∀ position, after.byteAt position = before.byteAt position
  exhausted : ¬ after.Covered after.readHead

/-- A range that covers the read head starts there and is the first one. -/
theorem WellFormed.head_of_covered {self : StreamReceiveBuffer} (wf : self.WellFormed)
    (covered : self.Covered self.readHead) :
    ∃ first, self.receivedRanges.entries.head? = some first ∧
      first.1 = self.readHead ∧ self.readHead < first.2 := by
  obtain ⟨range, member, lower, upper⟩ := covered
  cases head : self.receivedRanges.entries.head? with
  | none => simp [List.head?_eq_none_iff.mp head] at member
  | some first =>
    have least := (wf.between first (List.mem_of_head? head)).1
    rcases SortedMap.head_least head member with rfl | before
    · exact ⟨range, rfl, by omega, upper⟩
    · -- No range starts below the read head, so none comes before this one.
      omega

/-- A covered read head means that the memory was allocated in full. -/
theorem WellFormed.full_of_member {self : StreamReceiveBuffer} (wf : self.WellFormed)
    {range : Nat × Nat} (member : range ∈ self.receivedRanges.entries) :
    self.buffer.length = self.capacity := by
  rcases wf.allocated with full | ⟨-, blank⟩
  · exact full
  · simp [blank] at member

/-- A read finds nothing exactly when the byte at the read head is missing. -/
theorem readContiguous_eq_none_iff {self : StreamReceiveBuffer} (wf : self.WellFormed) :
    self.readContiguous = none ↔ ¬ self.Covered self.readHead := by
  constructor
  · intro nothing covered
    obtain ⟨first, head, start, stop⟩ := wf.head_of_covered covered
    have window := wf.window covered
    have full := wf.full_of_member (List.mem_of_head? head)
    have present : self.buffer.isEmpty = false := by
      rw [List.isEmpty_eq_false_iff, ← List.length_pos_iff]
      omega
    simp [readContiguous, present, head, start, stop] at nothing
  · intro missing
    unfold readContiguous
    split
    · rfl
    · split
      · rfl
      · rename_i first head
        rw [if_neg]
        -- A first range around the read head would cover it.
        exact fun around => missing ⟨first, List.mem_of_head? head, around⟩

/-- The buffer left by handing out its first range. -/
def afterFirst (self : StreamReceiveBuffer) (first : Nat × Nat) : StreamReceiveBuffer :=
  ({ self with readHead := first.2 } : StreamReceiveBuffer).dropStale

section FirstRange

variable {self : StreamReceiveBuffer} {first : Nat × Nat} (wf : self.WellFormed)
  (head : self.receivedRanges.entries.head? = some first) (start : first.1 = self.readHead)

include wf head start

/-- After the first range nothing starts at or before its end. -/
theorem later_of_ne_first {range : Nat × Nat} (stored : range ∈ self.receivedRanges.entries)
    (different : range ≠ first) : first.2 < range.1 := by
  have nonempty := wf.separated.nonempty range stored
  have lower := (wf.between range stored).1
  rcases wf.separated.apart first (List.mem_of_head? head) range stored with same | order | order
  · exact absurd same.symm different
  · exact order
  · omega

/-- Handing out the first range keeps every other one. -/
theorem mem_afterFirst (range : Nat × Nat) :
    range ∈ (self.afterFirst first).receivedRanges.entries ↔
      range ∈ self.receivedRanges.entries ∧ range ≠ first := by
  have nonempty := wf.separated.nonempty first (List.mem_of_head? head)
  unfold afterFirst
  rw [mem_dropStale]
  refine and_congr_right fun stored => ⟨fun fresh same => ?_, fun different stale => ?_⟩
  · subst same
    exact fresh ⟨nonempty.le, le_refl _⟩
  · have order := later_of_ne_first wf head start stored different
    have bound : range.1 ≤ first.2 := stale.1
    omega

/-- Handing out the first range keeps the invariant. -/
theorem afterFirst_wellFormed : (self.afterFirst first).WellFormed := by
  have member := List.mem_of_head? head
  have bounds := wf.between first member
  have nonempty := wf.separated.nonempty first member
  have heads := wf.heads
  have entries := mem_afterFirst wf head start
  refine ⟨⟨fun range kept => ?_, fun left leftKept right rightKept => ?_⟩, fun range kept => ?_,
    ?_, .inl (wf.full_of_member member)⟩
  · exact wf.separated.nonempty range ((entries range).mp kept).1
  · exact wf.separated.apart left ((entries left).mp leftKept).1 right
      ((entries right).mp rightKept).1
  · obtain ⟨stored, different⟩ := (entries range).mp kept
    exact ⟨(later_of_ne_first wf head start stored different).le, (wf.between range stored).2⟩
  · -- The read head moves up to a range end, which the write head already passed.
    show first.2 ≤ self.writeHead ∧ self.writeHead ≤ first.2 + self.capacity
    omega

/-- Exactly the positions past the first range stay covered. -/
theorem afterFirst_covered (position : Nat) :
    (self.afterFirst first).Covered position ↔ self.Covered position ∧ first.2 ≤ position := by
  have entries := mem_afterFirst wf head start
  constructor
  · intro ⟨range, kept, lower, upper⟩
    obtain ⟨stored, different⟩ := (entries range).mp kept
    have order := later_of_ne_first wf head start stored different
    exact ⟨⟨range, stored, lower, upper⟩, by omega⟩
  · intro ⟨⟨range, stored, lower, upper⟩, past⟩
    refine ⟨range, (entries range).mpr ⟨stored, fun same => ?_⟩, lower, upper⟩
    subst same
    omega

/-- A read at the first range loads its bytes in order. -/
theorem readContiguous_eq :
    self.readContiguous = some
      (Ring.linear self.buffer (self.readHead % self.capacity) (first.2 - self.readHead),
        self.afterFirst first) := by
  have member := List.mem_of_head? head
  have full := wf.full_of_member member
  have bounds := wf.between first member
  have nonempty := wf.separated.nonempty first member
  have heads := wf.heads
  have present : self.buffer.isEmpty = false := by
    rw [List.isEmpty_eq_false_iff, ← List.length_pos_iff]
    omega
  have around : first.1 ≤ self.readHead ∧ self.readHead < first.2 := by omega
  -- Nothing starts before the new read head, so the final trim does nothing.
  have untrimmed : (self.afterFirst first).trimFirst = self.afterFirst first :=
    trimFirst_of_above fun range kept =>
      ((afterFirst_wellFormed wf head start).between range kept).1
  have loaded : Ring.load self.buffer (self.readHead % self.buffer.length)
      ((self.readHead + (first.2 - self.readHead)) % self.buffer.length) =
      Ring.linear self.buffer (self.readHead % self.buffer.length) (first.2 - self.readHead) :=
    Ring.load_eq_linear (by omega) (by omega) (by omega)
  rw [full] at loaded
  unfold afterFirst at untrimmed ⊢
  simp only [readContiguous, present, head, Bool.false_eq_true, if_false, if_pos around, loaded,
    untrimmed]

end FirstRange

/-- Every successful read hands out the whole covered run and keeps the rest. -/
theorem readContiguous_drained {self after : StreamReceiveBuffer} {chunk : Bytes}
    (wf : self.WellFormed) (handed : self.readContiguous = some (chunk, after)) :
    Drained self after chunk := by
  have covered : self.Covered self.readHead := by
    by_contra missing
    rw [(readContiguous_eq_none_iff wf).mpr missing] at handed
    cases handed
  obtain ⟨first, head, start, stop⟩ := wf.head_of_covered covered
  have member := List.mem_of_head? head
  have full := wf.full_of_member member
  have bounds := wf.between first member
  have heads := wf.heads
  rw [readContiguous_eq wf head start] at handed
  cases handed
  have inside : self.readHead % self.capacity < self.buffer.length := by
    rw [full]
    exact Nat.mod_lt _ (by omega)
  have length := Ring.linear_length inside
    (show first.2 - self.readHead ≤ self.buffer.length by omega)
  have moved : (self.afterFirst first).readHead = first.2 := rfl
  refine ⟨afterFirst_wellFormed wf head start, ?_, ?_, rfl, fun index within => ⟨?_, ?_⟩, ?_,
    fun _ => rfl, ?_⟩
  · rw [← List.length_pos_iff, length]
    omega
  · rw [moved, length]
    omega
  · -- Every handed-out position lies in the first range.
    rw [length] at within
    exact ⟨first, member, by omega, by omega⟩
  · rw [length] at within
    have read : (Ring.linear self.buffer (self.readHead % self.buffer.length)
        (first.2 - self.readHead))[index]? = _ :=
      Ring.linear_get (by omega) (by omega) within
    rw [full] at read
    exact read
  · exact afterFirst_covered wf head start
  · -- The next range starts after a gap, so the read stopped as late as it could.
    intro ⟨range, kept, lower, _⟩
    obtain ⟨stored, different⟩ := (mem_afterFirst wf head start range).mp kept
    have order := later_of_ne_first wf head start stored different
    omega

/-- Growing the buffer keeps what it covers and the bytes it holds there. -/
structure Resized (before after : StreamReceiveBuffer) : Prop where
  wellFormed : after.WellFormed
  readHead : after.readHead = before.readHead
  covered : ∀ position, after.Covered position ↔ before.Covered position
  kept : ∀ position, before.Covered position → after.byteAt position = before.byteAt position

/-- Unread bytes laid out in line and placed in larger cells keep their positions. -/
theorem relaid_get {cells : Bytes} {low count size position : Nat} (some : 0 < count)
    (fits : count ≤ cells.length) (grows : cells.length ≤ size)
    (lower : low ≤ position) (upper : position < low + count) :
    (Ring.place (List.replicate size 0) (low % size)
      (Ring.linear cells (low % cells.length) count))[position % size]? =
        cells[position % cells.length]? := by
  have start : low % cells.length < cells.length := Nat.mod_lt _ (by omega)
  have length := Ring.linear_length start fits
  have zeros : (List.replicate size (0 : UInt8)).length = size := List.length_replicate
  have placed := Ring.place_window (by omega) (le_refl low)
    (show low + (Ring.linear cells (low % cells.length) count).length ≤
      low + (List.replicate size (0 : UInt8)).length by omega) lower (by omega)
  rw [zeros, length, if_pos ⟨lower, upper⟩] at placed
  -- The position is found in line at its distance from the read head.
  rw [placed, Ring.linear_get (by omega) fits (by omega)]
  congr 2
  omega

/-- A read leaves the memory as it is. -/
theorem readContiguous_buffer {self after : StreamReceiveBuffer} {chunk : Bytes}
    (handed : self.readContiguous = some (chunk, after)) : after.buffer = self.buffer := by
  have trimmed : ∀ held : StreamReceiveBuffer, held.trimFirst.buffer = held.buffer := by
    intro held
    unfold trimFirst
    split
    · split <;> rfl
    · rfl
  unfold readContiguous at handed
  split at handed
  · cases handed
  split at handed
  · cases handed
  split at handed
  · cases handed
    exact trimmed _
  · cases handed

/-- Memory that was never allocated is not allocated by a change of capacity. -/
theorem resize_unallocated {self : StreamReceiveBuffer} (newCapacity : Nat)
    (blank : self.allocatedSize = 0) : (self.resize newCapacity).allocatedSize = 0 := by
  have empty : self.buffer = [] := List.length_eq_zero_iff.mp blank
  unfold resize
  split
  · exact blank
  · rw [if_pos (by simp [empty])]
    exact blank

/-- A buffer holds no memory, or as much as its capacity says. -/
theorem WellFormed.allocatedSize_eq {self : StreamReceiveBuffer} (wf : self.WellFormed) :
    self.allocatedSize = 0 ∨ self.allocatedSize = self.capacity := by
  rcases wf.allocated with full | ⟨blank, -⟩
  · exact .inr full
  · exact .inl (by rw [allocatedSize, blank]; rfl)

/-- A resized buffer has the capacity asked for. -/
theorem resize_capacity (self : StreamReceiveBuffer) (newCapacity : Nat) :
    (self.resize newCapacity).capacity = newCapacity := by
  unfold resize
  split
  · rename_i same
    exact same.symm
  · split <;> rfl

/-- A buffer grown to a new capacity moves every unread byte to its new cell. -/
theorem resize_resized {self : StreamReceiveBuffer} {newCapacity : Nat} (wf : self.WellFormed)
    (grows : self.capacity ≤ newCapacity) : Resized self (self.resize newCapacity) := by
  have heads := wf.heads
  unfold resize
  split
  · exact ⟨wf, rfl, fun _ => Iff.rfl, fun _ _ => rfl⟩
  · rename_i different
    split
    · -- Without memory there are no bytes to move.
      rename_i blank
      have blank : self.buffer = [] := by simpa using blank
      have empty : self.receivedRanges.entries = [] := by
        rcases wf.allocated with full | ⟨-, empty⟩
        · -- A buffer of capacity zero has no room for a range.
          by_contra stored
          obtain ⟨range, member⟩ := List.exists_mem_of_ne_nil _ stored
          have nonempty := wf.separated.nonempty range member
          have bounds := wf.between range member
          simp only [blank, List.length_nil] at full
          omega
        · exact empty
      refine ⟨⟨wf.separated, wf.between, ⟨heads.1, ?_⟩, .inr ⟨blank, empty⟩⟩, rfl,
        fun _ => Iff.rfl, fun position ⟨range, member, _⟩ => ?_⟩
      · exact le_trans heads.2 (Nat.add_le_add_left grows _)
      · simp [empty] at member
    · rename_i present
      have full : self.buffer.length = self.capacity := by
        rcases wf.allocated with full | ⟨blank, -⟩
        · exact full
        · simp [blank] at present
      refine ⟨⟨wf.separated, wf.between, ⟨heads.1, ?_⟩, .inl ?_⟩, rfl, fun _ => Iff.rfl,
        fun position covered => ?_⟩
      · exact le_trans heads.2 (Nat.add_le_add_left grows _)
      · show List.length (if _ then _ else _) = newCapacity
        split
        · have start : self.readHead % newCapacity < newCapacity := Nat.mod_lt _ (by omega)
          have old : self.readHead % self.capacity < self.buffer.length := by
            rw [full]
            exact Nat.mod_lt _ (by omega)
          rw [Ring.place_length (by simpa using start)]
          · simp
          · rw [Ring.linear_length old (by omega), List.length_replicate]
            omega
        · simp
      · -- A covered position lies between the heads, so there are bytes to move.
        obtain ⟨range, member, lower, upper⟩ := covered
        have bounds := wf.between range member
        have moved : self.writeHead - self.readHead > 0 := by omega
        have relaid := relaid_get moved (show _ ≤ self.buffer.length by omega)
          (show self.buffer.length ≤ newCapacity by omega)
          (show self.readHead ≤ position by omega) (by omega)
        rw [full] at relaid
        simp only [byteAt, if_pos moved]
        exact relaid

end StreamReceiveBuffer
end Zetta
