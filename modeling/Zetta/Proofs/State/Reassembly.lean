import Zetta.Lib.Refinement
import Zetta.Proofs.State.StreamBuffer

/-! The circular buffer reassembles a stream: it behaves like an unbounded array of written bytes. -/

namespace Zetta

/--
What a receive buffer is for: the bytes handed out, and the writes it accepted, latest first.
-/
structure Assembly where
  capacity : Nat
  delivered : Bytes
  accepted : List (Nat × Bytes)
  deriving DecidableEq

namespace Assembly

/-- Nothing written, nothing handed out. -/
def new (capacity : Nat) : Assembly := ⟨capacity, [], []⟩

/-- The position of the next byte to hand out. -/
def readHead (self : Assembly) : Nat := self.delivered.length

/-- The byte a write puts at a position. -/
def byteOf (write : Nat × Bytes) (position : Nat) : Option UInt8 :=
  if write.1 ≤ position then write.2[position - write.1]? else none

/-- The byte at a position is the one of the last accepted write that covers it. -/
def byte (self : Assembly) (position : Nat) : Option UInt8 :=
  self.accepted.findSome? (byteOf · position)

/-- The written bytes from a position on, up to a number of them. -/
def contiguous (self : Assembly) : Nat → Nat → Bytes
  | 0, _ => []
  | count + 1, position =>
    match self.byte position with
    | some byte => byte :: self.contiguous count (position + 1)
    | none => []

/-- Data fits when it is empty or ends within the capacity after the read head. -/
def Fits (self : Assembly) (offset : Nat) (data : Bytes) : Prop :=
  data = [] ∨ offset + data.length ≤ self.readHead + self.capacity ∧ offset + data.length < u64Size

instance (self : Assembly) (offset : Nat) (data : Bytes) : Decidable (self.Fits offset data) :=
  inferInstanceAs (Decidable (_ ∨ _))

/-- The written run at a position is the one that ends where a byte is missing. -/
theorem contiguous_eq {self : Assembly} {chunk : Bytes} {count position : Nat}
    (bytes : ∀ index, index < chunk.length → chunk[index]? = self.byte (position + index))
    (room : chunk.length ≤ count) (missing : self.byte (position + chunk.length) = none) :
    self.contiguous count position = chunk := by
  induction chunk generalizing count position with
  | nil =>
    cases count with
    | zero => rfl
    | succ count =>
      rw [List.length_nil, Nat.add_zero] at missing
      simp [contiguous, missing]
  | cons first rest ih =>
    cases count with
    | zero => simp at room
    | succ count =>
      have head : self.byte position = some first := by
        simpa using (bytes 0 (by simp)).symm
      -- The rest of the run starts one position later.
      have tail : self.contiguous count (position + 1) = rest := by
        refine ih (fun index inside => ?_) (by simpa using room) ?_
        · have later := bytes (index + 1) (by simpa using inside)
          rw [List.getElem?_cons_succ] at later
          rw [later]
          congr 1
          omega
        · rw [← missing]
          congr 1
          simp only [List.length_cons]
          omega
      simp [contiguous, head, tail]

end Assembly

namespace StreamReceiveBuffer

/-- What can be done with a receive buffer. -/
inductive Operation where
  | write (offset : Nat) (data : Bytes)
  | readContiguous
  | resize (newCapacity : Nat)

/-- What an operation answers. -/
inductive Answer where
  | written (accepted : Bool)
  | chunk (data : Option Bytes)
  | resized
  deriving DecidableEq

namespace Operation

/-- Perform an operation on a buffer; a refused write leaves it as it was. -/
def perform : Operation → StreamReceiveBuffer → Answer × StreamReceiveBuffer
  | write offset data, buffer =>
    match buffer.write offset data with
    | some (_, after) => (.written true, after)
    | none => (.written false, buffer)
  | readContiguous, buffer =>
    match buffer.readContiguous with
    | some (chunk, after) => (.chunk (some chunk), after)
    | none => (.chunk none, buffer)
  | resize newCapacity, buffer => (.resized, buffer.resize newCapacity)

/-- What an operation means for the stream. -/
def onAssembly : Operation → Assembly → Answer × Assembly
  | write offset data, assembly =>
    if assembly.Fits offset data then
      (.written true, { assembly with accepted := (offset, data) :: assembly.accepted })
    else (.written false, assembly)
  | readContiguous, assembly =>
    match assembly.contiguous assembly.capacity assembly.readHead with
    | [] => (.chunk none, assembly)
    | chunk => (.chunk (some chunk), { assembly with delivered := assembly.delivered ++ chunk })
  | resize newCapacity, assembly => (.resized, { assembly with capacity := newCapacity })

/-- Writes start at or after the read head, within 64 bits, and the capacity never shrinks. -/
def Allowed : Operation → Assembly → Prop
  | write offset _, assembly =>
    assembly.readHead ≤ offset ∧ assembly.readHead + assembly.capacity < u64Size
  | readContiguous, _ => True
  | resize newCapacity, assembly => assembly.capacity ≤ newCapacity

instance : ∀ (op : Operation) (assembly : Assembly), Decidable (op.Allowed assembly)
  | write .., _ => inferInstanceAs (Decidable (_ ∧ _))
  | readContiguous, _ => inferInstanceAs (Decidable True)
  | resize .., _ => inferInstanceAs (Decidable (_ ≤ _))

end Operation

/-- A write is refused exactly when it has bytes that end past the window or past 64 bits. -/
theorem write_eq_none_iff {self : StreamReceiveBuffer}
    (room : self.readHead + self.capacity < u64Size) (offset : Nat) (data : Bytes) :
    self.write offset data = none ↔ data ≠ [] ∧
      (self.readHead + self.capacity < offset + data.length ∨ u64Size ≤ offset + data.length) := by
  have exact : wrappingAdd self.readHead self.capacity = self.readHead + self.capacity :=
    Nat.mod_eq_of_lt room
  unfold write checkedAdd
  rw [exact]
  by_cases blank : data = []
  · simp [blank]
  · simp only [List.isEmpty_iff, blank, if_false, ne_eq, not_false_eq_true, true_and]
    by_cases fits : offset + data.length < u64Size
    · rw [if_pos fits]
      simp only [gt_iff_lt, ite_eq_left_iff, reduceCtorEq, imp_false, not_not]
      omega
    · rw [if_neg fits]
      simp only [true_iff]
      omega

/-- A covered position holds a byte. -/
theorem WellFormed.byteAt_of_covered {self : StreamReceiveBuffer} (wf : self.WellFormed)
    {position : Nat} (covered : self.Covered position) : ∃ byte, self.byteAt position = some byte := by
  have window := wf.window covered
  obtain ⟨range, member, -, -⟩ := covered
  have inside : position % self.capacity < self.buffer.length := by
    rw [wf.full_of_member member]
    exact Nat.mod_lt _ (by omega)
  exact ⟨_, List.getElem?_eq_getElem inside⟩

/-- A buffer stands for a stream, with operations still to come that are allowed on it. -/
structure Represents (operations : List Operation) (buffer : StreamReceiveBuffer)
    (assembly : Assembly) : Prop where
  wellFormed : buffer.WellFormed
  capacity : buffer.capacity = assembly.capacity
  readHead : buffer.readHead = assembly.readHead
  /-- From the read head on, the covered positions hold the bytes written last. -/
  unread : ∀ position byte, assembly.readHead ≤ position →
    (assembly.byte position = some byte ↔
      buffer.Covered position ∧ buffer.byteAt position = some byte)
  /-- Below it, those bytes were handed out. -/
  delivered : ∀ position, position < assembly.readHead →
    assembly.delivered[position]? = assembly.byte position
  permitted : Refinement.Permitted Operation.onAssembly Operation.Allowed operations assembly

namespace Represents

variable {rest : List Operation} {buffer after : StreamReceiveBuffer} {assembly : Assembly}

/-- From the read head on, a byte is missing exactly where the buffer covers nothing. -/
theorem byte_eq_none_iff {operations : List Operation}
    (represents : Represents operations buffer assembly) {position : Nat}
    (unread : assembly.readHead ≤ position) :
    assembly.byte position = none ↔ ¬ buffer.Covered position := by
  constructor
  · intro missing covered
    obtain ⟨byte, stored⟩ := represents.wellFormed.byteAt_of_covered covered
    rw [(represents.unread position byte unread).mpr ⟨covered, stored⟩] at missing
    cases missing
  · intro uncovered
    refine Option.eq_none_iff_forall_ne_some.mpr fun byte written => uncovered ?_
    exact ((represents.unread position byte unread).mp written).1

/-- A write fits in the stream exactly when the buffer accepts it. -/
theorem fits_iff {offset : Nat} {data : Bytes}
    (represents : Represents (.write offset data :: rest) buffer assembly) :
    assembly.Fits offset data ↔ buffer.write offset data ≠ none := by
  obtain ⟨-, room⟩ := represents.permitted.1
  rw [← represents.readHead, ← represents.capacity] at room
  rw [ne_eq, write_eq_none_iff room, represents.readHead, represents.capacity]
  unfold Assembly.Fits
  constructor
  · rintro (blank | ⟨within, word⟩) ⟨present, past⟩
    · exact present blank
    · omega
  · intro accepted
    by_cases blank : data = []
    · exact .inl blank
    · right
      have inside := not_and.mp accepted blank
      omega

/-- An accepted write is the last one at its positions. -/
theorem written {offset added : Nat} {data : Bytes}
    (represents : Represents (.write offset data :: rest) buffer assembly)
    (accepted : buffer.write offset data = some (added, after))
    (permitted : Refinement.Permitted Operation.onAssembly Operation.Allowed rest
      { assembly with accepted := (offset, data) :: assembly.accepted }) :
    Represents rest after { assembly with accepted := (offset, data) :: assembly.accepted } := by
  obtain ⟨above, -⟩ := represents.permitted.1
  have written := write_written represents.wellFormed (represents.readHead ▸ above) accepted
  have outside {position : Nat} (out : ¬ (offset ≤ position ∧ position < offset + data.length)) :
      Assembly.byteOf (offset, data) position = none := by
    unfold Assembly.byteOf
    split
    · exact List.getElem?_eq_none (by simp only at *; omega)
    · rfl
  refine ⟨written.wellFormed, written.capacity.trans represents.capacity,
    written.readHead.trans represents.readHead, fun position byte unread => ?_,
    fun position read => ?_, permitted⟩
  · show List.findSome? _ ((offset, data) :: assembly.accepted) = some byte ↔ _
    rw [List.findSome?_cons, written.covered]
    by_cases inside : offset ≤ position ∧ position < offset + data.length
    · -- The write covers the position with a byte of its own.
      have fresh := written.fresh position inside.1 inside.2
      have index : position - offset < data.length := by omega
      have own : Assembly.byteOf (offset, data) position = some data[position - offset] := by
        rw [Assembly.byteOf, if_pos inside.1]
        exact List.getElem?_eq_getElem index
      rw [own, fresh, List.getElem?_eq_getElem index]
      simp [inside]
    · have same := represents.unread position byte unread
      rw [outside inside]
      simp only [inside, or_false]
      refine same.trans (and_congr_right fun covered => ?_)
      rw [written.kept position covered inside]
  · -- Bytes handed out lie below every write still to come.
    have below : ¬ (offset ≤ position ∧ position < offset + data.length) := by
      have read : position < assembly.readHead := read
      omega
    refine (represents.delivered position read).trans ?_
    show _ = List.findSome? _ ((offset, data) :: assembly.accepted)
    rw [List.findSome?_cons, outside below]
    rfl

/-- A successful read hands out the run of written bytes at the read head, up to the first gap. -/
theorem handed {operations : List Operation} (represents : Represents operations buffer assembly)
    {chunk : Bytes} (found : buffer.readContiguous = some (chunk, after)) :
    (∀ index, index < chunk.length →
        chunk[index]? = assembly.byte (assembly.readHead + index)) ∧
      assembly.byte (assembly.readHead + chunk.length) = none := by
  have drained := readContiguous_drained represents.wellFormed found
  constructor
  · intro index inside
    obtain ⟨covered, same⟩ := drained.handed index inside
    obtain ⟨byte, stored⟩ := represents.wellFormed.byteAt_of_covered covered
    rw [same, stored]
    rw [represents.readHead] at covered stored
    exact ((represents.unread _ byte (by omega)).mpr ⟨covered, stored⟩).symm
  · rw [represents.byte_eq_none_iff (by omega)]
    intro covered
    have next := drained.readHead
    rw [represents.readHead] at next
    exact drained.exhausted ((drained.covered _).mpr ⟨next ▸ covered, le_rfl⟩)

/-- It is the run the stream has there. -/
theorem contiguous_eq_handed {operations : List Operation}
    (represents : Represents operations buffer assembly) {chunk : Bytes}
    (found : buffer.readContiguous = some (chunk, after)) :
    assembly.contiguous assembly.capacity assembly.readHead = chunk := by
  obtain ⟨bytes, missing⟩ := represents.handed found
  refine Assembly.contiguous_eq bytes ?_ missing
  -- The last byte handed out lies in the window, so the run is no longer than the capacity.
  have drained := readContiguous_drained represents.wellFormed found
  have positive := List.length_pos_iff.mpr drained.some
  obtain ⟨covered, -⟩ := drained.handed (chunk.length - 1) (by omega)
  have window := represents.wellFormed.window covered
  have capacity := represents.capacity
  omega

/-- After a read the rest of the stream is as it was. -/
theorem drained {operations : List Operation} (represents : Represents operations buffer assembly)
    {chunk : Bytes} (found : buffer.readContiguous = some (chunk, after))
    (permitted : Refinement.Permitted Operation.onAssembly Operation.Allowed rest
      { assembly with delivered := assembly.delivered ++ chunk }) :
    Represents rest after { assembly with delivered := assembly.delivered ++ chunk } := by
  have drained := readContiguous_drained represents.wellFormed found
  have moved : ({ assembly with delivered := assembly.delivered ++ chunk } : Assembly).readHead =
      assembly.readHead + chunk.length := List.length_append
  have head := drained.readHead
  rw [represents.readHead, ← moved] at head
  refine ⟨drained.wellFormed, drained.capacity.trans represents.capacity, head,
    fun position byte unread => ?_, fun position read => ?_, permitted⟩
  · rw [drained.covered, drained.kept, head]
    simp only [unread, and_true]
    exact represents.unread position byte (by omega)
  · rw [moved] at read
    show (assembly.delivered ++ chunk)[position]? = assembly.byte position
    by_cases old : position < assembly.delivered.length
    · rw [List.getElem?_append_left old]
      exact represents.delivered position old
    · -- A byte of this chunk is the one written last at its position.
      rw [List.getElem?_append_right (by omega)]
      have length : assembly.readHead = assembly.delivered.length := rfl
      rw [(represents.handed found).1 _ (by omega)]
      congr 1
      omega

/-- Growing the buffer changes nothing but its capacity. -/
theorem resized {newCapacity : Nat}
    (represents : Represents (.resize newCapacity :: rest) buffer assembly) :
    Represents rest (buffer.resize newCapacity) { assembly with capacity := newCapacity } := by
  have grows : assembly.capacity ≤ newCapacity := represents.permitted.1
  have resized := resize_resized represents.wellFormed (represents.capacity ▸ grows)
  refine ⟨resized.wellFormed, buffer.resize_capacity newCapacity,
    resized.readHead.trans represents.readHead, fun position byte unread => ?_,
    represents.delivered, represents.permitted.2⟩
  rw [resized.covered]
  refine (represents.unread position byte unread).trans (and_congr_right fun covered => ?_)
  rw [resized.kept position covered]

/-- Each operation is answered as the stream answers it, and the buffer still stands for the stream. -/
theorem step {op : Operation} (represents : Represents (op :: rest) buffer assembly) :
    (op.perform buffer).1 = (op.onAssembly assembly).1 ∧
      Represents rest (op.perform buffer).2 (op.onAssembly assembly).2 := by
  have permitted := represents.permitted.2
  cases op with
  | write offset data =>
    simp only [Operation.perform, Operation.onAssembly] at permitted ⊢
    cases answered : buffer.write offset data with
    | some result =>
      have fits := represents.fits_iff.mpr (by simp [answered])
      rw [if_pos fits] at permitted ⊢
      exact ⟨rfl, represents.written answered permitted⟩
    | none =>
      have refused : ¬ assembly.Fits offset data := by simp [represents.fits_iff, answered]
      rw [if_neg refused] at permitted ⊢
      exact ⟨rfl, { represents with permitted := permitted }⟩
  | readContiguous =>
    simp only [Operation.perform, Operation.onAssembly] at permitted ⊢
    cases answered : buffer.readContiguous with
    | some result =>
      obtain ⟨chunk, after⟩ := result
      have some := (readContiguous_drained represents.wellFormed answered).some
      have run := represents.contiguous_eq_handed answered
      rw [run] at permitted ⊢
      -- The chunk is not empty, so the stream hands it out, too.
      cases chunk with
      | nil => exact absurd rfl some
      | cons first others => exact ⟨rfl, represents.drained answered permitted⟩
    | none =>
      have uncovered := (readContiguous_eq_none_iff represents.wellFormed).mp answered
      rw [represents.readHead] at uncovered
      have run : assembly.contiguous assembly.capacity assembly.readHead = [] :=
        Assembly.contiguous_eq nofun (Nat.zero_le _)
          ((represents.byte_eq_none_iff le_rfl).mpr uncovered)
      rw [run] at permitted ⊢
      exact ⟨rfl, { represents with permitted := permitted }⟩
  | resize newCapacity => exact ⟨rfl, represents.resized⟩

end Represents

/-- The buffer simulates the stream. -/
theorem simulates_assembly :
    Refinement.Simulates Operation.perform Operation.onAssembly Represents :=
  ⟨fun represents => represents.step.1, fun represents => represents.step.2⟩

/-- A new buffer stands for an empty stream. -/
theorem new_represents {capacity : Nat} {operations : List Operation}
    (permitted : Refinement.Permitted Operation.onAssembly Operation.Allowed operations
      (.new capacity)) : Represents operations (new capacity) (.new capacity) := by
  have uncovered (position : Nat) : ¬ (new capacity).Covered position := by
    rintro ⟨range, member, -⟩
    cases member
  exact ⟨new_wellFormed capacity, rfl, rfl,
    fun position byte _ => ⟨nofun, fun held => absurd held.1 (uncovered position)⟩, nofun, permitted⟩

/-- The bytes that answers hand out. -/
def Answer.bytes : Answer → Bytes
  | chunk (some data) => data
  | _ => []

/-- Over a run, what was handed out grows by the bytes of the answers. -/
theorem delivered_run (operations : List Operation) (assembly : Assembly) :
    (Refinement.run Operation.onAssembly operations assembly).2.delivered =
      assembly.delivered ++
        (Refinement.run Operation.onAssembly operations assembly).1.flatMap Answer.bytes := by
  induction operations generalizing assembly with
  | nil => simp [Refinement.run]
  | cons op rest ih =>
    have first : (op.onAssembly assembly).2.delivered =
        assembly.delivered ++ (op.onAssembly assembly).1.bytes := by
      cases op with
      | write offset data =>
        simp only [Operation.onAssembly]
        split <;> simp [Answer.bytes]
      | readContiguous =>
        simp only [Operation.onAssembly]
        split <;> simp [Answer.bytes]
      | resize newCapacity => simp [Operation.onAssembly, Answer.bytes]
    refine (ih (op.onAssembly assembly).2).trans ?_
    rw [first, List.append_assoc]
    rfl

/--
Whatever is written, read and resized, the buffer behaves like an unbounded array.

It refuses exactly the writes past its end; the bytes handed out are those written last at their
positions; and a read answers the whole run of written bytes at the read head, if there is one.
-/
theorem reassembles {capacity : Nat} {operations : List Operation}
    (permitted : Refinement.Permitted Operation.onAssembly Operation.Allowed operations
      (.new capacity)) :
    let run := Refinement.run Operation.perform operations (new capacity)
    let model := Refinement.run Operation.onAssembly operations (.new capacity)
    let handed := run.1.flatMap Answer.bytes
    run.1 = model.1 ∧
      (run.2.readHead + run.2.capacity < u64Size → ∀ offset data,
        (run.2.write offset data = none ↔ data ≠ [] ∧
          (run.2.readHead + run.2.capacity < offset + data.length ∨
            u64Size ≤ offset + data.length))) ∧
      handed.length = run.2.readHead ∧
      (∀ position, position < run.2.readHead → handed[position]? = model.2.byte position) ∧
      (run.2.readContiguous = none ↔ model.2.byte run.2.readHead = none) ∧
      (∀ chunk after, run.2.readContiguous = some (chunk, after) → chunk ≠ [] ∧
        (∀ index, index < chunk.length →
          chunk[index]? = model.2.byte (run.2.readHead + index)) ∧
        model.2.byte (run.2.readHead + chunk.length) = none) := by
  obtain ⟨answers, represents⟩ := simulates_assembly.run (new_represents permitted)
  have delivered := delivered_run operations (.new capacity)
  intro run model handed
  have bytes : handed = model.2.delivered := (congrArg (List.flatMap Answer.bytes) answers).trans
    delivered.symm
  have head : run.2.readHead = model.2.readHead := represents.readHead
  rw [bytes, head]
  refine ⟨answers, fun room => ?_, rfl, represents.delivered, ?_, fun chunk after found => ?_⟩
  · rw [← head] at room ⊢
    exact write_eq_none_iff room
  · rw [readContiguous_eq_none_iff represents.wellFormed, head]
    exact (represents.byte_eq_none_iff le_rfl).symm
  · exact ⟨(readContiguous_drained represents.wellFormed found).some, represents.handed found⟩

/-- Out of order, overlapping, wrapped and resized: the bytes come out in order. -/
theorem reassembles_wrapped :
    let operations : List Operation := [.write 1 [2, 3], .readContiguous, .write 0 [1, 9],
      .readContiguous, .resize 5, .write 4 [5, 6], .write 3 [4], .write 9 [7], .readContiguous]
    let run := Refinement.run Operation.perform operations (new 3)
    run.1.flatMap Answer.bytes = [1, 9, 3, 4, 5, 6] ∧
      (run.1.flatMap Answer.bytes).length = run.2.readHead := by
  intro operations run
  have permitted : Refinement.Permitted Operation.onAssembly Operation.Allowed operations (.new 3) := by
    decide +kernel
  have whole := reassembles permitted
  exact ⟨by decide +kernel, whole.2.2.1⟩

end StreamReceiveBuffer
end Zetta
