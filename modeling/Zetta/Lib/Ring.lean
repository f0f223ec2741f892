import Mathlib.Data.List.Basic

/-! Circular buffers: lists whose positions are counted without bound and stored modulo the size. -/

namespace Ring

variable {α : Type}

/-- Overwrite a run of cells, starting at an index. -/
def copyInto (cells : List α) (start : Nat) (data : List α) : List α :=
  cells.take start ++ data ++ cells.drop (start + data.length)

/--
Write data from an index on, returning to the front each time the end is reached.

The fuel bounds the number of chunks; one chunk per byte is always enough.
-/
def storeLoop : Nat → List α → Nat → List α → List α
  | 0, cells, _, _ => cells
  | fuel + 1, cells, index, data =>
    if data.isEmpty then cells
    else
      let chunk := min data.length (cells.length - index)
      storeLoop fuel (copyInto cells index (data.take chunk)) 0 (data.drop chunk)

/-- The cells from one index up to another, passing the end when the second is not larger. -/
def load (cells : List α) (start stop : Nat) : List α :=
  if start < stop then cells.extract start stop else cells.drop start ++ cells.take stop

/-- A run of cells laid out in line, its wrapped rest after its first chunk. -/
def linear (cells : List α) (start count : Nat) : List α :=
  let first := min count (cells.length - start)
  cells.extract start (start + first) ++ cells.take (count - first)

/-- Write data in at most two chunks, the second at the front. -/
def place (cells : List α) (start : Nat) (data : List α) : List α :=
  let first := min data.length (cells.length - start)
  copyInto (copyInto cells start (data.take first)) 0 (data.drop first)

/-- Copying inside the cells leaves their number unchanged. -/
theorem copyInto_length {cells data : List α} {start : Nat}
    (fits : start + data.length ≤ cells.length) :
    (copyInto cells start data).length = cells.length := by
  simp only [copyInto, List.length_append, List.length_take, List.length_drop]
  omega

/-- Copied cells read the data, and every other cell reads as before. -/
theorem copyInto_get {cells data : List α} {start : Nat}
    (fits : start + data.length ≤ cells.length) (index : Nat) :
    (copyInto cells start data)[index]? =
      if start ≤ index ∧ index < start + data.length then data[index - start]?
      else cells[index]? := by
  have front : (cells.take start).length = start := by simp; omega
  simp only [copyInto, List.append_assoc]
  by_cases before : index < start
  · rw [List.getElem?_append_left (by omega), List.getElem?_take_of_lt before, if_neg (by omega)]
  · rw [List.getElem?_append_right (by omega), front]
    by_cases inside : index < start + data.length
    · rw [List.getElem?_append_left (by omega), if_pos (by omega)]
    · rw [List.getElem?_append_right (by omega), if_neg (by omega), List.getElem?_drop]
      congr 1
      omega

/-- Copying nothing changes nothing. -/
@[simp] theorem copyInto_nil (cells : List α) (start : Nat) : copyInto cells start [] = cells := by
  simp [copyInto]

/-- Data no longer than the buffer is stored in at most two chunks. -/
theorem storeLoop_eq_place {cells data : List α} {start : Nat} (inside : start < cells.length)
    (fits : data.length ≤ cells.length) :
    storeLoop data.length cells start data = place cells start data := by
  cases data with
  | nil => simp [storeLoop, place]
  | cons head rest =>
    -- The first chunk runs to the end of the data or of the cells.
    simp only [List.length_cons, storeLoop, List.isEmpty_cons, place, Bool.false_eq_true, if_false]
    generalize chunk_eq : min (rest.length + 1) (cells.length - start) = chunk
    have chunkLength : ((head :: rest).take chunk).length = chunk := by
      simp only [List.length_take, List.length_cons]
      omega
    have sameLength : (copyInto cells start ((head :: rest).take chunk)).length = cells.length :=
      copyInto_length (by rw [chunkLength]; omega)
    generalize remaining_eq : (head :: rest).drop chunk = remaining
    have remainingLength : remaining.length = rest.length + 1 - chunk := by
      rw [← remaining_eq]
      simp
    cases remaining with
    | nil =>
      -- Nothing wraps around, and the loop stops.
      cases rest.length with
      | zero => simp [storeLoop]
      | succ count => simp [storeLoop]
    | cons next later =>
      -- The wrapped rest is short enough to end the loop in one more chunk.
      simp only [List.length_cons] at remainingLength fits
      have fuel : ∃ count, rest.length = count + 1 := ⟨rest.length - 1, by omega⟩
      obtain ⟨count, fuel⟩ := fuel
      rw [fuel, storeLoop, sameLength]
      have whole : min (later.length + 1) (cells.length - 0) = later.length + 1 := by omega
      simp only [List.isEmpty_cons, List.length_cons, whole, Bool.false_eq_true, if_false]
      have taken : (next :: later).take (later.length + 1) = next :: later :=
        List.take_of_length_le (by simp)
      have left : (next :: later).drop (later.length + 1) = [] := List.drop_eq_nil_of_le (by simp)
      rw [taken, left]
      cases count with
      | zero => simp [storeLoop]
      | succ more => simp [storeLoop]

/-- Placing data keeps the number of cells. -/
theorem place_length {cells data : List α} {start : Nat} (inside : start < cells.length)
    (fits : data.length ≤ cells.length) : (place cells start data).length = cells.length := by
  simp only [place]
  rw [copyInto_length, copyInto_length]
  · simp only [List.length_take]; omega
  · rw [copyInto_length]
    · simp only [List.length_drop]; omega
    · simp only [List.length_take]; omega

/-- A placed cell reads the data at its distance from the start, wrapped or not. -/
theorem place_get {cells data : List α} {start : Nat} (inside : start < cells.length)
    (fits : data.length ≤ cells.length) {index : Nat} (cell : index < cells.length) :
    (place cells start data)[index]? =
      if start ≤ index ∧ index < start + data.length then data[index - start]?
      else if index + cells.length < start + data.length then data[index + cells.length - start]?
      else cells[index]? := by
  simp only [place]
  generalize first_eq : min data.length (cells.length - start) = first
  have takeLength : (data.take first).length = first := by simp only [List.length_take]; omega
  have dropLength : (data.drop first).length = data.length - first := by simp
  have length : (copyInto cells start (data.take first)).length = cells.length :=
    copyInto_length (by omega)
  rw [copyInto_get (by omega), copyInto_get (by omega), takeLength, dropLength]
  by_cases wrapped : index < data.length - first
  · -- The cell lies in the wrapped chunk, which the first chunk does not reach.
    rw [if_pos (by omega), if_neg (by omega), if_pos (by omega), List.getElem?_drop]
    congr 1
    omega
  · rw [if_neg (by omega)]
    by_cases written : start ≤ index ∧ index < start + data.length
    · rw [if_pos (by omega), if_pos written, List.getElem?_take_of_lt (by omega)]
    · rw [if_neg (by omega), if_neg written, if_neg (by omega)]

/-- Moving forward by less than the size wraps at most once. -/
theorem mod_add_of_lt {size position distance : Nat} (near : distance < size) :
    (position + distance) % size =
      if position % size + distance < size then position % size + distance
      else position % size + distance - size := by
  have bound : position % size < size := Nat.mod_lt _ (by omega)
  rw [Nat.add_mod, Nat.mod_eq_of_lt near]
  split
  · exact Nat.mod_eq_of_lt ‹_›
  · rw [Nat.mod_eq_sub_mod (by omega), Nat.mod_eq_of_lt (by omega)]

/--
Positions of one window read what was placed there, and the rest of the window is unchanged.

The window has the size of the buffer, so no two of its positions share a cell.
-/
theorem place_window {cells data : List α} {low position offset : Nat}
    (nonempty : 0 < cells.length) (above : low ≤ offset)
    (within : offset + data.length ≤ low + cells.length)
    (lower : low ≤ position) (upper : position < low + cells.length) :
    (place cells (offset % cells.length) data)[position % cells.length]? =
      if offset ≤ position ∧ position < offset + data.length then data[position - offset]?
      else cells[position % cells.length]? := by
  have start : offset % cells.length < cells.length := Nat.mod_lt _ nonempty
  have cell : position % cells.length < cells.length := Nat.mod_lt _ nonempty
  by_cases blank : data = []
  · simp only [place, blank, List.length_nil, Nat.zero_min, List.take_nil, List.drop_nil, copyInto_nil]
    rw [if_neg (by omega)]
  have some : 0 < data.length := List.length_pos_iff.mpr blank
  rw [place_get start (by omega) cell]
  by_cases ahead : offset ≤ position
  · obtain ⟨distance, rfl⟩ := Nat.exists_eq_add_of_le ahead
    rw [mod_add_of_lt (by omega)]
    by_cases unwrapped : offset % cells.length + distance < cells.length
    · -- The position is reached before the end of the cells.
      rw [if_pos unwrapped]
      by_cases written : distance < data.length
      · rw [if_pos (by omega), if_pos (by omega)]
        congr 1
        omega
      · rw [if_neg (by omega), if_neg (by omega), if_neg (by omega)]
    · -- The position is reached after passing the end once.
      rw [if_neg unwrapped]
      by_cases written : distance < data.length
      · rw [if_neg (by omega), if_pos (by omega), if_pos (by omega)]
        congr 1
        omega
      · rw [if_neg (by omega), if_neg (by omega), if_neg (by omega)]
  · -- A position behind the data is one whole window short of the next wrapped position.
    obtain ⟨distance, rfl⟩ := Nat.exists_eq_add_of_le (Nat.le_of_not_le ahead)
    have short : distance < cells.length := by omega
    rw [mod_add_of_lt short]
    by_cases unwrapped : position % cells.length + distance < cells.length
    · rw [if_pos unwrapped, if_neg (by omega), if_neg (by omega), if_neg (by omega)]
    · rw [if_neg unwrapped, if_neg (by omega), if_neg (by omega), if_neg (by omega)]

/-- Laying out a run of cells reads each position of the run in turn. -/
theorem linear_get {cells : List α} {offset count index : Nat} (nonempty : 0 < cells.length)
    (fits : count ≤ cells.length) (within : index < count) :
    (linear cells (offset % cells.length) count)[index]? = cells[(offset + index) % cells.length]? := by
  have start : offset % cells.length < cells.length := Nat.mod_lt _ nonempty
  simp only [linear, List.extract_eq_take_drop]
  generalize first_eq : min count (cells.length - offset % cells.length) = first
  have chunk : ((cells.drop (offset % cells.length)).take
      (offset % cells.length + first - offset % cells.length)).length = first := by
    simp only [List.length_take, List.length_drop]
    omega
  rw [mod_add_of_lt (by omega)]
  by_cases early : index < first
  · rw [List.getElem?_append_left (by omega), List.getElem?_take_of_lt (by omega),
      List.getElem?_drop, if_pos (by omega)]
  · rw [List.getElem?_append_right (by omega), chunk, List.getElem?_take_of_lt (by omega),
      if_neg (by omega)]
    congr 1
    omega

/-- A run laid out in line has as many cells as were asked for. -/
theorem linear_length {cells : List α} {start count : Nat} (inside : start < cells.length)
    (fits : count ≤ cells.length) : (linear cells start count).length = count := by
  simp only [linear, List.extract_eq_take_drop, List.length_append, List.length_take,
    List.length_drop]
  omega

/-- Loading between the two ends of a run gives the run laid out in line. -/
theorem load_eq_linear {cells : List α} {offset count : Nat} (nonempty : 0 < cells.length)
    (some : 0 < count) (fits : count ≤ cells.length) :
    load cells (offset % cells.length) ((offset + count) % cells.length) =
      linear cells (offset % cells.length) count := by
  have start : offset % cells.length < cells.length := Nat.mod_lt _ nonempty
  simp only [load, linear, List.extract_eq_take_drop]
  by_cases full : count = cells.length
  · -- A full run ends in the cell it started from.
    subst full
    simp only [Nat.add_mod_right, Nat.lt_irrefl, if_false]
    congr 1
    · rw [List.take_of_length_le]
      simp only [List.length_drop]
      omega
    · congr 1
      omega
  · rw [mod_add_of_lt (by omega)]
    by_cases unwrapped : offset % cells.length + count < cells.length
    · rw [if_pos unwrapped, if_pos (by omega)]
      have whole : min count (cells.length - offset % cells.length) = count := by omega
      rw [whole]
      simp
    · rw [if_neg unwrapped, if_neg (by omega)]
      congr 1
      · rw [List.take_of_length_le]
        simp only [List.length_drop]
        omega
      · congr 1
        omega

end Ring
