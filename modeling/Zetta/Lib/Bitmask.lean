import Mathlib.Algebra.GroupWithZero.Nat
import Mathlib.Data.List.Basic
import Mathlib.Data.Nat.Basic

/-! Bit masks spread over several machine words, with the shift that moves bits across words. -/

namespace Bitmask

variable {width : Nat}

/-- The bit at a position, counted from the low bit of the first word. -/
def bit (words : List (BitVec width)) (position : Nat) : Bool :=
  (words.getD (position / width) 0).getLsbD (position % width)

/-- Set the bit at a position. -/
def setBit (words : List (BitVec width)) (position : Nat) : List (BitVec width) :=
  words.modify (position / width) fun word => word ||| (BitVec.ofNat width 1 <<< (position % width))

/-- Move whole words up, filling the front with zeros. -/
def shiftWords (words : List (BitVec width)) (count : Nat) : List (BitVec width) :=
  List.replicate (min count words.length) 0 ++ words.take (words.length - count)

/-- Move bits up inside each word, taking in the high bits of the word before it. -/
def shiftBits (shift : Nat) : BitVec width → List (BitVec width) → List (BitVec width)
  | _, [] => []
  | previous, word :: rest =>
    ((word <<< shift) ||| (previous >>> (width - shift))) :: shiftBits shift word rest

/-- Move all bits up by a distance, first by words and then inside the words. -/
def shiftLeft (words : List (BitVec width)) (shift : Nat) : List (BitVec width) :=
  if shift = 0 then words
  else if shift ≥ width * words.length then List.replicate words.length 0
  else
    let moved := if shift / width > 0 then shiftWords words (shift / width) else words
    if shift % width > 0 then shiftBits (shift % width) 0 moved else moved

@[simp] theorem setBit_length (words : List (BitVec width)) (position : Nat) :
    (setBit words position).length = words.length := by
  simp [setBit]

@[simp] theorem shiftWords_length (words : List (BitVec width)) (count : Nat) :
    (shiftWords words count).length = words.length := by
  -- The zeros in front replace exactly the words that fall off the end.
  simp only [shiftWords, List.length_append, List.length_replicate, List.length_take]
  omega

@[simp] theorem shiftBits_length (shift : Nat) (previous : BitVec width)
    (words : List (BitVec width)) : (shiftBits shift previous words).length = words.length := by
  induction words generalizing previous with
  | nil => rfl
  | cons word rest ih => simp [shiftBits, ih]

@[simp] theorem shiftLeft_length (words : List (BitVec width)) (shift : Nat) :
    (shiftLeft words shift).length = words.length := by
  unfold shiftLeft
  split
  · rfl
  · split
    · simp
    · dsimp only
      split <;> split <;> simp

/-- The first positions lie in the first word. -/
theorem bit_cons_low (word : BitVec width) (rest : List (BitVec width)) {position : Nat}
    (inside : position < width) : bit (word :: rest) position = word.getLsbD position := by
  simp [bit, Nat.div_eq_of_lt inside, Nat.mod_eq_of_lt inside]

/-- The positions after the first word lie in the others. -/
theorem bit_cons_high (word : BitVec width) (rest : List (BitVec width)) (position : Nat)
    (positive : 0 < width) : bit (word :: rest) (width + position) = bit rest position := by
  simp [bit, Nat.add_div_left position positive]

/-- Setting a bit sets that bit and no other. -/
theorem bit_setBit {words : List (BitVec width)} {position other : Nat}
    (inside : position < width * words.length) (positive : 0 < width) :
    bit (setBit words position) other = (bit words other || decide (other = position)) := by
  have slot : position / width < words.length := Nat.div_lt_of_lt_mul inside
  have low : position % width < width := Nat.mod_lt _ positive
  have otherLow : other % width < width := Nat.mod_lt _ positive
  have split := Nat.div_add_mod position width
  have otherSplit := Nat.div_add_mod other width
  unfold bit setBit
  simp only [List.getD_eq_getElem?_getD, List.getElem?_modify]
  by_cases sameWord : position / width = other / width
  · -- In the same word the two positions differ by their low parts only.
    have same : other = position ↔ other % width = position % width := by
      refine ⟨fun eq => by rw [eq], fun eq => ?_⟩
      rw [← split, ← otherSplit, sameWord, eq]
    simp only [← sameWord, if_true, List.getElem?_eq_getElem slot, Option.map_eq_map,
      Option.map_some, Option.getD_some, BitVec.getLsbD_or, same]
    congr 1
    rw [BitVec.getLsbD_shiftLeft, BitVec.getLsbD_one]
    -- The shifted one has its only bit where the low parts agree.
    by_cases eq : other % width = position % width
    · simp [eq, low, positive]
    · rcases Nat.lt_or_gt_of_ne eq with before | after
      · simp [eq, before]
      · have gap : other % width - position % width ≠ 0 := by omega
        simp [eq, gap]
  · have different : other ≠ position := fun eq => sameWord (by rw [eq])
    simp [sameWord, different]

/-- Moving whole words moves every bit by the same number of words. -/
theorem bit_shiftWords {words : List (BitVec width)} {count position : Nat}
    (inside : position < width * words.length) (positive : 0 < width) :
    bit (shiftWords words count) position =
      (decide (width * count ≤ position) && bit words (position - width * count)) := by
  have slot : position / width < words.length := Nat.div_lt_of_lt_mul inside
  unfold bit shiftWords
  simp only [List.getD_eq_getElem?_getD]
  by_cases filled : position / width < count
  · -- The position falls in the zeros put in front.
    have before : ¬ width * count ≤ position := by
      have bound := (Nat.div_lt_iff_lt_mul positive).mp filled
      rw [Nat.mul_comm] at bound
      omega
    have front : position / width < min count words.length := by omega
    rw [List.getElem?_append_left (by simpa using front)]
    simp [front, before]
  · have reached : width * count ≤ position := by
      have := (Nat.le_div_iff_mul_le positive).mp (not_lt.mp filled)
      rwa [Nat.mul_comm]
    have moved : (position - width * count) / width = position / width - count := by
      rw [Nat.sub_mul_div]
    have low : (position - width * count) % width = position % width := by
      rw [Nat.sub_mul_mod reached]
    have front : (List.replicate (min count words.length) (0 : BitVec width)).length = count := by
      simp only [List.length_replicate]
      omega
    rw [List.getElem?_append_right (by omega), front, List.getElem?_take_of_lt (by omega)]
    simp [reached, moved, low]

/-- A word shifted up with a carry reads its own low bits and the high bits of the one before. -/
theorem getElem?_shiftBits (shift : Nat) (previous : BitVec width) (words : List (BitVec width))
    (index : Nat) :
    (shiftBits shift previous words)[index]? =
      words[index]?.map fun word : BitVec width =>
        (word <<< shift) ||| (((previous :: words).getD index 0) >>> (width - shift)) := by
  -- The carry into each position is the word stored just before it.
  induction words generalizing previous index with
  | nil => simp [shiftBits]
  | cons word rest ih =>
    cases index with
    | zero => simp [shiftBits]
    | succ index => simp [shiftBits, ih]

/-- Moving bits inside the words moves every bit by the same distance. -/
theorem bit_shiftBits {words : List (BitVec width)} {shift position : Nat}
    (inside : position < width * words.length) (some : 0 < shift) (small : shift < width) :
    bit (shiftBits shift 0 words) position =
      (decide (shift ≤ position) && bit words (position - shift)) := by
  have slot : position / width < words.length := Nat.div_lt_of_lt_mul inside
  have low : position % width < width := Nat.mod_lt _ (by omega)
  have split := Nat.div_add_mod position width
  unfold bit
  simp only [List.getD_eq_getElem?_getD, getElem?_shiftBits, List.getElem?_eq_getElem slot,
    Option.map_some, Option.getD_some, BitVec.getLsbD_or, BitVec.getLsbD_shiftLeft,
    BitVec.getLsbD_ushiftRight]
  by_cases own : shift ≤ position % width
  · -- The bit comes from the same word, and the carry lies past the word's end.
    have moved : position - shift = (position % width - shift) + width * (position / width) := by
      omega
    have quotient : (position - shift) / width = position / width := by
      rw [moved, Nat.add_mul_div_left _ _ (by omega), Nat.div_eq_of_lt (by omega), Nat.zero_add]
    have remainder : (position - shift) % width = position % width - shift := by
      rw [moved, Nat.add_mul_mod_self_left, Nat.mod_eq_of_lt (by omega)]
    rw [BitVec.getLsbD_of_ge _ _ (by omega : width ≤ width - shift + position % width)]
    have reached : shift ≤ position := by omega
    have notBefore : ¬ position % width < shift := by omega
    simp [quotient, remainder, low, reached, notBefore, List.getElem?_eq_getElem slot]
  · have before : position % width < shift := by omega
    simp only [before, decide_true, Bool.not_true, Bool.and_false, Bool.false_and, Bool.false_or]
    cases word : position / width with
    | zero =>
      -- Nothing is carried into the first word.
      rw [word, Nat.mul_zero, Nat.zero_add] at split
      have early : ¬ shift ≤ position := by omega
      simp [early]
    | succ previous =>
      rw [word, Nat.mul_succ] at split
      have moved : position - shift = (width - shift + position % width) + width * previous := by
        omega
      have quotient : (position - shift) / width = previous := by
        rw [moved, Nat.add_mul_div_left _ _ (by omega), Nat.div_eq_of_lt (by omega), Nat.zero_add]
      have remainder : (position - shift) % width = width - shift + position % width := by
        rw [moved, Nat.add_mul_mod_self_left, Nat.mod_eq_of_lt (by omega)]
      have reached : shift ≤ position := by omega
      simp [quotient, remainder, reached]

/-- The shift moves every bit by its distance and clears the bits below it. -/
theorem bit_shiftLeft {words : List (BitVec width)} {shift position : Nat}
    (inside : position < width * words.length) (positive : 0 < width) :
    bit (shiftLeft words shift) position =
      (decide (shift ≤ position) && bit words (position - shift)) := by
  have low : shift % width < width := Nat.mod_lt _ positive
  have split := Nat.div_add_mod shift width
  -- Moving by no words is the identity, so the first stage is a word shift in either case.
  have stage : ∀ place, place < width * words.length →
      bit (if shift / width > 0 then shiftWords words (shift / width) else words) place =
        (decide (width * (shift / width) ≤ place) &&
          bit words (place - width * (shift / width))) := by
    intro place within
    split
    · exact bit_shiftWords within positive
    · rename_i none
      have zero : shift / width = 0 := Nat.eq_zero_of_not_pos none
      simp [zero]
  unfold shiftLeft
  split
  · rename_i zero
    simp [zero]
  · split
    · -- Everything is shifted out.
      rename_i far
      have early : ¬ shift ≤ position := by omega
      have slot : position / width < words.length := Nat.div_lt_of_lt_mul inside
      simp [bit, early, slot]
    · dsimp only
      split
      · rename_i some
        have within : position < width *
            (if shift / width > 0 then shiftWords words (shift / width) else words).length := by
          split <;> simpa using inside
        rw [bit_shiftBits within some low, stage (position - shift % width) (by omega), ← Bool.and_assoc,
          Nat.sub_sub]
        have joined : shift % width + width * (shift / width) = shift := by omega
        rw [joined, ← Bool.decide_and]
        congr 2
        simp only [eq_iff_iff]
        omega
      · rename_i none
        have whole : width * (shift / width) = shift := by omega
        rw [stage position inside, whole]

end Bitmask
