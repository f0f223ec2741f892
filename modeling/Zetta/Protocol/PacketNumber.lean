import Zetta.Basic

/-! Truncated packet numbers: how a sender shortens them and a receiver recovers them. -/

namespace Zetta

/-- The number of bytes that tells a packet number apart from the acknowledged ones. -/
def pnLength (pn largestAcked : Nat) : Nat :=
  let unacked := pn - largestAcked
  -- The packet number size must represent more than twice the unacked range.
  let numBits := (wrappingMul unacked 2).size
  min (max ((numBits + 7) / 8) 1) 4

/-- The low bytes of a packet number, and how many of them are sent. -/
def truncatePn (pn largestAcked : Nat) : Nat × Nat :=
  let pnLen := pnLength pn largestAcked
  (pn % 2 ^ (pnLen * 8), pnLen)

/-- The full packet number closest to the one expected next. -/
def expandPn (pnTruncated pnLen largestPn : Nat) : Nat :=
  let expectedPn := saturatingAdd largestPn 1
  let pnWin := 2 ^ (pnLen * 8)
  let pnHwin := pnWin / 2
  let pnMask := pnWin - 1
  let candidatePn := (expectedPn &&& (u64Size - 1 - pnMask)) ||| pnTruncated
  if expectedPn ≥ pnHwin ∧ candidatePn ≤ expectedPn - pnHwin then
    saturatingAdd candidatePn pnWin
  else if ((checkedAdd expectedPn pnHwin).any fun limit => candidatePn > limit) ∧
      candidatePn ≥ pnWin then
    candidatePn - pnWin
  else candidatePn

/-- The length of a truncated number is one to four bytes. -/
theorem pnLength_bounds (pn largestAcked : Nat) :
    1 ≤ pnLength pn largestAcked ∧ pnLength pn largestAcked ≤ 4 := by
  -- The computed length is clamped on both sides.
  simp only [pnLength]
  omega

/-- Clearing the low bits of a word rounds it down to a multiple of their range. -/
theorem and_high_bits {word bits : Nat} (fits : word < u64Size) (narrow : bits ≤ 64) :
    word &&& (u64Size - 1 - (2 ^ bits - 1)) = 2 ^ bits * (word / 2 ^ bits) := by
  have positive : 0 < 2 ^ bits := Nat.two_pow_pos bits
  have bound : 2 ^ bits ≤ u64Size := Nat.pow_le_pow_right (by decide) narrow
  -- The mask has ones exactly from the cleared bits up to the end of the word.
  have mask : u64Size - 1 - (2 ^ bits - 1) = 2 ^ bits * (2 ^ (64 - bits) - 1) := by
    rw [Nat.mul_sub, ← Nat.pow_add, Nat.add_sub_cancel' narrow]
    simp only [u64Size] at bound ⊢
    omega
  apply Nat.eq_of_testBit_eq
  intro index
  rw [mask, Nat.testBit_and, Nat.testBit_two_pow_mul, Nat.testBit_two_pow_mul,
    Nat.testBit_two_pow_sub_one, Nat.testBit_div_two_pow]
  by_cases low : bits ≤ index
  · by_cases inside : index < 64
    · have shifted : index - bits < 64 - bits := by omega
      simp [low, shifted]
    · -- A word has no bits past its width.
      have clear : word.testBit index = false :=
        Nat.testBit_lt_two_pow (lt_of_lt_of_le fits (Nat.pow_le_pow_right (by decide) (by omega)))
      simp [low, clear]
  · simp [low]

/-- The first candidate has the expected number's high part and the received low part. -/
theorem candidate_eq {expected truncated bits : Nat} (fits : expected < u64Size)
    (narrow : bits ≤ 64) (short : truncated < 2 ^ bits) :
    ((expected &&& (u64Size - 1 - (2 ^ bits - 1))) ||| truncated) =
      2 ^ bits * (expected / 2 ^ bits) + truncated := by
  rw [and_high_bits fits narrow, Nat.two_pow_add_eq_or_of_lt short]

/-- Whatever arrives, the number found is a word. -/
theorem expandPn_lt {pnTruncated : Nat} (short : pnTruncated < u64Size) (pnLen largestPn : Nat) :
    expandPn pnTruncated pnLen largestPn < u64Size := by
  -- The candidate is put together from bits of words.
  have expected : saturatingAdd largestPn 1 < u64Size :=
    lt_of_le_of_lt (Nat.min_le_right _ _) (by decide)
  have high : saturatingAdd largestPn 1 &&& (u64Size - 1 - (2 ^ (pnLen * 8) - 1)) < u64Size :=
    lt_of_le_of_lt Nat.and_le_left expected
  have candidate : ((saturatingAdd largestPn 1 &&& (u64Size - 1 - (2 ^ (pnLen * 8) - 1))) |||
      pnTruncated) < u64Size := Nat.or_lt_two_pow high short
  unfold expandPn
  dsimp only
  split
  · exact lt_of_le_of_lt (Nat.min_le_right _ _) (by decide)
  · split
    · exact lt_of_le_of_lt (Nat.sub_le _ _) candidate
    · exact candidate

/-- Rounding to the window and choosing the neighbour, on plain numbers. -/
def nearest (expected window truncated : Nat) : Nat :=
  let candidate := window * (expected / window) + truncated
  if window / 2 ≤ expected ∧ candidate ≤ expected - window / 2 then candidate + window
  else if expected + window / 2 < candidate ∧ window ≤ candidate then candidate - window
  else candidate

/-- The blocks of two numbers are the same, neighbours, or at least two windows apart. -/
theorem blocks_apart {low high : Nat} (order : low ≤ high) (window : Nat) :
    window * (high / window) = window * (low / window) ∨
      window * (high / window) = window * (low / window) + window ∨
      window * (low / window) + 2 * window ≤ window * (high / window) := by
  obtain ⟨distance, apart⟩ := Nat.exists_eq_add_of_le (@Nat.div_le_div_right _ _ window order)
  rw [apart, Nat.mul_add]
  rcases distance with _ | _ | more
  · exact .inl rfl
  · exact .inr (.inl (by rw [Nat.zero_add, Nat.mul_one]))
  · rw [Nat.mul_comm 2 window]
    exact .inr (.inr (Nat.add_le_add_left (Nat.mul_le_mul_left window (by omega)) _))

/--
A number at or past the expected one is found exactly inside half a window of it.

Numbers below the first full window are found as well, since nothing lies a window below them.
-/
theorem nearest_eq_iff {expected window pn : Nat} (half : 2 ∣ window) (some : 0 < window)
    (ahead : expected ≤ pn) :
    nearest expected window (pn % window) = pn ↔
      pn ≤ expected + window / 2 ∨ pn < window := by
  have expectedSplit := Nat.div_add_mod expected window
  have expectedLow := Nat.mod_lt expected some
  have pnSplit := Nat.div_add_mod pn window
  have pnLow := Nat.mod_lt pn some
  -- The number is the candidate, or one window past it, or more than one.
  have apart := blocks_apart ahead window
  unfold nearest
  generalize window * (expected / window) = base at *
  generalize window * (pn / window) = reached at *
  generalize pn % window = low at *
  generalize expected % window = expectedPart at *
  dsimp only
  split
  · omega
  · split <;> omega

/-- A number in a later block than another lies at least a window past its own low part there. -/
theorem block_succ_le {expected window pn : Nat}
    (later : window * (expected / window) + pn % window < pn) :
    window * (expected / window) + pn % window + window ≤ pn := by
  have split := Nat.div_add_mod pn window
  have block : expected / window < pn / window := by
    by_contra same
    have scaled := Nat.mul_le_mul_left window (not_lt.mp same)
    omega
  have scaled := Nat.mul_le_mul_left window (Nat.succ_le_of_lt block)
  rw [Nat.mul_succ] at scaled
  omega

/-- A number behind the expected one is found inside half a window of it. -/
theorem nearest_behind {expected window pn : Nat} (half : 2 ∣ window) (some : 0 < window)
    (behind : pn ≤ expected) (close : expected < pn + window / 2) :
    nearest expected window (pn % window) = pn := by
  have expectedSplit := Nat.div_add_mod expected window
  have expectedLow := Nat.mod_lt expected some
  have pnSplit := Nat.div_add_mod pn window
  have pnLow := Nat.mod_lt pn some
  -- The number is the candidate, or one window before it; it cannot be further away.
  have apart := blocks_apart behind window
  unfold nearest
  generalize window * (expected / window) = base at *
  generalize window * (pn / window) = reached at *
  generalize pn % window = low at *
  generalize expected % window = expectedPart at *
  dsimp only
  split
  · omega
  · split <;> omega

/-- The block of a number ends below every multiple of the window past the number. -/
theorem block_lt_of_dvd {number window bound low : Nat} (divides : window ∣ bound)
    (below : number < bound) (small : low < window) :
    window * (number / window) + low < bound := by
  obtain ⟨blocks, rfl⟩ := divides
  have quotient : number / window < blocks := Nat.div_lt_of_lt_mul below
  have scaled := Nat.mul_le_mul_left window (Nat.succ_le_of_lt quotient)
  rw [Nat.mul_succ] at scaled
  omega

/--
The decoder rounds to the nearest neighbour without overflow, if that is a word.

The sum that bounds the candidate from above may not fit a word; no candidate exceeds it then.
-/
theorem expandPn_eq_nearest_of_lt {truncated largest len : Nat} (room : largest + 1 < u64Size)
    (short : len ≤ 4) (low : truncated < 2 ^ (len * 8))
    (word : nearest (largest + 1) (2 ^ (len * 8)) truncated < u64Size) :
    expandPn truncated len largest = nearest (largest + 1) (2 ^ (len * 8)) truncated := by
  have expected : saturatingAdd largest 1 = largest + 1 := by
    simp only [saturatingAdd]
    omega
  -- The candidate shares the expected number's block, so it is a word as well.
  have whole : 2 ^ (len * 8) ∣ u64Size := Nat.pow_dvd_pow 2 (show len * 8 ≤ 64 by omega)
  have block := block_lt_of_dvd whole room low
  unfold expandPn
  unfold nearest at word ⊢
  simp only [expected, candidate_eq room (show len * 8 ≤ 64 by omega) low]
  dsimp only at word
  generalize 2 ^ (len * 8) * ((largest + 1) / 2 ^ (len * 8)) + truncated = candidate at *
  generalize 2 ^ (len * 8) = window at *
  split
  · rename_i behind
    rw [if_pos behind] at word
    rw [saturatingAdd, min_eq_left (by omega)]
  · have limit : ((checkedAdd (largest + 1) (window / 2)).any fun limit => candidate > limit) =
        decide (largest + 1 + window / 2 < candidate) := by
      unfold checkedAdd
      split
      · rfl
      · rename_i overflow
        have within : ¬ largest + 1 + window / 2 < candidate := by omega
        simp [within]
    simp only [limit, decide_eq_true_eq, ge_iff_le]

/-- On word-sized numbers ahead of the highest one the decoder rounds without overflow. -/
theorem expandPn_eq_nearest {pn largest len : Nat} (word : pn < u64Size) (ahead : largest < pn)
    (some : 1 ≤ len) (short : len ≤ 4) :
    expandPn (pn % 2 ^ (len * 8)) len largest =
      nearest (largest + 1) (2 ^ (len * 8)) (pn % 2 ^ (len * 8)) := by
  have low := Nat.mod_lt pn (Nat.two_pow_pos (len * 8))
  refine expandPn_eq_nearest_of_lt (by omega) short low ?_
  have next : 2 ^ (len * 8) * ((largest + 1) / 2 ^ (len * 8)) + pn % 2 ^ (len * 8) < pn →
      2 ^ (len * 8) * ((largest + 1) / 2 ^ (len * 8)) + pn % 2 ^ (len * 8) + 2 ^ (len * 8) ≤ pn :=
    block_succ_le
  have whole : 2 ^ (len * 8) ∣ u64Size := Nat.pow_dvd_pow 2 (show len * 8 ≤ 64 by omega)
  have block := block_lt_of_dvd whole (show largest + 1 < u64Size by omega) low
  have wide : 2 ^ 1 ≤ 2 ^ (len * 8) := Nat.pow_le_pow_right (by decide) (by omega)
  unfold nearest
  dsimp only
  split
  · -- A candidate half a window behind is a whole window behind the number itself.
    omega
  · split <;> omega

/-- A delivered number ahead of the highest one is recovered exactly inside half a window. -/
theorem expandPn_eq_iff {pn largest len : Nat} (word : pn < u64Size) (ahead : largest < pn)
    (some : 1 ≤ len) (short : len ≤ 4) :
    expandPn (pn % 2 ^ (len * 8)) len largest = pn ↔
      pn ≤ largest + 1 + 2 ^ (len * 8) / 2 ∨ pn < 2 ^ (len * 8) := by
  rw [expandPn_eq_nearest word ahead some short]
  have even : 2 ^ 1 ∣ 2 ^ (len * 8) := Nat.pow_dvd_pow 2 (by omega)
  exact nearest_eq_iff (by simpa using even) (Nat.two_pow_pos _) ahead

/-- A number within reach of the base is less than half a window of its length away from it. -/
theorem lt_half_window {pn base : Nat} (near : pn - base < 2 ^ 31) :
    pn - base < 2 ^ (8 * pnLength pn base - 1) := by
  have exact_ : wrappingMul (pn - base) 2 = (pn - base) * 2 := by
    rw [wrappingMul, Nat.mod_eq_of_lt]
    simp only [u64Size]
    omega
  have bits : ((pn - base) * 2).size ≤ 32 := Nat.size_le.mpr (by omega)
  -- The length holds twice the distance, since neither clamp takes bits away.
  have enough : ((pn - base) * 2).size ≤ 8 * pnLength pn base := by
    simp only [pnLength, exact_]
    omega
  have doubled := Nat.size_le.mp enough
  have bounds := pnLength_bounds pn base
  have halves : 2 ^ (8 * pnLength pn base) = 2 ^ (8 * pnLength pn base - 1) * 2 := by
    rw [← Nat.pow_succ]
    congr 1
    omega
  omega

/--
A truncated number is recovered by a receiver whose highest number is at or past the base and not
half a window past the number, with no overflow on either side.
-/
theorem expandPn_truncatePn {pn base highest : Nat} (word : pn < u64Size) (reached : base ≤ pn)
    (near : pn - base < 2 ^ 31) (known : base ≤ highest) (room : highest < u64Size - 1)
    (close : highest + 1 < pn + 2 ^ (8 * (truncatePn pn base).2 - 1)) :
    expandPn (truncatePn pn base).1 (truncatePn pn base).2 highest = pn ∧
      -- Doubling the distance, cutting to 32 bits and counting on do not overflow.
      wrappingMul (pn - base) 2 = (pn - base) * 2 ∧ (truncatePn pn base).1 < 2 ^ 32 ∧
      saturatingAdd highest 1 = highest + 1 ∧
      -- Nor does moving the candidate by a window: the result is that of unbounded arithmetic.
      expandPn (truncatePn pn base).1 (truncatePn pn base).2 highest =
        nearest (highest + 1) (2 ^ ((truncatePn pn base).2 * 8)) (truncatePn pn base).1 := by
  change highest + 1 < pn + 2 ^ (8 * pnLength pn base - 1) at close
  show expandPn (pn % 2 ^ (pnLength pn base * 8)) (pnLength pn base) highest = pn ∧ _ ∧
    pn % 2 ^ (pnLength pn base * 8) < 2 ^ 32 ∧ _ ∧
    expandPn (pn % 2 ^ (pnLength pn base * 8)) (pnLength pn base) highest =
      nearest (highest + 1) (2 ^ (pnLength pn base * 8)) (pn % 2 ^ (pnLength pn base * 8))
  have distance := lt_half_window near
  have bounds := pnLength_bounds pn base
  generalize pnLength pn base = len at *
  have positive := Nat.two_pow_pos (len * 8)
  have half : 2 ^ (len * 8) = 2 ^ (8 * len - 1) * 2 := by
    rw [← Nat.pow_succ]
    congr 1
    omega
  have even : 2 ∣ 2 ^ (len * 8) := ⟨2 ^ (8 * len - 1), by omega⟩
  -- The number lies ahead of the expected one, or is that one, or lies behind it.
  have found : nearest (highest + 1) (2 ^ (len * 8)) (pn % 2 ^ (len * 8)) = pn := by
    by_cases ahead : highest + 1 ≤ pn
    · exact (nearest_eq_iff even positive ahead).mpr (.inl (by omega))
    · exact nearest_behind even positive (by omega) (by omega)
  have expanded := expandPn_eq_nearest_of_lt (show highest + 1 < u64Size by omega) bounds.2
    (Nat.mod_lt pn positive) (by rw [found]; exact word)
  refine ⟨expanded.trans found, ?_, ?_, ?_, expanded⟩
  · rw [wrappingMul, Nat.mod_eq_of_lt]
    simp only [u64Size]
    omega
  · exact lt_of_lt_of_le (Nat.mod_lt pn positive) (Nat.pow_le_pow_right (by decide) (by omega))
  · exact min_eq_left room

/-- A number near the end of the range is recovered by a receiver that is ahead of it. -/
theorem expandPn_near_end :
    expandPn (truncatePn (2 ^ 64 - 3) (2 ^ 64 - 10)).1 (truncatePn (2 ^ 64 - 3) (2 ^ 64 - 10)).2
      (2 ^ 64 - 2) = 2 ^ 64 - 3 :=
  (expandPn_truncatePn (by decide) (by decide) (by decide) (by decide) (by decide)
    (by decide +kernel)).1

end Zetta
