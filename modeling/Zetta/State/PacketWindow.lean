import Zetta.Basic
import Zetta.Lib.Bitmask

/-! The 2048-packet windows that reject replays and generate selective acknowledgments. -/

namespace Zetta

/-- How many packet numbers a window remembers. -/
def windowBits : Nat := 2048

/--
The highest packet number processed, and a mask of the numbers processed just below it.

Bit `d` of the mask stands for the packet number `d` below the highest.
-/
structure PacketWindow where
  highestProcessed : Option Nat
  bitmask : List (BitVec 64)
  /-- The mask is always thirty-two words long. -/
  size : bitmask.length = 32
  /-- The mask is clear before the first packet. -/
  unseen : highestProcessed = none → bitmask = List.replicate 32 0

namespace PacketWindow

/-- A window that has seen nothing. -/
def new : PacketWindow := ⟨none, List.replicate 32 0, by simp, fun _ => rfl⟩

/-- A mask whose only bit is the highest number's own. -/
def onlyHighest : List (BitVec 64) := 1#64 :: List.replicate 31 0

/-- Record a packet number, sliding the window up when it is the highest so far. -/
def markProcessed (self : PacketWindow) (pn : Nat) : PacketWindow :=
  match self.highestProcessed with
  | none => ⟨some pn, self.bitmask.set 0 1#64, by simp [self.size], nofun⟩
  | some highest =>
    if pn > highest then
      let diff := pn - highest
      if diff ≥ windowBits then ⟨some pn, onlyHighest, by simp [onlyHighest], nofun⟩
      else
        ⟨some pn, Bitmask.setBit (Bitmask.shiftLeft self.bitmask diff) 0, by simp [self.size], nofun⟩
    else
      let diff := highest - pn
      if diff < windowBits then
        ⟨some highest, Bitmask.setBit self.bitmask diff, by simp [self.size], nofun⟩
      else self

/-- The most ranges one acknowledgment lists. -/
def maxAckRanges : Nat := 128

/-- The progress of the scan for acknowledged ranges, from the highest number down. -/
structure AckScan where
  ranges : List (Nat × Nat)
  inRange : Bool
  currentEnd : Nat
  /-- How far below the highest number the scan has come. -/
  diff : Nat

/-- Scan the low bits of a word; a full list of ranges ends the whole scan. -/
def scanBits (highest : Nat) : Nat → BitVec 64 → AckScan → Except (List (Nat × Nat)) AckScan
  | 0, _, scan => .ok scan
  | bits + 1, word, scan =>
    if scan.diff > highest then .ok scan
    else
      let pn := highest - scan.diff
      let next := { scan with diff := scan.diff + 1 }
      if word.getLsbD 0 then
        if scan.inRange then scanBits highest bits (word >>> 1) next
        else scanBits highest bits (word >>> 1) { next with inRange := true, currentEnd := pn }
      else if scan.inRange then
        let ranges := scan.ranges ++ [(pn + 1, scan.currentEnd)]
        if ranges.length ≥ maxAckRanges then .error ranges
        else scanBits highest bits (word >>> 1) { next with ranges := ranges, inRange := false }
      else scanBits highest bits (word >>> 1) next

/-- Scan the words of the mask, skipping those that cannot start or end a range. -/
def scanWords (highest : Nat) : List (BitVec 64) → AckScan → Except (List (Nat × Nat)) AckScan
  | [], scan => .ok scan
  | word :: rest, scan =>
    if scan.diff > highest then .ok scan
    else if !scan.inRange && word == 0 then
      scanWords highest rest { scan with diff := scan.diff + 64 }
    else if scan.inRange && word == BitVec.allOnes 64 then
      scanWords highest rest { scan with diff := scan.diff + 64 }
    else
      match scanBits highest 64 word scan with
      | .error ranges => .error ranges
      | .ok scan => scanWords highest rest scan

/-- The processed packet numbers as inclusive ranges, from the highest down. -/
def getAckRanges (self : PacketWindow) : List (Nat × Nat) :=
  match self.highestProcessed with
  | none => []
  | some highest =>
    match scanWords highest self.bitmask ⟨[], false, 0, 0⟩ with
    | .error ranges => ranges
    | .ok scan =>
      let lowest := highest - (scan.diff - 1)
      if scan.inRange ∧ scan.ranges.length < maxAckRanges then
        scan.ranges ++ [(lowest, scan.currentEnd)]
      else scan.ranges

/-- A packet number the window holds as processed. -/
def Marked (self : PacketWindow) (pn : Nat) : Prop :=
  ∃ highest, self.highestProcessed = some highest ∧ pn ≤ highest ∧ highest - pn < windowBits ∧
    Bitmask.bit self.bitmask (highest - pn) = true

/-- The highest number only grows, and is the marked one when that is new. -/
theorem markProcessed_highest (self : PacketWindow) (pn : Nat) :
    (self.markProcessed pn).highestProcessed =
      some (match self.highestProcessed with
        | none => pn
        | some highest => max highest pn) := by
  unfold markProcessed
  split
  · rfl
  · rename_i highest seen
    dsimp only
    split
    · -- Both ways of sliding end at the new number.
      have raised : max highest pn = pn := max_eq_right (by omega)
      split <;> simp [raised]
    · have kept : max highest pn = highest := max_eq_left (by omega)
      split <;> simp [seen, kept]

/-- The mask covers exactly the window. -/
theorem bitmask_bits (self : PacketWindow) : 64 * self.bitmask.length = windowBits := by
  rw [self.size]
  rfl

/-- A mask with only the highest number's bit has no other. -/
theorem bit_onlyHighest {position : Nat} (inside : position < windowBits) :
    Bitmask.bit onlyHighest position = decide (position = 0) := by
  simp only [windowBits] at inside
  unfold Bitmask.bit onlyHighest
  cases word : position / 64 with
  | zero =>
    -- The first word is the number one.
    have low : position % 64 = position := by omega
    rw [low]
    simp only [List.getD_cons_zero, BitVec.getLsbD_one]
    simp
  | succ previous =>
    have later : position ≠ 0 := by omega
    have slot : previous < 31 := by omega
    rw [List.getD_cons_succ, List.getD_eq_getElem?_getD, List.getElem?_replicate_of_lt slot]
    simp [later]

/-- The first packet leaves a mask with only its own bit. -/
theorem bitmask_first {self : PacketWindow} (unseen : self.highestProcessed = none) :
    self.bitmask.set 0 1#64 = onlyHighest := by
  rw [self.unseen unseen]
  rfl

/-- Marking adds the number, and forgets what the window has slid past. -/
theorem markProcessed_marked (self : PacketWindow) (pn other : Nat) :
    (self.markProcessed pn).Marked other ↔
      (self.Marked other ∨ other = pn) ∧
        ∃ highest, (self.markProcessed pn).highestProcessed = some highest ∧
          highest - other < windowBits := by
  have bits := self.bitmask_bits
  unfold markProcessed
  split
  · -- The first packet is the only one in the window.
    rename_i unseen
    simp only [Marked, unseen, bitmask_first unseen, Option.some.injEq, exists_eq_left',
      reduceCtorEq, false_and, exists_false, false_or]
    refine ⟨fun ⟨below, near, marked⟩ => ?_, fun ⟨same, near⟩ => ?_⟩
    · rw [bit_onlyHighest near, decide_eq_true_eq] at marked
      exact ⟨by omega, near⟩
    · exact ⟨by omega, near, by rw [bit_onlyHighest near]; simp; omega⟩
  · rename_i highest seen
    dsimp only
    split
    · rename_i above
      split
      · -- The window jumped past everything it held.
        rename_i far
        simp only [Marked, seen, Option.some.injEq, exists_eq_left']
        refine ⟨fun ⟨below, near, marked⟩ => ?_, fun ⟨held, near⟩ => ?_⟩
        · rw [bit_onlyHighest near, decide_eq_true_eq] at marked
          exact ⟨.inr (by omega), near⟩
        · have same : other = pn := by omega
          exact ⟨by omega, near, by rw [bit_onlyHighest near]; simp; omega⟩
      · -- The mask slides by the distance between the two highest numbers.
        rename_i close
        simp only [Marked, seen, Option.some.injEq, exists_eq_left']
        have read : ∀ position, position < windowBits →
            Bitmask.bit (Bitmask.setBit (Bitmask.shiftLeft self.bitmask (pn - highest)) 0) position =
              ((decide (pn - highest ≤ position) &&
                Bitmask.bit self.bitmask (position - (pn - highest))) ||
                  decide (position = 0)) := by
          intro position inside
          rw [Bitmask.bit_setBit (by simp [bits, windowBits]) (by decide),
            Bitmask.bit_shiftLeft (by omega) (by decide)]
        refine ⟨fun ⟨below, near, marked⟩ => ⟨?_, near⟩, fun ⟨held, near⟩ => ?_⟩
        · rw [read _ near] at marked
          simp only [Bool.or_eq_true, Bool.and_eq_true, decide_eq_true_eq] at marked
          rcases marked with ⟨reached, marked⟩ | same
          · have distance : pn - other - (pn - highest) = highest - other := by omega
            exact .inl ⟨by omega, by omega, distance ▸ marked⟩
          · exact .inr (by omega)
        · refine ⟨by omega, near, ?_⟩
          rw [read _ near]
          rcases held with ⟨below, -, marked⟩ | same
          · have distance : pn - other - (pn - highest) = highest - other := by omega
            have reached : pn - highest ≤ pn - other := by omega
            simp [distance, marked, reached]
          · simp [same]
    · rename_i below
      split
      · -- An older number sets its own bit.
        rename_i near
        have read : ∀ position, Bitmask.bit (Bitmask.setBit self.bitmask (highest - pn)) position =
            (Bitmask.bit self.bitmask position || decide (position = highest - pn)) :=
          fun position => Bitmask.bit_setBit (by omega) (by decide)
        simp only [Marked, seen, Option.some.injEq, exists_eq_left', read, Bool.or_eq_true,
          decide_eq_true_eq]
        refine ⟨fun ⟨lower, near, marked⟩ => ⟨?_, near⟩, fun ⟨held, near⟩ => ?_⟩
        · rcases marked with marked | same
          · exact .inl ⟨lower, near, marked⟩
          · exact .inr (by omega)
        · rcases held with ⟨lower, -, marked⟩ | same
          · exact ⟨lower, near, .inl marked⟩
          · exact ⟨by omega, near, .inr (by omega)⟩
      · -- A number the window has slid past leaves no trace.
        rename_i far
        simp only [Marked, seen, Option.some.injEq, exists_eq_left']
        refine ⟨fun held => ⟨.inl held, held.2.1⟩, fun ⟨held, near⟩ => ?_⟩
        rcases held with held | same
        · exact held
        · omega

/-- Ranges that run upward and stay at or below the highest number. -/
def ProperRanges (highest : Nat) (ranges : List (Nat × Nat)) : Prop :=
  ∀ range ∈ ranges, range.1 ≤ range.2 ∧ range.2 ≤ highest

/-- The invariant of the scan: an open range ends between its end and the scan's position. -/
structure AckScan.Proper (highest : Nat) (scan : AckScan) : Prop where
  ranges : ProperRanges highest scan.ranges
  current : scan.inRange = true → 1 ≤ scan.diff ∧ highest + 1 - scan.diff ≤ scan.currentEnd ∧
    scan.currentEnd ≤ highest

/-- What a scan of a word or of the mask comes to. -/
def ScanResult (highest : Nat) : Except (List (Nat × Nat)) AckScan → Prop
  | .error ranges => ProperRanges highest ranges
  | .ok scan => scan.Proper highest

/-- Adding the range that ends at the scan's position keeps the ranges proper. -/
theorem AckScan.Proper.close {highest : Nat} {scan : AckScan} (proper : scan.Proper highest)
    (opened : scan.inRange = true) (inside : scan.diff ≤ highest) :
    ProperRanges highest (scan.ranges ++ [(highest - scan.diff + 1, scan.currentEnd)]) := by
  obtain ⟨started, lower, upper⟩ := proper.current opened
  intro range member
  rcases List.mem_append.mp member with old | new
  · exact proper.ranges range old
  · rw [List.mem_singleton.mp new]
    exact ⟨by simp only; omega, upper⟩

/-- Scanning bits keeps the ranges proper. -/
theorem scanBits_proper {highest : Nat} (bits : Nat) (word : BitVec 64) {scan : AckScan}
    (proper : scan.Proper highest) : ScanResult highest (scanBits highest bits word scan) := by
  induction bits generalizing word scan with
  | zero => exact proper
  | succ bits ih =>
    unfold scanBits
    split
    · exact proper
    · rename_i inside
      dsimp only
      -- A set bit opens or continues a range, a clear one ends it.
      split
      · split
        · rename_i opened
          obtain ⟨started, lower, upper⟩ := proper.current opened
          exact ih _ ⟨proper.ranges, fun _ => ⟨by simp only; omega, by simp only; omega, upper⟩⟩
        · exact ih _ ⟨proper.ranges, fun _ =>
            ⟨by simp only; omega, by simp only; omega, by simp only; omega⟩⟩
      · split
        · rename_i opened
          have closed := proper.close opened (by omega)
          split
          · exact closed
          · exact ih _ ⟨closed, nofun⟩
        · rename_i outside
          exact ih _ ⟨proper.ranges, fun opened => absurd opened outside⟩

/-- Scanning the mask keeps the ranges proper. -/
theorem scanWords_proper {highest : Nat} (words : List (BitVec 64)) {scan : AckScan}
    (proper : scan.Proper highest) : ScanResult highest (scanWords highest words scan) := by
  induction words generalizing scan with
  | nil => exact proper
  | cons word rest ih =>
    -- A word that is skipped moves the position and keeps the range open or closed as it was.
    have skipped : ({ scan with diff := scan.diff + 64 } : AckScan).Proper highest := by
      refine ⟨proper.ranges, fun opened => ?_⟩
      obtain ⟨started, lower, upper⟩ := proper.current opened
      exact ⟨by simp only; omega, by simp only; omega, upper⟩
    unfold scanWords
    split
    · exact proper
    · split
      · exact ih skipped
      · split
        · exact ih skipped
        · have scanned := scanBits_proper 64 word proper
          split
          · rename_i full
            rwa [full] at scanned
          · rename_i next found
            rw [found] at scanned
            exact ih scanned

/-- Every acknowledged range runs upward and ends at or below the highest number processed. -/
theorem getAckRanges_proper {self : PacketWindow} {range : Nat × Nat}
    (member : range ∈ self.getAckRanges) :
    ∃ highest, self.highestProcessed = some highest ∧ range.1 ≤ range.2 ∧ range.2 ≤ highest := by
  unfold getAckRanges at member
  cases seen : self.highestProcessed with
  | none => simp [seen] at member
  | some highest =>
    refine ⟨highest, rfl, ?_⟩
    have scanned := scanWords_proper self.bitmask
      (⟨by simp [ProperRanges], nofun⟩ : (⟨[], false, 0, 0⟩ : AckScan).Proper highest)
    simp only [seen] at member
    split at member
    · rename_i full
      rw [full] at scanned
      exact scanned range member
    · rename_i scan found
      rw [found] at scanned
      split at member
      · -- The last range reaches down to the end of the scan.
        rename_i last
        rcases List.mem_append.mp member with old | new
        · exact scanned.ranges range old
        · obtain ⟨started, lower, upper⟩ := scanned.current last.1
          rw [List.mem_singleton.mp new]
          exact ⟨by simp only; omega, upper⟩
      · exact scanned.ranges range member

end PacketWindow

/-- The window that rejects packets already processed. -/
abbrev ReplayWindow := PacketWindow

/-- Whether a packet number was processed already or is too old to tell. -/
def ReplayWindow.isReplay (self : ReplayWindow) (pn : Nat) : Bool :=
  match self.highestProcessed with
  | none => false
  | some highest =>
    if pn ≤ highest then
      let diff := highest - pn
      if diff ≥ windowBits then true else Bitmask.bit self.bitmask diff
    else false

/-- A replay is a number the window holds, or one that it has slid past. -/
theorem ReplayWindow.isReplay_iff (self : ReplayWindow) (pn : Nat) :
    self.isReplay pn = true ↔ PacketWindow.Marked self pn ∨
      ∃ highest, self.highestProcessed = some highest ∧ pn + windowBits ≤ highest := by
  unfold ReplayWindow.isReplay PacketWindow.Marked
  split
  · rename_i unseen
    simp [unseen]
  · rename_i highest seen
    simp only [seen, Option.some.injEq, exists_eq_left']
    split
    · split
      · simp only [true_iff]
        omega
      · constructor
        · intro marked
          exact .inl ⟨by omega, by omega, marked⟩
        · rintro (⟨-, -, marked⟩ | far)
          · exact marked
          · omega
    · simp only [Bool.false_eq_true, false_iff]
      omega

end Zetta
