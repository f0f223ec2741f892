import Mathlib.Data.List.Dedup
import Mathlib.Data.List.Induction
import Zetta.Lib.Runs
import Zetta.State.PacketWindow

/-! A window knows exactly the numbers marked in it, as far back as it reaches. -/

namespace Zetta

namespace PacketWindow

/-- The window after a sequence of marks. -/
def markAll (numbers : List Nat) : PacketWindow := numbers.foldl markProcessed new

/-- One more mark comes last. -/
theorem markAll_concat (numbers : List Nat) (pn : Nat) :
    markAll (numbers ++ [pn]) = (markAll numbers).markProcessed pn :=
  List.foldl_concat markProcessed new pn numbers

/-- The window's highest number is the highest one marked. -/
theorem markAll_highest (numbers : List Nat) : (markAll numbers).highestProcessed = numbers.max? := by
  induction numbers using List.reverseRecOn with
  | nil => rfl
  | append_singleton numbers pn ih =>
    rw [markAll_concat, markProcessed_highest, ih]
    symm
    rw [List.max?_eq_some_iff]
    -- The new number competes with the highest one so far, if there is one.
    cases seen : numbers.max? with
    | none =>
      have empty : numbers = [] := List.max?_eq_none_iff.mp seen
      simp [empty]
    | some highest =>
      obtain ⟨member, largest⟩ := List.max?_eq_some_iff.mp seen
      constructor
      · rcases le_total highest pn with below | above
        · simp [max_eq_right below]
        · simp [max_eq_left above, member]
      · intro other found
        rcases List.mem_append.mp found with old | new
        · exact Nat.le_trans (largest other old) (Nat.le_max_left highest pn)
        · rw [List.mem_singleton.mp new]
          exact le_max_right highest pn

/-- The window holds the marked numbers that are less than its length below the highest one. -/
theorem markAll_marked (numbers : List Nat) (pn : Nat) :
    (markAll numbers).Marked pn ↔
      pn ∈ numbers ∧ ∃ highest, numbers.max? = some highest ∧ highest - pn < windowBits := by
  induction numbers using List.reverseRecOn with
  | nil => simp [Marked, markAll, new]
  | append_singleton numbers last ih =>
    have highest := markAll_highest (numbers ++ [last])
    rw [markAll_concat] at highest ⊢
    rw [markProcessed_marked, highest, ih, List.mem_append, List.mem_singleton]
    constructor
    · rintro ⟨⟨old, -⟩ | new, near⟩
      · exact ⟨.inl old, near⟩
      · exact ⟨.inr new, near⟩
    · rintro ⟨old | new, near⟩
      · refine ⟨.inl ⟨old, ?_⟩, near⟩
        -- A number near the new highest one was near the old one as well.
        obtain ⟨top, reached, close⟩ := near
        cases seen : numbers.max? with
        | none =>
          rw [List.max?_eq_none_iff.mp seen] at old
          cases old
        | some before =>
          obtain ⟨member, -⟩ := List.max?_eq_some_iff.mp seen
          have grown := (List.max?_eq_some_iff.mp reached).2 before (List.mem_append_left _ member)
          exact ⟨before, rfl, by omega⟩
      · exact ⟨.inr new, near⟩

/-- The end of the range the scan is in. -/
def AckScan.openEnd (scan : AckScan) : Option Nat :=
  if scan.inRange then some scan.currentEnd else none

/-- The lowest number a window with this highest one reaches. -/
def lowest (highest : Nat) : Nat := highest - 2047

/-- How many numbers the scan has still to look at. -/
def AckScan.remaining (highest : Nat) (scan : AckScan) : Nat :=
  highest + 1 - lowest highest - scan.diff

/-- All ranges the scan would list if there were no limit on their number. -/
def AckScan.unlimited (holds : Nat → Bool) (highest : Nat) (scan : AckScan) : List (Nat × Nat) :=
  scan.ranges ++ Runs.runs holds (lowest highest) (scan.remaining highest) scan.openEnd

section Scan

variable {holds : Nat → Bool} {highest : Nat}

/-- While numbers are left, the next one is the scan's distance below the highest. -/
theorem AckScan.remaining_succ {scan : AckScan} (inside : scan.diff < windowBits)
    (above : ¬ scan.diff > highest) :
    ∃ count, scan.remaining highest = count + 1 ∧ lowest highest + count = highest - scan.diff ∧
      count = highest + 1 - lowest highest - (scan.diff + 1) := by
  simp only [windowBits] at inside
  refine ⟨highest + 1 - lowest highest - (scan.diff + 1), ?_, ?_, rfl⟩
  · unfold remaining lowest
    omega
  · unfold lowest
    omega

/-- What scanning some bits comes to: a full list, or a scan further on that promises the same. -/
def Scanned (holds : Nat → Bool) (highest bits : Nat) (scan : AckScan) :
    Except (List (Nat × Nat)) AckScan → Prop
  | .error ranges => ranges = (scan.unlimited holds highest).take maxAckRanges
  | .ok next => next.ranges.length < maxAckRanges ∧
      next.unlimited holds highest = scan.unlimited holds highest ∧
      (next.diff = scan.diff + bits ∨ highest < next.diff ∧ next.diff ≤ scan.diff + bits)

/-- Bits that keep the promise leave the others to be scanned. -/
theorem Scanned.after {scan next : AckScan} {bits passed : Nat}
    {result : Except (List (Nat × Nat)) AckScan} (scanned : Scanned holds highest bits next result)
    (same : next.unlimited holds highest = scan.unlimited holds highest)
    (moved : next.diff = scan.diff + passed) : Scanned holds highest (bits + passed) scan result := by
  cases result with
  | error ranges =>
    rw [Scanned, ← same]
    exact scanned
  | ok last =>
    obtain ⟨short, kept, reached⟩ := scanned
    refine ⟨short, kept.trans same, ?_⟩
    omega

/-- Scanning the bits of a word finds the runs of the numbers they stand for. -/
theorem scanBits_scanned {bits : Nat} {word : BitVec 64} {scan : AckScan}
    (short : scan.ranges.length < maxAckRanges) (inside : scan.diff + bits ≤ windowBits)
    (reads : ∀ step < bits, scan.diff + step ≤ highest →
      word.getLsbD step = holds (highest - (scan.diff + step))) :
    Scanned holds highest bits scan (scanBits highest bits word scan) := by
  induction bits generalizing word scan with
  | zero => exact ⟨short, rfl, .inl rfl⟩
  | succ bits ih =>
    unfold scanBits
    split
    · -- The scan has passed packet number zero.
      rename_i past
      exact ⟨short, rfl, .inr ⟨past, by omega⟩⟩
    · rename_i above
      obtain ⟨count, left, top, count_eq⟩ := AckScan.remaining_succ (by omega) above
      have first := reads 0 (Nat.succ_pos bits) (by omega)
      rw [Nat.add_zero, ← top] at first
      -- The other bits of the word stand for the numbers below.
      have later : ∀ step < bits, scan.diff + 1 + step ≤ highest →
          (word >>> 1).getLsbD step = holds (highest - (scan.diff + 1 + step)) := by
        intro step less reach
        rw [BitVec.getLsbD_ushiftRight, Nat.add_assoc]
        exact reads (1 + step) (by omega) (by omega)
      have unlimited : scan.unlimited holds highest =
          scan.ranges ++ Runs.runs holds (lowest highest) (count + 1) scan.openEnd := by
        rw [AckScan.unlimited, left]
      dsimp only
      split
      · rename_i received
        rw [first] at received
        split
        · -- The number continues the open range.
          rename_i open_
          refine (ih (by exact short) (by simp only; omega) later).after ?_ rfl
          rw [unlimited, Runs.runs_succ_holds received]
          simp only [AckScan.unlimited, AckScan.openEnd, AckScan.remaining, open_, if_true,
            Option.getD_some, ← count_eq]
        · -- The number ends a new range.
          rename_i closed
          refine (ih (by exact short) (by simp only; omega) later).after ?_ rfl
          rw [unlimited, Runs.runs_succ_holds received]
          simp only [AckScan.unlimited, AckScan.openEnd, AckScan.remaining, closed, if_true,
            ← count_eq, top]
          simp
      · rename_i missing
        rw [first] at missing
        split
        · -- The number closes the open range just above it.
          rename_i open_
          have grown : scan.unlimited holds highest =
              (scan.ranges ++ [(highest - scan.diff + 1, scan.currentEnd)]) ++
                Runs.runs holds (lowest highest) count none := by
            rw [unlimited, Runs.runs_succ_missing missing, AckScan.openEnd, if_pos open_, ← top]
            simp
          split
          · rename_i full
            rw [Scanned, grown]
            have length : (scan.ranges ++ [(highest - scan.diff + 1, scan.currentEnd)]).length =
                maxAckRanges := by
              simp only [List.length_append, List.length_singleton] at full ⊢
              omega
            rw [List.take_append_of_le_length (by omega), ← length, List.take_length]
          · rename_i room
            refine (ih (Nat.lt_of_not_le room) (by simp only; omega) later).after ?_ rfl
            rw [grown]
            simp [AckScan.unlimited, AckScan.openEnd, AckScan.remaining, ← count_eq]
        · rename_i closed
          refine (ih (by exact short) (by simp only; omega) later).after ?_ rfl
          rw [unlimited, Runs.runs_succ_missing missing]
          simp only [AckScan.unlimited, AckScan.openEnd, AckScan.remaining, closed, ← count_eq]
          simp

/-- Passing over numbers that neither start nor end a range changes nothing. -/
theorem AckScan.unlimited_pass {scan : AckScan} {bits : Nat}
    (inside : scan.diff + bits ≤ windowBits)
    (alike : ∀ step < bits, scan.diff + step ≤ highest →
      holds (highest - (scan.diff + step)) = scan.inRange) :
    AckScan.unlimited holds highest { scan with diff := scan.diff + bits } =
      scan.unlimited holds highest := by
  simp only [windowBits] at inside
  -- Near packet number zero fewer numbers are left than are passed over.
  have after : AckScan.remaining highest { scan with diff := scan.diff + bits } =
      scan.remaining highest - bits := by
    simp only [remaining]
    omega
  obtain ⟨skipped, few, left, reach⟩ : ∃ skipped, skipped ≤ bits ∧
      scan.remaining highest = scan.remaining highest - bits + skipped ∧
      (0 < skipped → scan.diff + skipped ≤ highest + 1 - lowest highest) := by
    refine ⟨min bits (scan.remaining highest), Nat.min_le_left _ _, by omega, ?_⟩
    simp only [remaining]
    omega
  have passed : ∀ step < skipped,
      holds (lowest highest + (scan.remaining highest - bits) + step) = scan.inRange := by
    intro step less
    have number : lowest highest + (scan.remaining highest - bits) + step =
        highest - (scan.diff + (skipped - 1 - step)) := by
      have bottom : lowest highest ≤ highest := Nat.sub_le highest 2047
      have size : scan.remaining highest = highest + 1 - lowest highest - scan.diff := rfl
      have within := reach (by omega)
      omega
    rw [number]
    exact alike _ (by omega) (by have within := reach (by omega); omega)
  generalize scan.remaining highest - bits = count at after left passed
  unfold unlimited
  rw [after, left]
  congr 1
  unfold openEnd
  cases within : scan.inRange with
  | false => exact (Runs.runs_skip fun step less => (passed step less).trans within).symm
  | true => exact (Runs.runs_extend fun step less => (passed step less).trans within).symm

/-- Past packet number zero the scan is over. -/
theorem scanWords_past (words : List (BitVec 64)) {scan : AckScan} (past : highest < scan.diff) :
    scanWords highest words scan = .ok scan := by
  cases words with
  | nil => rfl
  | cons word rest =>
    unfold scanWords
    rw [if_pos past]

/-- Scanning the words of a mask finds the runs of the numbers they stand for. -/
theorem scanWords_scanned {words : List (BitVec 64)} {scan : AckScan}
    (short : scan.ranges.length < maxAckRanges)
    (inside : scan.diff + 64 * words.length ≤ windowBits)
    (reads : ∀ step < 64 * words.length, scan.diff + step ≤ highest →
      Bitmask.bit words step = holds (highest - (scan.diff + step))) :
    Scanned holds highest (64 * words.length) scan (scanWords highest words scan) := by
  induction words generalizing scan with
  | nil => exact ⟨short, rfl, .inl rfl⟩
  | cons word rest ih =>
    rw [List.length_cons, Nat.mul_succ] at inside reads ⊢
    have first : ∀ step < 64, scan.diff + step ≤ highest →
        word.getLsbD step = holds (highest - (scan.diff + step)) := by
      intro step less reach
      rw [← Bitmask.bit_cons_low word rest less]
      exact reads step (by omega) reach
    have others : ∀ step < 64 * rest.length, scan.diff + 64 + step ≤ highest →
        Bitmask.bit rest step = holds (highest - (scan.diff + 64 + step)) := by
      intro step less reach
      rw [← Bitmask.bit_cons_high word rest step (by decide), Nat.add_assoc]
      exact reads (64 + step) (by omega) (by omega)
    -- A skipped word is as good as one that was read.
    have skip : (∀ step < 64, word.getLsbD step = scan.inRange) →
        Scanned holds highest (64 * rest.length + 64) scan
          (scanWords highest rest { scan with diff := scan.diff + 64 }) := by
      intro uniform
      refine (ih (by exact short) (by simp only; omega) others).after ?_ rfl
      refine AckScan.unlimited_pass (by omega) fun step less reach => ?_
      rw [← first step less reach, uniform step less]
    unfold scanWords
    split
    · rename_i past
      exact ⟨short, rfl, .inr ⟨past, by omega⟩⟩
    · split
      · rename_i zero
        simp only [Bool.and_eq_true, Bool.not_eq_true', beq_iff_eq] at zero
        exact skip fun step less => by rw [zero.1, zero.2]; simp
      · split
        · rename_i ones
          simp only [Bool.and_eq_true, beq_iff_eq] at ones
          exact skip fun step less => by rw [ones.1, ones.2, BitVec.getLsbD_allOnes]; simp [less]
        · have bits := scanBits_scanned short (by omega : scan.diff + 64 ≤ windowBits) first
          split
          · rename_i ranges full
            rw [full] at bits
            exact bits
          · rename_i next ended
            rw [ended] at bits
            obtain ⟨room, same, reached | ⟨past, within⟩⟩ := bits
            · refine (ih room (by omega) ?_).after same reached
              rwa [reached]
            · rw [scanWords_past rest past]
              exact ⟨room, same, .inr ⟨past, by omega⟩⟩

end Scan

/-- The ranges listed are the maximal runs of processed numbers, up to the limit. -/
theorem getAckRanges_eq {self : PacketWindow} {highest : Nat}
    (seen : self.highestProcessed = some highest) :
    self.getAckRanges =
      (Runs.runs (fun pn => Bitmask.bit self.bitmask (highest - pn)) (lowest highest)
        (highest - lowest highest + 1) none).take maxAckRanges := by
  -- The scan starts at the highest number, and the mask's positions count down from there.
  have scanned : Scanned (fun pn => Bitmask.bit self.bitmask (highest - pn)) highest
      (64 * self.bitmask.length) ⟨[], false, 0, 0⟩
      (scanWords highest self.bitmask ⟨[], false, 0, 0⟩) := by
    apply scanWords_scanned
    · decide
    · rw [bitmask_bits, Nat.zero_add]
    · intro step less reach
      rw [Nat.zero_add] at reach ⊢
      rw [Nat.sub_sub_self reach]
  rw [bitmask_bits] at scanned
  have start : AckScan.unlimited (fun pn => Bitmask.bit self.bitmask (highest - pn)) highest
      ⟨[], false, 0, 0⟩ = Runs.runs (fun pn => Bitmask.bit self.bitmask (highest - pn))
        (lowest highest) (highest - lowest highest + 1) none := by
    have all : AckScan.remaining highest ⟨[], false, 0, 0⟩ = highest - lowest highest + 1 := by
      simp only [AckScan.remaining]
      unfold lowest
      omega
    rw [AckScan.unlimited, all]
    rfl
  unfold getAckRanges
  rw [seen]
  dsimp only
  split
  · rename_i ranges full
    rw [full, Scanned, start] at scanned
    exact scanned
  · rename_i last ended
    rw [ended] at scanned
    obtain ⟨short, same, reached⟩ := scanned
    rw [start] at same
    simp only [windowBits, Nat.zero_add] at reached
    -- Nothing is left to scan, so only the open range is missing.
    have done : last.remaining highest = 0 := by
      unfold AckScan.remaining lowest
      omega
    have bottom : highest - (last.diff - 1) = lowest highest := by
      unfold lowest
      omega
    rw [← same, AckScan.unlimited, done, AckScan.openEnd, bottom]
    split
    · rename_i opened
      rw [if_pos opened.1, Runs.runs, List.take_of_length_le]
      rw [List.length_append, List.length_singleton]
      exact short
    · rename_i closed
      have outside : last.inRange = false := by
        simpa [short] using closed
      simp only [outside, Bool.false_eq_true, if_false, Runs.runs, List.append_nil]
      rw [List.take_of_length_le (Nat.le_of_lt short)]

/-- No more ranges are listed than the limit. -/
theorem getAckRanges_length (self : PacketWindow) : self.getAckRanges.length ≤ maxAckRanges := by
  cases seen : self.highestProcessed with
  | none => simp [getAckRanges, seen]
  | some highest =>
    rw [getAckRanges_eq seen]
    exact List.length_take_le _ _

/-- The ranges listed after a sequence of marks are the maximal runs of the marked numbers. -/
theorem markAll_ranges {numbers : List Nat} {highest : Nat} (seen : numbers.max? = some highest) :
    ∃ ranges, Runs.Maximal (· ∈ numbers) (lowest highest) highest ranges ∧
      (markAll numbers).getAckRanges = ranges.take maxAckRanges := by
  have top : (markAll numbers).highestProcessed = some highest := by rw [markAll_highest, seen]
  refine ⟨_, ?_, getAckRanges_eq top⟩
  -- The runs reach from the lowest number of the window to the highest one.
  have bottom : lowest highest + (highest - lowest highest) = highest :=
    Nat.add_sub_cancel' (Nat.sub_le highest 2047)
  have maximal := Runs.runs_maximal
    (fun pn => Bitmask.bit (markAll numbers).bitmask (highest - pn)) (lowest highest)
    (highest - lowest highest)
  rw [bottom] at maximal
  refine maximal.congr fun number lower upper => ?_
  -- Within the window, a set bit and a mark are the same.
  have near : highest - number < windowBits := by
    unfold lowest at lower
    unfold windowBits
    omega
  constructor
  · intro held
    exact ((markAll_marked numbers number).mp ⟨highest, top, upper, near, held⟩).1
  · intro member
    obtain ⟨other, same, -, -, held⟩ :=
      (markAll_marked numbers number).mpr ⟨member, highest, seen, near⟩
    rw [top, Option.some.injEq] at same
    subst same
    exact held

/-- How many stretches of numbers were marked, as far down as the window reaches. -/
def stretches (numbers : List Nat) : Nat :=
  match numbers.max? with
  | none => 0
  | some highest =>
    -- A stretch is counted at its last number.
    (numbers.dedup.filter fun number => lowest highest ≤ number ∧ number + 1 ∉ numbers).length

/-- Each stretch of marked numbers is a range of its own, up to the limit. -/
theorem markAll_ranges_length (numbers : List Nat) :
    (markAll numbers).getAckRanges.length = min maxAckRanges (stretches numbers) := by
  unfold stretches
  cases seen : numbers.max? with
  | none =>
    have unseen : (markAll numbers).highestProcessed = none := by rw [markAll_highest, seen]
    simp [getAckRanges, unseen]
  | some highest =>
    obtain ⟨ranges, maximal, listed⟩ := markAll_ranges seen
    have largest := (List.max?_eq_some_iff.mp seen).2
    have count := maximal.length_eq ((List.nodup_dedup numbers).filter fun number =>
      lowest highest ≤ number ∧ number + 1 ∉ numbers) fun number => by
        rw [List.mem_filter, List.mem_dedup, decide_eq_true_eq]
        constructor
        · rintro ⟨member, lower, gap⟩
          exact ⟨lower, largest number member, member, .inr gap⟩
        · rintro ⟨lower, upper, member, last⟩
          refine ⟨member, lower, fun next => ?_⟩
          rcases last with rfl | gap
          · exact absurd (largest _ next) (Nat.not_succ_le_self _)
          · exact gap next
    rw [listed, List.length_take, count]

end PacketWindow

namespace ReplayWindow

open PacketWindow

/-- A number that is marked is a replay from then on, and so is every number that was one before. -/
theorem isReplay_markProcessed {self : ReplayWindow} {pn other : Nat}
    (known : self.isReplay other = true ∨ other = pn) :
    isReplay (self.markProcessed pn) other = true := by
  obtain ⟨highest, seen⟩ : ∃ highest, (self.markProcessed pn).highestProcessed = some highest :=
    ⟨_, self.markProcessed_highest pn⟩
  rw [isReplay_iff]
  -- The window reaches down to the number, or has slid past it.
  by_cases near : highest - other < windowBits
  · refine .inl ((self.markProcessed_marked pn other).mpr ⟨?_, highest, seen, near⟩)
    rcases known with replay | same
    · rcases (isReplay_iff self other).mp replay with marked | ⟨before, held, far⟩
      · exact .inl marked
      · -- What was too old cannot be near the new highest number.
        rw [markProcessed_highest, held, Option.some.injEq] at seen
        dsimp only at seen
        simp only [windowBits] at near far
        omega
    · exact .inr same
  · simp only [windowBits] at near ⊢
    exact .inr ⟨highest, seen, by omega⟩

/--
A packet arrives: it is processed if its number is no replay and it opens, and its number is then
marked. The second component lists the numbers processed so far.
-/
def arrive (state : ReplayWindow × List Nat) (arrival : Nat × Bool) : ReplayWindow × List Nat :=
  if state.1.isReplay arrival.1 then state
  else if arrival.2 then (state.1.markProcessed arrival.1, state.2 ++ [arrival.1])
  else state

/-- The window and the numbers processed after packets arrived in turn. -/
def arriveAll (arrivals : List (Nat × Bool)) : ReplayWindow × List Nat :=
  arrivals.foldl arrive (.new, [])

/-- A number is a replay exactly when it was marked or lies a window's length below the highest. -/
theorem isReplay_markAll (numbers : List Nat) (pn : Nat) :
    isReplay (markAll numbers) pn = true ↔
      numbers ≠ [] ∧
        (pn ∈ numbers ∨ ∃ highest, numbers.max? = some highest ∧ pn + windowBits ≤ highest) := by
  rw [isReplay_iff, markAll_marked, markAll_highest]
  constructor
  · rintro (⟨member, -⟩ | ⟨highest, seen, far⟩)
    · exact ⟨List.ne_nil_of_mem member, .inl member⟩
    · exact ⟨List.ne_nil_of_mem (List.max?_eq_some_iff.mp seen).1, .inr ⟨highest, seen, far⟩⟩
  · rintro ⟨-, member | far⟩
    · -- A marked number is in the window, or the window has slid past it.
      obtain ⟨highest, seen⟩ : ∃ highest, numbers.max? = some highest :=
        Option.ne_none_iff_exists'.mp (mt List.max?_eq_none_iff.mp (List.ne_nil_of_mem member))
      by_cases near : highest - pn < windowBits
      · exact .inl ⟨member, highest, seen, near⟩
      · have below := (List.max?_eq_some_iff.mp seen).2 pn member
        simp only [windowBits] at near ⊢
        exact .inr ⟨highest, seen, by omega⟩
    · exact .inr far

/-- What the window knows is what was processed, and nothing was processed twice. -/
theorem arriveAll_spec (arrivals : List (Nat × Bool)) :
    (arriveAll arrivals).1 = markAll (arriveAll arrivals).2 ∧ (arriveAll arrivals).2.Nodup := by
  induction arrivals using List.reverseRecOn with
  | nil => exact ⟨rfl, List.nodup_nil⟩
  | append_singleton arrivals arrival ih =>
    obtain ⟨window, distinct⟩ := ih
    have next : arriveAll (arrivals ++ [arrival]) = arrive (arriveAll arrivals) arrival :=
      List.foldl_concat arrive _ _ _
    rw [next]
    unfold arrive
    split
    · exact ⟨window, distinct⟩
    · rename_i fresh
      split
      · -- A number that is no replay was not processed before.
        have unseen : arrival.1 ∉ (arriveAll arrivals).2 := by
          intro member
          rw [window] at fresh
          exact fresh ((isReplay_markAll _ _).mpr ⟨List.ne_nil_of_mem member, .inl member⟩)
        refine ⟨?_, ?_⟩
        · rw [markAll_concat, ← window]
        · refine List.nodup_append.mpr ⟨distinct, by simp, ?_⟩
          intro old member other same
          rw [List.mem_singleton.mp same]
          rintro rfl
          exact unseen member
      · exact ⟨window, distinct⟩

/--
The window rejects exactly what was marked or is too old to tell. A run that processes and marks
only what is not rejected processes no number twice, and rejects no unseen number less than the
window's length below the highest one processed.
-/
theorem isReplay_exact :
    (∀ (numbers : List Nat) (pn : Nat), isReplay (markAll numbers) pn = true ↔
      numbers ≠ [] ∧
        (pn ∈ numbers ∨ ∃ highest, numbers.max? = some highest ∧ pn + 2048 ≤ highest)) ∧
    ∀ arrivals : List (Nat × Bool), (arriveAll arrivals).2.Nodup ∧
      ∀ pn, pn ∉ (arriveAll arrivals).2 →
        (∀ highest, (arriveAll arrivals).2.max? = some highest → highest < pn + 2048) →
        (arriveAll arrivals).1.isReplay pn = false := by
  refine ⟨isReplay_markAll, fun arrivals => ?_⟩
  obtain ⟨window, distinct⟩ := arriveAll_spec arrivals
  refine ⟨distinct, fun pn unseen recent => ?_⟩
  rw [window, ← Bool.not_eq_true, isReplay_markAll]
  rintro ⟨-, member | ⟨highest, seen, far⟩⟩
  · exact unseen member
  · have near := recent highest seen
    simp only [windowBits] at far
    omega

end ReplayWindow
end Zetta
