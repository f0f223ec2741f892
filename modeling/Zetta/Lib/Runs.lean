import Mathlib.Data.List.Basic

/-! The maximal runs of a predicate on a stretch of numbers, highest first. -/

namespace Runs

/--
The maximal runs among a number of numbers from a lowest one up, each from its first to its last.

The runs are found from the top down; the end of a run that is still being read is kept aside.
-/
def runs (holds : Nat → Bool) (low : Nat) : Nat → Option Nat → List (Nat × Nat)
  | 0, none => []
  | 0, some last => [(low, last)]
  | count + 1, current =>
    if holds (low + count) then runs holds low count (some (current.getD (low + count)))
    else
      match current with
      | none => runs holds low count none
      | some last => (low + count + 1, last) :: runs holds low count none

/-- A number that holds opens a run or continues the open one. -/
theorem runs_succ_holds {holds : Nat → Bool} {low count : Nat} {current : Option Nat}
    (held : holds (low + count) = true) :
    runs holds low (count + 1) current =
      runs holds low count (some (current.getD (low + count))) := by
  rw [runs.eq_def]
  simp [held]

/-- A number that does not hold closes the open run just above it. -/
theorem runs_succ_missing {holds : Nat → Bool} {low count : Nat} {current : Option Nat}
    (missing : ¬ holds (low + count) = true) :
    runs holds low (count + 1) current =
      (current.map fun last => (low + count + 1, last)).toList ++ runs holds low count none := by
  cases current with
  | none => rw [runs.eq_def]; simp [missing]
  | some last => rw [runs.eq_def]; simp [missing]

/-- Ranges that are the maximal runs of a predicate between two bounds, highest first. -/
structure Maximal (holds : Nat → Prop) (low high : Nat) (ranges : List (Nat × Nat)) : Prop where
  ordered : ∀ range ∈ ranges, range.1 ≤ range.2
  /-- Between two ranges at least one number is missing. -/
  apart : ranges.Pairwise fun upper lower => lower.2 + 1 < upper.1
  covered : ∀ number, (∃ range ∈ ranges, range.1 ≤ number ∧ number ≤ range.2) ↔
    low ≤ number ∧ number ≤ high ∧ holds number

/-- Predicates that agree between the bounds have the same maximal runs. -/
theorem Maximal.congr {holds other : Nat → Prop} {low high : Nat} {ranges : List (Nat × Nat)}
    (maximal : Maximal holds low high ranges)
    (agree : ∀ number, low ≤ number → number ≤ high → (holds number ↔ other number)) :
    Maximal other low high ranges := by
  refine ⟨maximal.ordered, maximal.apart, fun number => ?_⟩
  rw [maximal.covered number]
  -- Only numbers between the bounds are ever looked at.
  constructor
  · rintro ⟨lower, upper, held⟩
    exact ⟨lower, upper, (agree number lower upper).mp held⟩
  · rintro ⟨lower, upper, held⟩
    exact ⟨lower, upper, (agree number lower upper).mpr held⟩

/-- Of two different ranges, one ends before the number below the other. -/
theorem apart_of_mem {ranges : List (Nat × Nat)}
    (apart : ranges.Pairwise fun upper lower => lower.2 + 1 < upper.1) {range other : Nat × Nat}
    (member : range ∈ ranges) (found : other ∈ ranges) (different : range ≠ other) :
    other.2 + 1 < range.1 ∨ range.2 + 1 < other.1 := by
  obtain ⟨first, firstInside, rfl⟩ := List.getElem_of_mem member
  obtain ⟨second, secondInside, rfl⟩ := List.getElem_of_mem found
  rcases Nat.lt_trichotomy first second with before | same | after
  · exact .inl (List.pairwise_iff_getElem.mp apart first second firstInside secondInside before)
  · subst same
    exact absurd rfl different
  · exact .inr (List.pairwise_iff_getElem.mp apart second first secondInside firstInside after)

/-- A run ends where it cannot be continued, within the bounds. -/
theorem Maximal.ends {holds : Nat → Prop} {low high : Nat} {ranges : List (Nat × Nat)}
    (maximal : Maximal holds low high ranges) {range : Nat × Nat} (member : range ∈ ranges)
    {number : Nat} (next : number = range.2 + 1 ∨ number + 1 = range.1) (lower : low ≤ number)
    (upper : number ≤ high) : ¬ holds number := by
  intro held
  obtain ⟨other, found, first, last⟩ := (maximal.covered number).mpr ⟨lower, upper, held⟩
  have ordered := maximal.ordered range member
  -- The range of the number next to this one is a different one, hence apart from it.
  have different : range ≠ other := by
    rintro rfl
    omega
  rcases apart_of_mem maximal.apart member found different with below | above
  · omega
  · omega

/-- There are as many maximal runs as numbers that a run ends with. -/
theorem Maximal.length_eq {holds : Nat → Prop} {low high : Nat} {ranges : List (Nat × Nat)}
    (maximal : Maximal holds low high ranges) {tops : List Nat} (once : tops.Nodup)
    (listed : ∀ number, number ∈ tops ↔
      low ≤ number ∧ number ≤ high ∧ holds number ∧ (number = high ∨ ¬ holds (number + 1))) :
    ranges.length = tops.length := by
  have distinct : (ranges.map Prod.snd).Nodup := by
    refine List.pairwise_map.mpr (maximal.apart.imp_of_mem ?_)
    intro upper lower first second apart same
    have ordered := maximal.ordered upper first
    omega
  -- The ends of the ranges are the numbers that hold and cannot be continued.
  have ends : ∀ number, number ∈ ranges.map Prod.snd ↔ number ∈ tops := by
    intro number
    rw [listed]
    constructor
    · intro member
      obtain ⟨range, found, rfl⟩ := List.mem_map.mp member
      have inside := (maximal.covered range.2).mp ⟨range, found, maximal.ordered range found, Nat.le_refl _⟩
      refine ⟨inside.1, inside.2.1, inside.2.2, ?_⟩
      by_cases top : range.2 = high
      · exact .inl top
      · exact .inr (maximal.ends found (.inl rfl) (by omega) (by omega))
    · rintro ⟨lower, upper, held, last⟩
      obtain ⟨range, found, first, within⟩ := (maximal.covered number).mpr ⟨lower, upper, held⟩
      refine List.mem_map.mpr ⟨range, found, ?_⟩
      by_contra longer
      have next := (maximal.covered (number + 1)).mp ⟨range, found, by omega, by omega⟩
      rcases last with top | gap
      · omega
      · exact gap next.2.2
  have same := (List.perm_ext_iff_of_nodup distinct once).mpr ends
  rw [← same.length_eq, List.length_map]

section Skip

variable {holds : Nat → Bool} {low count : Nat}

/-- Numbers that do not hold are passed over when no run is open. -/
theorem runs_skip {skipped : Nat} (missing : ∀ step < skipped, holds (low + count + step) = false) :
    runs holds low (count + skipped) none = runs holds low count none := by
  induction skipped with
  | zero => rfl
  | succ skipped ih =>
    have top := missing skipped (Nat.lt_succ_self skipped)
    rw [Nat.add_assoc] at top
    rw [← Nat.add_assoc, runs_succ_missing (by simp [top])]
    exact ih fun step inside => missing step (Nat.lt_succ_of_lt inside)

/-- Numbers that hold leave an open run open. -/
theorem runs_extend {skipped last : Nat}
    (held : ∀ step < skipped, holds (low + count + step) = true) :
    runs holds low (count + skipped) (some last) = runs holds low count (some last) := by
  induction skipped with
  | zero => rfl
  | succ skipped ih =>
    have top := held skipped (Nat.lt_succ_self skipped)
    rw [Nat.add_assoc] at top
    rw [← Nat.add_assoc, runs_succ_holds top]
    exact ih fun step inside => held step (Nat.lt_succ_of_lt inside)

end Skip

section Correct

variable {holds : Nat → Bool} {low : Nat}

/-- Every run ends below the numbers already read, or at the end kept aside. -/
theorem runs_below (count : Nat) (current : Option Nat)
    (opened : ∀ last, current = some last → low + count ≤ last) {range : Nat × Nat}
    (member : range ∈ runs holds low count current) :
    range.2 < current.elim (low + count) (· + 1) := by
  induction count generalizing current with
  | zero =>
    cases current with
    | none => cases member
    | some last =>
      rw [List.mem_singleton.mp member]
      simp
  | succ count ih =>
    unfold runs at member
    split at member
    · -- The number just read belongs to the run, which keeps its end or gets one.
      cases current with
      | none =>
        have below := ih _ (by simp) member
        simp only [Option.elim, Option.getD_none] at below ⊢
        omega
      | some last =>
        have reach := opened last rfl
        have below := ih _ (by simp; omega) member
        simpa using below
    · cases current with
      | none =>
        have below := ih _ (by simp) member
        simp only [Option.elim] at below ⊢
        omega
      | some last =>
        have reach := opened last rfl
        rcases List.mem_cons.mp member with rfl | later
        · simp
        · have below := ih _ (by simp) later
          simp only [Option.elim] at below ⊢
          omega

/-- The runs found are ordered, apart, and cover exactly the numbers that hold. -/
theorem runs_spec (count : Nat) (current : Option Nat)
    (opened : ∀ last, current = some last → low + count ≤ last) :
    (∀ range ∈ runs holds low count current, range.1 ≤ range.2) ∧
    ((runs holds low count current).Pairwise fun upper lower => lower.2 + 1 < upper.1) ∧
    ∀ number, (∃ range ∈ runs holds low count current, range.1 ≤ number ∧ number ≤ range.2) ↔
      (low ≤ number ∧ number < low + count ∧ holds number = true) ∨
        ∃ last, current = some last ∧ low + count ≤ number ∧ number ≤ last := by
  -- The number on top either joins the run kept aside or closes it.
  induction count generalizing current with
  | zero =>
    cases current with
    | none =>
      refine ⟨by simp [runs], by simp [runs], fun number => ?_⟩
      simp only [runs, List.not_mem_nil, false_and, exists_false, reduceCtorEq, or_false, false_iff]
      omega
    | some last =>
      have reach := opened last rfl
      refine ⟨by simpa [runs] using reach, by simp [runs], fun number => ?_⟩
      simp only [runs, List.mem_singleton, exists_eq_left, Option.some.injEq, exists_eq_left']
      omega
  | succ count ih =>
    unfold runs
    split
    · rename_i held
      have reach : low + count ≤ current.getD (low + count) := by
        cases current with
        | none => simp
        | some last =>
          have above := opened last rfl
          simp only [Option.getD_some]
          omega
      obtain ⟨ordered, apart, covered⟩ := ih (some (current.getD (low + count)))
        (by simpa using reach)
      refine ⟨ordered, apart, fun number => ?_⟩
      rw [covered number]
      simp only [Option.some.injEq, exists_eq_left']
      constructor
      · rintro (⟨lower, upper, holding⟩ | ⟨lower, upper⟩)
        · exact .inl ⟨lower, by omega, holding⟩
        · by_cases top : number = low + count
          · subst top
            exact .inl ⟨by omega, by omega, held⟩
          · cases current with
            | none =>
              simp only [Option.getD_none] at upper
              omega
            | some last => exact .inr ⟨last, rfl, by omega, upper⟩
      · rintro (⟨lower, upper, holding⟩ | ⟨last, rfl, lower, upper⟩)
        · by_cases top : number = low + count
          · exact .inr ⟨by omega, by omega⟩
          · exact .inl ⟨lower, by omega, holding⟩
        · exact .inr ⟨by omega, by simpa using upper⟩
    · rename_i missing
      obtain ⟨ordered, apart, covered⟩ := ih none (by simp)
      simp only [reduceCtorEq, false_and, exists_false, or_false] at covered
      -- The top number does not hold, so it is in no run.
      have top : ∀ number, low ≤ number ∧ number < low + count ∧ holds number = true ↔
          low ≤ number ∧ number < low + (count + 1) ∧ holds number = true := by
        intro number
        constructor
        · rintro ⟨lower, upper, holding⟩
          exact ⟨lower, by omega, holding⟩
        · rintro ⟨lower, upper, holding⟩
          refine ⟨lower, ?_, holding⟩
          have other : number ≠ low + count := by
            rintro rfl
            exact missing holding
          omega
      cases current with
      | none =>
        refine ⟨ordered, apart, fun number => ?_⟩
        rw [covered number, top number]
        simp
      | some last =>
        have reach := opened last rfl
        refine ⟨?_, ?_, fun number => ?_⟩
        · intro range member
          rcases List.mem_cons.mp member with rfl | later
          · exact reach
          · exact ordered range later
        · refine List.pairwise_cons.mpr ⟨fun lower later => ?_, apart⟩
          have below := runs_below count none (by simp) later
          simp only [Option.elim] at below
          omega
        · simp only [List.mem_cons, exists_eq_or_imp, covered number, Option.some.injEq,
            exists_eq_left', top number]
          exact or_comm

/-- The runs of a stretch of numbers are its maximal ones. -/
theorem runs_maximal (holds : Nat → Bool) (low count : Nat) :
    Maximal (holds · = true) low (low + count) (runs holds low (count + 1) none) := by
  obtain ⟨ordered, apart, covered⟩ := @runs_spec holds low (count + 1) none (by simp)
  refine ⟨ordered, apart, fun number => ?_⟩
  rw [covered number]
  simp only [reduceCtorEq, false_and, exists_false, or_false]
  constructor
  · rintro ⟨lower, upper, holding⟩
    exact ⟨lower, by omega, holding⟩
  · rintro ⟨lower, upper, holding⟩
    exact ⟨lower, by omega, holding⟩

end Correct

end Runs
