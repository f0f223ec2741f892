import Mathlib.Algebra.BigOperators.Group.Finset.Basic
import Mathlib.Algebra.GroupWithZero.Nat
import Mathlib.Order.Interval.Finset.Nat
import Zetta.Lib.Intervals

/-! How many numbers a finite union of intervals holds, and how many more after a merge. -/

namespace Intervals

/-- The lengths of intervals, added up. -/
def size (ranges : List (Nat × Nat)) : Nat := (ranges.map fun range => range.2 - range.1).sum

/-- How much of a window intervals take up, added up interval by interval. -/
def overlap (ranges : List (Nat × Nat)) (start stop : Nat) : Nat :=
  (ranges.map fun range => min stop range.2 - max start range.1).sum

/-- The numbers some interval contains. -/
def points (ranges : List (Nat × Nat)) : Finset Nat :=
  ranges.toFinset.biUnion fun range => Finset.Ico range.1 range.2

/-- A point is a covered number. -/
theorem mem_points {ranges : List (Nat × Nat)} {point : Nat} :
    point ∈ points ranges ↔ Covers ranges point := by
  simp [points, Covers]

/-- Parts of intervals that are apart have as many points as the parts have one by one. -/
theorem card_parts {ranges : List (Nat × Nat)} (separated : Separated ranges)
    (distinct : ranges.Nodup) {part : Nat × Nat → Finset Nat}
    (inside : ∀ range, part range ⊆ Finset.Ico range.1 range.2) :
    (ranges.toFinset.biUnion part).card = (ranges.map fun range => (part range).card).sum := by
  -- Two different intervals share no point, so neither do their parts.
  have disjoint : (ranges.toFinset : Set (Nat × Nat)).PairwiseDisjoint part := by
    intro left leftMember right rightMember different
    rw [Finset.mem_coe, List.mem_toFinset] at leftMember rightMember
    apply Finset.disjoint_of_subset_left (inside left)
    apply Finset.disjoint_of_subset_right (inside right)
    rw [Finset.disjoint_left]
    intro point inLeft inRight
    simp only [Finset.mem_Ico] at inLeft inRight
    rcases separated.apart left leftMember right rightMember with same | order | order
    · exact different same
    · omega
    · omega
  rw [Finset.card_biUnion disjoint, List.sum_toFinset _ distinct]

/-- Intervals that are apart hold as many numbers as their lengths add up to. -/
theorem card_points {ranges : List (Nat × Nat)} (separated : Separated ranges)
    (distinct : ranges.Nodup) : (points ranges).card = size ranges := by
  simpa [points, size] using card_parts separated distinct fun range => Finset.Subset.refl _

/-- Intervals that are apart hold as many numbers of a window as they overlap it. -/
theorem card_points_inter {ranges : List (Nat × Nat)} (separated : Separated ranges)
    (distinct : ranges.Nodup) (start stop : Nat) :
    (points ranges ∩ Finset.Ico start stop).card = overlap ranges start stop := by
  have inside : ∀ range : Nat × Nat,
      Finset.Ico range.1 range.2 ∩ Finset.Ico start stop ⊆ Finset.Ico range.1 range.2 :=
    fun _ => Finset.inter_subset_left
  have parts := card_parts separated distinct inside
  simp only [Finset.Ico_inter_Ico, Nat.card_Ico] at parts
  rw [points, Finset.biUnion_inter]
  simp only [Finset.Ico_inter_Ico]
  rw [parts, overlap]
  simp only [max_comm, min_comm]

/-- Intervals that do not touch a window take up nothing of it. -/
theorem overlap_filter {ranges : List (Nat × Nat)} (touching : Nat × Nat → Bool) {start stop : Nat}
    (outside : ∀ range ∈ ranges, touching range = false → ¬ Touches start stop range) :
    overlap (ranges.filter touching) start stop = overlap ranges start stop := by
  induction ranges with
  | nil => rfl
  | cons range rest ih =>
    have later := ih fun other member => outside other (List.mem_cons_of_mem _ member)
    cases touched : touching range with
    | true =>
      rw [List.filter_cons_of_pos touched]
      simp only [overlap, List.map_cons, List.sum_cons] at later ⊢
      rw [later]
    | false =>
      -- The interval ends before the window or starts after it.
      have apart := outside range List.mem_cons_self touched
      rw [List.filter_cons_of_neg (by simp [touched]), later]
      simp only [overlap, List.map_cons, List.sum_cons, Touches] at apart ⊢
      omega

/-- Merging a window in adds the numbers of it that were not held before. -/
theorem size_merge {old new : List (Nat × Nat)} {start stop low high : Nat}
    (merged : Merged old start stop low high) (separated : Separated old) (proper : start < stop)
    (distinct : old.Nodup) (distinctNew : new.Nodup)
    (entries : ∀ range, range ∈ new ↔
      range = (low, high) ∨ (range ∈ old ∧ ¬ Touches start stop range)) :
    size new = size old + ((stop - start) - overlap old start stop) := by
  have apart := separated_merge merged separated proper entries
  -- The points afterwards are those before and the window's own.
  have union : points new = points old ∪ Finset.Ico start stop := by
    ext point
    simp only [Finset.mem_union, mem_points, Finset.mem_Ico, covers_merge merged entries point]
  have count := Finset.card_union_add_card_inter (points old) (Finset.Ico start stop)
  have within : (points old ∩ Finset.Ico start stop).card ≤ (Finset.Ico start stop).card :=
    Finset.card_le_card Finset.inter_subset_right
  rw [← union, card_points apart distinctNew, card_points separated distinct,
    card_points_inter separated distinct] at count
  rw [card_points_inter separated distinct] at within
  simp only [Nat.card_Ico] at count within
  omega

end Intervals
