import Mathlib.Data.List.Basic
import Mathlib.Order.Lattice

/-! Finite unions of half-open intervals, and what merging one more interval does to them. -/

namespace Intervals

variable {α κ : Type}

/--
A fold that keeps one of its two arguments each time selects a bound of everything it saw.

The relation is the order or its converse, so that minima and maxima are both instances.
-/
theorem foldl_select (below : κ → κ → Prop) (select : κ → κ → κ) (measure : α → κ)
    (reflexive : ∀ x, below x x) (transitive : ∀ x y z, below x y → below y z → below x z)
    (left : ∀ x y, below (select x y) x) (right : ∀ x y, below (select x y) y)
    (choice : ∀ x y, select x y = x ∨ select x y = y) (items : List α) (initial : κ) :
    let result := items.foldl (fun best item => select best (measure item)) initial
    below result initial ∧ (∀ item ∈ items, below result (measure item)) ∧
      (result = initial ∨ ∃ item ∈ items, result = measure item) := by
  induction items generalizing initial with
  | nil => exact ⟨reflexive initial, by simp, .inl rfl⟩
  | cons head rest ih =>
    -- The rest starts from the choice between the initial value and the head.
    obtain ⟨first, each, source⟩ := ih (select initial (measure head))
    refine ⟨transitive _ _ _ first (left _ _), fun item member => ?_, ?_⟩
    · rcases List.mem_cons.mp member with rfl | later
      · exact transitive _ _ _ first (right _ _)
      · exact each item later
    · rcases source with same | ⟨item, member, same⟩
      · rcases choice initial (measure head) with kept | taken
        · exact .inl (same.trans kept)
        · exact .inr ⟨head, by simp, same.trans taken⟩
      · exact .inr ⟨item, List.mem_cons_of_mem _ member, same⟩

variable [LinearOrder κ]

/-- Some interval of a list contains the point. -/
def Covers (ranges : List (κ × κ)) (point : κ) : Prop :=
  ∃ range ∈ ranges, range.1 ≤ point ∧ point < range.2

/-- Intervals are nonempty, and no two of them overlap or touch. -/
structure Separated (ranges : List (κ × κ)) : Prop where
  nonempty : ∀ range ∈ ranges, range.1 < range.2
  apart : ∀ left ∈ ranges, ∀ right ∈ ranges,
    left = right ∨ left.2 < right.1 ∨ right.2 < left.1

/-- An interval overlaps another one or shares an end with it. -/
def Touches (start stop : κ) (range : κ × κ) : Prop := range.1 ≤ stop ∧ start ≤ range.2

/-- An interval that is the join of a new interval with every stored one it touches. -/
structure Merged (ranges : List (κ × κ)) (start stop low high : κ) : Prop where
  lowest : low ≤ start ∧ ∀ range ∈ ranges, Touches start stop range → low ≤ range.1
  highest : stop ≤ high ∧ ∀ range ∈ ranges, Touches start stop range → range.2 ≤ high
  lowSource : low = start ∨ ∃ range ∈ ranges, Touches start stop range ∧ low = range.1
  highSource : high = stop ∨ ∃ range ∈ ranges, Touches start stop range ∧ high = range.2

/-- A point between the new interval and an end of the join lies in a stored interval. -/
theorem Merged.covers {ranges : List (κ × κ)} {start stop low high point : κ}
    (merged : Merged ranges start stop low high) (lower : low ≤ point) (upper : point < high) :
    Covers ranges point ∨ (start ≤ point ∧ point < stop) := by
  rcases lt_or_ge point start with before | after
  · -- The low end came from a stored interval that reaches the new one.
    rcases merged.lowSource with same | ⟨range, member, touches, same⟩
    · exact absurd (same ▸ lower) (not_le.mpr before)
    · exact .inl ⟨range, member, same ▸ lower, lt_of_lt_of_le before touches.2⟩
  · rcases lt_or_ge point stop with inside | past
    · exact .inr ⟨after, inside⟩
    · rcases merged.highSource with same | ⟨range, member, touches, same⟩
      · exact absurd (same ▸ upper) (not_lt.mpr past)
      · exact .inl ⟨range, member, le_trans touches.1 past, same ▸ upper⟩

/-- Replacing the touched intervals by their join adds exactly the new interval's points. -/
theorem covers_merge {old new : List (κ × κ)} {start stop low high : κ}
    (merged : Merged old start stop low high)
    (entries : ∀ range, range ∈ new ↔
      range = (low, high) ∨ (range ∈ old ∧ ¬ Touches start stop range)) (point : κ) :
    Covers new point ↔ Covers old point ∨ (start ≤ point ∧ point < stop) := by
  constructor
  · intro ⟨range, member, lower, upper⟩
    rcases (entries range).mp member with rfl | ⟨kept, -⟩
    · exact merged.covers lower upper
    · exact .inl ⟨range, kept, lower, upper⟩
  · intro held
    rcases held with ⟨range, member, lower, upper⟩ | ⟨lower, upper⟩
    · -- A stored interval is kept, or the join contains it.
      by_cases touches : Touches start stop range
      · exact ⟨(low, high), (entries _).mpr (.inl rfl),
          le_trans (merged.lowest.2 range member touches) lower,
          lt_of_lt_of_le upper (merged.highest.2 range member touches)⟩
      · exact ⟨range, (entries _).mpr (.inr ⟨member, touches⟩), lower, upper⟩
    · exact ⟨(low, high), (entries _).mpr (.inl rfl), le_trans merged.lowest.1 lower,
        lt_of_lt_of_le upper merged.highest.1⟩

/-- An untouched interval ends before the join or starts after it. -/
theorem Merged.apart {ranges : List (κ × κ)} {start stop low high : κ}
    (merged : Merged ranges start stop low high) (separated : Separated ranges)
    {range : κ × κ} (member : range ∈ ranges) (untouched : ¬ Touches start stop range) :
    range.2 < low ∨ high < range.1 := by
  have size := separated.nonempty range member
  rcases lt_or_ge range.2 start with before | reaches
  · left
    rcases merged.lowSource with same | ⟨other, otherMember, touches, same⟩
    · exact same ▸ before
    · -- The interval that gave the low end reaches the start, so it lies to the right.
      rcases separated.apart range member other otherMember with equal | order | reversed
      · exact absurd (equal ▸ touches) untouched
      · exact same ▸ order
      · exact absurd (touches.2.trans_lt (reversed.trans (size.trans before))) (lt_irrefl _)
  · right
    have past : stop < range.1 := lt_of_not_ge fun within => untouched ⟨within, reaches⟩
    rcases merged.highSource with same | ⟨other, otherMember, touches, same⟩
    · exact same ▸ past
    · -- The interval that gave the high end starts by the stop, so it lies to the left.
      rcases separated.apart range member other otherMember with equal | reversed | order
      · exact absurd (equal ▸ touches) untouched
      · exact absurd (reversed.trans_le (touches.1.trans (past.trans size).le)) (lt_irrefl _)
      · exact same ▸ order

/-- Replacing the touched intervals by their join leaves the intervals apart. -/
theorem separated_merge {old new : List (κ × κ)} {start stop low high : κ}
    (merged : Merged old start stop low high) (separated : Separated old) (proper : start < stop)
    (entries : ∀ range, range ∈ new ↔
      range = (low, high) ∨ (range ∈ old ∧ ¬ Touches start stop range)) : Separated new where
  nonempty := by
    intro range member
    rcases (entries range).mp member with rfl | ⟨kept, -⟩
    · exact merged.lowest.1.trans_lt (proper.trans_le merged.highest.1)
    · exact separated.nonempty range kept
  apart := by
    intro left leftMember right rightMember
    rcases (entries left).mp leftMember with rfl | ⟨leftKept, leftFree⟩
    · rcases (entries right).mp rightMember with rfl | ⟨rightKept, rightFree⟩
      · exact .inl rfl
      · exact .inr (merged.apart separated rightKept rightFree).symm
    · rcases (entries right).mp rightMember with rfl | ⟨rightKept, rightFree⟩
      · exact .inr (merged.apart separated leftKept leftFree)
      · exact separated.apart left leftKept right rightKept

end Intervals
