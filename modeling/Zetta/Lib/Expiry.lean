import Mathlib.Data.Nat.Basic

/-! Records of used keys that forget old entries, and why a key with a lifetime is used only once. -/

namespace Expiry

/-- Keys, with the time each was recorded at. -/
abbrev Record (κ : Type) := List (κ × Nat)

variable {κ : Type} [DecidableEq κ]

/-- Whether a key is on record. -/
def holds (record : Record κ) (key : κ) : Bool := record.any fun entry => entry.1 = key

/-- Forget the keys that were recorded longer ago than an age. -/
def sweep (record : Record κ) (age now : Nat) : Record κ :=
  record.filter fun entry => now - entry.2 ≤ age

/--
A key issued at some time, with a lifetime, cannot be used any more.

It is on record since a time after its issue, or its lifetime is over.
-/
def Spent (record : Record κ) (age : Nat) (key : κ) (issued now : Nat) : Prop :=
  (∃ stamp, (key, stamp) ∈ record ∧ issued ≤ stamp) ∨ issued + age < now

variable {record : Record κ} {age issued now : Nat} {key : κ}

omit [DecidableEq κ] in
/-- A spent key stays so as time goes on. -/
theorem Spent.later {after : Nat} (spent : Spent record age key issued now) (later : now ≤ after) :
    Spent record age key issued after := by
  rcases spent with recorded | expired
  · exact .inl recorded
  · exact .inr (by omega)

omit [DecidableEq κ] in
/-- A spent key stays so when more keys are recorded. -/
theorem Spent.grow {larger : Record κ} (spent : Spent record age key issued now)
    (grows : record ⊆ larger) : Spent larger age key issued now := by
  rcases spent with ⟨stamp, member, after⟩ | expired
  · exact .inl ⟨stamp, grows member, after⟩
  · exact .inr expired

omit [DecidableEq κ] in
/-- A sweep forgets a key only after its lifetime, which began no later than its entry. -/
theorem Spent.sweep (spent : Spent record age key issued now) :
    Spent (sweep record age now) age key issued now := by
  rcases spent with ⟨stamp, member, after⟩ | expired
  · by_cases kept : now - stamp ≤ age
    · -- The entry survives the sweep.
      have survives : (key, stamp) ∈ Expiry.sweep record age now := by
        simp only [Expiry.sweep, List.mem_filter]
        exact ⟨member, by simpa using kept⟩
      exact .inl ⟨stamp, survives, after⟩
    · -- An entry old enough to be swept belongs to a key that is older still.
      right
      omega
  · exact .inr expired

/-- Within its lifetime a spent key is found on record. -/
theorem Spent.holds (spent : Spent record age key issued now) (inForce : now ≤ issued + age) :
    holds record key = true := by
  rcases spent with ⟨stamp, member, -⟩ | expired
  · simp only [Expiry.holds, List.any_eq_true, decide_eq_true_eq]
    exact ⟨_, member, rfl⟩
  · omega

omit [DecidableEq κ] in
/-- A key recorded after its issue is spent. -/
theorem spent_insert (later : issued ≤ now) :
    Spent (record ++ [(key, now)]) age key issued now :=
  .inl ⟨now, by simp, later⟩

end Expiry
