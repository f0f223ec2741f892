import Mathlib.Data.List.Basic

/-! Machines that answer operations, and the runs of one machine that simulates another. -/

namespace Refinement

variable {Op Answer State Spec : Type}

/-- Perform operations one after the other, collecting the answers. -/
def run (step : Op → State → Answer × State) : List Op → State → List Answer × State
  | [], state => ([], state)
  | op :: rest, state =>
    let (answer, next) := step op state
    let (answers, final) := run step rest next
    (answer :: answers, final)

/-- Every operation of a run is allowed in the state it meets. -/
def Permitted (step : Op → State → Answer × State) (allowed : Op → State → Prop) :
    List Op → State → Prop
  | [], _ => True
  | op :: rest, state => allowed op state ∧ Permitted step allowed rest (step op state).2

instance decidablePermitted (step : Op → State → Answer × State) (allowed : Op → State → Prop)
    [∀ op state, Decidable (allowed op state)] :
    ∀ operations state, Decidable (Permitted step allowed operations state)
  | [], _ => inferInstanceAs (Decidable True)
  | _ :: rest, _ => @instDecidableAnd _ _ _ (decidablePermitted step allowed rest _)

/--
What allowed operations preserve holds at the end of a run of them, and what each of them does then
holds all along it.
-/
theorem Permitted.invariant {step : Op → State → Answer × State} {allowed result : Op → State → Prop}
    {invariant : State → Prop}
    (keeps : ∀ op state, allowed op state → invariant state →
      invariant (step op state).2 ∧ result op state)
    {operations : List Op} {state : State} (permitted : Permitted step allowed operations state)
    (holds : invariant state) :
    invariant (run step operations state).2 ∧ Permitted step result operations state := by
  induction operations generalizing state with
  | nil => exact ⟨holds, trivial⟩
  | cons op rest ih =>
    obtain ⟨next, here⟩ := keeps op state permitted.1 holds
    obtain ⟨last, later⟩ := ih permitted.2 next
    exact ⟨last, here, later⟩

/--
A machine simulates another under a relation when both answer alike and stay related.

The relation knows the operations still to come, so it can carry what is asked of them.
-/
structure Simulates (step : Op → State → Answer × State) (spec : Op → Spec → Answer × Spec)
    (related : List Op → State → Spec → Prop) : Prop where
  answer : ∀ {op rest state model}, related (op :: rest) state model →
    (step op state).1 = (spec op model).1
  next : ∀ {op rest state model}, related (op :: rest) state model →
    related rest (step op state).2 (spec op model).2

/-- Over a whole run the answers agree, and the states it ends in are related. -/
theorem Simulates.run {step : Op → State → Answer × State} {spec : Op → Spec → Answer × Spec}
    {related : List Op → State → Spec → Prop} (simulates : Simulates step spec related)
    {operations : List Op} {state : State} {model : Spec} (start : related operations state model) :
    (Refinement.run step operations state).1 = (Refinement.run spec operations model).1 ∧
      related [] (Refinement.run step operations state).2
        (Refinement.run spec operations model).2 := by
  induction operations generalizing state model with
  | nil => exact ⟨rfl, start⟩
  | cons op rest ih =>
    obtain ⟨answers, final⟩ := ih (simulates.next start)
    -- The first answers agree by the relation, the others by induction.
    exact ⟨List.cons_eq_cons.mpr ⟨simulates.answer start, answers⟩, final⟩

end Refinement
