import Mathlib.Logic.Relation
import Mathlib.Order.Defs.Unbundled

/-! Programs that change a state and may fail, and relations their runs keep. -/

namespace Program

/-- A program over a state; a failure keeps the changes made before it. -/
abbrev Prog (σ ε α : Type) := ExceptT ε (StateM σ) α

variable {σ τ ε α β : Type}

/-- Run a program from a state. -/
def exec (program : Prog σ ε α) (state : σ) : Except ε α × σ := ExceptT.run program state

/-- Run a program and hand its failure, if any, to the caller as a value. -/
def attempt (program : Prog σ ε α) : Prog σ ε (Except ε α) :=
  ExceptT.mk fun state => let (result, after) := exec program state; (.ok result, after)

@[simp] theorem exec_pure (value : α) (state : σ) :
    exec (pure value : Prog σ ε α) state = (.ok value, state) := rfl

@[simp] theorem exec_throw (error : ε) (state : σ) :
    exec (throw error : Prog σ ε α) state = (.error error, state) := rfl

@[simp] theorem exec_get (state : σ) :
    exec (get : Prog σ ε σ) state = (.ok state, state) := rfl

@[simp] theorem exec_set (next state : σ) :
    exec (set next : Prog σ ε PUnit) state = (.ok ⟨⟩, next) := rfl

@[simp] theorem exec_modify (change : σ → σ) (state : σ) :
    exec (modify change : Prog σ ε PUnit) state = (.ok ⟨⟩, change state) := rfl

@[simp] theorem exec_attempt (program : Prog σ ε α) (state : σ) :
    exec (attempt program) state = (.ok (exec program state).1, (exec program state).2) := rfl

/-- A sequence stops at the first failure and otherwise goes on from the state reached. -/
theorem exec_bind (program : Prog σ ε α) (next : α → Prog σ ε β) (state : σ) :
    exec (program >>= next) state =
      match exec program state with
      | (.ok value, after) => exec (next value) after
      | (.error error, after) => (.error error, after) := by
  -- The error layer decides between the continuation and the failure.
  show ExceptT.bindCont next (exec program state).1 (exec program state).2 = _
  cases exec program state with
  | mk result after => cases result <;> rfl

/-- A sequence whose first part succeeds goes on with its answer. -/
theorem exec_bind_ok {program : Prog σ ε α} {next : α → Prog σ ε β} {state after : σ} {value : α}
    (first : exec program state = (.ok value, after)) :
    exec (program >>= next) state = exec (next value) after := by
  rw [exec_bind, first]

/-- A sequence whose first part fails fails with it. -/
theorem exec_bind_error {program : Prog σ ε α} {next : α → Prog σ ε β} {state after : σ}
    {error : ε} (first : exec program state = (.error error, after)) :
    exec (program >>= next) state = (.error error, after) := by
  rw [exec_bind, first]

/-- Reading the state hands it to the rest. -/
theorem exec_bind_get (next : σ → Prog σ ε β) (state : σ) :
    exec (get >>= next) state = exec (next state) state := rfl

/-- A change of state, and the rest from there. -/
theorem exec_bind_modify (change : σ → σ) (next : PUnit → Prog σ ε β) (state : σ) :
    exec (modify change >>= next) state = exec (next ⟨⟩) (change state) := rfl

/-- A new state, and the rest from there. -/
theorem exec_bind_set (new : σ) (next : PUnit → Prog σ ε β) (state : σ) :
    exec (set new >>= next) state = exec (next ⟨⟩) new := rfl

/-- A caught failure is a value for the rest. -/
theorem exec_bind_attempt (program : Prog σ ε α) (next : Except ε α → Prog σ ε β) (state : σ) :
    exec (attempt program >>= next) state =
      exec (next (exec program state).1) (exec program state).2 := rfl

/-- An invariant of a machine's steps is one of its runs. -/
theorem invariant_run {machine : τ → τ → Prop} {invariant : τ → Prop}
    (stable : ∀ before after, invariant before → machine before after → invariant after)
    {before after : τ} (holds : invariant before)
    (run : Relation.ReflTransGen machine before after) : invariant after := by
  induction run with
  | refl => exact holds
  | tail _ step ih => exact stable _ _ ih step

/--
A sequence ends in a state with a property if its first part does, should it fail, and the rest
does otherwise.
-/
theorem ends_bind (property : σ → Prop) {program : Prog σ ε α} {next : α → Prog σ ε β} {state : σ}
    (first : property (exec program state).2)
    (second : ∀ value, exec program state = (.ok value, (exec program state).2) →
      property (exec (next value) (exec program state).2).2) :
    property (exec (program >>= next) state).2 := by
  rw [exec_bind]
  cases reached : exec program state with
  | mk result middle =>
    rw [reached] at first second
    cases result with
    | error error => exact first
    | ok value => exact second value rfl

/-- A transitive relation that both parts of a sequence keep, the sequence keeps. -/
theorem keeps_bind {relation : σ → σ → Prop} [IsTrans σ relation] {program : Prog σ ε α}
    {next : α → Prog σ ε β} {state : σ} (first : relation state (exec program state).2)
    (second : ∀ value after, relation after (exec (next value) after).2) :
    relation state (exec (program >>= next) state).2 := by
  apply ends_bind (relation state) first
  intro value _
  -- The rest starts from where the first part ended.
  exact IsTrans.trans _ _ _ first (second value _)

/-- The same where the first part is a change of state. -/
theorem keeps_bind_modify {relation : σ → σ → Prop} [IsTrans σ relation] {change : σ → σ}
    {next : PUnit → Prog σ ε β} {state : σ} (first : relation state (change state))
    (second : relation (change state) (exec (next ⟨⟩) (change state)).2) :
    relation state (exec (modify change >>= next) state).2 := by
  rw [exec_bind_modify]
  exact IsTrans.trans _ _ _ first second

/-- The same where the first part stores a new state. -/
theorem keeps_bind_set {relation : σ → σ → Prop} [IsTrans σ relation] {new : σ}
    {next : PUnit → Prog σ ε β} {state : σ} (first : relation state new)
    (second : relation new (exec (next ⟨⟩) new).2) :
    relation state (exec (set new >>= next) state).2 := by
  rw [exec_bind_set]
  exact IsTrans.trans _ _ _ first second

/-- The same where a failure of the first part is caught. -/
theorem keeps_bind_attempt {relation : σ → σ → Prop} [IsTrans σ relation] {program : Prog σ ε α}
    {next : Except ε α → Prog σ ε β} {state : σ} (first : relation state (exec program state).2)
    (second : ∀ result after, relation after (exec (next result) after).2) :
    relation state (exec (attempt program >>= next) state).2 := by
  rw [exec_bind_attempt]
  exact IsTrans.trans _ _ _ first (second _ _)

end Program
