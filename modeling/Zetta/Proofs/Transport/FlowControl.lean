import Zetta.Proofs.Transport.PacketSender
import Zetta.Transport.Sample

/-! The limits on what a side may send, and how the peer's updates move them. -/

namespace Zetta

/-- A limit the peer advances: that of one stream, or that of the connection. -/
inductive SendLimit where
  | stream (id : Nat)
  | connection
  deriving DecidableEq, Repr

namespace SendLimit

open Program ZtConnectionActor

variable {CC : Type}

/-- The frame that tells of a new limit. -/
def update : SendLimit → Nat → Frame
  | stream id, maxData => .maxStreamData id maxData
  | connection, maxData => .maxData maxData

/-- How many bytes may still be accepted; a stream must be in the table. -/
def credit? (self : ZtConnectionActor CC) : SendLimit → Option Nat
  | stream id => (self.streams.find? id).map StreamState.txWindow
  | connection => some self.remoteWindow

/-- The offset up to which bytes may be accepted; a stream must be in the table. -/
def absolute? (self : ZtConnectionActor CC) : SendLimit → Option Nat
  | stream id => (self.streams.find? id).map fun stream => stream.nextTxOffset + stream.txWindow
  | connection => some (self.connTxOffset + self.remoteWindow)

/-- An update that does not fall behind the limit, or comes when nothing may be sent anyway. -/
def Advances (limit : SendLimit) (self : ZtConnectionActor CC) (maxData : Nat) : Prop :=
  limit.credit? self = some 0 ∨ ∀ reached, limit.absolute? self = some reached → reached ≤ maxData

section Updates

variable [Hkdf] [HandshakeCrypto] [CongestionController CC]

/--
A sender hears updates of one limit and accepts data in between.

The list holds the updates in the order they arrived, each under a condition on the sender then.
-/
inductive Hears (limit : SendLimit) (condition : ZtConnectionActor CC → Nat → Prop) :
    ZtConnectionActor CC → List Nat → ZtConnectionActor CC → Prop
  | start (self : ZtConnectionActor CC) : Hears limit condition self [] self
  | update {self middle : ZtConnectionActor CC} {updates : List Nat} (maxData : Nat) (addr : Address)
      (run : Hears limit condition self updates middle) (met : condition middle maxData) :
      Hears limit condition self (updates ++ [maxData])
        (exec (handleFrame (limit.update maxData) addr) middle).2
  | write {self middle after : ZtConnectionActor CC} {updates : List Nat} {streamId : Nat}
      {data : Bytes} (run : Hears limit condition self updates middle)
      (accepted : exec (processOutgoingData streamId data) middle = (.ok (), after)) :
      Hears limit condition self updates after

omit [Hkdf] [HandshakeCrypto] in
/-- Accepting data moves no limit, as long as the offsets fit a 64-bit word. -/
theorem absolute?_write {self after : ZtConnectionActor CC} {streamId : Nat} {data : Bytes}
    (limit : SendLimit)
    (accepted : exec (processOutgoingData streamId data) self = (.ok (), after)) {reached : Nat}
    (held : limit.absolute? self = some reached) (fits : reached < u64Size) :
    limit.absolute? after = some reached := by
  rcases processOutgoingData_cases self streamId data with
    ⟨error, refused⟩ | ⟨stream, found, -, -, within, credit, taken⟩
  · rw [refused] at accepted
    cases accepted
  · -- What the offset gains, the window loses.
    rw [taken] at accepted
    cases accepted
    cases limit with
    | connection =>
      simp only [absolute?, acceptData, Option.some.injEq] at held ⊢
      have exact : saturatingAdd self.connTxOffset data.length =
          self.connTxOffset + data.length := by
        unfold saturatingAdd
        omega
      rw [exact]
      omega
    | stream id =>
      simp only [absolute?, acceptData, SortedMap.find?_insert] at held ⊢
      by_cases same : id = streamId
      · subst same
        rw [found] at held
        simp only [Option.map_some, Option.some.injEq, if_true] at held ⊢
        omega
      · rw [if_neg same]
        exact held

/-- After an update the limit is the one told, but never below what was accepted. -/
theorem absolute?_update {self : ZtConnectionActor CC} (limit : SendLimit) (maxData : Nat)
    (addr : Address) {reached : Nat} (held : limit.absolute? self = some reached) :
    ∃ used credit, reached = used + credit ∧ limit.credit? self = some credit ∧
      limit.absolute? (exec (handleFrame (limit.update maxData) addr) self).2 =
        some (max used maxData) := by
  cases limit with
  | connection =>
    simp only [absolute?, Option.some.injEq] at held
    refine ⟨self.connTxOffset, self.remoteWindow, held.symm, rfl, ?_⟩
    show some (self.connTxOffset + (maxData - self.connTxOffset)) = _
    congr 1
    omega
  | stream id =>
    cases found : self.streams.find? id with
    | none =>
      rw [absolute?, found] at held
      cases held
    | some stream =>
      simp only [absolute?, found, Option.map_some, Option.some.injEq] at held
      refine ⟨stream.nextTxOffset, stream.txWindow, held.symm, by rw [credit?, found]; rfl, ?_⟩
      show absolute? (self.handleMaxStreamData id maxData) (.stream id) = _
      simp only [handleMaxStreamData, found, absolute?, putStream, SortedMap.find?_insert_self,
        Option.map_some, Option.some.injEq]
      omega

/-- An update leaves the larger limit exactly when it does not fall behind while credit is left. -/
theorem absolute?_update_iff {self : ZtConnectionActor CC} (limit : SendLimit) (maxData : Nat)
    (addr : Address) {reached : Nat} (held : limit.absolute? self = some reached) :
    limit.absolute? (exec (handleFrame (limit.update maxData) addr) self).2 =
        some (max reached maxData) ↔ limit.Advances self maxData := by
  obtain ⟨used, credit, sum, left, moved⟩ := absolute?_update limit maxData addr held
  rw [moved, Advances, left, held]
  simp only [Option.some.injEq, forall_eq']
  -- The old credit is lost in between the bytes used and the old limit.
  omega

/--
Updates that each advance the limit leave it at the largest of them and the limit before, and an
update moves the limit to the larger value only if it advances it.
-/
theorem updates_advance_iff (limit : SendLimit) :
    (∀ (self : ZtConnectionActor CC) (maxData : Nat) (addr : Address) (reached : Nat),
      limit.absolute? self = some reached →
      (limit.absolute? (exec (handleFrame (limit.update maxData) addr) self).2 =
        some (max reached maxData) ↔ limit.Advances self maxData)) ∧
    ∀ (self after : ZtConnectionActor CC) (updates : List Nat) (reached : Nat),
      Hears limit limit.Advances self updates after → limit.absolute? self = some reached →
      reached < u64Size → (∀ maxData ∈ updates, maxData < u64Size) →
      limit.absolute? after = some (updates.foldl max reached) := by
  refine ⟨fun self maxData addr reached held => absolute?_update_iff limit maxData addr held, ?_⟩
  intro self after updates reached run held fits words
  -- The largest value so far is a word, so accepted data does not move the limit either.
  suffices both : limit.absolute? after = some (updates.foldl max reached) ∧
      updates.foldl max reached < u64Size from both.1
  induction run with
  | start => exact ⟨held, fits⟩
  | update maxData addr run met ih =>
    obtain ⟨moved, small⟩ := ih fun word member => words word (List.mem_append_left _ member)
    have word := words maxData (List.mem_append_right _ List.mem_cons_self)
    rw [List.foldl_concat]
    exact ⟨(absolute?_update_iff limit maxData addr moved).mpr met, max_lt small word⟩
  | write run accepted ih =>
    obtain ⟨moved, small⟩ := ih words
    exact ⟨absolute?_write limit accepted moved small, small⟩

end Updates

section Stale

open Sample

/-- A client with an open stream that may send a hundred bytes on it and on the connection. -/
def clientWithCredit : ZtConnectionActor RenoController :=
  { endpoint .default true with
    streams := SortedMap.empty.insert 2 (StreamState.new .bidirectional 64 100 0)
    remoteWindow := 100 }

/-- The limits after two updates that arrive in the wrong order. -/
def afterUpdates (limit : SendLimit) : ZtConnectionActor RenoController :=
  (exec (handleFrame (limit.update 150) 0)
    (exec (handleFrame (limit.update 200) 0) clientWithCredit).2).2

/-- The limit was a hundred, an update to two hundred was heard, and the limit is less than that. -/
def LosesCredit (limit : SendLimit) : Prop :=
  Hears limit (fun _ _ => True) clientWithCredit [200, 150] (afterUpdates limit) ∧
    limit.absolute? clientWithCredit = some 100 ∧
    limit.absolute? (afterUpdates limit) = some 150 ∧ [200, 150].foldl max 100 = 200

/-- An older update that arrives after a newer one takes credit back, on a stream and in total. -/
theorem stale_update_takes_credit : LosesCredit (.stream 2) ∧ LosesCredit .connection := by
  have heard : ∀ limit, Hears limit (fun _ _ => True) clientWithCredit [200, 150] (afterUpdates limit) :=
    fun _ => .update 150 0 (.update 200 0 (.start _) trivial) trivial
  exact ⟨⟨heard _, by decide⟩, heard _, by decide⟩

end Stale
end SendLimit
end Zetta
