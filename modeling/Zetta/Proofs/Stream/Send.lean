import Zetta.Stream.Stream

/-! Sending a whole payload, copied or not: the same requests, and a prefix accepted chunk by chunk. -/

namespace Zetta

namespace ZtStream

/-- An empty slice has no windows. -/
theorem chunks_nil {size : Nat} (positive : 0 < size) : chunks size [] = [] := by
  have none_needed : size - 1 < size := by omega
  simp [chunks, none_needed]

/-- The first window of a slice, then those of what is behind it. -/
theorem chunks_cons {size : Nat} (positive : 0 < size) {data : Bytes} (nonempty : data ≠ []) :
    chunks size data = data.take size :: chunks size (data.drop size) := by
  have some_byte : 0 < data.length := List.length_pos_iff.mpr nonempty
  -- One window more than behind the first, also when the slice ends within it.
  have count : (data.length + size - 1) / size = (data.length - size + size - 1) / size + 1 := by
    rcases Nat.lt_or_ge data.length size with short | long
    · have zero : data.length - size = 0 := by omega
      rw [zero, Nat.zero_add, Nat.div_eq_of_lt (show size - 1 < size by omega)]
      exact Nat.div_eq_of_lt_le (by omega) (by omega)
    · rw [← Nat.add_div_right _ positive]
      congr 1
      omega
  unfold chunks
  rw [count, List.range_succ_eq_map, List.map_cons, List.map_map, List.length_drop]
  congr 1
  · rw [Nat.zero_mul, List.drop_zero]
  · refine List.map_congr_left fun index _ => ?_
    simp only [Function.comp, List.drop_drop, Nat.succ_mul, Nat.add_comm]

/-- The windows of a slice put together are the slice. -/
theorem chunks_flatten {size : Nat} (positive : 0 < size) (data : Bytes) :
    (chunks size data).flatten = data := by
  -- Every window takes bytes away, so the induction is on the length of the slice.
  induction length : data.length using Nat.strongRecOn generalizing data with
  | ind bound ih =>
    by_cases empty : data = []
    · rw [empty, chunks_nil positive, List.flatten_nil]
    · have some_byte : 0 < data.length := List.length_pos_iff.mpr empty
      rw [chunks_cons positive empty, List.flatten_cons,
        ih (data.drop size).length (by rw [List.length_drop]; omega) _ rfl]
      exact List.take_append_drop size data

/-- A chunk is accepted and the send goes on behind it, or the send has not succeeded. -/
theorem sendChunk_cases (chunk : Bytes) (next : List SendAttempt → SendTrace)
    (attempts : List SendAttempt) :
    (∃ rest, (sendChunk chunk next attempts).accepted = chunk :: (next rest).accepted ∧
      (sendChunk chunk next attempts).result = (next rest).result) ∨
    ((sendChunk chunk next attempts).accepted = [] ∧
      (sendChunk chunk next attempts).result ≠ some (.ok ())) := by
  induction attempts with
  | nil => exact .inr ⟨rfl, by simp [sendChunk]⟩
  | cons attempt rest ih =>
    unfold sendChunk
    split
    · exact .inr ⟨rfl, by simp [SendTrace.ended]⟩
    · split
      · exact .inr ⟨rfl, by simp [SendTrace.ended]⟩
      · -- A refusal is followed by another attempt or ends the send; either way nothing is accepted.
        have refusal : ∀ reply : Reply, reply ≠ .accepted → ∀ trace : SendTrace,
            (SendTrace.after chunk reply trace).accepted = trace.accepted ∧
              (SendTrace.after chunk reply trace).result = trace.result := by
          intro reply refused trace
          simp [SendTrace.after, Reply.takes, refused]
        have failed : ∀ reply : Reply, reply ≠ .accepted → ∀ error,
            (SendTrace.after chunk reply (.ended (.error error))).accepted = [] ∧
              (SendTrace.after chunk reply (.ended (.error error))).result ≠ some (.ok ()) := by
          intro reply refused error
          rw [(refusal reply refused _).1, (refusal reply refused _).2]
          exact ⟨rfl, by simp [SendTrace.ended]⟩
        cases answer : attempt.reply with
        | accepted => exact .inl ⟨rest, by simp [SendTrace.after, Reply.takes]⟩
        | dropped => exact .inr (failed _ (by simp) _)
        | refused error =>
          have apart : Reply.refused error ≠ .accepted := by simp
          split
          next contrary => cases contrary
          next =>
            split
            · rwa [(refusal _ apart _).1, (refusal _ apart _).2]
            · exact .inr (failed _ apart _)
          next =>
            split
            · rwa [(refusal _ apart _).1, (refusal _ apart _).2]
            · exact .inr (failed _ apart _)
          next => rwa [(refusal _ apart _).1, (refusal _ apart _).2]
          next => exact .inr (failed _ apart _)
          next contrary => cases contrary

/-- The accepted chunks are the first ones, and all of them when the send succeeds. -/
theorem sendChunks_accepted (windows : List Bytes) (attempts : List SendAttempt) :
    (∃ count, (sendChunks windows attempts).accepted = windows.take count) ∧
      ((sendChunks windows attempts).result = some (.ok ()) →
        (sendChunks windows attempts).accepted = windows) := by
  induction windows generalizing attempts with
  | nil => exact ⟨⟨0, rfl⟩, fun _ => rfl⟩
  | cons chunk rest ih =>
    unfold sendChunks
    rcases sendChunk_cases chunk (sendChunks rest) attempts with ⟨later, accepted, result⟩ | ⟨accepted, unfinished⟩
    · obtain ⟨⟨count, first⟩, all⟩ := ih later
      rw [accepted, result]
      exact ⟨⟨count + 1, by rw [first, List.take_succ_cons]⟩, fun done => by rw [all done]⟩
    · exact ⟨⟨0, accepted⟩, fun done => (unfinished done).elim⟩

/-- Splitting the payload as it goes sends the same windows. -/
theorem sendBytesLoop_eq {size : Nat} (positive : 0 < size) (rounds : Nat) (data : Bytes)
    (enough : data.length < rounds) (attempts : List SendAttempt) :
    sendBytesLoop size rounds data attempts = sendChunks (chunks size data) attempts := by
  induction rounds generalizing data attempts with
  | zero => omega
  | succ rounds ih =>
    unfold sendBytesLoop
    split
    next empty => rw [empty, chunks_nil positive, sendChunks]
    next nonempty =>
      have some_byte : 0 < data.length := List.length_pos_iff.mpr nonempty
      rw [chunks_cons positive nonempty, sendChunks]
      split
      next long =>
        congr 1
        exact funext fun later => ih (data.drop size) (by rw [List.length_drop]; omega) later
      next short =>
        -- The last window is all that is left, and nothing is behind it.
        rw [List.take_of_length_le (by omega), List.drop_of_length_le (by omega)]
        congr 1
        exact funext fun later => ih [] (by simp only [List.length_nil]; omega) later

/--
Copying or not, a send issues the same requests and ends alike; the accepted chunks are the first
windows of the payload, each once, and make up the whole payload when the send succeeds.
-/
theorem send_exact (streamType : StreamType) (mtu : Nat) (data : Bytes) (attempts : List SendAttempt) :
    send streamType mtu data attempts = sendBytes streamType mtu data attempts ∧
    (∃ count, (send streamType mtu data attempts).accepted = (chunks (chunkSize mtu) data).take count) ∧
    (send streamType mtu data attempts).accepted.flatten <+: data ∧
    ((send streamType mtu data attempts).result = some (.ok ()) →
      (send streamType mtu data attempts).accepted.flatten = data) := by
  have positive := chunkSize_pos mtu
  have whole := chunks_flatten positive data
  unfold send sendBytes
  split
  · -- A stream of the peer's is refused before the first request.
    exact ⟨rfl, ⟨0, rfl⟩, List.nil_prefix, by simp [SendTrace.ended]⟩
  · obtain ⟨⟨count, first⟩, all⟩ := sendChunks_accepted (chunks (chunkSize mtu) data) attempts
    refine ⟨(sendBytesLoop_eq positive _ data (by omega) attempts).symm, ⟨count, first⟩, ?_,
      fun done => by rw [all done, whole]⟩
    -- The first windows and the others together are the payload.
    refine ⟨((chunks (chunkSize mtu) data).drop count).flatten, ?_⟩
    rw [first, ← List.flatten_append, List.take_append_drop, whole]

end ZtStream

end Zetta
