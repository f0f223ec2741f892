import Mathlib.Data.List.Basic

/-! Readers that consume bytes from the front of a buffer, and what it means to read back a value. -/

namespace ByteReader

variable {ε α β : Type}

/-- A reader takes bytes from the front of the buffer or fails. -/
abbrev Reader (ε α : Type) := StateT (List UInt8) (Except ε) α

/-- Fail unless the buffer holds at least a number of bytes. -/
def need (count : Nat) (error : ε) : Reader ε Unit := fun buffer =>
  if buffer.length < count then .error error else .ok ((), buffer)

/-- Take a number of bytes from the front. -/
def take (count : Nat) (error : ε) : Reader ε (List UInt8) := fun buffer =>
  if buffer.length < count then .error error
  else .ok (buffer.take count, buffer.drop count)

/-- Look at the first byte without taking it. -/
def peek (error : ε) : Reader ε UInt8 := fun buffer =>
  match buffer with
  | [] => .error error
  | byte :: _ => .ok (byte, buffer)

/-- On any buffer that starts with the bytes, the reader answers the value and takes just them. -/
def Reads (reader : Reader ε α) (bytes : List UInt8) (value : α) : Prop :=
  ∀ rest, reader (bytes ++ rest) = .ok (value, rest)

/-- Answering without reading takes nothing. -/
theorem Reads.pure (value : α) : Reads (Pure.pure value : Reader ε α) [] value :=
  fun _ => rfl

/-- Readers run in sequence read their bytes in sequence. -/
theorem Reads.bind {first : Reader ε α} {next : α → Reader ε β} {bytes more : List UInt8}
    {value : α} {result : β} (one : Reads first bytes value)
    (two : Reads (next value) more result) : Reads (first >>= next) (bytes ++ more) result := by
  -- The second reader starts where the first one stopped.
  intro rest
  show (first (bytes ++ more ++ rest)).bind (fun answer => next answer.1 answer.2) = _
  rw [List.append_assoc, one]
  exact two rest

/-- A length check that the bytes pass takes nothing. -/
theorem Reads.need {reader : Unit → Reader ε α} {bytes : List UInt8} {value : α} {count : Nat}
    {error : ε} (enough : count ≤ bytes.length) (reads : Reads (reader ()) bytes value) :
    Reads (ByteReader.need count error >>= reader) bytes value := by
  intro rest
  have passed : ByteReader.need count error (bytes ++ rest) = .ok ((), bytes ++ rest) := by
    simp only [ByteReader.need, List.length_append]
    rw [if_neg (by omega)]
  show (ByteReader.need count error (bytes ++ rest)).bind _ = _
  rw [passed]
  exact reads rest

/-- Looking at the first byte takes nothing. -/
theorem Reads.peek {next : UInt8 → Reader ε α} {byte : UInt8} {bytes : List UInt8} {value : α}
    {error : ε} (reads : Reads (next byte) (byte :: bytes) value) :
    Reads (ByteReader.peek error >>= next) (byte :: bytes) value :=
  fun rest => reads rest

/-- Taking as many bytes as there are reads them all. -/
theorem Reads.take {bytes : List UInt8} {count : Nat} {error : ε} (size : bytes.length = count) :
    Reads (ByteReader.take count error) bytes bytes := by
  intro rest
  simp only [ByteReader.take, List.length_append]
  rw [if_neg (by omega), List.take_left' size, List.drop_left' size]

/-- A value computed from what was read takes no further bytes. -/
theorem Reads.map {reader : Reader ε α} {bytes : List UInt8} {value : α} (f : α → β)
    (reads : Reads reader bytes value) : Reads (f <$> reader) bytes (f value) := by
  intro rest
  show (reader (bytes ++ rest)).bind (fun answer => .ok (f answer.1, answer.2)) = _
  rw [reads]
  rfl

/-- A reader followed by a computed answer takes no further bytes. -/
theorem Reads.last {reader : Reader ε α} {bytes : List UInt8} {value : α} {f : α → β}
    (reads : Reads reader bytes value) :
    Reads (reader >>= fun answer => Pure.pure (f answer)) bytes (f value) := by
  intro rest
  show (reader (bytes ++ rest)).bind (fun answer => .ok (f answer.1, answer.2)) = _
  rw [reads]
  rfl

/-- Whatever the reader answers, on any buffer, has a property. -/
def Yields (reader : Reader ε α) (holds : α → Prop) : Prop :=
  ∀ buffer value rest, reader buffer = .ok (value, rest) → holds value

/-- Every answer has the property that says nothing. -/
theorem Yields.any {reader : Reader ε α} : Yields reader fun _ => True :=
  fun _ _ _ _ => trivial

/-- A fixed answer has the properties it has. -/
theorem Yields.pure {value : α} {holds : α → Prop} (held : holds value) :
    Yields (Pure.pure value : Reader ε α) holds := by
  intro buffer answer rest read
  cases read
  exact held

/-- A failure is no answer. -/
theorem Yields.throw {error : ε} {holds : α → Prop} :
    Yields (MonadExcept.throw error : Reader ε α) holds := by
  intro buffer answer rest read
  cases read

/-- Of readers run in sequence, the second may rely on what the first one answers. -/
theorem Yields.bind {first : Reader ε α} {next : α → Reader ε β} {held : α → Prop}
    {holds : β → Prop} (one : Yields first held)
    (two : ∀ value, held value → Yields (next value) holds) : Yields (first >>= next) holds := by
  intro buffer answer rest read
  -- The sequence answers only if the first reader does.
  change (first buffer).bind (fun known => next known.1 known.2) = _ at read
  cases middle : first buffer with
  | error error =>
    rw [middle] at read
    cases read
  | ok known =>
    rw [middle] at read
    exact two known.1 (one _ _ _ middle) _ _ _ read

section Parses

variable {bad error : ε} {count : Nat}

/--
From a buffer with at least a number of bytes, the reader takes bytes off the front that stand for
its answer, or it fails with another error than the one given.
-/
def Parses (bad : ε) (count : Nat) (reader : Reader ε α) (holds : List UInt8 → α → Prop) : Prop :=
  ∀ buffer, count ≤ buffer.length →
    match reader buffer with
    | .ok (value, rest) => ∃ bytes, buffer = bytes ++ rest ∧ holds bytes value
    | .error error => error ≠ bad

/-- Whatever the reader answers stands for bytes at the front. -/
theorem Parses.ok {reader : Reader ε α} {holds : List UInt8 → α → Prop}
    (parses : Parses bad 0 reader holds) {buffer rest : List UInt8} {value : α}
    (read : reader buffer = .ok (value, rest)) : ∃ bytes, buffer = bytes ++ rest ∧ holds bytes value := by
  have answered := parses buffer (Nat.zero_le _)
  rwa [read] at answered

/-- The reader never fails with the error given. -/
theorem Parses.error_ne {reader : Reader ε α} {holds : List UInt8 → α → Prop}
    (parses : Parses bad 0 reader holds) (buffer : List UInt8) : reader buffer ≠ .error bad := by
  intro failed
  have answered := parses buffer (Nat.zero_le _)
  rw [failed] at answered
  exact answered rfl

/-- What holds of the bytes and the answer may be weakened. -/
theorem Parses.mono {reader : Reader ε α} {held holds : List UInt8 → α → Prop}
    (parses : Parses bad count reader held) (implies : ∀ bytes value, held bytes value → holds bytes value) :
    Parses bad count reader holds := by
  intro buffer enough
  have answered := parses buffer enough
  split at answered
  · obtain ⟨bytes, front, known⟩ := answered
    exact ⟨bytes, front, implies _ _ known⟩
  · exact answered

/-- Answering without reading takes no bytes. -/
theorem Parses.pure {value : α} {holds : List UInt8 → α → Prop} (held : holds [] value) :
    Parses bad count (Pure.pure value : Reader ε α) holds :=
  fun _ _ => ⟨[], rfl, held⟩

/-- Failing with another error. -/
theorem Parses.throw {holds : List UInt8 → α → Prop} (other : error ≠ bad) :
    Parses bad count (MonadExcept.throw error : Reader ε α) holds := fun _ _ => other

/-- Of readers run in sequence, the second finds what the first one left. -/
theorem Parses.bind {first : Reader ε α} {next : α → Reader ε β} {held : List UInt8 → α → Prop}
    {holds : List UInt8 → β → Prop} (one : Parses bad count first held)
    (two : ∀ bytes value, held bytes value → Parses bad (count - bytes.length) (next value)
      fun more result => holds (bytes ++ more) result) :
    Parses bad count (first >>= next) holds := by
  intro buffer enough
  have answered := one buffer enough
  have run : (first >>= next) buffer = (first buffer).bind fun known => next known.1 known.2 := rfl
  rw [run]
  split at answered
  · rename_i value rest read
    obtain ⟨bytes, rfl, known⟩ := answered
    rw [List.length_append] at enough
    have later := two bytes value known rest (by omega)
    rw [read]
    show match next value rest with
      | .ok (result, left) => ∃ all, bytes ++ rest = all ++ left ∧ holds all result
      | .error error => error ≠ bad
    split at later
    · -- The bytes of both readers stand one after the other.
      rename_i result left _
      obtain ⟨others, rfl, whole⟩ := later
      exact ⟨bytes ++ others, (List.append_assoc ..).symm, whole⟩
    · exact later
  · rename_i error failed
    rw [failed]
    exact answered

/-- After a length check as many bytes are there. -/
theorem Parses.need {next : Unit → Reader ε β} {holds : List UInt8 → β → Prop} {least : Nat}
    (other : error ≠ bad) (reads : Parses bad least (next ()) holds) :
    Parses bad count (ByteReader.need least error >>= next) holds := by
  intro buffer _
  have run : (ByteReader.need least error >>= next) buffer =
      (ByteReader.need least error buffer).bind fun known => next known.1 known.2 := rfl
  rw [run]
  by_cases short : buffer.length < least
  · rw [ByteReader.need, if_pos short]
    exact other
  · rw [ByteReader.need, if_neg short]
    exact reads buffer (by omega)

/-- Taking bytes that are there, or failing with another error. -/
theorem Parses.take {size : Nat} (safe : size ≤ count ∨ error ≠ bad) :
    Parses bad count (ByteReader.take size error) fun bytes value =>
      value = bytes ∧ bytes.length = size := by
  intro buffer enough
  unfold ByteReader.take
  by_cases short : buffer.length < size
  · rw [if_pos short]
    rcases safe with there | other
    · omega
    · exact other
  · rw [if_neg short]
    exact ⟨buffer.take size, (List.take_append_drop size buffer).symm, rfl,
      by rw [List.length_take]; omega⟩

/-- A value computed from what was read stands for the same bytes. -/
theorem Parses.map {reader : Reader ε α} {held : List UInt8 → α → Prop} {holds : List UInt8 → β → Prop}
    (one : Parses bad count reader held) (f : α → β)
    (implies : ∀ bytes value, held bytes value → holds bytes (f value)) :
    Parses bad count (f <$> reader) holds := by
  intro buffer enough
  have answered := one buffer enough
  have run : (f <$> reader) buffer = (reader buffer).bind fun known => .ok (f known.1, known.2) := rfl
  rw [run]
  split at answered
  · rename_i value rest read
    obtain ⟨bytes, front, known⟩ := answered
    rw [read]
    exact ⟨bytes, front, implies _ _ known⟩
  · rename_i error failed
    rw [failed]
    exact answered

end Parses

end ByteReader
