import Mathlib.Algebra.GroupWithZero.Nat
import Mathlib.Data.List.Induction
import Mathlib.Data.Nat.Size
import Mathlib.Order.Lattice

/-! Bytes, clock values and the fixed-width arithmetic the transport computes with. -/

namespace Zetta

/-- A byte string. -/
abbrev Bytes := List UInt8

/-- A point on the monotonic clock, in nanoseconds. -/
abbrev Instant := Nat

/-- A length of time, in nanoseconds. -/
abbrev Duration := Nat

/-- One millisecond. -/
def milliseconds (count : Nat) : Duration := count * 1000000

/-- One second. -/
def seconds (count : Nat) : Duration := count * 1000000000

/-- The number of values of a 64-bit word. -/
def u64Size : Nat := 2 ^ 64

/-- The number of values of a 32-bit word. -/
def u32Size : Nat := 2 ^ 32

/-- Addition of 64-bit words, which wraps around in a release build. -/
def wrappingAdd (left right : Nat) : Nat := (left + right) % u64Size

/-- Multiplication of 64-bit words, which wraps around in a release build. -/
def wrappingMul (left right : Nat) : Nat := (left * right) % u64Size

/-- Addition of 64-bit words that stops at the largest word. -/
def saturatingAdd (left right : Nat) : Nat := min (left + right) (u64Size - 1)

/-- Addition of 64-bit words that answers nothing when the sum does not fit. -/
def checkedAdd (left right : Nat) : Option Nat :=
  if left + right < u64Size then some (left + right) else none

/-- The errors of endpoint, connection and stream operations. -/
inductive ZtError where
  | invalidConfiguration (message : String)
  | io
  | crypto (message : String)
  | invalidPacket (message : String)
  | timeout
  | unauthorized
  | packetNumberOverflow
  | connectionIdExhausted
  | actorFailed
  | flowControlBlocked
  | congestionWindowFull
  | pacingBlocked (delay : Duration)
  | tooManyStreams (limit : Nat)
  | streamReset (streamId errorCode : Nat)
  | connectionClosedByPeer (errorCode : Nat) (reason : Bytes)
  | idleTimeout
  deriving DecidableEq, Repr

/-- A number as a run of bytes, most significant first. -/
def beBytes : Nat → Nat → Bytes
  | 0, _ => []
  | width + 1, value => beBytes width (value / 256) ++ [UInt8.ofNat (value % 256)]

/-- The number a run of bytes stands for, most significant first. -/
def beNat (bytes : Bytes) : Nat := bytes.foldl (fun value byte => value * 256 + byte.toNat) 0

/-- A wrapped sum never exceeds the sum. -/
theorem wrappingAdd_le (left right : Nat) : wrappingAdd left right ≤ left + right :=
  Nat.mod_le _ _

/-- A sum stopped at the largest word never exceeds the sum. -/
theorem saturatingAdd_le (left right : Nat) : saturatingAdd left right ≤ left + right :=
  Nat.min_le_left _ _

/-- A checked sum is the sum, and fits. -/
theorem checkedAdd_eq_some_iff {left right sum : Nat} :
    checkedAdd left right = some sum ↔ left + right = sum ∧ sum < u64Size := by
  unfold checkedAdd
  split
  · constructor
    · intro same
      cases same
      exact ⟨rfl, ‹_›⟩
    · rintro ⟨rfl, -⟩
      rfl
  · constructor
    · intro impossible
      cases impossible
    · rintro ⟨rfl, fits⟩
      exact absurd fits ‹_›

/-- A number takes exactly the width it was written at. -/
@[simp] theorem beBytes_length (width value : Nat) : (beBytes width value).length = width := by
  induction width generalizing value with
  | zero => rfl
  | succ width ih => simp [beBytes, ih]

/-- Reading one more byte shifts the number read so far by one byte. -/
theorem beNat_append_singleton (bytes : Bytes) (byte : UInt8) :
    beNat (bytes ++ [byte]) = beNat bytes * 256 + byte.toNat := by
  simp [beNat, List.foldl_append]

/-- A number that fits its width reads back from its bytes. -/
theorem beNat_beBytes {width value : Nat} (bound : value < 256 ^ width) :
    beNat (beBytes width value) = value := by
  induction width generalizing value with
  | zero =>
    -- No byte was written, and only zero fits in none.
    simp only [Nat.pow_zero] at bound
    have zero : value = 0 := by omega
    simp [beBytes, beNat, zero]
  | succ width ih =>
    -- The bytes before the last one hold the number without its low byte.
    have shrunk : value / 256 < 256 ^ width := by
      rw [Nat.pow_succ] at bound
      exact Nat.div_lt_of_lt_mul (by omega)
    have low : (UInt8.ofNat (value % 256)).toNat = value % 256 := by simp
    rw [beBytes, beNat_append_singleton, ih shrunk, low]
    omega

/-- Numbers that fit a width are told apart by their bytes. -/
theorem beBytes_injective {width left right : Nat} (leftFits : left < 256 ^ width)
    (rightFits : right < 256 ^ width) (same : beBytes width left = beBytes width right) :
    left = right := by
  rw [← beNat_beBytes leftFits, same, beNat_beBytes rightFits]

/-- Bytes spell a number below the power their count allows. -/
theorem beNat_lt (bytes : Bytes) : beNat bytes < 256 ^ bytes.length := by
  -- Each byte at the end multiplies the bound by its base.
  induction bytes using List.reverseRecOn with
  | nil => decide
  | append_singleton bytes byte ih =>
    have small := byte.toNat_lt
    rw [beNat_append_singleton, List.length_append, List.length_singleton, Nat.pow_succ]
    omega

/-- Bytes are the ones of the number they stand for. -/
theorem beBytes_beNat (bytes : Bytes) : beBytes bytes.length (beNat bytes) = bytes := by
  -- The induction takes the last byte off, which is the low byte of the number.
  induction bytes using List.reverseRecOn with
  | nil => rfl
  | append_singleton rest byte ih =>
    have small : byte.toNat < 256 := byte.toNat_lt
    have high : (beNat rest * 256 + byte.toNat) / 256 = beNat rest := by omega
    have low : (beNat rest * 256 + byte.toNat) % 256 = byte.toNat := by omega
    rw [List.length_append, List.length_singleton, beBytes, beNat_append_singleton, high, low, ih,
      UInt8.ofNat_toNat]

end Zetta
