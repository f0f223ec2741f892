import Zetta.Basic
import Zetta.Lib.SortedMap
import Zetta.Lib.Ring

/-! The circular buffer that reassembles one stream's out-of-order data. -/

namespace Zetta

/-- A circular receive buffer, allocated on its first write. -/
structure StreamReceiveBuffer where
  /-- The stored bytes, or none at all before the first write. -/
  buffer : Bytes
  capacity : Nat
  /-- The stream offset of the next byte to hand out. -/
  readHead : Nat
  /-- One past the highest stream offset written so far. -/
  writeHead : Nat
  /-- Received ranges keyed by start offset, each with its exclusive end. -/
  receivedRanges : SortedMap Nat Nat

namespace StreamReceiveBuffer

/-- An empty buffer, which allocates nothing yet. -/
def new (capacity : Nat) : StreamReceiveBuffer where
  buffer := []
  capacity := capacity
  readHead := 0
  writeHead := 0
  receivedRanges := .empty

/-- The memory the buffer holds. -/
def allocatedSize (self : StreamReceiveBuffer) : Nat := self.buffer.length

/-- The stored ranges that overlap a range or touch one of its ends. -/
def touching (self : StreamReceiveBuffer) (start stop : Nat) : List (Nat × Nat) :=
  self.receivedRanges.entries.filter fun range => range.1 ≤ stop && start ≤ range.2

/--
Record a range, merging every stored range it overlaps or touches.

The number returned counts the bytes that no stored range held before.
-/
def addRange (self : StreamReceiveBuffer) (start stop : Nat) : Nat × StreamReceiveBuffer :=
  let merged := self.touching start stop
  let overlap := (merged.map fun range => min stop range.2 - max start range.1).sum
  let mergedStart := merged.foldl (fun least range => min least range.1) start
  let mergedEnd := merged.foldl (fun greatest range => max greatest range.2) stop
  let toRemove := merged.map Prod.fst
  -- A range that starts at or after the end may still touch what was merged so far.
  let following := self.receivedRanges.entries.find? fun range => stop ≤ range.1
  let (mergedEnd, toRemove) := match following with
    | some range =>
      if range.1 ≤ mergedEnd then (max mergedEnd range.2, toRemove ++ [range.1])
      else (mergedEnd, toRemove)
    | none => (mergedEnd, toRemove)
  let kept := toRemove.foldl SortedMap.erase self.receivedRanges
  ((stop - start) - overlap, { self with receivedRanges := kept.insert mergedStart mergedEnd })

/-- The memory a write works on, allocated on the first one. -/
def memory (self : StreamReceiveBuffer) : Bytes :=
  if self.buffer.isEmpty then List.replicate self.capacity 0 else self.buffer

/-- Copy data into the cells of its offset. -/
def store (self : StreamReceiveBuffer) (offset : Nat) (data : Bytes) : StreamReceiveBuffer :=
  { self with
    buffer := Ring.storeLoop data.length self.memory (offset % self.capacity) data
    writeHead := max self.writeHead (offset + data.length) }

/-- Record data at a stream offset, or answer nothing when it does not fit. -/
def write (self : StreamReceiveBuffer) (offset : Nat) (data : Bytes) :
    Option (Nat × StreamReceiveBuffer) :=
  if data.isEmpty then some (0, self)
  else
    match checkedAdd offset data.length with
    | none => none
    | some endOffset =>
      -- Cannot fit in the buffer.
      if endOffset > wrappingAdd self.readHead self.capacity then none
      else some ((self.store offset data).addRange offset endOffset)

/-- Forget the ranges that end at or before the read head. -/
def dropStale (self : StreamReceiveBuffer) : StreamReceiveBuffer :=
  let staleKeys := (self.receivedRanges.entries.filter fun range =>
    range.1 ≤ self.readHead && range.2 ≤ self.readHead).map Prod.fst
  { self with receivedRanges := staleKeys.foldl SortedMap.erase self.receivedRanges }

/-- Trim the first range when it starts before the read head. -/
def trimFirst (self : StreamReceiveBuffer) : StreamReceiveBuffer :=
  match self.receivedRanges.entries.head? with
  | some range =>
    if range.1 < self.readHead ∧ self.readHead < range.2 then
      { self with
        receivedRanges := (self.receivedRanges.erase range.1).insert self.readHead range.2 }
    else self
  | none => self

/-- Hand out the contiguous bytes at the read head, or nothing when there are none. -/
def readContiguous (self : StreamReceiveBuffer) : Option (Bytes × StreamReceiveBuffer) :=
  if self.buffer.isEmpty then none
  else
    match self.receivedRanges.entries.head? with
    | none => none
    | some first =>
      if first.1 ≤ self.readHead ∧ self.readHead < first.2 then
        let len := first.2 - self.readHead
        let out := Ring.load self.buffer (self.readHead % self.capacity)
          ((self.readHead + len) % self.capacity)
        some (out, ({ self with readHead := first.2 } : StreamReceiveBuffer).dropStale.trimFirst)
      else none

/-- Change the capacity, moving the unread bytes to their places in the new layout. -/
def resize (self : StreamReceiveBuffer) (newCapacity : Nat) : StreamReceiveBuffer :=
  if newCapacity = self.capacity then self
  else if self.buffer.isEmpty then { self with capacity := newCapacity }
  else
    let newBuf : Bytes := List.replicate newCapacity 0
    let dataLen := self.writeHead - self.readHead
    let newBuf :=
      if dataLen > 0 then
        let linear := Ring.linear self.buffer (self.readHead % self.capacity) dataLen
        Ring.place newBuf (self.readHead % newCapacity) linear
      else newBuf
    { self with buffer := newBuf, capacity := newCapacity }

end StreamReceiveBuffer
end Zetta
