import Mathlib.Data.List.Chain
import Zetta.Protocol.Frame

/-! Every frame is read back from its bytes, up to the width of its variable-length numbers. -/

namespace Zetta

open ByteReader

/-- A fixed-width number that fits is read back from its bytes. -/
theorem getUint_reads {width value : Nat} (fits : value < 256 ^ width) :
    Reads (getUint width) (beBytes width value) value := by
  -- The bytes have the width asked for, and spell the number.
  have taken : Reads (take width (ZtError.invalidPacket "advance past the end of the buffer"))
      (beBytes width value) (beBytes width value) := Reads.take (beBytes_length width value)
  have read := taken.map beNat
  rwa [beNat_beBytes fits] at read

/-- The first byte of a number written in at least one byte is its highest one. -/
theorem beBytes_succ (width value : Nat) :
    beBytes (width + 1) value = UInt8.ofNat (value / 256 ^ width % 256) :: beBytes width value := by
  induction width generalizing value with
  | zero => simp [beBytes]
  | succ width ih =>
    -- Splitting off the last byte commutes with splitting off the first.
    rw [beBytes, ih, beBytes, Nat.div_div_eq_div_mul, ← Nat.pow_succ']
    rfl

/-- Setting bits above a number adds them. -/
theorem or_high {value bits high : Nat} (low : value < 2 ^ bits) :
    (value ||| 2 ^ bits * high) = 2 ^ bits * high + value := by
  rw [Nat.or_comm, Nat.two_pow_add_eq_or_of_lt low]

section Varint

variable {width tag value : Nat}

/-- The number of bits a tagged number of a width leaves for its value. -/
def varintBits (width : Nat) : Nat := 8 * width + 6

/-- A tagged number fits its width. -/
theorem tagged_fits (tagged : tag < 4) (low : value < 2 ^ varintBits width) :
    2 ^ varintBits width * tag + value < 256 ^ (width + 1) := by
  have size : 256 ^ (width + 1) = 2 ^ varintBits width * 4 := by
    rw [show (256 : Nat) = 2 ^ 8 by rfl, show (4 : Nat) = 2 ^ 2 by rfl, ← Nat.pow_mul,
      ← Nat.pow_add]
    congr 1
  have scaled := Nat.mul_le_mul_left (2 ^ varintBits width) (Nat.succ_le_of_lt tagged)
  rw [Nat.mul_succ] at scaled
  omega

/-- The two high bits of the first byte are the tag. -/
theorem tagged_first (tagged : tag < 4) (low : value < 2 ^ varintBits width) :
    (UInt8.ofNat ((2 ^ varintBits width * tag + value) / 256 ^ width % 256)).toNat / 64 = tag := by
  have size : 2 ^ varintBits width = 256 ^ width * 64 := by
    rw [show (256 : Nat) = 2 ^ 8 by rfl, show (64 : Nat) = 2 ^ 6 by rfl, ← Nat.pow_mul,
      ← Nat.pow_add]
    rfl
  have high : value / 256 ^ width < 64 := Nat.div_lt_of_lt_mul (size ▸ low)
  have positive : 0 < 256 ^ width := Nat.pow_pos (by decide)
  have split : (2 ^ varintBits width * tag + value) / 256 ^ width =
      64 * tag + value / 256 ^ width := by
    rw [size, Nat.mul_assoc, Nat.mul_add_div positive]
  rw [split, UInt8.toNat_ofNat']
  generalize value / 256 ^ width = part at high
  omega

/-- A tagged number reads back without its tag, given the reader its tag selects. -/
theorem getVarint_tagged {error : ZtError} (tagged : tag < 4)
    (low : value < 2 ^ varintBits width)
    (selected : (match tag with
      | 0 => getUint 1
      | 1 => do
        need 2 (.invalidPacket "Truncated varint 2")
        return (← getUint 2) &&& 0x3FFF
      | 2 => do
        need 4 (.invalidPacket "Truncated varint 4")
        return (← getUint 4) &&& 0x3FFFFFFF
      | _ => do
        need 8 (.invalidPacket "Truncated varint 8")
        return (← getUint 8) &&& 0x3FFFFFFFFFFFFFFF) =
      (do need (width + 1) error; return (← getUint (width + 1)) &&& (2 ^ varintBits width - 1))) :
    Reads getVarint (beBytes (width + 1) (2 ^ varintBits width * tag + value)) value := by
  -- Masking the tag leaves the number itself.
  have masked : (2 ^ varintBits width * tag + value) &&& (2 ^ varintBits width - 1) = value := by
    rw [Nat.and_two_pow_sub_one_eq_mod, Nat.mul_add_mod, Nat.mod_eq_of_lt low]
  have read := Reads.last (f := fun number => number &&& (2 ^ varintBits width - 1))
    (getUint_reads (tagged_fits tagged low))
  rw [masked] at read
  have checked : Reads
      (do need (width + 1) error; return (← getUint (width + 1)) &&& (2 ^ varintBits width - 1))
      (beBytes (width + 1) (2 ^ varintBits width * tag + value)) value :=
    Reads.need (by simp) read
  rw [← selected] at checked
  unfold getVarint
  refine Reads.need (by simp) ?_
  rw [beBytes_succ] at checked ⊢
  refine Reads.peek ?_
  rw [tagged_first tagged low]
  exact checked

/-- The longest form keeps sixty-two bits under its tag. -/
theorem or_longest_tag {val : Nat} (word : val < u64Size) :
    (val ||| 0xC000000000000000) = 2 ^ 62 * 3 + val % 2 ^ 62 := by
  have low : val % 2 ^ 62 < 2 ^ 62 := Nat.mod_lt _ (by decide)
  have quotient : val / 2 ^ 62 < 4 := Nat.div_lt_of_lt_mul word
  -- The tag overwrites the two high bits, whatever they were.
  have high : (2 ^ 62 * (val / 2 ^ 62) ||| 2 ^ 62 * 3) = 2 ^ 62 * 3 := by
    generalize val / 2 ^ 62 = part at quotient
    match part, quotient with
    | 0, _ | 1, _ | 2, _ | 3, _ => decide
  have tag : 0xC000000000000000 = 2 ^ 62 * 3 := by decide
  calc (val ||| 0xC000000000000000)
      = ((2 ^ 62 * (val / 2 ^ 62) ||| val % 2 ^ 62) ||| 2 ^ 62 * 3) := by
        rw [← Nat.two_pow_add_eq_or_of_lt low, Nat.div_add_mod, tag]
    _ = ((2 ^ 62 * (val / 2 ^ 62) ||| 2 ^ 62 * 3) ||| val % 2 ^ 62) := by
        rw [Nat.or_assoc, Nat.or_comm (val % 2 ^ 62), ← Nat.or_assoc]
    _ = 2 ^ 62 * 3 + val % 2 ^ 62 := by
        rw [high, Nat.two_pow_add_eq_or_of_lt low]

/-- A number is read back from its variable-length form, reduced to sixty-two bits. -/
theorem getVarint_reads {val : Nat} (word : val < u64Size) :
    Reads getVarint (putVarint val) (val % 2 ^ 62) := by
  unfold putVarint
  split
  · -- One byte carries a zero tag, so nothing is masked.
    rename_i small
    have same : val % 2 ^ 62 = val := Nat.mod_eq_of_lt (by omega)
    have read := getUint_reads (show val < 256 ^ 1 by omega)
    rw [same]
    unfold getVarint
    refine Reads.need (by simp) ?_
    rw [beBytes_succ] at read ⊢
    refine Reads.peek ?_
    have tag : (UInt8.ofNat (val / 256 ^ 0 % 256)).toNat / 64 = 0 := by
      simp only [UInt8.toNat_ofNat', Nat.pow_zero, Nat.div_one]
      omega
    rw [tag]
    exact read
  · split
    · rename_i small
      have same : val % 2 ^ 62 = val := Nat.mod_eq_of_lt (by omega)
      have high : (val ||| 2 ^ 14 * 1) = 2 ^ 14 * 1 + val := or_high small
      rw [same, show 0x4000 = 2 ^ 14 * 1 by rfl, high]
      exact getVarint_tagged (by decide) small rfl
    · split
      · rename_i small
        have same : val % 2 ^ 62 = val := Nat.mod_eq_of_lt (by omega)
        have high : (val ||| 2 ^ 30 * 2) = 2 ^ 30 * 2 + val := or_high small
        rw [same, show 0x80000000 = 2 ^ 30 * 2 by rfl, high]
        exact getVarint_tagged (by decide) small rfl
      · rw [or_longest_tag word]
        exact getVarint_tagged (by decide) (Nat.mod_lt _ (by decide)) rfl

/-- A variable-length number takes the width that its size calls for. -/
theorem putVarint_length (val : Nat) : (putVarint val).length =
    if val < 64 then 1 else if val < 16384 then 2 else if val < 1073741824 then 4 else 8 := by
  unfold putVarint
  split
  · simp
  · split
    · simp
    · split <;> simp

/-- It takes at least one byte and at most eight. -/
theorem putVarint_length_bounds (val : Nat) :
    1 ≤ (putVarint val).length ∧ (putVarint val).length ≤ 8 := by
  rw [putVarint_length]
  split
  · omega
  · split
    · omega
    · split <;> omega

end Varint

/-- A range of packet numbers takes sixteen bytes. -/
theorem ackRanges_length (ranges : List (Nat × Nat)) :
    (ranges.flatMap fun range => beBytes 8 range.1 ++ beBytes 8 range.2).length =
      16 * ranges.length := by
  induction ranges with
  | nil => rfl
  | cons range rest ih =>
    simp only [List.flatMap_cons, List.length_append, beBytes_length, ih, List.length_cons]
    omega

namespace Frame

/-- The fields of a frame are values of their machine types. -/
def Words : Frame → Prop
  | padding _ => False
  | stream id _ offset data => id < u32Size ∧ offset < u64Size ∧ data.length < 2 ^ 62
  | ack largestAcked windowSize ackDelay ackRanges =>
    largestAcked < u64Size ∧ windowSize < u32Size ∧ ackDelay < u64Size ∧
      ∀ range ∈ ackRanges, range.1 ≤ range.2 ∧ range.2 < u64Size
  | connectionClose | ping => True
  | handshake publicKey edPublicKey transcriptHash signature alpn =>
    publicKey.length = 32 ∧ edPublicKey.length = 32 ∧ transcriptHash.length < 2 ^ 16 ∧
      signature.length = 64 ∧ alpn.length < 2 ^ 8
  | cookie token => token.length < 2 ^ 16
  | streamClose id limit | maxStreamData id limit => id < u32Size ∧ limit < u64Size
  | maxData limit | maxStreams limit | streamsBlocked limit | dataBlocked limit => limit < u64Size
  | datagram data => data.length < 2 ^ 62
  | pathChallenge data | pathResponse data => data.length = 8
  | crypto offset data => offset < u64Size ∧ data.length < 2 ^ 62
  | resetStream streamId errorCode finalSize =>
    streamId < u32Size ∧ errorCode < u64Size ∧ finalSize < u64Size
  | stopSending streamId limit | streamDataBlocked streamId limit =>
    streamId < u32Size ∧ limit < u64Size
  | connectionCloseV2 errorCode reason => errorCode < u64Size ∧ reason.length < 2 ^ 62
  | transportParameters parameters =>
    parameters.maxStreams < u64Size ∧ parameters.initialStreamWindow < u64Size ∧
      parameters.initialMaxData < u64Size ∧ parameters.maxDatagramSize < u32Size ∧
      parameters.idleTimeoutMs < u64Size

/-- A frame as its receiver sees it: long variable-length numbers lose their two high bits. -/
def onWire : Frame → Frame
  | ack largestAcked windowSize ackDelay ackRanges =>
    ack largestAcked windowSize (ackDelay % 2 ^ 62) (ackRanges.take 128)
  | resetStream streamId errorCode finalSize =>
    resetStream streamId (errorCode % 2 ^ 62) (finalSize % 2 ^ 62)
  | stopSending streamId errorCode => stopSending streamId (errorCode % 2 ^ 62)
  | dataBlocked limit => dataBlocked (limit % 2 ^ 62)
  | streamDataBlocked streamId limit => streamDataBlocked streamId (limit % 2 ^ 62)
  | connectionCloseV2 errorCode reason => connectionCloseV2 (errorCode % 2 ^ 62) reason
  | frame => frame

/-- A frame is read back when its fields are, after its type byte. -/
theorem decode_reads {type : UInt8} {fields : Bytes} {frame : Frame}
    (reads : Reads (getFields type.toNat) fields frame) : Reads decode (type :: fields) frame := by
  -- One byte is the type, and its value selects the reader of the fields.
  have single : beBytes 1 type.toNat = [type] := by simp [beBytes]
  have first := getUint_reads (show type.toNat < 256 ^ 1 from type.toNat_lt)
  rw [single] at first
  exact Reads.need (by simp) (first.bind reads)

/-- A run of bytes after its length is read back. -/
theorem getBytes_reads {data : Bytes} {text : String} : Reads (getBytes data.length text) data data :=
  Reads.take rfl

/-- A length small enough for a variable-length number is read back unchanged. -/
theorem getVarint_length {data : Bytes} (short : data.length < 2 ^ 62) :
    Reads getVarint (putVarint data.length) data.length := by
  have read := getVarint_reads (show data.length < u64Size from lt_trans short (by decide))
  rwa [Nat.mod_eq_of_lt short] at read

/-- A stream's capability is read back from its byte. -/
theorem fromWire_toWire (streamType : StreamType) :
    StreamType.fromWire (UInt8.ofNat streamType.toWire.toNat) = some streamType := by
  cases streamType <;> rfl

/-- The fields of a stream frame are read back. -/
theorem getStream_reads {id offset : Nat} {streamType : StreamType} {data : Bytes}
    (idFits : id < u32Size) (offsetFits : offset < u64Size) (short : data.length < 2 ^ 62) :
    Reads getStream
      (beBytes 4 id ++ ([streamType.toWire] ++ (beBytes 8 offset ++
        (putVarint data.length ++ data)))) (stream id streamType offset data) := by
  have kind : Reads (getUint 1) [streamType.toWire] streamType.toWire.toNat := by
    have read := getUint_reads (show streamType.toWire.toNat < 256 ^ 1 from UInt8.toNat_lt _)
    rwa [show beBytes 1 streamType.toWire.toNat = [streamType.toWire] by simp [beBytes]] at read
  -- A length takes at least one byte, so the first check passes even for empty data.
  have lengthSize := (putVarint_length_bounds data.length).1
  refine Reads.need (by simp only [List.length_append, beBytes_length, List.length_singleton]; omega) ?_
  refine (getUint_reads idFits).bind (kind.bind ?_)
  rw [fromWire_toWire]
  exact (getUint_reads offsetFits).bind ((getVarint_length short).bind (getBytes_reads.last))

/-- The selective ranges are read back in order. -/
theorem getRanges_reads {ranges : List (Nat × Nat)}
    (proper : ∀ range ∈ ranges, range.1 ≤ range.2 ∧ range.2 < u64Size) :
    Reads (getRanges ranges.length)
      (ranges.flatMap fun range => beBytes 8 range.1 ++ beBytes 8 range.2) ranges := by
  induction ranges with
  | nil => exact Reads.pure []
  | cons range rest ih =>
    obtain ⟨ordered, fits⟩ := proper range (by simp)
    have later := ih fun other member => proper other (List.mem_cons_of_mem _ member)
    rw [List.flatMap_cons, List.append_assoc, List.length_cons, getRanges]
    refine (getUint_reads (lt_of_le_of_lt ordered fits)).bind ((getUint_reads fits).bind ?_)
    -- An ordered range passes the decoder's check.
    rw [if_neg (not_lt.mpr ordered)]
    exact later.last

/-- The fields of an acknowledgment frame are read back, at most 128 ranges of them. -/
theorem getAck_reads {largestAcked windowSize ackDelay : Nat} {ackRanges : List (Nat × Nat)}
    (largestFits : largestAcked < u64Size) (windowFits : windowSize < u32Size)
    (delayFits : ackDelay < u64Size)
    (proper : ∀ range ∈ ackRanges, range.1 ≤ range.2 ∧ range.2 < u64Size) :
    Reads getAck
      (beBytes 8 largestAcked ++ (beBytes 4 windowSize ++ (putVarint ackDelay ++
        (beBytes 1 (min ackRanges.length 128) ++
          (ackRanges.take 128).flatMap fun range => beBytes 8 range.1 ++ beBytes 8 range.2))))
      (ack largestAcked windowSize (ackDelay % 2 ^ 62) (ackRanges.take 128)) := by
  have taken : (ackRanges.take 128).length = min ackRanges.length 128 := by
    rw [List.length_take, Nat.min_comm]
  have ranges := getRanges_reads fun range member =>
    proper range (List.mem_of_mem_take (i := 128) member)
  rw [taken] at ranges
  have room : ((ackRanges.take 128).flatMap fun range =>
      beBytes 8 range.1 ++ beBytes 8 range.2).length = min ackRanges.length 128 * 16 := by
    rw [List.length_flatMap, ← taken]
    simp
  refine Reads.need (by simp only [List.length_append, beBytes_length]; omega) ?_
  refine (getUint_reads largestFits).bind ((getUint_reads windowFits).bind
    ((getVarint_reads delayFits).bind (Reads.need (by simp) ?_)))
  refine (getUint_reads (show min ackRanges.length 128 < 256 ^ 1 by omega)).bind ?_
  rw [if_neg (by omega)]
  exact Reads.need (by omega) ranges.last

/-- The fields of a handshake frame are read back. -/
theorem getHandshake_reads {publicKey edPublicKey transcriptHash signature alpn : Bytes}
    (keySize : publicKey.length = 32) (edKeySize : edPublicKey.length = 32)
    (hashFits : transcriptHash.length < 2 ^ 16) (signatureSize : signature.length = 64)
    (alpnFits : alpn.length < 2 ^ 8) :
    Reads getHandshake
      (publicKey ++ (edPublicKey ++ (beBytes 2 transcriptHash.length ++ (transcriptHash ++
        (signature ++ (beBytes 1 alpn.length ++ alpn))))))
      (handshake publicKey edPublicKey transcriptHash signature alpn) := by
  refine Reads.need (by simp only [List.length_append, beBytes_length]; omega) ?_
  refine (Reads.take keySize).bind ((Reads.take edKeySize).bind
    ((getUint_reads (show transcriptHash.length < 256 ^ 2 by omega)).bind ?_))
  refine Reads.need (by simp only [List.length_append, beBytes_length]; omega) ?_
  refine getBytes_reads.bind ((Reads.take signatureSize).bind (Reads.need (by simp) ?_))
  exact (getUint_reads (show alpn.length < 256 ^ 1 by omega)).bind getBytes_reads.last

/-- Every frame but padding is read back from its bytes as its receiver sees it. -/
theorem decode_encode {frame : Frame} (words : frame.Words) :
    Reads decode frame.encode frame.onWire := by
  cases frame with
  | padding len => exact words.elim
  | stream id streamType offset data =>
    obtain ⟨idFits, offsetFits, short⟩ := words
    simp only [encode, List.cons_append, List.append_assoc]
    exact decode_reads (getStream_reads idFits offsetFits short)
  | ack largestAcked windowSize ackDelay ackRanges =>
    obtain ⟨largestFits, windowFits, delayFits, proper⟩ := words
    have same : ackRanges.take (min ackRanges.length 128) = ackRanges.take 128 := by
      rw [List.take_eq_take_iff]
      omega
    simp only [encode, List.cons_append, List.append_assoc, same]
    exact decode_reads (getAck_reads largestFits windowFits delayFits proper)
  | connectionClose => exact decode_reads (Reads.pure _)
  | ping => exact decode_reads (Reads.pure _)
  | handshake publicKey edPublicKey transcriptHash signature alpn =>
    obtain ⟨keySize, edKeySize, hashFits, signatureSize, alpnFits⟩ := words
    simp only [encode, List.cons_append, List.append_assoc]
    exact decode_reads (getHandshake_reads keySize edKeySize hashFits signatureSize alpnFits)
  | cookie token =>
    exact decode_reads (Reads.need (by simp)
      ((getUint_reads (show token.length < 256 ^ 2 from words)).bind getBytes_reads.last))
  | streamClose id limit =>
    exact decode_reads (Reads.need (by simp)
      ((getUint_reads words.1).bind (getUint_reads words.2).last))
  | maxStreamData id limit =>
    exact decode_reads (Reads.need (by simp)
      ((getUint_reads words.1).bind (getUint_reads words.2).last))
  | maxData limit => exact decode_reads (Reads.need (by simp) (getUint_reads words).last)
  | maxStreams limit => exact decode_reads (Reads.need (by simp) (getUint_reads words).last)
  | streamsBlocked limit => exact decode_reads (Reads.need (by simp) (getUint_reads words).last)
  | dataBlocked limit => exact decode_reads (getVarint_reads words).last
  | datagram data => exact decode_reads ((getVarint_length words).bind getBytes_reads.last)
  | pathChallenge data =>
    exact decode_reads (Reads.need (le_of_eq words.symm) (Reads.take words).last)
  | pathResponse data =>
    exact decode_reads (Reads.need (le_of_eq words.symm) (Reads.take words).last)
  | crypto offset data =>
    have lengthSize := (putVarint_length_bounds data.length).1
    simp only [encode, List.cons_append, List.append_assoc]
    refine decode_reads (Reads.need (by simp; omega) ?_)
    exact (getUint_reads words.1).bind ((getVarint_length words.2).bind getBytes_reads.last)
  | resetStream streamId errorCode finalSize =>
    simp only [encode, List.cons_append, List.append_assoc]
    exact decode_reads (Reads.need (by simp) ((getUint_reads words.1).bind
      ((getVarint_reads words.2.1).bind (getVarint_reads words.2.2).last)))
  | stopSending streamId errorCode =>
    exact decode_reads (Reads.need (by simp)
      ((getUint_reads words.1).bind (getVarint_reads words.2).last))
  | streamDataBlocked streamId limit =>
    exact decode_reads (Reads.need (by simp)
      ((getUint_reads words.1).bind (getVarint_reads words.2).last))
  | connectionCloseV2 errorCode reason =>
    simp only [encode, List.cons_append, List.append_assoc]
    exact decode_reads ((getVarint_reads words.1).bind
      ((getVarint_length words.2).bind getBytes_reads.last))
  | transportParameters parameters =>
    obtain ⟨streams, window, data, datagram, idle⟩ := words
    simp only [encode, TransportParameters.transcriptBytes, List.append_assoc]
    exact decode_reads (Reads.need (by simp) ((getUint_reads streams).bind
      ((getUint_reads window).bind ((getUint_reads data).bind
        ((getUint_reads datagram).bind (getUint_reads idle).last)))))

/-- A frame of its own takes at least its type byte. -/
theorem encode_ne_nil {frame : Frame} (words : frame.Words) : frame.encode ≠ [] := by
  cases frame with
  | padding len => exact words.elim
  | _ => simp [encode]

/-- The first byte is the type of a frame, and its fields follow. -/
theorem decode_cons (type : UInt8) (rest : Bytes) : decode (type :: rest) = getFields type.toNat rest := by
  have present : ¬ (type :: rest).length < 1 := by simp
  simp only [decode, need, getUint, bind, StateT.bind, Except.bind, if_neg present]
  simp [Functor.map, StateT.map, take, bind, Except.bind, pure, Except.pure, beNat]

/-- A zero byte starts a padding frame. -/
theorem decode_zero (rest : Bytes) : decode (0 :: rest) = getPadding rest := decode_cons 0 rest

/-- Reading goes on after a frame that was decoded. -/
theorem decodeAll_succ {fuel : Nat} {bytes rest : Bytes} {frame : Frame} (some : bytes ≠ [])
    (read : decode bytes = .ok (frame, rest)) :
    (decodeAll (fuel + 1) bytes).1 = frame :: (decodeAll fuel rest).1 := by
  cases bytes with
  | nil => exact absurd rfl some
  | cons byte tail => simp only [decodeAll, read]

/-- Zeros are read as one padding frame. -/
theorem decodeAll_zeros (fuel count : Nat) :
    (decodeAll (fuel + 1) (List.replicate (count + 1) 0)).1 = [padding (count + 1)] := by
  have read : decode (List.replicate (count + 1) 0) = .ok (padding (count + 1), []) := by
    rw [List.replicate_succ, decode_zero]
    have whole : (List.replicate count (0 : UInt8)).takeWhile (· == 0) = List.replicate count 0 := by
      simp
    have none : (List.replicate count (0 : UInt8)).dropWhile (· == 0) = [] := by simp
    simp [getPadding, whole, none, Nat.add_comm]
  rw [decodeAll_succ (by simp) read]
  cases fuel <;> rfl

/-- A payload of one frame and padding is read as just these. -/
theorem decodeFrames_encode {frame : Frame} (words : frame.Words) (pad : Nat) :
    (decodeFrames (frame.encode ++ List.replicate pad 0)).1 =
      frame.onWire :: if pad = 0 then [] else [padding pad] := by
  have some := List.length_pos_of_ne_nil (encode_ne_nil words)
  -- The length is enough rounds for both.
  obtain ⟨fuel, length⟩ : ∃ fuel, (frame.encode ++ List.replicate pad (0 : UInt8)).length =
      fuel + 1 ∧ pad ≤ fuel := ⟨frame.encode.length + pad - 1, by simp; omega, by omega⟩
  unfold decodeFrames
  rw [length.1, decodeAll_succ (by simp [encode_ne_nil words]) (decode_encode words _)]
  cases pad with
  | zero => cases fuel <;> rfl
  | succ count =>
    obtain ⟨rounds, rfl⟩ : ∃ rounds, fuel = rounds + 1 := ⟨fuel - 1, by omega⟩
    rw [decodeAll_zeros]
    simp

/-- A payload of padding alone is read as padding. -/
theorem decodeFrames_padding {frame : Frame} (pad : Nat)
    (member : frame ∈ (decodeFrames (List.replicate pad 0)).1) : ∃ len, frame = padding len := by
  cases pad with
  | zero => simp [decodeFrames, decodeAll] at member
  | succ count =>
    unfold decodeFrames at member
    rw [List.length_replicate, decodeAll_zeros] at member
    exact ⟨count + 1, by simpa using member⟩

/-- Whether a frame is padding. -/
def isPadding : Frame → Bool
  | padding _ => true
  | _ => false

/--
Frames that survive the wire: padding is not empty, numbers of variable length leave their two
high bits free, and an acknowledgment lists no more ranges than its encoder writes.
-/
def Exact : Frame → Prop
  | padding len => 0 < len
  | ack largestAcked windowSize ackDelay ackRanges =>
    (ack largestAcked windowSize ackDelay ackRanges).Words ∧ ackDelay < 2 ^ 62 ∧
      ackRanges.length ≤ 128
  | resetStream streamId errorCode finalSize =>
    streamId < u32Size ∧ errorCode < 2 ^ 62 ∧ finalSize < 2 ^ 62
  | stopSending streamId limit | streamDataBlocked streamId limit =>
    streamId < u32Size ∧ limit < 2 ^ 62
  | dataBlocked limit => limit < 2 ^ 62
  | connectionCloseV2 errorCode reason => errorCode < 2 ^ 62 ∧ reason.length < 2 ^ 62
  | frame => frame.Words

/-- Other frames than padding keep every field on the wire. -/
theorem Exact.words {frame : Frame} (exact : frame.Exact) (filled : frame.isPadding = false) :
    frame.Words ∧ frame.onWire = frame := by
  have wide : (2 : Nat) ^ 62 < u64Size := by decide
  cases frame with
  | padding len => cases filled
  | ack largestAcked windowSize ackDelay ackRanges =>
    obtain ⟨words, delay, few⟩ := exact
    refine ⟨words, ?_⟩
    simp only [onWire, Nat.mod_eq_of_lt delay, List.take_of_length_le few]
  | resetStream streamId errorCode finalSize =>
    obtain ⟨id, code, size⟩ := exact
    refine ⟨⟨id, by omega, by omega⟩, ?_⟩
    simp only [onWire, Nat.mod_eq_of_lt code, Nat.mod_eq_of_lt size]
  | stopSending streamId errorCode =>
    obtain ⟨id, code⟩ := exact
    refine ⟨⟨id, by omega⟩, ?_⟩
    simp only [onWire, Nat.mod_eq_of_lt code]
  | streamDataBlocked streamId limit =>
    obtain ⟨id, low⟩ := exact
    refine ⟨⟨id, by omega⟩, ?_⟩
    simp only [onWire, Nat.mod_eq_of_lt low]
  | dataBlocked limit =>
    have low : limit < 2 ^ 62 := exact
    refine ⟨lt_trans low wide, ?_⟩
    simp only [onWire, Nat.mod_eq_of_lt low]
  | connectionCloseV2 errorCode reason =>
    obtain ⟨code, short⟩ := exact
    refine ⟨⟨by omega, short⟩, ?_⟩
    simp only [onWire, Nat.mod_eq_of_lt code]
  | _ => exact ⟨exact, rfl⟩

/-- A padding frame takes the zeros up to the first other byte. -/
theorem decode_padding {len : Nat} (positive : 0 < len) {rest : Bytes} (stops : rest.head? ≠ some 0) :
    decode ((padding len).encode ++ rest) = .ok (padding len, rest) := by
  obtain ⟨count, rfl⟩ : ∃ count, len = count + 1 := ⟨len - 1, by omega⟩
  -- The first zero is the type, the others are the run that follows it.
  have zeros : (List.replicate count (0 : UInt8) ++ rest).takeWhile (· == 0) =
      List.replicate count 0 := by
    rw [List.takeWhile_append_of_pos (by simp)]
    cases rest with
    | nil => simp
    | cons byte tail =>
      have other : (byte == 0) = false := by simpa using stops
      simp [other]
  have remaining : (List.replicate count (0 : UInt8) ++ rest).dropWhile (· == 0) = rest := by
    rw [List.dropWhile_append_of_pos (by simp)]
    cases rest with
    | nil => rfl
    | cons byte tail =>
      have other : (byte == 0) = false := by simpa using stops
      simp [other]
  rw [encode, List.replicate_succ, List.cons_append, decode_zero, getPadding, zeros, remaining]
  simp [Nat.add_comm]

/-- Other frames than padding start with a byte that is not zero. -/
theorem encode_head {frame : Frame} (filled : frame.isPadding = false) (rest : Bytes) :
    (frame.encode ++ rest).head? ≠ some 0 := by
  cases frame with
  | padding len => cases filled
  | _ => simp [encode]

/-- A payload made of frames, in order. -/
def encodeAll (frames : List Frame) : Bytes := frames.flatMap encode

/-- No padding frame follows another one. -/
def Apart (frames : List Frame) : Prop :=
  frames.IsChain fun first second => ¬ (first.isPadding = true ∧ second.isPadding = true)

/-- The first frame of a payload is read back and takes exactly its own bytes. -/
theorem decode_first {frame : Frame} {rest : List Frame}
    (proper : ∀ other ∈ frame :: rest, other.Exact) (apart : Apart (frame :: rest)) :
    decode (frame.encode ++ encodeAll rest) = .ok (frame, encodeAll rest) := by
  have exact := proper frame List.mem_cons_self
  cases filled : frame.isPadding with
  | false =>
    obtain ⟨words, same⟩ := exact.words filled
    have read := decode_encode words (encodeAll rest)
    rwa [same] at read
  | true =>
    -- What follows padding is the end of the payload or starts with a type other than zero.
    obtain ⟨len, rfl⟩ : ∃ len, frame = padding len := by
      cases frame with
      | padding len => exact ⟨len, rfl⟩
      | _ => cases filled
    refine decode_padding exact ?_
    cases rest with
    | nil => simp [encodeAll]
    | cons next tail =>
      have other : next.isPadding = false := by
        have pair := (List.isChain_cons_cons.mp apart).1
        simpa [isPadding] using pair
      exact encode_head other (encodeAll tail)

/-- Every frame that survives the wire takes at least one byte. -/
theorem Exact.encode_ne_nil {frame : Frame} (exact : frame.Exact) : frame.encode ≠ [] := by
  cases filled : frame.isPadding with
  | false => exact Frame.encode_ne_nil (exact.words filled).1
  | true =>
    cases frame with
    | padding len =>
      have some : 0 < len := exact
      simp only [encode, ne_eq, List.replicate_eq_nil_iff]
      omega
    | _ => cases filled

/-- Enough rounds of reading give the frames back. -/
theorem decodeAll_encodeAll {frames : List Frame} (proper : ∀ frame ∈ frames, frame.Exact)
    (apart : Apart frames) {fuel : Nat} (enough : (encodeAll frames).length ≤ fuel) :
    decodeAll fuel (encodeAll frames) = (frames, none) := by
  induction frames generalizing fuel with
  | nil => cases fuel <;> rfl
  | cons frame rest ih =>
    have filled := (proper frame List.mem_cons_self).encode_ne_nil
    have positive := List.length_pos_of_ne_nil filled
    simp only [encodeAll, List.flatMap_cons, List.length_append] at enough
    obtain ⟨rounds, rfl⟩ : ∃ rounds, fuel = rounds + 1 := ⟨fuel - 1, by omega⟩
    have later := ih (fun other member => proper other (List.mem_cons_of_mem _ member))
      apart.tail (show (encodeAll rest).length ≤ rounds by simp only [encodeAll]; omega)
    have read := decode_first proper apart
    have whole : encodeAll (frame :: rest) = frame.encode ++ encodeAll rest := List.flatMap_cons
    rw [whole]
    cases bytes : frame.encode ++ encodeAll rest with
    | nil => exact absurd (List.append_eq_nil_iff.mp bytes).1 filled
    | cons byte tail =>
      rw [bytes] at read
      simp only [decodeAll, read, later]

/--
A payload of frames is read back as exactly these frames, and each of them takes exactly the bytes
it was written as.
-/
theorem decodeFrames_encodeAll {frames : List Frame} (proper : ∀ frame ∈ frames, frame.Exact)
    (apart : Apart frames) :
    decodeFrames (encodeAll frames) = (frames, none) ∧
      ∀ front frame back, frames = front ++ frame :: back →
        decode (frame.encode ++ encodeAll back) = .ok (frame, encodeAll back) := by
  refine ⟨decodeAll_encodeAll proper apart le_rfl, ?_⟩
  rintro front frame back rfl
  refine decode_first (fun other member => proper other (List.mem_append_right _ member)) ?_
  exact (List.isChain_append.mp apart).2.1

/-- One frame of each shape: a number in every width, counted and length-prefixed fields, padding. -/
theorem decodeFrames_encodeAll_sample :
    decodeFrames (encodeAll [.padding 3, .resetStream 4 63 16383, .padding 1,
        .ack 9 1000 (2 ^ 30) [(7, 9), (1, 4)], .connectionCloseV2 (2 ^ 62 - 1) [1, 2], .ping]) =
      ([.padding 3, .resetStream 4 63 16383, .padding 1,
        .ack 9 1000 (2 ^ 30) [(7, 9), (1, 4)], .connectionCloseV2 (2 ^ 62 - 1) [1, 2], .ping],
        none) :=
  (decodeFrames_encodeAll
    (by simp [Exact, Words, u32Size, u64Size]; omega) (by simp [Apart, isPadding])).1

end Frame

end Zetta
