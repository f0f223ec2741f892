import Mathlib.Tactic.IntervalCases
import Zetta.Proofs.Protocol.Decode
import Zetta.Protocol.Header

/-! One layout of headers on the wire, which all three parsers follow. -/

namespace Zetta

open ByteReader

namespace PacketHeader

/-- The packet type that a first byte announces, if its type bits are ones of its form. -/
def typeOf (firstByte : UInt8) : Option PacketType :=
  if longForm firstByte then PacketType.ofLong (typeBits firstByte)
  else PacketType.ofShort (typeBits firstByte)

/-- The bytes a header is decoded from. -/
inductive Layout : Bytes → PacketHeader → Prop
  | long {firstByte : UInt8} {pType : PacketType} {version dcid scid number : Bytes}
      (form : longForm firstByte = true) (kind : PacketType.ofLong (typeBits firstByte) = some pType)
      (four : version.length = 4) (dcidShort : dcid.length < 256) (scidShort : scid.length < 256)
      (width : number.length = pnLenOf firstByte) :
      Layout (firstByte :: (version ++ (UInt8.ofNat dcid.length :: (dcid ++
          (UInt8.ofNat scid.length :: (scid ++ number))))))
        ⟨pType, true, beNat version, dcid, scid, beNat number, false, pnLenOf firstByte⟩
  | short {firstByte : UInt8} {pType : PacketType} {dcid number : Bytes}
      (form : longForm firstByte = false) (kind : PacketType.ofShort (typeBits firstByte) = some pType)
      (dcidShort : dcid.length < 256) (width : number.length = pnLenOf firstByte) :
      Layout (firstByte :: (UInt8.ofNat dcid.length :: (dcid ++ number)))
        ⟨pType, false, 0, dcid, [], beNat number, firstByte &&& 0x40 != 0, pnLenOf firstByte⟩

/-- A byte is the number it stands for. -/
theorem ofNat_beNat_singleton (bytes : Bytes) (one : bytes.length = 1) :
    bytes = [UInt8.ofNat (beNat bytes)] := by
  obtain ⟨byte, rfl⟩ := List.length_eq_one_iff.mp one
  simp [beNat]

/-- A length read from one byte is spelled by it. -/
theorem single_of_length {bytes data : Bytes} {length : Nat} (one : bytes.length = 1)
    (value : length = beNat bytes) (size : data.length = length) :
    bytes = [UInt8.ofNat data.length] ∧ data.length < 256 := by
  have small := beNat_lt bytes
  rw [one] at small
  rw [size, value]
  exact ⟨ofNat_beNat_singleton bytes one, by omega⟩

/-- A header that decodes was laid out in the bytes that were taken. -/
theorem decode_layout : Parses pastEnd 0 decode Layout := by
  refine .need (by decide) (.bind (getUint_parses le_rfl) fun one value ⟨oneSize, same, _⟩ => ?_)
  have first := ofNat_beNat_singleton one oneSize
  rw [← same] at first
  dsimp only
  split
  · rename_i form
    split
    · exact .throw (by decide)
    · rename_i pType kind
      unfold getLong
      refine .need (by decide) (.bind (getUint_parses (by omega)) fun two version ⟨twoSize, spelled, _⟩ =>
        .bind (getUint_parses (by omega)) fun three dcidLen ⟨threeSize, dcidByte, _⟩ =>
        .bind (.take (.inr (by decide))) fun dcid _ ⟨dcidSame, dcidSize⟩ => .need (by decide)
        (.bind (getUint_parses le_rfl) fun four scidLen ⟨fourSize, scidByte, _⟩ => .need (by decide)
        (.bind (.take (.inl (by omega))) fun scid _ ⟨scidSame, scidSize⟩ =>
        .bind (getUint_parses (by omega)) fun number _ ⟨width, numberSame, _⟩ => .pure ?_)))
      obtain ⟨threeIs, dcidShort⟩ := single_of_length threeSize dcidByte dcidSize
      obtain ⟨fourIs, scidShort⟩ := single_of_length fourSize scidByte scidSize
      subst spelled dcidSame scidSame numberSame
      rw [first, threeIs, fourIs]
      simpa using Layout.long form kind twoSize dcidShort scidShort width
  · rename_i form
    split
    · exact .throw (by decide)
    · rename_i pType kind
      unfold getShort
      refine .need (by decide) (.bind (getUint_parses (by omega)) fun two dcidLen ⟨twoSize, dcidByte, _⟩ =>
        .need (by decide) (.bind (.take (.inl (by omega))) fun dcid _ ⟨dcidSame, dcidSize⟩ =>
        .bind (getUint_parses (by omega)) fun number _ ⟨width, numberSame, _⟩ => .pure ?_))
      obtain ⟨twoIs, dcidShort⟩ := single_of_length twoSize dcidByte dcidSize
      subst dcidSame numberSame
      rw [first, twoIs]
      simpa using Layout.short (by simpa using form) kind dcidShort width

/-- A number is read back from as many bytes as its width. -/
theorem getUint_spelled {bytes : Bytes} {width : Nat} (size : bytes.length = width) :
    Reads (getUint width) bytes (beNat bytes) :=
  (Reads.take size).map beNat

/-- A length below 256 is read back from its byte. -/
theorem getUint_single {length : Nat} (small : length < 256) :
    Reads (getUint 1) [UInt8.ofNat length] length := by
  have read := @getUint_spelled [UInt8.ofNat length] 1 rfl
  have value : beNat [UInt8.ofNat length] = length := by simp [beNat, Nat.mod_eq_of_lt small]
  rwa [value] at read

/-- A header is decoded from the bytes it is laid out in, whatever follows them. -/
theorem Layout.reads {bytes : Bytes} {header : PacketHeader} (layout : Layout bytes header) :
    Reads decode bytes header := by
  have first (firstByte : UInt8) : Reads (getUint 1) [firstByte] firstByte.toNat := by
    simpa using getUint_single firstByte.toNat_lt
  cases layout with
  | @long firstByte pType version dcid scid number form kind four dcidShort scidShort width =>
    show Reads decode ([firstByte] ++ (version ++ ([UInt8.ofNat dcid.length] ++ (dcid ++
      ([UInt8.ofNat scid.length] ++ (scid ++ number)))))) _
    refine Reads.need (by simp) ((first firstByte).bind ?_)
    dsimp only
    rw [UInt8.ofNat_toNat, if_pos form, kind]
    refine Reads.need ?_ ((getUint_spelled four).bind ((getUint_single dcidShort).bind
      ((Reads.take rfl).bind (Reads.need (by simp) ((getUint_single scidShort).bind (Reads.need ?_
        ((Reads.take rfl).bind (getUint_spelled width).last)))))))
    · simp only [List.length_append, List.length_cons]
      omega
    · rw [List.length_append, width]
  | @short firstByte pType dcid number form kind dcidShort width =>
    show Reads decode ([firstByte] ++ ([UInt8.ofNat dcid.length] ++ (dcid ++ number))) _
    refine Reads.need (by simp) ((first firstByte).bind ?_)
    dsimp only
    rw [UInt8.ofNat_toNat, if_neg (by simp [form]), kind]
    refine Reads.need ?_ ((getUint_single dcidShort).bind (Reads.need ?_
      ((Reads.take rfl).bind (getUint_spelled width).last)))
    · simp only [List.length_append, List.length_cons]
      omega
    · rw [List.length_append, width]

/-- Four bytes, one by one. -/
theorem eq_four {bytes : Bytes} (four : bytes.length = 4) : ∃ a b c d, bytes = [a, b, c, d] :=
  match bytes, four with
  | [a, b, c, d], _ => ⟨a, b, c, d, rfl⟩

/-- The router reads the destination that the header decodes to. -/
theorem Layout.extractDcidFast {bytes : Bytes} {header : PacketHeader} (layout : Layout bytes header)
    (rest : Bytes) : extractDcidFast (bytes ++ rest) = some header.dcid := by
  cases layout with
  | @long firstByte pType version dcid scid number form kind four dcidShort scidShort width =>
    obtain ⟨a, b, c, d, rfl⟩ := eq_four four
    simp [Zetta.extractDcidFast, form, Nat.mod_eq_of_lt dcidShort]
    omega
  | @short firstByte pType dcid number form kind dcidShort width =>
    simp [Zetta.extractDcidFast, form, Nat.mod_eq_of_lt dcidShort]
    omega

/-- The offset at which header protection starts is where the header's packet number is. -/
theorem Layout.getPnOffset {bytes : Bytes} {header : PacketHeader} (layout : Layout bytes header)
    (rest : Bytes) : getPnOffset (bytes ++ rest) = some (bytes.length - header.pnLen) := by
  cases layout with
  | @long firstByte pType version dcid scid number form kind four dcidShort scidShort width =>
    obtain ⟨a, b, c, d, rfl⟩ := eq_four four
    have index : 6 + dcid.length = dcid.length + 6 := Nat.add_comm ..
    simp [PacketHeader.getPnOffset, form, Nat.mod_eq_of_lt dcidShort, index, Nat.mod_eq_of_lt scidShort]
    omega
  | @short firstByte pType dcid number form kind dcidShort width =>
    simp [PacketHeader.getPnOffset, form, Nat.mod_eq_of_lt dcidShort]
    omega

/-- The packet number is among the bytes of the header. -/
theorem Layout.pnLen_le {bytes : Bytes} {header : PacketHeader} (layout : Layout bytes header) :
    header.pnLen ≤ bytes.length := by
  cases layout <;> simp only [List.length_cons, List.length_append] <;> omega

/-- Bytes that are long enough start with a run of a given length. -/
theorem exists_front {bytes : Bytes} {count : Nat} (enough : count ≤ bytes.length) :
    ∃ front back, bytes = front ++ back ∧ front.length = count :=
  ⟨bytes.take count, bytes.drop count, (List.take_append_drop count bytes).symm, by
    rw [List.length_take]; omega⟩

/-- A byte that counts the bytes of some data is its length. -/
theorem length_byte {byte : UInt8} {data : Bytes} (size : data.length = byte.toNat) :
    byte = UInt8.ofNat data.length ∧ data.length < 256 := by
  rw [size, UInt8.ofNat_toNat]
  exact ⟨rfl, byte.toNat_lt⟩

section Offset

variable {firstByte : UInt8} {tail : Bytes} {offset : Nat} {pType : PacketType}
  (found : getPnOffset (firstByte :: tail) = some offset)
  (enough : offset + pnLenOf firstByte ≤ (firstByte :: tail).length)

include found enough

/-- Where the offset of a long header points at a packet number, a long header is laid out. -/
theorem layout_long (form : longForm firstByte = true)
    (kind : PacketType.ofLong (typeBits firstByte) = some pType) :
    ∃ header, Layout ((firstByte :: tail).take (offset + pnLenOf firstByte)) header := by
  simp only [getPnOffset, form, if_true, List.length_cons] at found enough
  split at found
  · cases found
  · rename_i six
    -- The version and the length of the destination are there.
    obtain ⟨version, more, rfl, four⟩ := @exists_front tail 4 (by omega)
    obtain ⟨a, b, c, d, rfl⟩ := eq_four four
    cases more with
    | nil => simp at six
    | cons dcidByte more =>
      simp only [List.cons_append, List.nil_append, List.getD_cons_succ, List.getD_cons_zero,
        List.length_cons] at found enough
      split at found
      · cases found
      · rename_i further
        -- So are the destination and the length of the source.
        obtain ⟨dcid, more, rfl, dcidSize⟩ := @exists_front more dcidByte.toNat (by omega)
        obtain ⟨dcidIs, dcidShort⟩ := length_byte dcidSize
        cases more with
        | nil =>
          rw [List.append_nil] at further
          omega
        | cons scidByte more =>
          have index : 6 + dcidByte.toNat = dcid.length + 6 := by omega
          have next : (dcid ++ scidByte :: more).getD dcid.length 0 = scidByte := by
            simp [List.getD_eq_getElem?_getD]
          simp only [index, List.getD_cons_succ, next, Option.some.injEq, List.length_append,
            List.length_cons] at found enough
          -- And so are the source and the packet number.
          obtain ⟨scid, more, rfl, scidSize⟩ := @exists_front more scidByte.toNat (by omega)
          obtain ⟨scidIs, scidShort⟩ := length_byte scidSize
          rw [List.length_append] at enough
          obtain ⟨number, rest, rfl, width⟩ := @exists_front more (pnLenOf firstByte) (by omega)
          have layout := Layout.long form kind four dcidShort scidShort width
          rw [← dcidIs, ← scidIs] at layout
          have whole : firstByte :: ([a, b, c, d] ++ dcidByte ::
              (dcid ++ scidByte :: (scid ++ (number ++ rest)))) =
              firstByte :: ([a, b, c, d] ++ (dcidByte :: (dcid ++ (scidByte :: (scid ++ number))))) ++
                rest := by simp
          rw [whole, List.take_left' (by simp; omega)]
          exact ⟨_, layout⟩

/-- Where the offset of a short header points at a packet number, a short header is laid out. -/
theorem layout_short (form : longForm firstByte = false)
    (kind : PacketType.ofShort (typeBits firstByte) = some pType) :
    ∃ header, Layout ((firstByte :: tail).take (offset + pnLenOf firstByte)) header := by
  simp only [getPnOffset, form, Bool.false_eq_true, if_false, List.length_cons] at found enough
  split at found
  · cases found
  · rename_i two
    cases tail with
    | nil => simp at two
    | cons dcidByte more =>
      simp only [List.getD_cons_succ, List.getD_cons_zero, Option.some.injEq, List.length_cons]
        at found enough
      obtain ⟨dcid, more, rfl, dcidSize⟩ := @exists_front more dcidByte.toNat (by omega)
      obtain ⟨dcidIs, dcidShort⟩ := length_byte dcidSize
      rw [List.length_append] at enough
      obtain ⟨number, rest, rfl, width⟩ := @exists_front more (pnLenOf firstByte) (by omega)
      have layout := Layout.short form kind dcidShort width
      rw [← dcidIs] at layout
      have whole : firstByte :: dcidByte :: (dcid ++ (number ++ rest)) =
          firstByte :: (dcidByte :: (dcid ++ number)) ++ rest := by simp
      rw [whole, List.take_left' (by simp; omega)]
      exact ⟨_, layout⟩

/-- Up to the end of the packet number that the offset points at, a header is laid out. -/
theorem layout_of_getPnOffset (kind : typeOf firstByte = some pType) :
    ∃ header, Layout ((firstByte :: tail).take (offset + pnLenOf firstByte)) header := by
  unfold typeOf at kind
  split at kind
  · rename_i form
    exact layout_long found enough form kind
  · rename_i form
    exact layout_short found enough (by simpa using form) kind

end Offset

/-- Whether packets of a type have long headers. -/
def isLongType : PacketType → Bool
  | .initial | .handshake | .retry => true
  | .data | .close | .mtuProbe => false

/-- A header whose type matches its form and whose fields are values of their machine types. -/
structure Proper (header : PacketHeader) : Prop where
  form : header.isLong = isLongType header.pType
  version : header.version < u32Size
  dcid : header.dcid.length ≤ 255
  scid : header.scid.length ≤ 255
  pnLen : 1 ≤ header.pnLen ∧ header.pnLen ≤ 4

/-- What a receiver decodes: the truncated number, and only the fields that the form sends. -/
def received (self : PacketHeader) : PacketHeader :=
  { self with
    version := if self.isLong then self.version else 0
    scid := if self.isLong then self.scid else []
    packetNumber := self.packetNumber % 2 ^ (8 * self.pnLen)
    keyPhase := if self.isLong then false else self.keyPhase }

/-- The first byte of a long header gives back its form, type and number length. -/
theorem longByte {pType : PacketType} (long : isLongType pType = true) {pnLen : Nat}
    (bounds : 1 ≤ pnLen ∧ pnLen ≤ 4) :
    let firstByte := UInt8.ofNat (0x80 + pType.code * 4 + (pnLen - 1))
    longForm firstByte = true ∧ PacketType.ofLong (typeBits firstByte) = some pType ∧
      pnLenOf firstByte = pnLen := by
  obtain ⟨least, most⟩ := bounds
  -- Three types and four lengths.
  interval_cases pnLen <;> cases pType <;> first | decide | cases long

/-- The first byte of a short header gives back its form, type, number length and key phase. -/
theorem shortByte {pType : PacketType} (short : isLongType pType = false) (keyPhase : Bool)
    {pnLen : Nat} (bounds : 1 ≤ pnLen ∧ pnLen ≤ 4) :
    let firstByte := UInt8.ofNat ((if keyPhase then 0x40 else 0) + pType.code * 4 + (pnLen - 1))
    longForm firstByte = false ∧ PacketType.ofShort (typeBits firstByte) = some pType ∧
      pnLenOf firstByte = pnLen ∧ (firstByte &&& 0x40 != 0) = keyPhase := by
  obtain ⟨least, most⟩ := bounds
  interval_cases pnLen <;> cases keyPhase <;> cases pType <;> first | decide | cases short

/-- An encoded header is laid out as the receiver decodes it. -/
theorem encode_layout {header : PacketHeader} (proper : header.Proper) :
    Layout header.encode header.received := by
  obtain ⟨pType, isLong, version, dcid, scid, packetNumber, keyPhase, pnLen⟩ := header
  obtain ⟨form, versionFits, dcidShort, scidShort, bounds⟩ := proper
  dsimp only at form versionFits dcidShort scidShort bounds
  have clamp : min (max pnLen 1) 4 = pnLen := by omega
  have number : beNat (beBytes pnLen (packetNumber % 2 ^ (8 * pnLen))) =
      packetNumber % 2 ^ (8 * pnLen) :=
    beNat_beBytes (by rw [show 256 = 2 ^ 8 from rfl, ← Nat.pow_mul]; exact Nat.mod_lt _ (Nat.two_pow_pos _))
  have single (length : Nat) : beBytes 1 length = [UInt8.ofNat length] :=
    congrArg (fun byte => [byte]) (UInt8.toNat_inj.mp (by simp))
  cases isLong with
  | true =>
    obtain ⟨long, kind, width⟩ := longByte form.symm bounds
    have layout := Layout.long long kind (beBytes_length 4 version) (Nat.lt_succ_of_le dcidShort)
      (Nat.lt_succ_of_le scidShort)
      ((beBytes_length pnLen (packetNumber % 2 ^ (8 * pnLen))).trans width.symm)
    rw [width, number, beNat_beBytes (show version < 256 ^ 4 from versionFits)] at layout
    simpa [encode, front, sentLen, received, clamp, single, Nat.mul_comm] using layout
  | false =>
    obtain ⟨short, kind, width, phase⟩ := shortByte form.symm keyPhase bounds
    have layout := Layout.short short kind (Nat.lt_succ_of_le dcidShort)
      ((beBytes_length pnLen (packetNumber % 2 ^ (8 * pnLen))).trans width.symm)
    rw [width, number, phase] at layout
    simpa [encode, front, sentLen, received, clamp, single, Nat.mul_comm] using layout

/--
The encoder and the three parsers agree on one layout.

A header is decoded as it was encoded; wherever decoding succeeds, the router reads its destination
and the offset is that of its packet number; and wherever the offset leaves room for the packet
number and the type bits are valid, decoding up to there succeeds.
-/
theorem parsers_agree :
    (∀ (header : PacketHeader) (rest : Bytes), header.Proper →
      decode (header.encode ++ rest) = .ok (header.received, rest)) ∧
    (∀ (data rest : Bytes) (header : PacketHeader), decode data = .ok (header, rest) →
      extractDcidFast data = some header.dcid ∧
        ∃ consumed, data = consumed ++ rest ∧
          getPnOffset data = some (consumed.length - header.pnLen) ∧
          header.pnLen ≤ consumed.length) ∧
    (∀ (firstByte : UInt8) (tail : Bytes) (offset : Nat),
      getPnOffset (firstByte :: tail) = some offset →
      offset + pnLenOf firstByte ≤ (firstByte :: tail).length → (typeOf firstByte).isSome →
      ∃ header, decode ((firstByte :: tail).take (offset + pnLenOf firstByte)) = .ok (header, [])) := by
  refine ⟨fun header rest proper => (encode_layout proper).reads rest, fun data rest header read => ?_,
    fun firstByte tail offset found enough valid => ?_⟩
  · obtain ⟨consumed, rfl, layout⟩ := decode_layout.ok read
    exact ⟨layout.extractDcidFast rest, consumed, rfl, layout.getPnOffset rest, layout.pnLen_le⟩
  · obtain ⟨pType, kind⟩ := Option.isSome_iff_exists.mp valid
    obtain ⟨header, layout⟩ := layout_of_getPnOffset found enough kind
    have read := layout.reads []
    rw [List.append_nil] at read
    exact ⟨header, read⟩

/-- A long header and a short one, each before other bytes. -/
theorem parsers_agree_sample :
    decode ((⟨.handshake, true, 1, [9, 8], [7], 0x1234567, true, 2⟩ : PacketHeader).encode ++ [5]) =
        .ok (⟨.handshake, true, 1, [9, 8], [7], 0x4567, false, 2⟩, [5]) ∧
      decode ((⟨.data, false, 1, [9, 8], [7], 0x1234567, true, 3⟩ : PacketHeader).encode ++ [5]) =
        .ok (⟨.data, false, 0, [9, 8], [], 0x234567, true, 3⟩, [5]) :=
  ⟨parsers_agree.1 _ _ ⟨rfl, by decide, by decide, by decide, by decide⟩,
    parsers_agree.1 _ _ ⟨rfl, by decide, by decide, by decide, by decide⟩⟩

end PacketHeader

end Zetta
