import Zetta.Proofs.Protocol.Frame

/-! Decoding arbitrary bytes: no read past the end, and every frame that decodes is well formed. -/

namespace Zetta

open ByteReader

/-- The error that stands for an unchecked read past the end of the buffer. -/
def pastEnd : ZtError := .invalidPacket "advance past the end of the buffer"

/-- A fixed-width number is read from bytes that are there. -/
theorem getUint_parses {width count : Nat} (there : width ≤ count) :
    Parses pastEnd count (getUint width) fun bytes value =>
      bytes.length = width ∧ value = beNat bytes ∧ value < 256 ^ width := by
  refine Parses.map (.take (.inl there)) beNat ?_
  rintro bytes value ⟨rfl, rfl⟩
  exact ⟨rfl, rfl, beNat_lt value⟩

/-- The longer forms of a number of variable length: its bytes are checked for, then masked. -/
theorem getMasked_parses {width mask : Nat} {error : ZtError} (other : error ≠ pastEnd) :
    Parses pastEnd 0 (do need width error; return (← getUint width) &&& mask) fun bytes value =>
      bytes.length = width ∧ value ≤ mask :=
  .need other (.bind (getUint_parses le_rfl) fun bytes value known =>
    .pure ⟨by simp [known.1], Nat.and_le_right⟩)

/-- A number of variable length leaves its two high bits free and is written in no more bytes. -/
theorem getVarint_parses {count : Nat} : Parses pastEnd count getVarint fun bytes value =>
    value < 2 ^ 62 ∧ (putVarint value).length ≤ bytes.length := by
  intro buffer _
  cases buffer with
  | nil => exact (by decide : ZtError.invalidPacket "Truncated varint" ≠ pastEnd)
  | cons first rest =>
    have looked : ∀ {error : ZtError} {next : UInt8 → Reader ZtError Nat},
        (do need 1 error; next (← peek error)) (first :: rest) = next first (first :: rest) := rfl
    have longer : ∀ {width mask : Nat} {error : ZtError}, error ≠ pastEnd → mask < 2 ^ 62 →
        (∀ value, value ≤ mask → (putVarint value).length ≤ width) →
        Parses pastEnd 0 (do need width error; return (← getUint width) &&& mask) fun bytes value =>
          value < 2 ^ 62 ∧ (putVarint value).length ≤ bytes.length :=
      fun other high short => (getMasked_parses other).mono fun bytes value known =>
        ⟨lt_of_le_of_lt known.2 high, known.1 ▸ short value known.2⟩
    -- The first byte is only looked at; its two high bits select the width.
    unfold getVarint
    rw [looked]
    rcases tag : first.toNat / 64 with _ | _ | _ | tag
    · have value : getUint 1 (first :: rest) = .ok (first.toNat, rest) := by
        simp [getUint, take, Functor.map, StateT.map, bind, Except.bind, pure, Except.pure, beNat]
      simp only [value]
      refine ⟨[first], rfl, by omega, ?_⟩
      rw [putVarint_length, if_pos (by omega)]
      exact le_rfl
    · refine longer (by decide) (by decide) (fun value small => ?_) (first :: rest) (Nat.zero_le _)
      rw [putVarint_length]
      split <;> [skip; split] <;> omega
    · refine longer (by decide) (by decide) (fun value small => ?_) (first :: rest) (Nat.zero_le _)
      rw [putVarint_length]
      split <;> [skip; split <;> [skip; split]] <;> omega
    · refine longer (by decide) (by decide) (fun value small => ?_) (first :: rest) (Nat.zero_le _)
      rw [putVarint_length]
      split <;> [skip; split <;> [skip; split]] <;> omega

namespace Frame

/-- A run of bytes has the length read before it. -/
theorem getBytes_parses {len count : Nat} {truncated : String}
    (safe : len ≤ count ∨ ZtError.invalidPacket truncated ≠ pastEnd) :
    Parses pastEnd count (getBytes len truncated) fun bytes data =>
      data = bytes ∧ bytes.length = len :=
  .take safe

/-- Ranges that decode are in order and within their machine type, sixteen bytes each. -/
theorem getRanges_parses {count room : Nat} (there : count * 16 ≤ room) :
    Parses pastEnd room (getRanges count) fun bytes ranges => bytes.length = count * 16 ∧
      ranges.length = count ∧ ∀ range ∈ ranges, range.1 ≤ range.2 ∧ range.2 < u64Size := by
  induction count generalizing room with
  | zero => exact .pure ⟨rfl, rfl, nofun⟩
  | succ count ih =>
    refine .bind (getUint_parses (by omega)) fun one first ⟨oneSize, _, _⟩ =>
      .bind (getUint_parses (by omega)) fun two last ⟨twoSize, _, fits⟩ => ?_
    -- A range whose ends are the wrong way round is refused.
    dsimp only
    split
    · exact .bind (.throw (by decide)) fun _ _ (never : False) => never.elim
    · rename_i ordered
      refine .bind (ih (by omega)) fun rest ranges ⟨restSize, number, proper⟩ => .pure ⟨?_, ?_, ?_⟩
      · simp only [List.length_append, List.length_nil]
        omega
      · simp [number]
      · intro range member
        rcases List.mem_cons.mp member with rfl | later
        · exact ⟨not_lt.mp ordered, fits⟩
        · exact proper range later

/-- The bytes after a type spell a frame: it survives the wire and is written in no more bytes. -/
def Spells (fields : Bytes) (frame : Frame) : Prop :=
  frame.Exact ∧ frame.encode.length ≤ fields.length + 1

/-- The fields of a stream frame. -/
theorem getStream_parses : Parses pastEnd 0 getStream Spells := by
  unfold getStream
  refine .need (by decide) (.bind (getUint_parses (by omega)) fun one id ⟨oneSize, _, small⟩ =>
    .bind (getUint_parses (by omega)) fun two kind ⟨twoSize, _, _⟩ => ?_)
  split
  · exact .throw (by decide)
  · refine .bind (getUint_parses (by omega)) fun three offset ⟨threeSize, _, fits⟩ =>
      .bind getVarint_parses fun four len ⟨short, width⟩ =>
      .bind (getBytes_parses (.inr (by decide))) fun data _ ⟨same, size⟩ => .pure ?_
    subst same size
    refine ⟨⟨small, fits, short⟩, ?_⟩
    simp only [encode, List.length_append, List.length_cons, beBytes_length, List.length_nil]
    omega

/-- The fields of an acknowledgment frame. -/
theorem getAck_parses : Parses pastEnd 0 getAck Spells := by
  unfold getAck
  refine .need (by decide) (.bind (getUint_parses (by omega)) fun one largest ⟨oneSize, _, fits⟩ =>
    .bind (getUint_parses (by omega)) fun two window ⟨twoSize, _, small⟩ =>
    .bind getVarint_parses fun three delay ⟨short, width⟩ => .need (by decide)
    (.bind (getUint_parses le_rfl) fun four count ⟨fourSize, _, _⟩ => ?_))
  dsimp only
  split
  · exact .bind (.throw (by decide)) fun _ _ (never : False) => never.elim
  · rename_i few
    refine .need (by decide) (.bind (getRanges_parses le_rfl)
      fun five ranges ⟨fiveSize, number, proper⟩ => .pure ?_)
    subst number
    refine ⟨⟨⟨fits, small, lt_trans short (by decide), proper⟩, short, not_lt.mp few⟩, ?_⟩
    -- At most 128 ranges were read, so all of them are written again.
    have all : min ranges.length 128 = ranges.length := by omega
    simp only [encode, all, List.take_length, List.length_append, List.length_cons, beBytes_length,
      ackRanges_length, List.length_nil]
    omega

/-- The fields of a handshake frame: keys and signatures have their fixed lengths. -/
theorem getHandshake_parses : Parses pastEnd 0 getHandshake Spells := by
  unfold getHandshake
  refine .need (by decide) (.bind (getBytes_parses (.inl (by omega)))
    fun publicKey _ ⟨sameKey, keySize⟩ => .bind (getBytes_parses (.inl (by omega)))
    fun edPublicKey _ ⟨sameEd, edSize⟩ => .bind (getUint_parses (by omega))
    fun three hashLen ⟨threeSize, _, small⟩ => .need (by decide)
    (.bind (getBytes_parses (.inl (by omega))) fun hash _ ⟨sameHash, hashSize⟩ =>
    .bind (getBytes_parses (.inl (by omega))) fun signature _ ⟨sameSigned, signedSize⟩ =>
    .need (by decide) (.bind (getUint_parses le_rfl) fun six alpnLen ⟨sixSize, _, short⟩ =>
    .bind (getBytes_parses (.inr (by decide))) fun alpn _ ⟨sameAlpn, alpnSize⟩ => .pure ?_)))
  subst sameKey sameEd sameHash sameSigned sameAlpn hashSize alpnSize
  refine ⟨⟨keySize, edSize, small, signedSize, short⟩, ?_⟩
  simp only [encode, List.length_append, List.length_cons, beBytes_length, List.length_nil]
  omega

/-- The fields of a transport parameters frame. -/
theorem getTransportParameters_parses : Parses pastEnd 0 getTransportParameters Spells := by
  unfold getTransportParameters
  refine .need (by decide) (.bind (getUint_parses (by omega)) fun one _ ⟨oneSize, _, streams⟩ =>
    .bind (getUint_parses (by omega)) fun two _ ⟨twoSize, _, window⟩ =>
    .bind (getUint_parses (by omega)) fun three _ ⟨threeSize, _, data⟩ =>
    .bind (getUint_parses (by omega)) fun four _ ⟨fourSize, _, size⟩ =>
    .bind (getUint_parses (by omega)) fun five _ ⟨fiveSize, _, idle⟩ =>
    .pure ⟨⟨streams, window, data, size, idle⟩, ?_⟩)
  simp only [encode, TransportParameters.transcriptBytes, List.length_append, List.length_cons,
    beBytes_length, List.length_nil]
  omega

/-- A padding frame takes the zeros that follow its type. -/
theorem getPadding_parses : Parses pastEnd 0 getPadding Spells := by
  intro buffer _
  refine ⟨buffer.takeWhile (· == 0), List.takeWhile_append_dropWhile.symm, ?_, ?_⟩
  · show 0 < 1 + _
    omega
  · simp only [encode, List.length_replicate]
    omega

/-- A frame of an identifier and one 64-bit number. -/
theorem getNumbered_parses {make : Nat → Nat → Frame} {error : ZtError} (other : error ≠ pastEnd)
    (exact : ∀ id limit, id < u32Size → limit < u64Size →
      (make id limit).Exact ∧ (make id limit).encode.length = 13) :
    Parses pastEnd 0 (do need 12 error; let id ← getUint 4; return make id (← getUint 8)) Spells := by
  refine .need other (.bind (getUint_parses (by omega)) fun one id ⟨oneSize, _, small⟩ =>
    .bind (getUint_parses (by omega)) fun two limit ⟨twoSize, _, fits⟩ => .pure ?_)
  obtain ⟨survives, sized⟩ := exact id limit small fits
  refine ⟨survives, ?_⟩
  rw [sized]
  simp only [List.length_append, List.length_nil]
  omega

/-- A frame of one 64-bit number. -/
theorem getLimit_parses {make : Nat → Frame} {error : ZtError} (other : error ≠ pastEnd)
    (exact : ∀ limit, limit < u64Size → (make limit).Exact ∧ (make limit).encode.length = 9) :
    Parses pastEnd 0 (do need 8 error; return make (← getUint 8)) Spells := by
  refine .need other (.bind (getUint_parses le_rfl) fun one limit ⟨oneSize, _, fits⟩ => .pure ?_)
  obtain ⟨survives, sized⟩ := exact limit fits
  refine ⟨survives, ?_⟩
  rw [sized]
  simp only [List.length_append, List.length_nil]
  omega

/-- A frame of eight bytes. -/
theorem getEight_parses {make : Bytes → Frame} {error : ZtError} (other : error ≠ pastEnd)
    (exact : ∀ data : Bytes, data.length = 8 → (make data).Exact ∧ (make data).encode.length = 9) :
    Parses pastEnd 0 (do
      need 8 error
      return make (← getBytes 8 "advance past the end of the buffer")) Spells := by
  refine .need other (.bind (getBytes_parses (.inl le_rfl)) fun bytes data ⟨same, size⟩ => .pure ?_)
  subst same
  obtain ⟨survives, sized⟩ := exact data size
  refine ⟨survives, ?_⟩
  rw [sized]
  simp only [List.length_append, List.length_nil]
  omega

/-- A frame of an identifier and one number of variable length. -/
theorem getCoded_parses {make : Nat → Nat → Frame} {error : ZtError} (other : error ≠ pastEnd)
    (exact : ∀ id code, id < u32Size → code < 2 ^ 62 → (make id code).Exact ∧
      (make id code).encode.length = 5 + (putVarint code).length) :
    Parses pastEnd 0 (do need 4 error; let id ← getUint 4; return make id (← getVarint)) Spells := by
  refine .need other (.bind (getUint_parses le_rfl) fun one id ⟨oneSize, _, small⟩ =>
    .bind getVarint_parses fun two code ⟨short, width⟩ => .pure ?_)
  obtain ⟨survives, sized⟩ := exact id code small short
  refine ⟨survives, ?_⟩
  rw [sized]
  simp only [List.length_append, List.length_nil]
  omega

/-- Whatever the type, the fields that follow it spell a frame. -/
theorem getFields_parses (frameType : Nat) : Parses pastEnd 0 (getFields frameType) Spells := by
  unfold getFields
  split
  · exact getPadding_parses
  · exact getStream_parses
  · exact getAck_parses
  · exact .pure ⟨trivial, le_rfl⟩
  · exact getHandshake_parses
  · refine .need (by decide) (.bind (getUint_parses le_rfl) fun one len number =>
      .bind (getBytes_parses (.inr (by decide))) fun bytes token parsed => .pure ?_)
    obtain ⟨oneSize, -, small⟩ := number
    obtain ⟨rfl, rfl⟩ := parsed
    refine ⟨small, ?_⟩
    simp only [encode, List.length_append, List.length_cons, beBytes_length, List.length_nil]
    omega
  · exact getNumbered_parses (by decide) fun id limit small fits => ⟨⟨small, fits⟩, by simp [encode]⟩
  · exact getNumbered_parses (by decide) fun id limit small fits => ⟨⟨small, fits⟩, by simp [encode]⟩
  · exact getLimit_parses (by decide) fun limit fits => ⟨fits, by simp [encode]⟩
  · refine .bind getVarint_parses fun one len number =>
      .bind (getBytes_parses (.inr (by decide))) fun bytes data parsed => .pure ?_
    obtain ⟨short, width⟩ := number
    obtain ⟨rfl, rfl⟩ := parsed
    refine ⟨short, ?_⟩
    simp only [encode, List.length_append, List.length_cons, List.length_nil]
    omega
  · exact getEight_parses (by decide) fun data size => ⟨size, by simp [encode, size]⟩
  · exact getEight_parses (by decide) fun data size => ⟨size, by simp [encode, size]⟩
  · refine .need (by decide) (.bind (getUint_parses (by omega)) fun one offset number =>
      .bind getVarint_parses fun two len length =>
      .bind (getBytes_parses (.inr (by decide))) fun bytes data parsed => .pure ?_)
    obtain ⟨oneSize, -, fits⟩ := number
    obtain ⟨short, width⟩ := length
    obtain ⟨rfl, rfl⟩ := parsed
    refine ⟨⟨fits, short⟩, ?_⟩
    simp only [encode, List.length_append, List.length_cons, beBytes_length, List.length_nil]
    omega
  · exact getLimit_parses (by decide) fun limit fits => ⟨fits, by simp [encode]⟩
  · exact getLimit_parses (by decide) fun limit fits => ⟨fits, by simp [encode]⟩
  · exact .pure ⟨trivial, le_rfl⟩
  · refine .need (by decide) (.bind (getUint_parses le_rfl) fun one id number =>
      .bind getVarint_parses fun two code coded =>
      .bind getVarint_parses fun three final ended => .pure ?_)
    obtain ⟨oneSize, -, small⟩ := number
    obtain ⟨codeShort, codeWidth⟩ := coded
    obtain ⟨finalShort, finalWidth⟩ := ended
    refine ⟨⟨small, codeShort, finalShort⟩, ?_⟩
    simp only [encode, List.length_append, List.length_cons, beBytes_length, List.length_nil]
    omega
  · exact getCoded_parses (by decide) fun id code small short =>
      ⟨⟨small, short⟩, by simp [encode]; omega⟩
  · refine .bind getVarint_parses fun one limit number => .pure ⟨number.1, ?_⟩
    have width := number.2
    simp only [encode, List.length_append, List.length_cons, List.length_nil]
    omega
  · exact getCoded_parses (by decide) fun id code small short =>
      ⟨⟨small, short⟩, by simp [encode]; omega⟩
  · refine .bind getVarint_parses fun one code coded =>
      .bind getVarint_parses fun two len number =>
      .bind (getBytes_parses (.inr (by decide))) fun bytes reason parsed => .pure ?_
    obtain ⟨codeShort, codeWidth⟩ := coded
    obtain ⟨short, width⟩ := number
    obtain ⟨rfl, rfl⟩ := parsed
    refine ⟨⟨codeShort, short⟩, ?_⟩
    simp only [encode, List.length_append, List.length_cons, List.length_nil]
    omega
  · exact getTransportParameters_parses
  · -- The text of the last error starts with another letter.
    refine .throw fun same => ?_
    have texts := ZtError.invalidPacket.inj same
    exact absurd (congrArg (fun text : String => text.toList.head?) texts) (by simp)

/-- A frame is read from at least one byte, which spell it together with those that follow. -/
theorem decode_parses : Parses pastEnd 0 decode fun bytes frame =>
    bytes ≠ [] ∧ frame.Exact ∧ frame.encode.length ≤ bytes.length := by
  refine .need (by decide) (.bind (getUint_parses le_rfl) fun one frameType ⟨oneSize, _, _⟩ => ?_)
  have fields : Parses pastEnd (1 - one.length) (getFields frameType) Spells := by
    rw [oneSize]
    exact getFields_parses frameType
  refine fields.mono fun bytes frame ⟨exact, width⟩ => ⟨?_, exact, ?_⟩
  · rintro blank
    rw [(List.append_eq_nil_iff.mp blank).1] at oneSize
    cases oneSize
  · rw [List.length_append]
    omega

/-- A frame is padding, or every field is a value of its machine type. -/
def WellFormed (frame : Frame) : Prop := frame.isPadding = true ∨ frame.Words

/-- A frame that decodes is well formed. -/
theorem decode_yields : Yields decode WellFormed := by
  intro buffer frame rest read
  obtain ⟨-, -, -, exact, -⟩ := decode_parses.ok read
  cases filled : frame.isPadding with
  | true => exact .inl filled
  | false => exact .inr (exact.words filled).1

/-- So is every frame of a payload, also of one that does not decode to its end. -/
theorem decodeFrames_wellFormed (payload : Bytes) :
    ∀ frame ∈ (decodeFrames payload).1, frame.WellFormed := by
  -- The induction is on the rounds of reading, from any bytes left.
  have general : ∀ fuel bytes, ∀ frame ∈ (decodeAll fuel bytes).1, frame.WellFormed := by
    intro fuel
    induction fuel with
    | zero => exact fun bytes => nofun
    | succ fuel ih =>
      intro bytes frame member
      cases bytes with
      | nil => cases member
      | cons byte tail =>
        simp only [decodeAll] at member
        cases read : decode (byte :: tail) with
        | error error =>
          rw [read] at member
          cases member
        | ok answer =>
          rw [read] at member
          rcases List.mem_cons.mp member with rfl | later
          · exact decode_yields _ _ _ read
          · exact ih _ frame later
  exact general _ payload

/-- The byte a frame of each kind starts with. -/
def code : Frame → UInt8
  | padding _ => 0x00
  | stream .. => 0x01
  | ack .. => 0x02
  | connectionClose => 0x03
  | handshake .. => 0x04
  | cookie _ => 0x05
  | streamClose .. => 0x06
  | maxStreamData .. => 0x07
  | maxData _ => 0x08
  | datagram _ => 0x09
  | pathChallenge _ => 0x0A
  | pathResponse _ => 0x0B
  | crypto .. => 0x0C
  | maxStreams _ => 0x12
  | streamsBlocked _ => 0x13
  | ping => 0x0D
  | resetStream .. => 0x0E
  | stopSending .. => 0x0F
  | dataBlocked _ => 0x10
  | streamDataBlocked .. => 0x11
  | connectionCloseV2 .. => 0x14
  | transportParameters _ => 0x15

/-- A frame is read as its type says. -/
theorem getFields_code (frameType : Nat) :
    Yields (getFields frameType) fun frame => frame.code.toNat = frameType := by
  unfold getFields
  split
  case h_1 =>
    intro buffer frame rest read
    cases read
    rfl
  case h_2 =>
    unfold getStream
    refine .bind .any fun _ _ => .bind .any fun _ _ => .bind .any fun _ _ => ?_
    split
    · exact .throw
    · exact .bind .any fun _ _ => .bind .any fun _ _ => .bind .any fun _ _ => .pure rfl
  case h_3 =>
    unfold getAck
    refine .bind .any fun _ _ => .bind .any fun _ _ => .bind .any fun _ _ => .bind .any fun _ _ =>
      .bind .any fun _ _ => .bind .any fun _ _ => ?_
    dsimp only
    split
    · exact .bind .throw fun _ (never : False) => never.elim
    · exact .bind .any fun _ _ => .bind .any fun _ _ => .pure rfl
  case h_23 => exact .throw
  -- All other types read their fields in sequence and answer with a frame of their own.
  all_goals try unfold getHandshake
  all_goals try unfold getTransportParameters
  all_goals
    repeat' first
      | exact .pure rfl
      | refine .bind .any fun _ _ => ?_

/-- A payload is read from its first byte on. -/
theorem decodeFrames_head {payload : Bytes} {frame : Frame}
    (first : (decodeFrames payload).1.head? = some frame) :
    ∃ type fields rest, payload = type :: fields ∧ getFields type.toNat fields = .ok (frame, rest) := by
  cases payload with
  | nil => cases first
  | cons type fields =>
    simp only [decodeFrames, List.length_cons, decodeAll] at first
    cases read : decode (type :: fields) with
    | error error =>
      rw [read] at first
      cases first
    | ok answer =>
      rw [read] at first
      cases first
      rw [decode_cons] at read
      exact ⟨type, fields, answer.2, rfl, read⟩

/-- The encoding of a frame, padded or not, starts with a frame of the same kind. -/
theorem decodeFrames_code {frame first : Frame} {pad : Nat}
    (read : (decodeFrames (frame.encode ++ List.replicate pad 0)).1.head? = some first) :
    first.code = frame.code := by
  obtain ⟨type, fields, rest, payload, read⟩ := decodeFrames_head read
  -- The first byte is the type of the frame, or a zero of padding.
  have start : type = frame.code := by
    cases frame with
    | padding len =>
      rw [encode, ← List.replicate_add] at payload
      have zero : type ∈ List.replicate (len + pad) 0 := payload ▸ List.mem_cons_self
      exact List.eq_of_mem_replicate zero
    | _ => exact (List.cons.inj payload).1.symm
  rw [← start]
  exact UInt8.toNat_inj.mp (getFields_code _ _ _ _ read)

/-- The encoding of any other frame, padded or not, does not start with a datagram. -/
theorem decodeFrames_other {frame : Frame} (other : frame.datagram? = none) (pad : Nat) (data : Bytes) :
    (decodeFrames (frame.encode ++ List.replicate pad 0)).1.head? ≠ some (.datagram data) := by
  intro first
  have same := decodeFrames_code first
  cases frame with
  | datagram => cases other
  | _ => simp [code] at same

/-- Any number of rounds that is at least the number of bytes reads the same frames. -/
theorem decodeAll_enough {fuel more : Nat} {payload : Bytes} (enough : payload.length ≤ fuel)
    (plenty : payload.length ≤ more) : decodeAll fuel payload = decodeAll more payload := by
  -- The induction is on the rounds; each takes at least one byte.
  induction fuel generalizing more payload with
  | zero =>
    have blank : payload = [] := List.length_eq_zero_iff.mp (by omega)
    subst blank
    cases more <;> rfl
  | succ fuel ih =>
    cases payload with
    | nil => cases more <;> rfl
    | cons byte tail =>
      simp only [List.length_cons] at enough plenty
      obtain ⟨rounds, rfl⟩ : ∃ rounds, more = rounds + 1 := ⟨more - 1, by omega⟩
      simp only [decodeAll]
      cases read : decode (byte :: tail) with
      | error error => rfl
      | ok answer =>
        obtain ⟨bytes, front, some, -, -⟩ := decode_parses.ok read
        have positive := List.length_pos_iff.mpr some
        have sizes := congrArg List.length front
        simp only [List.length_cons, List.length_append] at sizes
        simp only [ih (show answer.2.length ≤ fuel by omega) (show answer.2.length ≤ rounds by omega)]

/--
Whatever the bytes, decoding reads none that are not there, takes the type byte before anything can
fail, and gives a frame that is written in no more bytes and decodes back; so a payload is read to
its end, or to its first error, in at most as many rounds as it has bytes.
-/
theorem decode_robust (payload : Bytes) :
    decode payload ≠ .error (.invalidPacket "advance past the end of the buffer") ∧
      (∀ type rest, payload = type :: rest → decode payload = getFields type.toNat rest) ∧
      (∀ frame rest, decode payload = .ok (frame, rest) → ∃ consumed, payload = consumed ++ rest ∧
        consumed ≠ [] ∧ frame.encode.length ≤ consumed.length ∧
        decode frame.encode = .ok (frame, [])) ∧
      (∀ fuel, payload.length ≤ fuel → decodeAll fuel payload = decodeFrames payload) := by
  refine ⟨decode_parses.error_ne payload, ?_, fun frame rest read => ?_,
    fun fuel enough => decodeAll_enough enough le_rfl⟩
  · rintro type rest rfl
    exact decode_cons type rest
  · obtain ⟨consumed, front, some, exact, width⟩ := decode_parses.ok read
    have alone := @decode_first frame [] (by simpa using exact) (.singleton _)
    simp only [encodeAll, List.flatMap_nil, List.append_nil] at alone
    exact ⟨consumed, front, some, width, alone⟩

/-- A number written in more bytes than it needs comes back in its short form. -/
example : decode [0x10, 0x40, 0x07, 0xFF] = .ok (.dataBlocked 7, [0xFF]) ∧
    (Frame.dataBlocked 7).encode = [0x10, 0x07] := by decide +kernel

end Frame
end Zetta
