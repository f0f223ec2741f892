import Zetta.Protocol.Frame

/-! The client handshake transcript: what is hashed and signed, and which fields it binds. -/

namespace Zetta

/-- The wire protocol version. -/
def protocolVersion : Nat := 2

/-- The parameters are values of their machine types. -/
structure TransportParameters.Words (limits : TransportParameters) : Prop where
  maxStreams : limits.maxStreams < u64Size
  initialStreamWindow : limits.initialStreamWindow < u64Size
  initialMaxData : limits.initialMaxData < u64Size
  maxDatagramSize : limits.maxDatagramSize < u32Size
  idleTimeoutMs : limits.idleTimeoutMs < u64Size

/-- The bytes the client's transcript hash is taken over, fields one after the other. -/
def clientTranscript (scid dcid publicKey : Bytes) (cookie : Option Bytes)
    (parameters : TransportParameters) : Bytes :=
  beBytes 4 protocolVersion ++ scid ++ dcid ++ publicKey ++ cookie.getD [] ++
    parameters.transcriptBytes

/-- What a client signs in an Initial packet; the cookie is whatever a Retry packet carried. -/
structure SignedInitial where
  scid : Bytes
  dcid : Bytes
  publicKey : Bytes
  cookie : Option Bytes
  parameters : TransportParameters
  scidLength : scid.length = 8
  dcidLength : dcid.length = 8
  keyLength : publicKey.length = 32
  words : parameters.Words

/-- What a server reads from an Initial packet before it checks the signature. -/
structure AcceptedInitial where
  scid : Bytes
  dcid : Bytes
  publicKey : Bytes
  cookie : Bytes
  parameters : TransportParameters
  scidLength : scid.length ≤ 255
  dcidLength : dcid.length ≤ 255
  keyLength : publicKey.length = 32
  cookieLength : cookie.length = 40
  words : parameters.Words

/-- The bytes under the client's signature. -/
def SignedInitial.transcript (self : SignedInitial) : Bytes :=
  clientTranscript self.scid self.dcid self.publicKey self.cookie self.parameters

/-- The bytes under which the server checks the signature. -/
def AcceptedInitial.transcript (self : AcceptedInitial) : Bytes :=
  clientTranscript self.scid self.dcid self.publicKey (some self.cookie) self.parameters

/-- Both sides mean the same connection ids, key, cookie and parameters. -/
structure SignedInitial.Agrees (signed : SignedInitial) (accepted : AcceptedInitial) : Prop where
  scid : signed.scid = accepted.scid
  dcid : signed.dcid = accepted.dcid
  publicKey : signed.publicKey = accepted.publicKey
  cookie : signed.cookie = some accepted.cookie
  parameters : signed.parameters = accepted.parameters

/-- The layout of the parameters is thirty-six bytes long. -/
@[simp] theorem TransportParameters.transcriptBytes_length (self : TransportParameters) :
    self.transcriptBytes.length = 36 := by
  simp [TransportParameters.transcriptBytes]

/-- The layout of the parameters tells them apart. -/
theorem TransportParameters.transcriptBytes_injective {left right : TransportParameters}
    (leftWords : left.Words) (rightWords : right.Words)
    (same : left.transcriptBytes = right.transcriptBytes) : left = right := by
  -- Every field has its own fixed width, so equal layouts agree field by field.
  simp only [TransportParameters.transcriptBytes] at same
  obtain ⟨same, idle⟩ := List.append_inj' same (by simp)
  obtain ⟨same, datagram⟩ := List.append_inj' same (by simp)
  obtain ⟨same, data⟩ := List.append_inj' same (by simp)
  obtain ⟨streams, window⟩ := List.append_inj' same (by simp)
  cases left
  cases right
  simp only [TransportParameters.mk.injEq]
  exact ⟨beBytes_injective leftWords.maxStreams rightWords.maxStreams streams,
    beBytes_injective leftWords.initialStreamWindow rightWords.initialStreamWindow window,
    beBytes_injective leftWords.initialMaxData rightWords.initialMaxData data,
    beBytes_injective leftWords.maxDatagramSize rightWords.maxDatagramSize datagram,
    beBytes_injective leftWords.idleTimeoutMs rightWords.idleTimeoutMs idle⟩

section

variable {scid dcid publicKey : Bytes} {cookie : Option Bytes} {parameters : TransportParameters}
variable {scid' dcid' publicKey' : Bytes} {cookie' : Option Bytes} {parameters' : TransportParameters}

/-- Equal transcripts carry equal parameters after equal bytes of the other fields. -/
theorem clientTranscript_split (words : parameters.Words) (words' : parameters'.Words)
    (same : clientTranscript scid dcid publicKey cookie parameters =
      clientTranscript scid' dcid' publicKey' cookie' parameters') :
    scid ++ (dcid ++ (publicKey ++ cookie.getD [])) =
        scid' ++ (dcid' ++ (publicKey' ++ cookie'.getD [])) ∧
      parameters = parameters' := by
  -- The parameters have a fixed width at the end, the version one at the front.
  unfold clientTranscript at same
  obtain ⟨fields, layout⟩ := List.append_inj' same (by simp)
  refine ⟨?_, TransportParameters.transcriptBytes_injective words words' layout⟩
  simpa [List.append_assoc] using fields

/-- Fields of the same widths on both sides are cut at the same places. -/
theorem clientTranscript_fields (words : parameters.Words) (words' : parameters'.Words)
    (scidLength : scid.length = scid'.length) (dcidLength : dcid.length = dcid'.length)
    (keyLength : publicKey.length = publicKey'.length)
    (same : clientTranscript scid dcid publicKey cookie parameters =
      clientTranscript scid' dcid' publicKey' cookie' parameters') :
    scid = scid' ∧ dcid = dcid' ∧ publicKey = publicKey' ∧ cookie.getD [] = cookie'.getD [] ∧
      parameters = parameters' := by
  obtain ⟨fields, parameters⟩ := clientTranscript_split words words' same
  obtain ⟨scid, fields⟩ := List.append_inj fields scidLength
  obtain ⟨dcid, fields⟩ := List.append_inj fields dcidLength
  obtain ⟨publicKey, cookie⟩ := List.append_inj fields keyLength
  exact ⟨scid, dcid, publicKey, cookie, parameters⟩

end

/--
A signed transcript binds the parameters, and every other field of an eight-byte header.

The fields are concatenated without lengths, so a header that splits the connection ids in another
way moves the boundaries of the fields after them.
-/
theorem transcript_binds (signed : SignedInitial) (accepted : AcceptedInitial)
    (same : signed.transcript = accepted.transcript) :
    signed.parameters = accepted.parameters ∧
      (signed.Agrees accepted ↔ accepted.scid.length = 8 ∧ accepted.dcid.length = 8) := by
  have parameters := (clientTranscript_split signed.words accepted.words same).2
  refine ⟨parameters, fun agrees => ?_, fun ⟨scidLength, dcidLength⟩ => ?_⟩
  · exact ⟨agrees.scid ▸ signed.scidLength, agrees.dcid ▸ signed.dcidLength⟩
  · obtain ⟨scid, dcid, publicKey, rest, -⟩ := clientTranscript_fields signed.words accepted.words
      (signed.scidLength.trans scidLength.symm) (signed.dcidLength.trans dcidLength.symm)
      (signed.keyLength.trans accepted.keyLength.symm) same
    refine ⟨scid, dcid, publicKey, ?_, parameters⟩
    -- The rest is the whole cookie, which is not empty.
    cases present : signed.cookie with
    | none =>
      have size := accepted.cookieLength
      rw [present, Option.getD_none, Option.getD_some] at rest
      rw [← rest] at size
      cases size
    | some cookie =>
      rw [present, Option.getD_some, Option.getD_some] at rest
      rw [rest]

/-- Parameters that pass the receiver's check. -/
def sampleParameters : TransportParameters := ⟨100, 1048576, 1048576, 8936, 60000⟩

/-- The sample parameters are machine words. -/
theorem sampleParameters_words : sampleParameters.Words := by
  constructor <;> decide

/-- A client's Initial whose Retry packet carried a cookie of a chosen length. -/
def sampleSigned (cookieLength : Nat) : SignedInitial where
  scid := List.replicate 8 1
  dcid := List.replicate 8 2
  publicKey := List.replicate 32 3
  cookie := some (List.replicate cookieLength 4)
  parameters := sampleParameters
  scidLength := rfl
  dcidLength := rfl
  keyLength := rfl
  words := sampleParameters_words

/-- The same fields, as a server reads them from a header with eight-byte connection ids. -/
def sampleAccepted : AcceptedInitial where
  scid := List.replicate 8 1
  dcid := List.replicate 8 2
  publicKey := List.replicate 32 3
  cookie := List.replicate 40 4
  parameters := sampleParameters
  scidLength := by decide
  dcidLength := by decide
  keyLength := rfl
  cookieLength := rfl
  words := sampleParameters_words

/-- A header whose destination id took over the first byte of the key. -/
def sampleShifted : AcceptedInitial where
  scid := List.replicate 8 1
  dcid := List.replicate 8 2 ++ [3]
  publicKey := List.replicate 31 3 ++ [4]
  cookie := List.replicate 40 4
  parameters := sampleParameters
  scidLength := by decide
  dcidLength := by decide
  keyLength := rfl
  cookieLength := rfl
  words := sampleParameters_words

/-- The matching fields of an honest exchange satisfy the theorem's premise and agree. -/
theorem transcript_binds_honest :
    (sampleSigned 40).transcript = sampleAccepted.transcript ∧
      (sampleSigned 40).Agrees sampleAccepted :=
  have same : (sampleSigned 40).transcript = sampleAccepted.transcript := by decide
  ⟨same, (transcript_binds (sampleSigned 40) sampleAccepted same).2.mpr ⟨rfl, rfl⟩⟩

/-- A cookie one byte longer lets a shifted header name a key the client did not use. -/
theorem transcript_shifted_key :
    (sampleSigned 41).transcript = sampleShifted.transcript ∧
      (sampleSigned 41).publicKey ≠ sampleShifted.publicKey ∧
      ¬ (sampleSigned 41).Agrees sampleShifted := by
  have different : (sampleSigned 41).publicKey ≠ sampleShifted.publicKey := by decide
  exact ⟨by decide, different, fun agrees => different agrees.publicKey⟩

end Zetta
