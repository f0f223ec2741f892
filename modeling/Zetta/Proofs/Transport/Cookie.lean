import Zetta.Transport.Cookie

/-! A retry cookie is accepted for the address and the connection id it was made for, and no others. -/

namespace Zetta

/-- The text a cookie's code is taken over. -/
def cookieText [EndpointCrypto] (addr : Address) (clientScid : Bytes) (time : Nat) : Bytes :=
  EndpointCrypto.addressBytes addr ++ clientScid ++ beBytes 8 time

namespace SocketAddr

/-- Addresses of one family are written in as many bytes. -/
theorem bytes_length_eq {left right : SocketAddr} (family : left.ip.isV4 = right.ip.isV4) :
    left.bytes.length = right.bytes.length := by
  unfold bytes
  rw [List.length_append, List.length_append, beBytes_length, beBytes_length]
  cases leftIp : left.ip with
  | v4 octets =>
    cases rightIp : right.ip with
    | v4 others => rw [IpAddr.octets, IpAddr.octets, octets.property, others.property]
    | v6 others => simp [leftIp, rightIp, IpAddr.isV4] at family
  | v6 octets =>
    cases rightIp : right.ip with
    | v4 others => simp [leftIp, rightIp, IpAddr.isV4] at family
    | v6 others => rw [IpAddr.octets, IpAddr.octets, octets.property, others.property]

/-- Addresses of one family are told apart by their bytes. -/
theorem bytes_injective {left right : SocketAddr} (family : left.ip.isV4 = right.ip.isV4)
    (same : left.bytes = right.bytes) : left = right := by
  obtain ⟨leftIp, leftPort⟩ := left
  obtain ⟨rightIp, rightPort⟩ := right
  -- The port is the last two bytes, whatever the family.
  have parts := List.append_inj' same (by rw [beBytes_length, beBytes_length])
  have port : leftPort = rightPort :=
    UInt16.toNat_inj.mp (beBytes_injective leftPort.toNat_lt rightPort.toNat_lt parts.2)
  have octets : leftIp.octets = rightIp.octets := parts.1
  subst port
  cases leftIp with
  | v4 first =>
    cases rightIp with
    | v4 second => rw [Subtype.ext octets]
    | v6 second => cases family
  | v6 first =>
    cases rightIp with
    | v4 second => cases family
    | v6 second => rw [Subtype.ext octets]

end SocketAddr

section Codes

variable [EndpointCrypto]

/-- A cookie is its time and the code of its text. -/
theorem makeRetryCookie_eq (cookieKey : Bytes) (addr : Address) (clientScid : Bytes) (time : Nat) :
    makeRetryCookie cookieKey addr clientScid time =
      beBytes 8 time ++ (EndpointCrypto.hmac cookieKey (cookieText addr clientScid time)).val := rfl

/-- A cookie is accepted exactly if it was made for the client, not in the future nor too long ago. -/
theorem verifyRetryCookie_iff {cookieKey clientScid cookie : Bytes} {addr : Address}
    {now maxAgeMs : Nat} :
    verifyRetryCookie cookieKey addr clientScid cookie now maxAgeMs = true ↔
      ∃ time < u64Size, cookie = makeRetryCookie cookieKey addr clientScid time ∧ time ≤ now ∧
        now - time ≤ maxAgeMs := by
  constructor
  · intro verified
    obtain ⟨length, later, soon⟩ := verifyRetryCookie_inForce verified
    have eight : (cookie.take 8).length = 8 := by rw [List.length_take, length]; rfl
    have word : cookieTime cookie < u64Size := by
      have bound := beNat_lt (cookie.take 8)
      rw [eight] at bound
      exact bound
    refine ⟨cookieTime cookie, word, ?_, later, by omega⟩
    -- The code was compared, and the time is the cookie's own.
    unfold verifyRetryCookie at verified
    rw [if_neg (not_not.mpr length), if_neg (by omega), decide_eq_true_iff] at verified
    have front : (makeRetryCookie cookieKey addr clientScid (cookieTime cookie)).take 8 =
        cookie.take 8 := by
      rw [makeRetryCookie_eq, List.take_append_of_le_length (by simp),
        List.take_of_length_le (by simp)]
      have read := beBytes_beNat (cookie.take 8)
      rw [eight] at read
      exact read
    calc cookie = cookie.take 8 ++ cookie.drop 8 := (List.take_append_drop 8 cookie).symm
      _ = (makeRetryCookie cookieKey addr clientScid (cookieTime cookie)).take 8 ++
          (makeRetryCookie cookieKey addr clientScid (cookieTime cookie)).drop 8 := by
        rw [front, verified]
      _ = makeRetryCookie cookieKey addr clientScid (cookieTime cookie) := List.take_append_drop 8 _
  · rintro ⟨time, word, rfl, later, soon⟩
    exact verifyRetryCookie_made word later (by omega)

/-- The layout of the text tells addresses of one length, connection ids and times apart. -/
theorem cookieText_injective {addr other : Address} {clientScid otherScid : Bytes} {time : Nat}
    (length : (EndpointCrypto.addressBytes addr).length = (EndpointCrypto.addressBytes other).length)
    (same : cookieText addr clientScid time = cookieText other otherScid time) :
    EndpointCrypto.addressBytes addr = EndpointCrypto.addressBytes other ∧ clientScid = otherScid := by
  -- The time is the last eight bytes, and the address comes first; the id is what is left between.
  have front := (List.append_inj' same rfl).1
  exact List.append_inj front length

/-- A cookie that is accepted for another client carries the code of another text. -/
theorem hmac_eq_of_verified {cookieKey clientScid otherScid : Bytes} {addr other : Address}
    {time now maxAgeMs : Nat} (word : time < u64Size)
    (verified : verifyRetryCookie cookieKey other otherScid
      (makeRetryCookie cookieKey addr clientScid time) now maxAgeMs = true) :
    EndpointCrypto.hmac cookieKey (cookieText other otherScid time) =
      EndpointCrypto.hmac cookieKey (cookieText addr clientScid time) := by
  obtain ⟨accepted, small, made, -, -⟩ := verifyRetryCookie_iff.mp verified
  -- Both cookies have the same time, so the codes are left.
  have times : time = accepted := by
    have read := congrArg cookieTime made
    rwa [cookieTime_made _ _ _ word, cookieTime_made _ _ _ small] at read
  subst times
  rw [makeRetryCookie_eq, makeRetryCookie_eq] at made
  exact Subtype.ext (List.append_cancel_left made).symm

/--
A cookie is accepted for an address, a connection id and a time exactly if it was made for them at a
time that is not later and within its age. With addresses of one family, and codes that differ for the
two texts compared, one made for a client is accepted for no other address, port or connection id.
-/
theorem retryCookie_bound (cookieKey : Bytes) :
    (∀ (cookie clientScid : Bytes) (addr : Address) (now maxAgeMs : Nat),
      verifyRetryCookie cookieKey addr clientScid cookie now maxAgeMs = true ↔
        ∃ time < u64Size, cookie = makeRetryCookie cookieKey addr clientScid time ∧ time ≤ now ∧
          now - time ≤ maxAgeMs) ∧
      ∀ (resolve : Address → SocketAddr),
        (∀ addr, EndpointCrypto.addressBytes addr = (resolve addr).bytes) →
        ∀ (addr other : Address) (clientScid otherScid : Bytes) (time now maxAgeMs : Nat),
          time < u64Size → (resolve other).ip.isV4 = (resolve addr).ip.isV4 →
          (EndpointCrypto.hmac cookieKey (cookieText other otherScid time) =
              EndpointCrypto.hmac cookieKey (cookieText addr clientScid time) →
            cookieText other otherScid time = cookieText addr clientScid time) →
          verifyRetryCookie cookieKey other otherScid
            (makeRetryCookie cookieKey addr clientScid time) now maxAgeMs = true →
          (resolve other).ip = (resolve addr).ip ∧ (resolve other).port = (resolve addr).port ∧
            otherScid = clientScid := by
  refine ⟨fun _ _ _ _ _ => verifyRetryCookie_iff, ?_⟩
  intro resolve octets addr other clientScid otherScid time now maxAgeMs word family injective verified
  have texts := injective (hmac_eq_of_verified word verified)
  have length : (EndpointCrypto.addressBytes other).length =
      (EndpointCrypto.addressBytes addr).length := by
    rw [octets, octets]
    exact SocketAddr.bytes_length_eq family
  obtain ⟨addresses, ids⟩ := cookieText_injective length texts
  rw [octets, octets] at addresses
  have same := SocketAddr.bytes_injective family addresses
  exact ⟨congrArg SocketAddr.ip same, congrArg SocketAddr.port same, ids⟩

end Codes

/-- Codes that show the end of a text, for clients on one host that differ in their port. -/
@[reducible] def sampleCrypto : EndpointCrypto where
  hmac _ text := ⟨(text.reverse ++ List.replicate 32 0).take 32, by simp⟩
  addressBytes addr := (SocketAddr.mk (.v4 ⟨[127, 0, 0, 1], rfl⟩) (UInt16.ofNat addr)).bytes
  publicKey _ := ⟨List.replicate 32 0, by simp⟩

/-- The cookie of a client is accepted for it, and not for another connection id. -/
theorem sample_cookie_bound :
    @verifyRetryCookie sampleCrypto [1] 80 [2, 3] (@makeRetryCookie sampleCrypto [1] 80 [2, 3] 1000)
        4000 5000 = true ∧
      @verifyRetryCookie sampleCrypto [1] 80 [2] (@makeRetryCookie sampleCrypto [1] 80 [2, 3] 1000)
        4000 5000 = false := by
  have bound := @retryCookie_bound sampleCrypto [1]
  refine ⟨(bound.1 _ _ _ _ _).mpr ⟨1000, by decide, rfl, by decide, by decide⟩, ?_⟩
  rw [Bool.eq_false_iff]
  intro verified
  -- The codes of the two texts differ, so the ids would be the same.
  have ids := (bound.2 (fun addr => ⟨.v4 ⟨[127, 0, 0, 1], rfl⟩, UInt16.ofNat addr⟩) (fun _ => rfl) 80 80
    [2, 3] [2] 1000 4000 5000 (by decide) rfl (fun same => absurd same (by decide)) verified).2.2
  cases ids

end Zetta
