import Zetta.Transport.Actor

/-! Retry cookies: a timestamp, and a code that binds it to an address and a connection id. -/

namespace Zetta

/-- The authentication code at the end of a cookie. -/
abbrev CookieMac := { bytes : Bytes // bytes.length = 32 }

/-- An IP address, by its octets. -/
inductive IpAddr where
  | v4 (octets : { bytes : Bytes // bytes.length = 4 })
  | v6 (octets : { bytes : Bytes // bytes.length = 16 })
  deriving DecidableEq, Repr

/-- The octets of an IP address. -/
def IpAddr.octets : IpAddr → Bytes
  | v4 octets => octets.val
  | v6 octets => octets.val

/-- The family of an IP address. -/
def IpAddr.isV4 : IpAddr → Bool
  | v4 _ => true
  | v6 _ => false

/-- The address of a socket. -/
structure SocketAddr where
  ip : IpAddr
  port : UInt16
  deriving DecidableEq, Repr

/-- What of an address goes into a cookie: the octets, and the port after them. -/
def SocketAddr.bytes (self : SocketAddr) : Bytes := self.ip.octets ++ beBytes 2 self.port.toNat

/-- Cookie authentication and key generation of an endpoint, which come from libraries. -/
class EndpointCrypto where
  /-- The authentication code of a text under a key. -/
  hmac : Bytes → Bytes → CookieMac
  /-- The octets of an IP address, and the port after them. -/
  addressBytes : Address → Bytes
  /-- The public half of a secret for the key exchange. -/
  publicKey : Bytes → { bytes : Bytes // bytes.length = 32 }

/-- The time a cookie says it was made at. -/
def cookieTime (cookie : Bytes) : Nat := beNat (cookie.take 8)

/-- The code of a cookie, which is what the replay filter remembers. -/
def cookieMac? (cookie : Bytes) : Option CookieMac :=
  if length : cookie.length = 40 then some ⟨cookie.drop 8, by simp [length]⟩ else none

/-- A cookie of the right length has a code. -/
theorem cookieMac?_isSome {cookie : Bytes} (length : cookie.length = 40) :
    ∃ mac, cookieMac? cookie = some mac := by
  unfold cookieMac?
  rw [dif_pos length]
  exact ⟨_, rfl⟩

variable [EndpointCrypto]

/-- A cookie for a client: eight bytes of time, in milliseconds, and thirty-two of code. -/
def makeRetryCookie (cookieKey : Bytes) (addr : Address) (clientScid : Bytes) (now : Nat) : Bytes :=
  beBytes 8 now ++
    (EndpointCrypto.hmac cookieKey (EndpointCrypto.addressBytes addr ++ clientScid ++ beBytes 8 now)).val

/-- Whether a cookie was made for a client, not in the future and not too long ago. -/
def verifyRetryCookie (cookieKey : Bytes) (addr : Address) (clientScid cookie : Bytes)
    (now maxAgeMs : Nat) : Bool :=
  if cookie.length ≠ 40 then false
  else if now < cookieTime cookie ∨ now - cookieTime cookie > maxAgeMs then false
  else
    -- The time is the cookie's own, so only the code is left to compare.
    (makeRetryCookie cookieKey addr clientScid (cookieTime cookie)).drop 8 = cookie.drop 8

/-- A cookie is forty bytes long. -/
@[simp] theorem makeRetryCookie_length (cookieKey : Bytes) (addr : Address) (clientScid : Bytes)
    (now : Nat) : (makeRetryCookie cookieKey addr clientScid now).length = 40 := by
  -- The code is thirty-two bytes long by its type.
  rw [makeRetryCookie, List.length_append, beBytes_length, (EndpointCrypto.hmac _ _).property]

/-- A cookie in force is forty bytes long and within its lifetime. -/
theorem verifyRetryCookie_inForce {cookieKey clientScid cookie : Bytes} {addr : Address}
    {now maxAgeMs : Nat}
    (verified : verifyRetryCookie cookieKey addr clientScid cookie now maxAgeMs = true) :
    cookie.length = 40 ∧ cookieTime cookie ≤ now ∧ now ≤ cookieTime cookie + maxAgeMs := by
  -- The length and the two clocks are checked before the code is.
  unfold verifyRetryCookie at verified
  split at verified
  · cases verified
  · rename_i length
    split at verified
    · cases verified
    · rename_i inForce
      push Not at inForce
      exact ⟨not_not.mp length, inForce.1, by omega⟩

/-- The time of a cookie reads back. -/
theorem cookieTime_made (cookieKey : Bytes) (addr : Address) (clientScid : Bytes) {time : Nat}
    (word : time < u64Size) : cookieTime (makeRetryCookie cookieKey addr clientScid time) = time := by
  unfold cookieTime makeRetryCookie
  rw [List.take_append_of_le_length (by simp), List.take_of_length_le (by simp)]
  exact beNat_beBytes word

/-- The cookie made for a client is in force for it until its lifetime is over. -/
theorem verifyRetryCookie_made {cookieKey clientScid : Bytes} {addr : Address}
    {made now maxAgeMs : Nat} (word : made < u64Size) (later : made ≤ now)
    (soon : now ≤ made + maxAgeMs) :
    verifyRetryCookie cookieKey addr clientScid (makeRetryCookie cookieKey addr clientScid made) now
      maxAgeMs = true := by
  -- With the time read back the code is computed again.
  unfold verifyRetryCookie
  rw [if_neg (by simp), cookieTime_made cookieKey addr clientScid word, if_neg (by omega)]
  exact decide_eq_true rfl

end Zetta
