import AccountAccess.Base64
import AccountAccess.Config.Access
import AccountAccess.Digest.Sha256
import AccountAccess.Time.Instant

/-!
A user's number and the time, signed, for a round trip through somebody else's hands.

The text is two segments in the URL-safe form of base64, joined by a dot: the payload, which is the
number, a colon and the second of signing, and the authentication code of the payload.

* `StateSigner.sign` writes it.
* `StateSigner.verify` accepts it if it is authentic, no older than asked for, and not from further
  in the future than the leeway.
-/

namespace AccountAccess

/-- Signs and verifies state under one key. -/
structure StateSigner where
  key : Bytes
  /-- Seconds by which state may come from the future. -/
  leeway : Nat
  defaultMaxAge : Duration

namespace StateSigner

/-- The signer with a leeway that may be negative and then counts as zero. -/
def ofLeeway (key : Bytes) (leeway : Int) (defaultMaxAge : Duration) : StateSigner :=
  ⟨key, leeway.toNat, defaultMaxAge⟩

/-- The signer that a configuration describes. -/
def ofConfig (c : AccessConfig) : StateSigner := ofLeeway c.key c.leewaySecs.toInt c.stateMaxAge

/-- The number of the user, a colon, and the second of signing. -/
def payload (userId now : Int64) : Bytes :=
  Bytes.ofText (String.ofList (Decimal.render userId.toInt ++ ':' :: Decimal.render now.toInt))

/-- Signs a user's number at a second. -/
def sign (s : StateSigner) (userId now : Int64) : String :=
  let p := payload userId now
  String.ofList (Base64.encode .urlSafe p ++ '.' :: Base64.encode .urlSafe (hmac s.key p))

/-- What stands before and behind the first occurrence of a character. -/
def splitFirst? (c : Char) (s : List Char) : Option (List Char × List Char) :=
  match s.dropWhile (· != c) with
  | [] => none
  | _ :: after => some (s.takeWhile (· != c), after)

/-- The payload of an authentic text. -/
def authentic? (s : StateSigner) (state : String) : Option Bytes := do
  let (p, m) ← splitFirst? '.' state.toList
  let payload ← Base64.decode? .urlSafe p
  let mac ← Base64.decode? .urlSafe m
  if mac = hmac s.key payload then return payload else none

/-- The number of the user and the second of signing that a payload holds. -/
def ofPayload? (payload : Bytes) : Option (Int64 × Int64) := do
  let text ← Bytes.text? payload
  let (u, t) ← splitFirst? ':' text.toList
  return (← Decimal.int64? u, ← Decimal.int64? t)

/-- The age lies between minus the leeway and the greatest age, which counts as unbounded when its
seconds exceed 63 bits. -/
def inWindow (s : StateSigner) (issued now : Int64) (maxAge : Duration) : Bool :=
  let age := saturate (now.toInt - issued.toInt)
  let most := saturate maxAge.secs.toNat
  age.toInt ≤ most.toInt && -(s.leeway : Int) ≤ age.toInt

/-- The user's number in an authentic text of a fitting age. -/
def verify (s : StateSigner) (state : String) (now : Int64) (maxAge : Duration) :
    Option Int64 := do
  let payload ← s.authentic? state
  let (user, issued) ← ofPayload? payload
  if s.inWindow issued now maxAge then return user else none

/-- Verifies against the greatest age that the signer was made with. -/
def verifyDefault (s : StateSigner) (state : String) (now : Int64) : Option Int64 :=
  s.verify state now s.defaultMaxAge

end StateSigner
end AccountAccess
