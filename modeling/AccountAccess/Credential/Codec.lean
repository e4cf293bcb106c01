import AccountAccess.Base64
import AccountAccess.Claims
import AccountAccess.Config.Access
import AccountAccess.Credential.Header
import AccountAccess.Digest.Sha256
import AccountAccess.Failure

/-!
Claims as signed tokens: three segments in the URL-safe form of base64, joined by dots. The third is
the authentication code of the first two.

* `Codec.encode` writes claims as a token.
* `Codec.read` is all of reading that does not look at the clock: the form, the signature, the
  claims, and who issued them.
* `Codec.decodeAt` is `Codec.read`, and then the window: a token holds from its start to its expiry,
  both widened by the leeway (`checkWindow`).
-/

namespace AccountAccess

/-- Which part of a token is malformed. -/
inductive Malformation where
  /-- There are fewer than two dots. -/
  | token
  | base64
  | json
  /-- A time is negative. -/
  | missingClaim
  deriving DecidableEq, Repr

/-- Why a token is refused. -/
inductive CredentialError where
  | encoding (reason : String)
  | malformed (part : Malformation)
  | invalidSignature
  | invalidAlgorithm
  | invalidIssuer
  | expired
  | notYetValid
  deriving DecidableEq, Repr

/-- The wording of a malformation. -/
def Malformation.message : Malformation → String
  | .token => "InvalidToken"
  | .base64 => "Base64 error"
  | .json => "JSON error"
  | .missingClaim => "Missing required claim"

namespace CredentialError

/-- The wording of a refusal. -/
def message : CredentialError → String
  | .encoding m => "Failed to encode credential: " ++ m
  | .malformed part => "Malformed credential: " ++ part.message
  | .invalidSignature => "Invalid signature"
  | .invalidAlgorithm => "Algorithm not allowed"
  | .invalidIssuer => "Invalid issuer"
  | .expired => "Credential expired"
  | .notYetValid => "Credential not yet valid"

/-- A caller learns only that a credential is refused. -/
def toFailure : CredentialError → Failure
  | .encoding m => .encoding m
  | _ => .invalidCredential

end CredentialError

/-- Issues and reads credentials of one issuer under one key. -/
structure Codec where
  key : Bytes
  issuer : String
  /-- Seconds by which the window of a credential is widened at both ends. -/
  leeway : Nat
  deriving DecidableEq, Repr

namespace Codec

open Credential

/-- The codec with a leeway that may be negative and then counts as zero. -/
def ofLeeway (key : Bytes) (issuer : String) (leeway : Int) : Codec := ⟨key, issuer, leeway.toNat⟩

/-- The codec that a configuration describes. -/
def ofConfig (c : AccessConfig) : Codec := ofLeeway c.key c.issuer c.leewaySecs.toInt

/-! ### Writing -/

/-- The first two segments, joined by a dot. -/
def signingInput (c : Claims) : List Char :=
  Base64.encode .urlSafe issuedHeader ++ '.' :: Base64.encode .urlSafe c.toJson.compact

/-- The authentication code of a token's first two segments. -/
def signature (codec : Codec) (input : List Char) : Bytes :=
  hmac codec.key (Bytes.ofText (String.ofList input))

/-- The claims as a token. -/
def encode (codec : Codec) (c : Claims) : String :=
  let input := signingInput c
  String.ofList (input ++ '.' :: Base64.encode .urlSafe (codec.signature input))

/-! ### Reading -/

/-- What stands before and behind the last dot. -/
def splitLast? (s : List Char) : Option (List Char × List Char) :=
  match s.reverse.dropWhile (· != '.') with
  | [] => none
  | _ :: before => some (before.reverse, (s.reverse.takeWhile (· != '.')).reverse)

/-- A token as it is written: its segments, and the text that is signed. -/
structure Segments where
  header : List Char
  payload : List Char
  signature : List Char
  /-- The header, a dot and the payload. -/
  input : List Char

/-- The last two dots part a token. -/
def segments? (token : String) : Option Segments := do
  let (input, signature) ← splitLast? token.toList
  let (header, payload) ← splitLast? input
  return { header, payload, signature, input }

/-- The octets of a segment. -/
def octets (segment : List Char) : Except CredentialError Bytes :=
  match Base64.decode? .urlSafe segment with
  | some b => .ok b
  | none => .error (.malformed .base64)

/-- The value of a segment's JSON text. -/
def json (b : Bytes) : Except CredentialError Json.Value :=
  match Json.parse? b with
  | some v => .ok v
  | none => .error (.malformed .json)

/-- The registered claims, read as members: they have to be given in an object, an audience at most
once. What the audience is does not count, but reading it has to lead behind it. -/
def registeredClaims (v : Json.Value) : Except CredentialError Unit :=
  match v.members? with
  | none => .error (.malformed .json)
  | some ms =>
    match Json.Value.member? "aud" ms with
    | none => .error (.malformed .json)
    | some none => .ok ()
    | some (some aud) => if aud.isPassable depthLimit then .ok () else .error (.malformed .json)

/-- The claims that a JSON value holds. -/
def claims (v : Json.Value) : Except CredentialError Claims :=
  match Claims.ofJson? v with
  | some c => .ok c
  | none => .error (.malformed .json)

/-- The algorithm that a header names. -/
def algorithm (v : Json.Value) : Except CredentialError Algorithm :=
  match algorithm? v with
  | some a => .ok a
  | none => .error (.malformed .json)

/-- The claims of a token, whatever the time. -/
def read (codec : Codec) (token : String) : Except CredentialError Claims := do
  let some s := segments? token | .error (.malformed .token)
  let header ← octets s.header
  let alg ← json header >>= algorithm
  if alg ≠ .hs256 then .error .invalidAlgorithm
  let signature ← octets s.signature
  if signature ≠ codec.signature s.input then .error .invalidSignature
  let payload ← octets s.payload
  let value ← json payload
  let c ← claims value
  registeredClaims value
  if c.expires.toInt < 0 ∨ c.notBefore.toInt < 0 then .error (.malformed .missingClaim)
  if c.issuer ≠ codec.issuer then .error .invalidIssuer
  return c

/-- The claims, if they hold at a second. -/
def checkWindow (codec : Codec) (c : Claims) (now : Int64) : Except CredentialError Claims :=
  if c.expires.toInt + codec.leeway < now.toInt then .error .expired
  else if c.notBefore.toInt - codec.leeway > now.toInt then .error .notYetValid
  else .ok c

/-- The claims of a token that holds at a second. -/
def decodeAt (codec : Codec) (token : String) (now : Int64) : Except CredentialError Claims := do
  codec.checkWindow (← codec.read token) now

/-- The claims of a token that holds at the time of a reading. -/
def decode (codec : Codec) (token : String) (clock : Reading) : Except CredentialError Claims :=
  codec.decodeAt token clock.unixNow

/-- The claims of a credential that this codec's issuer gives out. -/
def issue (codec : Codec) (userId : Int64) (role : Role) (id : Option String) (at' : Instant)
    (lifetime : Int) : Claims :=
  Claims.issue codec.issuer userId role id at' lifetime

end Codec
end AccountAccess
