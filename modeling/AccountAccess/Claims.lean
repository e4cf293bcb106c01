import AccountAccess.Json.Decode
import AccountAccess.Json.Value
import AccountAccess.Identity
import AccountAccess.Time.Instant

/-!
What a credential says: who it was issued for, by whom, and when it holds.

* `Claims.issue` makes the claims of a credential that holds from an instant on for a given time.
  Sessions last `sessionLifetime` and reset credentials `resetLifetime` seconds.
* `Claims.toJson` writes the members in a fixed order and leaves an absent identifier out;
  `Claims.ofJson?` reads them in any order, and also as an array in the order of `memberNames`.
-/

namespace AccountAccess

/-- The claims of a session or reset credential; times are seconds since the start of 1970. -/
structure Claims where
  /-- Names the credential, so that it can be revoked; reset credentials have none. -/
  id : Option String
  subject : String
  issuer : String
  issuedAt : Int64
  notBefore : Int64
  expires : Int64
  userId : Int64
  role : Role
  deriving DecidableEq, Repr

namespace Claims

/-- How long a session lasts: fourteen days. -/
def sessionLifetime : Int := 1209600

/-- How long a reset credential lasts: fifteen minutes. -/
def resetLifetime : Int := 900

/-- Claims that hold from `at'` on for `lifetime` seconds. -/
def issue (issuer : String) (userId : Int64) (role : Role) (id : Option String) (at' : Instant)
    (lifetime : Int) : Claims where
  id := id
  subject := Decimal.text userId.toInt
  issuer := issuer
  issuedAt := saturate at'.unix
  notBefore := saturate at'.unix
  expires := saturate (at'.unix + lifetime)
  userId := userId
  role := role

/-- The instant of expiry, or the start of 1970 when the calendar does not hold it. -/
def expiresAt (c : Claims) : Instant := Instant.ofUnixOrEpoch c.expires.toInt

/-! ### JSON -/

/-- The names of the members, in order. -/
def memberNames : List String :=
  ["jti", "sub", "iss", "iat", "nbf", "exp", "userId", "userRole"]

/-- The members that are written. -/
def members (c : Claims) : List (String × Json.Value) :=
  (match c.id with
    | some id => [("jti", .ofText id)]
    | none => []) ++
  [("sub", .ofText c.subject), ("iss", .ofText c.issuer), ("iat", .ofInt c.issuedAt.toInt),
    ("nbf", .ofInt c.notBefore.toInt), ("exp", .ofInt c.expires.toInt),
    ("userId", .ofInt c.userId.toInt), ("userRole", .ofText c.role.name)]

/-- The claims as a JSON object. -/
def toJson (c : Claims) : Json.Value := .ofMembers c.members

/-- The role that a value names. -/
def role? : Json.Value → Option Role := Json.Value.choice? Role.table

/-- The claims that a JSON value holds. -/
def ofJson? (v : Json.Value) : Option Claims :=
  match v.fields? memberNames with
  | some [jti, sub, iss, iat, nbf, exp, userId, userRole] => do
    let id ← Json.optional none (Json.Value.nullable? Json.Value.string?) jti
    let subject ← Json.required Json.Value.string? sub
    let issuer ← Json.required Json.Value.string? iss
    let issuedAt ← Json.required Json.Value.int64? iat
    let notBefore ← Json.required Json.Value.int64? nbf
    let expires ← Json.required Json.Value.int64? exp
    let userId ← Json.required Json.Value.int64? userId
    let role ← Json.required role? userRole
    return { id, subject, issuer, issuedAt, notBefore, expires, userId, role }
  | _ => none

end Claims
end AccountAccess
