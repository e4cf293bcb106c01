import AccountAccess.Json.Readable

/-!
The header of a web token.

A header is a JSON object that names a signature algorithm. The other registered members have to
have their types, and an unregistered one has to be a string; none of them is acted upon. A key that
is given in place (`jwk`) has to be one of the four kinds of keys, with the members of its kind.
-/

namespace AccountAccess.Credential

open Json (Value)

/-- The signature algorithms that a header may name. -/
inductive Algorithm where
  | hs256
  | hs384
  | hs512
  | es256
  | es384
  | rs256
  | rs384
  | rs512
  | ps256
  | ps384
  | ps512
  | edDSA
  deriving DecidableEq, Repr

/-- The names of the algorithms. -/
def Algorithm.table : List (String × Algorithm) := [
  ("HS256", .hs256), ("HS384", .hs384), ("HS512", .hs512), ("ES256", .es256), ("ES384", .es384),
  ("RS256", .rs256), ("RS384", .rs384), ("RS512", .rs512), ("PS256", .ps256), ("PS384", .ps384),
  ("PS512", .ps512), ("EdDSA", .edDSA)]

/-! ### Members -/

/-- Members by name. -/
abbrev Members := List (String × Value)

/-- A member that may be absent or `null`, and otherwise is read by `read`; it occurs at most
once. -/
def optionalMember (read : Value → Option α) (ms : Members) (name : String) : Bool :=
  match Value.member? name ms with
  | none => false
  | some none => true
  | some (some v) => ((Value.nullable? read) v).isSome

/-- A member that occurs once and is read by `read`. -/
def requiredMember (read : Value → Option α) (ms : Members) (name : String) : Bool :=
  match Value.member? name ms with
  | some (some v) => (read v).isSome
  | _ => false

/-- A list of strings. -/
def strings? : Value → Option (List String) := Value.list? Value.string?

/-- How many containers may stand around a scalar inside a member. -/
def depthLimit : Nat := 126

/-! ### Keys -/

/-- One of the names, also as the only member of an object with the value `null`. -/
def oneOf (names : List String) : Value → Option String :=
  Value.choice? (names.map fun n => (n, n))

/-- Any name, also as the only member of an object with the value `null` or an empty object. -/
def anyName : Value → Option String
  | .str name => Json.lexemeText? name
  | .obj [(name, .null)] => Json.lexemeText? name
  | .obj [(name, .obj [])] => Json.lexemeText? name
  | _ => none

/-- The curves of elliptic keys. -/
def curves : List String := ["P-256", "P-384", "P-521", "Ed25519"]

/-- The members that a key has besides those of its kind. -/
def keyMembersAreTyped (ms : Members) : Bool :=
  ["use", "kid", "x5u", "x5t", "x5t#S256"].all (optionalMember Value.string? ms) &&
    ["key_ops", "x5c"].all (optionalMember strings? ms) && optionalMember anyName ms "alg"

/-- The members of one of the four kinds of keys. -/
def keyIsOfAKind (ms : Members) : Bool :=
  let kind := fun name => requiredMember (oneOf [name]) ms "kty"
  let curve := requiredMember (oneOf curves) ms "crv"
  let text := requiredMember Value.string? ms
  (kind "EC" && curve && text "x" && text "y") || (kind "RSA" && text "n" && text "e") ||
    (kind "oct" && text "k") || (kind "OKP" && curve && text "x")

/-- A key given in place. -/
def key? (v : Value) : Option Unit := do
  let ms ← v.members?
  if v.isReadable depthLimit && keyMembersAreTyped ms && keyIsOfAKind ms then return () else none

/-! ### Headers -/

/-- The members of a header that are strings. -/
def textMembers : List String :=
  ["typ", "cty", "jku", "kid", "x5u", "x5t", "x5t#S256", "enc", "zip", "url", "nonce"]

/-- The members of a header that are lists of strings. -/
def listMembers : List String := ["x5c", "crit"]

/-- The registered members of a header. -/
def registered : List String := ["alg", "jwk"] ++ textMembers ++ listMembers

/-- The algorithm that a header names, if the header is well formed. -/
def algorithm? (v : Value) : Option Algorithm := do
  let ms ← v.members?
  let alg ← Value.member? "alg" ms
  let algorithm ← Json.required (Value.choice? Algorithm.table) alg
  if textMembers.all (optionalMember Value.string? ms) &&
      listMembers.all (optionalMember strings? ms) &&
      optionalMember key? ms "jwk" &&
      ms.all (fun (k, v) => registered.contains k || v.string?.isSome)
  then return algorithm else none

/-- The header of every token that is issued, as octets. -/
def issuedHeader : Bytes := 
  Bytes.ofText "\x7b\"typ\":\"JWT\",\"alg\":\"HS256\"\x7d"

end AccountAccess.Credential
