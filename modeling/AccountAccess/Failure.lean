/-!
Why an operation on accounts, credentials or mail is refused.

* `Failure` is the one type of reasons that the public operations answer with; `Failure.message` is
  the wording and `Failure.kind` the group a caller tells apart.
* Reasons of a single part have a type there and become a `Failure` at its border.
-/

namespace AccountAccess

/-- Why an operation was refused. -/
inductive Failure where
  | encoding (reason : String)
  /-- A credential that is malformed, forged, of another issuer or out of its time; which of these
  it is stays unsaid. -/
  | invalidCredential
  | notFound (what : String)
  | conflict (what : String)
  | wrongPassword
  | delivery (reason : String)
  | forbidden (reason : String)
  | passwordHash (reason : String)
  | storage (reason : String)
  /-- A collaborator did not answer in time. -/
  | timeout (operation : String)
  | configuration (reason : String)
  | internal (reason : String)
  deriving DecidableEq, Repr

namespace Failure

/-- The groups of reasons. -/
inductive Kind where
  | encoding
  | invalidCredential
  | notFound
  | conflict
  | invalidPassword
  | delivery
  | forbidden
  | infrastructure
  | configuration
  | internal
  deriving DecidableEq, Repr

/-- The name of a group. -/
def Kind.name : Kind → String
  | .encoding => "encoding"
  | .invalidCredential => "invalid_credential"
  | .notFound => "not_found"
  | .conflict => "conflict"
  | .invalidPassword => "invalid_password"
  | .delivery => "delivery"
  | .forbidden => "forbidden"
  | .infrastructure => "infrastructure"
  | .configuration => "configuration"
  | .internal => "internal"

/-- The group that a reason belongs to. -/
def kind : Failure → Kind
  | .encoding _ => .encoding
  | .invalidCredential => .invalidCredential
  | .notFound _ => .notFound
  | .conflict _ => .conflict
  | .wrongPassword => .invalidPassword
  | .delivery _ => .delivery
  | .forbidden _ => .forbidden
  | .passwordHash _ => .internal
  | .storage _ => .infrastructure
  | .timeout _ => .infrastructure
  | .configuration _ => .configuration
  | .internal _ => .internal

/-- The wording of a reason. -/
def message : Failure → String
  | .encoding m => "Failed to encode credential: " ++ m
  | .invalidCredential => "Invalid credential"
  | .notFound m => "Not found: " ++ m
  | .conflict m => "Conflict: " ++ m
  | .wrongPassword => "Wrong password"
  | .delivery m => "Delivery failed: " ++ m
  | .forbidden m => "Forbidden: " ++ m
  | .passwordHash m => "Password hashing error: " ++ m
  | .storage m => "Storage error: " ++ m
  | .timeout m => "Timed out: " ++ m
  | .configuration m => "Configuration error: " ++ m
  | .internal m => "Internal error: " ++ m

/-- The caller has to authenticate anew. -/
def isUnauthorized : Failure → Bool
  | .invalidCredential => true
  | _ => false

/-- The request is at fault, and not the service. -/
def isClientError (f : Failure) : Bool :=
  match f.kind with
  | .invalidCredential | .notFound | .conflict | .invalidPassword | .forbidden => true
  | .encoding | .delivery | .infrastructure | .configuration | .internal => false

/-- Trying again later may help. -/
def isTransient : Failure → Bool
  | .storage _ | .timeout _ | .delivery _ => true
  | _ => false

/-- A reason is not both the caller's fault and worth another try. -/
theorem not_isClientError_of_isTransient {f : Failure} (h : f.isTransient = true) :
    f.isClientError = false := by
  cases f <;> simp_all [isTransient, isClientError, kind]

end Failure
end AccountAccess
