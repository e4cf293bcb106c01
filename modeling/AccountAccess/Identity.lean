import AccountAccess.Failure

/-!
The two roles of an account, who a session speaks for, and what that allows.

* `Role.name` and `Role.ofName?` are the names on the wire; `Role.ofName?_name`.
* `Identity.requireAdmin` and `Identity.requireOwnerOrAdmin` refuse with `Failure.forbidden`;
  `requireOwnerOrAdmin_eq_ok_iff` says exactly when the second does not.
-/

namespace AccountAccess

/-- What an account may do. -/
inductive Role where
  | user
  | admin
  deriving DecidableEq, Repr

namespace Role

/-- The name of a role. -/
def name : Role → String
  | .user => "user"
  | .admin => "admin"

/-- The names of the roles. -/
def table : List (String × Role) := [("user", .user), ("admin", .admin)]

/-- The role of a name. -/
def ofName? (s : String) : Option Role := table.lookup s

@[simp] theorem ofName?_name (r : Role) : ofName? r.name = some r := by cases r <;> rfl

/-- Why a name is refused. -/
def unknownMessage (s : String) : String := "unknown role '" ++ s ++ "', expected 'user' or 'admin'"

/-- The role of an administrator. -/
def isAdmin : Role → Bool
  | .admin => true
  | .user => false

end Role

/-- The account and the role that a session speaks for. -/
structure Identity where
  userId : Int64
  role : Role
  deriving DecidableEq, Repr

namespace Identity

/-- Allows administrators. -/
def requireAdmin (who : Identity) : Except Failure Unit :=
  if who.role.isAdmin then .ok () else .error (.forbidden "admin role required")

/-- Allows the owner of a resource, and administrators. -/
def requireOwnerOrAdmin (who : Identity) (owner : Int64) : Except Failure Unit :=
  if who.userId = owner ∨ who.role.isAdmin then .ok ()
  else .error (.forbidden "not the owner of this resource")

theorem requireOwnerOrAdmin_eq_ok_iff {who : Identity} {owner : Int64} :
    who.requireOwnerOrAdmin owner = .ok () ↔ who.userId = owner ∨ who.role = .admin := by
  unfold requireOwnerOrAdmin
  split <;> rename_i h <;> cases hr : who.role <;> simp_all [Role.isAdmin]

end Identity
end AccountAccess
