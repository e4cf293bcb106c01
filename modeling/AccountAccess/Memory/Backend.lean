import AccountAccess.Flow
import AccountAccess.Memory.Accounts
import AccountAccess.Table
import AccountAccess.Time.Instant

/-!
The collaborators in memory: accounts, the ledger of revoked credentials, and a mailer that keeps
what it is given.

An entry of the ledger is kept through the instant it was made for: `RevocationLedger.cleanup` takes
out only those that lie before the present one. A second revocation of a credential changes nothing.
-/

namespace AccountAccess

/-! ### Revoked credentials -/

/-- The identifiers of revoked credentials, with the last instant each is needed at. -/
structure RevocationLedger where
  entries : Table String Instant := ∅

namespace RevocationLedger

/-- Enters a credential, unless it is entered already. -/
def revoke (l : RevocationLedger) (id : String) (needed : Instant) : RevocationLedger :=
  ⟨l.entries.insertNew id needed⟩

/-- A credential is entered. -/
def isRevoked (l : RevocationLedger) (id : String) : Bool := (l.entries.get? id).isSome

/-- Takes out the entries that are needed no more, and counts them. -/
def cleanup (l : RevocationLedger) (now : Instant) : Nat × RevocationLedger :=
  let kept := l.entries.filter fun _ needed => decide (now ≤ needed)
  (l.entries.size - kept.size, ⟨kept⟩)

/-- How many credentials are entered. -/
def size (l : RevocationLedger) : Nat := l.entries.size

theorem isRevoked_revoke (l : RevocationLedger) (id id' : String) (needed : Instant) :
    (l.revoke id needed).isRevoked id' = (id' == id || l.isRevoked id') := by
  simp only [isRevoked, revoke, Table.get?_insertNew]
  by_cases h : id' = id <;> simp [h]

theorem get?_revoke (l : RevocationLedger) (id id' : String) (needed : Instant) :
    (l.revoke id needed).entries.get? id' =
      if id' = id then some ((l.entries.get? id).getD needed) else l.entries.get? id' :=
  Table.get?_insertNew _ _ _ _

theorem get?_cleanup (l : RevocationLedger) (now : Instant) (id : String) :
    (l.cleanup now).2.entries.get? id =
      (l.entries.get? id).filter fun needed => decide (now ≤ needed) :=
  Table.get?_filter _ _ _

theorem isRevoked_cleanup (l : RevocationLedger) (now : Instant) (id : String) :
    (l.cleanup now).2.isRevoked id =
      (l.entries.get? id).any fun needed => decide (now ≤ needed) := by
  simp only [isRevoked, cleanup, Table.get?_filter]
  cases l.entries.get? id <;> simp [Option.filter]
  split <;> simp_all

end RevocationLedger

/-! ### The collaborators -/

/-- The collaborators in memory. -/
structure Backend where
  store : AccountStore := {}
  ledger : RevocationLedger := {}
  /-- The messages that were sent, the latest first. -/
  sent : List Mail.Message := []

namespace Backend

/-- A reply that is no silence. -/
def reply : Except Failure α → Reply α
  | .ok a => .value a
  | .error f => .refused f

/-- Answers a call. -/
def answer : Flow.Handler Backend := fun b request =>
  match request with
  | .createAccount a =>
    let (r, store) := b.store.create a
    (reply r, { b with store })
  | .findByEmail email => (.value (b.store.find? email), b)
  | .updatePassword email hash =>
    let (r, store) := b.store.updatePassword email hash
    (reply r, { b with store })
  | .findReset fingerprint => (.value (b.store.findReset? fingerprint), b)
  | .deleteReset fingerprint => (.value (), { b with store := b.store.deleteReset fingerprint })
  | .replaceReset record =>
    let (superseded, store) := b.store.replaceReset record
    (.value superseded, { b with store })
  | .isRevoked id => (.value (b.ledger.isRevoked id), b)
  | .revoke id needed => (.value (), { b with ledger := b.ledger.revoke id needed })
  | .send message => (.value (), { b with sent := message :: b.sent })

end Backend
end AccountAccess
