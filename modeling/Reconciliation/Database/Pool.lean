import Reconciliation.Database.Address
import Reconciliation.Database.Fault
import Reconciliation.Ident

/-!
# Pools of connections

* `Pool.Settings.default` are the limits of a pool.
* `Pool.addressFault?` is what keeps a pool from being opened.
* `Task` lists what is asked of the database. A closed pool answers each with `Task.faultWhenClosed`.
-/

namespace Reconciliation.Database

namespace Pool

structure Settings where
  maxConnections : Nat
  minConnections : Nat
  /-- How long to wait for a connection. -/
  connectionTimeoutSeconds : Nat
  /-- How long a connection may be idle. -/
  idleTimeoutSeconds : Nat
  /-- How long a connection lasts. -/
  maxLifetimeSeconds : Nat
  deriving Repr, DecidableEq

def Settings.default : Settings := ⟨10, 2, 5, 600, 1800⟩

/-- The connections of a pool. -/
structure Stats where
  idle : Nat
  size : Nat
  deriving Repr, DecidableEq

/-- A closed pool has no connection. -/
def Stats.closed : Stats := ⟨0, 0⟩

/-- The fault of an address that no pool can be opened for. -/
def addressFault? (address : String) : Option Fault :=
  (Address.flaw? address).map fun flaw => .ofSignal (.configuration flaw.message)

end Pool

/-- What is asked of the database. -/
inductive Task where
  | recordAttempt (transaction : Ident)
  | updateAttempt (payment transaction : Ident)
  | findByReference
  | findByTransaction
  | recordAudit
  | auditByReference
  /-- Asks whether the database answers. -/
  | probe
  /-- Brings the tables up to date. -/
  | migrate
  deriving Repr, DecidableEq

namespace Task

/-- What a fault of a task is about. -/
def context : Task → Option String
  | recordAttempt transaction => some ("transaction " ++ transaction.text)
  | updateAttempt payment transaction =>
    some ("payment " ++ payment.text ++ " transaction " ++ transaction.text)
  | _ => none

/-- What a closed pool makes of a task. -/
def faultWhenClosed (t : Task) : Fault :=
  match t with
  | migrate => ⟨.migration ("while executing migrations: " ++ Signal.poolClosed.message), none⟩
  | _ => ⟨.ofSignal .poolClosed, t.context⟩

end Task
end Reconciliation.Database
