import Reconciliation.Attempt
import Reconciliation.AuditEntry
import Reconciliation.Platform

/-!
# The journal

The journal holds the attempts of this program's own operations and the audit entries of the notifications it was
sent, both in the order in which they came.

* `Journal.withReference` finds attempts by the gateway's reference, oldest first.
* `Journal.withTransaction?` finds the first attempt for a transaction.
* `Journal.updateStatus` changes the status of one attempt and fills in a missing reference.
-/

namespace Reconciliation

open Time

structure Journal where
  attempts : List Attempt
  audit : List AuditEntry
  deriving Repr, DecidableEq, Inhabited

namespace Journal

def empty : Journal := ⟨[], []⟩

/-- Adds an attempt as it stands. -/
def insert (j : Journal) (a : Attempt) : Journal := { j with attempts := j.attempts ++ [a] }

/-- Adds an attempt that was just made. -/
def record (j : Journal) (d : Attempt.Draft) : Journal :=
  j.insert (.ofDraft (.drawn (Platform.nextSerial (j.attempts.map (·.id))))
    (Platform.nextMoment (j.attempts.map (·.created))) d)

/-- The attempts with a reference, oldest first; of the same time, the first inserted first. -/
def withReference (j : Journal) (reference : String) : List Attempt :=
  (j.attempts.filter (·.reference == some reference)).mergeSort fun a b => a.created.notAfter b.created

/-- The first attempt inserted for a transaction. -/
def withTransaction? (j : Journal) (transaction : Ident) : Option Attempt :=
  j.attempts.find? (·.transaction == transaction)

/-- Which attempt a status belongs to. -/
structure Key where
  payment : Ident
  transaction : Ident
  tenant : Ident
  deriving Repr, DecidableEq

def Key.of (a : Attempt) : Key := ⟨a.payment, a.transaction, a.tenant⟩

/-- An attempt with a status, and with a reference if it had none. -/
def moved (reference : Option String) (status : Status) (a : Attempt) : Attempt :=
  { a with status := status, reference := a.reference.or reference }

/-- Whether a status or a reference is news for an attempt. -/
def isNews (reference : Option String) (status : Status) (a : Attempt) : Bool :=
  a.status != status || (a.reference.isNone && reference.isSome)

/-- Changes the first attempt with a key. -/
def change (key : Key) (f : Attempt → Attempt) : List Attempt → List Attempt
  | [] => []
  | a :: rest => if Key.of a = key then f a :: rest else a :: change key f rest

/-- Gives an attempt a status, and a reference if it has none; says whether that changed anything. -/
def updateStatus (j : Journal) (key : Key) (reference : Option String) (status : Status) : Bool × Journal :=
  match j.attempts.find? (Key.of · == key) with
  | none => (false, j)
  | some a =>
    if isNews reference status a then
      (true, { j with attempts := change key (moved reference status) j.attempts })
    else (false, j)

/-- Adds an audit entry. -/
def note (j : Journal) (e : AuditEntry) : Journal := { j with audit := j.audit ++ [e] }

end Journal
end Reconciliation
