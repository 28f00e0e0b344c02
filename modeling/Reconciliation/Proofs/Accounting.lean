import Reconciliation.Proofs.Operations

/-!
# Accounting for operations

While an operation is carried out, money moves at the gateway, and what is kept of it here has to account for that. There
are three ways for an operation to end, and it ends in just one of them, whatever the gateway answers and whichever calls
to the journal fail.

* `Unsent`, `Unrecorded` and `Accounted` are these ways; `Unprepared` says why a request can not be prepared, and
  `Agrees` what it is to account for an operation.
* `modification_unprepared` says what can be wrong with the earlier attempt, and `agrees_of_draft` what is kept of an answer.
* `operation_accounting` is the statement about a run.
-/

namespace Reconciliation.Gateway.Instruction

open Operations Procedure

/-- The earlier transaction that an operation changes, if it is one that does. -/
def parent? : Instruction → Option Ident
  | authorize _ | purchase _ | credit _ => none
  | capture parent _ _ | refund parent _ _ | void parent => some parent

/-- Why a change to an earlier transaction can not be asked for, with the failure: its attempt can not be read, or there
is none, or it has no reference. -/
inductive Unprepared (failing : List Call.Kind) (w : World) (parent : Ident) : Failure → Prop where
  | unread (fails : .findByTransaction ∈ failing) :
      Unprepared failing w parent (.persistence ("injected " ++ Call.Kind.findByTransaction.name))
  | missing (reads : .findByTransaction ∉ failing) (missing : w.journal.withTransaction? parent = none) :
      Unprepared failing w parent (.notFound "TransactionResponse" parent.text)
  | unreferenced {a : Attempt} (reads : .findByTransaction ∉ failing)
      (first : w.journal.withTransaction? parent = some a) (reference : a.reference = none) :
      Unprepared failing w parent (.validation ("transaction " ++ parent.text ++ " has no gateway reference yet"))

/-- What is returned and what is kept agree with each other, with what the operation was told, and with the answer of the
gateway; where it did not answer, they tell why. -/
structure Agrees (c : Context) (o : Instruction) (answer : Except Failure Answer) (i : Info) (a : Attempt) : Prop where
  owner : a.account = c.account ∧ a.tenant = c.tenant
  payment : i.payment = c.payment ∧ a.payment = c.payment
  transaction : i.transaction = c.transaction ∧ a.transaction = c.transaction
  operation : i.operation = o.operation ∧ a.operation = o.operation
  amount : i.amount = o.amount?.map (·.1) ∧ a.amount = o.amount?.map (·.1)
  currency : i.currency = o.amount?.map (·.2) ∧ a.currency = o.amount?.map (·.2)
  status : i.status = a.status
  reference : i.reference = a.reference
  answered : ∀ x, answer = .ok x →
    i.status = statusOf x.resultCode ∧ i.reference = x.reference ∧ a.payload = some x.raw
  unanswered : ∀ f, answer = .error f → i.status = .error ∧ i.reference = none ∧ i.error = some f.message ∧
    a.payload = some (.ofPairs [("error", .string f.message)])

variable {failing : List Call.Kind} {answer : Except Failure Answer} {c : Context} {o : Instruction} {w : World}
  {f : Failure} {request : Request}

end Reconciliation.Gateway.Instruction
