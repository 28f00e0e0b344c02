import Reconciliation.Gateway.Request
import Reconciliation.Journal

/-!
# Calls and procedures

What the program does to its surroundings is a sequence of calls: to the journal, to the billing platform and to
the gateway. Each call is answered at once or fails.

* `Call` lists the calls and `Call.Answer` the type of the answer to each.
* `Procedure` is a computation that makes calls; it says what is called next and how it goes on from the answer.
* Procedures form a monad: `Procedure.bind` goes on where one ends, `Procedure.ask` makes one call.
-/

namespace Reconciliation

inductive Call where
  | findByReference (reference : String)
  | findByTransaction (transaction : Ident)
  | recordAttempt (draft : Attempt.Draft)
  | updateAttempt (key : Journal.Key) (reference : Option String) (status : Status)
  | recordAudit (entry : AuditEntry)
  | getPayment (payment tenant : Ident)
  | getMethod (method tenant : Ident)
  | updateTransaction (change : StatusChange) (tenant : Ident)
  | createChargeback (payment : Ident) (chargeback : NewChargeback) (tenant : Ident)
  | gateway (request : Gateway.Request)
  deriving Repr, DecidableEq

namespace Call

/-- The type of the answer to a call. -/
abbrev Answer : Call → Type
  | findByReference _ => List Attempt
  | findByTransaction _ => Option Attempt
  | recordAttempt _ => Unit
  | updateAttempt _ _ _ => Bool
  | recordAudit _ => Unit
  | getPayment _ _ => Payment
  | getMethod _ _ => PaymentMethod
  | updateTransaction _ _ => Unit
  | createChargeback _ _ _ => Transaction
  | gateway _ => Gateway.Answer

/-- The kinds of calls that can be made to fail. -/
inductive Kind where
  | findByReference
  | findByTransaction
  | recordAttempt
  | updateAttempt
  | recordAudit
  | getPayment
  | getMethod
  | updateTransaction
  | createChargeback
  deriving Repr, DecidableEq

/-- The kind of a call; calls to the gateway have none. -/
def kind? : Call → Option Kind
  | findByReference _ => some .findByReference
  | findByTransaction _ => some .findByTransaction
  | recordAttempt _ => some .recordAttempt
  | updateAttempt _ _ _ => some .updateAttempt
  | recordAudit _ => some .recordAudit
  | getPayment _ _ => some .getPayment
  | getMethod _ _ => some .getMethod
  | updateTransaction _ _ => some .updateTransaction
  | createChargeback _ _ _ => some .createChargeback
  | gateway _ => none

namespace Kind

def name : Kind → String
  | .findByReference => "find_by_correlation_ref"
  | .findByTransaction => "find_by_local_transaction_id"
  | .recordAttempt => "record_response"
  | .updateAttempt => "update_status"
  | .recordAudit => "record_notification"
  | .getPayment => "get_payment"
  | .getMethod => "get_payment_method"
  | .updateTransaction => "update_transaction_status"
  | .createChargeback => "create_chargeback"

/-- Calls to the journal, as opposed to calls to the platform. -/
def isJournal : Kind → Bool
  | .findByReference | .findByTransaction | .recordAttempt | .updateAttempt | .recordAudit => true
  | .getPayment | .getMethod | .updateTransaction | .createChargeback => false

end Kind
end Call

/-- A computation that makes calls. -/
inductive Procedure (α : Type) where
  | done (a : α)
  | call (c : Call) (next : Except Failure c.Answer → Procedure α)

namespace Procedure

variable {α β : Type}

/-- Goes on with `f` where a procedure ends. -/
def bind : Procedure α → (α → Procedure β) → Procedure β
  | done a, f => f a
  | call c next, f => call c fun answer => (next answer).bind f

instance : Monad Procedure where
  pure := done
  bind := bind

/-- Makes one call. -/
def ask (c : Call) : Procedure (Except Failure c.Answer) := call c done

@[simp] theorem pure_eq (a : α) : (pure a : Procedure α) = done a := rfl

@[simp] theorem bind_eq (p : Procedure α) (f : α → Procedure β) : p >>= f = p.bind f := rfl

@[simp] theorem done_bind (a : α) (f : α → Procedure β) : (done a).bind f = f a := rfl

@[simp] theorem call_bind (c : Call) (next : Except Failure c.Answer → Procedure α) (f : α → Procedure β) :
    (call c next).bind f = call c fun answer => (next answer).bind f := rfl

@[simp] theorem bind_done (p : Procedure α) : p.bind done = p := by
  induction p with
  | done a => rfl
  | call c next ih => simp [ih]

theorem bind_assoc {γ : Type} (p : Procedure α) (f : α → Procedure β) (g : β → Procedure γ) :
    (p.bind f).bind g = p.bind fun a => (f a).bind g := by
  induction p with
  | done a => rfl
  | call c next ih => simp [ih]

end Procedure

/-- A computation that makes calls and ends with the first failure that it does not handle. -/
abbrev Attempted := ExceptT Failure Procedure

/-- Makes a call whose failure is not handled. -/
def Attempted.ask (c : Call) : Attempted c.Answer := Procedure.ask c

/-- Makes a call whose failure is handled. -/
def Attempted.tryAsk (c : Call) : Attempted (Except Failure c.Answer) := ExceptT.lift (Procedure.ask c)

end Reconciliation
