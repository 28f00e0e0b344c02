import Reconciliation.Call

/-!
# Running procedures

The world holds a journal and a platform. A procedure runs in it under conditions: some calls fail, some abort the
procedure where it stands, and the gateway gives one answer to everything.

* `World.answer` answers a call and says what the world is afterwards.
* `Procedure.run` makes all calls of a procedure one after another and lists what was called and answered.
-/

namespace Reconciliation

structure World where
  journal : Journal
  platform : Platform
  deriving Repr, DecidableEq, Inhabited

/-- What happens to calls. -/
structure Conditions where
  /-- Calls that fail without having an effect. -/
  failing : List Call.Kind
  /-- Calls that end the procedure without an answer. -/
  aborting : List Call.Kind
  /-- What the gateway answers. -/
  gateway : Except Failure Gateway.Answer

namespace Conditions

/-- No call fails; the gateway does not answer. -/
def fair : Conditions := ⟨[], [], .error (.ofKind (.gateway "" "unreachable" true))⟩

def fails (c : Conditions) (call : Call) : Bool := call.kind?.any c.failing.contains

def aborts (c : Conditions) (call : Call) : Bool := call.kind?.any c.aborting.contains

end Conditions

/-- The failure of a call that was made to fail. -/
def Call.injected (c : Call) : Failure :=
  match c.kind? with
  | none => .platform "injected"
  | some k => if k.isJournal then .persistence ("injected " ++ k.name) else .platform ("injected " ++ k.name)

namespace World

def empty : World := ⟨.empty, .empty⟩

/-- The answer to a call that is not made to fail. -/
def perform (gateway : Except Failure Gateway.Answer) (w : World) : (c : Call) → Except Failure c.Answer × World
  | .findByReference reference => (.ok (w.journal.withReference reference), w)
  | .findByTransaction transaction => (.ok (w.journal.withTransaction? transaction), w)
  | .recordAttempt draft => (.ok (), { w with journal := w.journal.record draft })
  | .updateAttempt key reference status =>
    let (changed, journal) := w.journal.updateStatus key reference status
    (.ok changed, { w with journal := journal })
  | .recordAudit entry => (.ok (), { w with journal := w.journal.note entry })
  | .getPayment payment _ => (w.platform.payment? payment, w)
  | .getMethod method _ => (w.platform.method? method, w)
  | .updateTransaction change _ =>
    let (answer, platform) := w.platform.updateTransaction change
    (answer, { w with platform := platform })
  | .createChargeback payment chargeback _ =>
    let (answer, platform) := w.platform.createChargeback payment chargeback
    (answer, { w with platform := platform })
  | .gateway _ => (gateway, w)

/-- The answer to a call, and the world afterwards; a call that is made to fail has no effect. -/
def answer (conditions : Conditions) (w : World) (c : Call) : Except Failure c.Answer × World :=
  if conditions.fails c then (.error c.injected, w) else w.perform conditions.gateway c

end World

/-- A call and its answer; one that aborted the procedure has none. -/
structure Event where
  call : Call
  answer : Option (Except Failure call.Answer)

/-- How a procedure ended: with a result, or by an abort at a call. -/
inductive Ending (α : Type) where
  | finished (a : α)
  | aborted (call : Call)

/-- What became of a procedure. -/
structure Run (α : Type) where
  ending : Ending α
  trace : List Event
  world : World

namespace Procedure

variable {α β : Type}

/-- Makes the calls of a procedure one after another. -/
def run (conditions : Conditions) : Procedure α → World → Run α
  | done a, w => ⟨.finished a, [], w⟩
  | call c next, w =>
    if conditions.aborts c then ⟨.aborted c, [⟨c, none⟩], w⟩
    else
      let (answer, w) := w.answer conditions c
      let rest := (next answer).run conditions w
      { rest with trace := ⟨c, some answer⟩ :: rest.trace }

@[simp] theorem run_done (conditions : Conditions) (a : α) (w : World) :
    (done a).run conditions w = ⟨.finished a, [], w⟩ := rfl

end Procedure
end Reconciliation
