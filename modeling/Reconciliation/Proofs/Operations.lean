import Reconciliation.Gateway.Operations
import Reconciliation.Proofs.Calls

/-!
# What an operation does

All operations go the same way: the request is prepared, the gateway is called once, and the attempt is kept.

* `Instruction` is an operation with what it is told, `Instruction.perform` carries it out.
* `perform_eq` says that this is to prepare a request and then to carry it out; `prepare_behaves` and `complete_run` say
  what each of the two comes to.
* `perform_of_unprepared` and `perform_of_prepared` put them together, and `perform_run` lists all runs.
-/

namespace Reconciliation

instance : LawfulMonad Procedure := LawfulMonad.mk' Procedure
  (fun p => Procedure.bind_done p) (fun _ _ => rfl) (fun p f g => Procedure.bind_assoc p f g)

/-- A procedure that only reads leaves the world as it is. -/
theorem Procedure.Behaves.quiet {α : Type} {p : Procedure α} {Q : α → List Event → Prop} {trace : List Event}
    (h : p.Behaves (fun _ k => k.reads = true) Q trace) (conditions : Conditions) (w : World) :
    (p.run conditions w).world = w ∧ ∀ e ∈ (p.run conditions w).trace, e.call.reads = true := by
  induction p generalizing trace w with
  | done a => exact ⟨rfl, by simp⟩
  | call k next ih =>
    have hk : k.reads = true := h.1
    rw [run]
    split
    · exact ⟨rfl, by simp [hk]⟩
    · have same : (w.answer conditions k).2 = w := by
        unfold World.answer
        split
        · rfl
        · cases k <;> first | rfl | cases hk
      obtain ⟨world, calls⟩ := ih _ (h.2 (w.answer conditions k).1) (w.answer conditions k).2
      exact ⟨world.trans same, List.forall_mem_cons.2 ⟨hk, calls⟩⟩

namespace Gateway

open Number Procedure

/-- An operation with what it is told. -/
inductive Instruction where
  | authorize (d : Details)
  | purchase (d : Details)
  | credit (d : Details)
  | capture (parent : Ident) (amount : Decimal) (currency : String)
  | refund (parent : Ident) (amount : Decimal) (currency : String)
  | void (parent : Ident)

/-- The reference that a request gives to the gateway, which later events carry back. -/
def Request.reference : Request → String
  | .authorize o | .credit o => o.reference
  | .capture m | .refund m | .cancel m => m.reference

/-- The request of a call to the gateway. -/
def requestOf? : Call → Option Request
  | .gateway request => some request
  | _ => none

/-- The requests to the gateway among some calls. -/
def requests (trace : List Event) : List Request := trace.filterMap (requestOf? ·.call)

theorem requests_append (trace trace' : List Event) : requests (trace ++ trace') = requests trace ++ requests trace' :=
  List.filterMap_append

theorem requestOf?_of_reads {k : Call} (h : k.reads = true) : requestOf? k = none := by
  cases k <;> first | rfl | cases h

theorem requests_eq_nil {trace : List Event} (h : ∀ e ∈ trace, e.call.reads = true) : requests trace = [] :=
  List.filterMap_eq_nil_iff.2 fun e he => requestOf?_of_reads (h e he)

namespace Instruction

open Operations

/-- Carries out an operation. -/
def perform (c : Context) : Instruction → Attempted Info
  | authorize d => Operations.authorize c d
  | purchase d => Operations.purchase c d
  | credit d => Operations.credit c d
  | capture parent amount currency => Operations.capture c parent amount currency
  | refund parent amount currency => Operations.refund c parent amount currency
  | void parent => Operations.void c parent

/-- The kind of operation under which the attempt is kept. -/
def operation : Instruction → Operation
  | authorize _ => .authorize
  | purchase _ => .purchase
  | credit _ => .credit
  | capture _ _ _ => .capture
  | refund _ _ _ => .refund
  | void _ => .void

/-- The amount of an operation with its currency; a cancellation has none. -/
def amount? : Instruction → Option (Decimal × String)
  | authorize d | purchase d | credit d => some (d.amount, d.currency)
  | capture _ amount currency | refund _ amount currency => some (amount, currency)
  | void _ => none

/-- The request for a change to the payment of an earlier transaction. -/
def change (c : Context) (parent : Ident) (amount : Option (Decimal × String)) (request : Modification → Request) :
    Attempted Request := do
  let m ← modification c parent amount
  pure (request m)

/-- Finds out what is needed for the request to the gateway. -/
def prepare (c : Context) : Instruction → Attempted Request
  | authorize d => pure (.authorize (order c d false))
  | purchase d => pure (.authorize (order c d true))
  | credit d => pure (.credit (order c d false))
  | capture parent amount currency => change c parent (some (amount, currency)) .capture
  | refund parent amount currency => change c parent (some (amount, currency)) .refund
  | void parent => change c parent none .cancel

/-- Carries out a request that is prepared. -/
def complete (c : Context) (o : Instruction) (request : Request) : Attempted Info :=
  carryOut c o.operation (o.amount?.map (·.1)) (o.amount?.map (·.2)) request

/-- An operation prepares its request and then carries it out. -/
theorem perform_eq (c : Context) (o : Instruction) : o.perform c = o.prepare c >>= o.complete c := by
  unfold complete
  cases o <;> simp only [perform, prepare, change, Operations.authorize, Operations.purchase, Operations.credit,
    Operations.capture, Operations.refund, Operations.void, operation, amount?, LawfulMonad.pure_bind,
    LawfulMonad.bind_assoc, Option.map_some, Option.map_none]

variable {c : Context} {trace : List Event}

theorem modification_behaves (parent : Ident) (amount : Option (Decimal × String)) :
    (modification c parent amount).run.Behaves (fun _ k => k.reads = true)
      (fun x _ => ∀ m, x = .ok m → m.reference = c.transaction.text) trace := by
  unfold modification
  rw [behaves_run_bind]
  refine ⟨rfl, fun x => ?_⟩
  -- the call fails, or there is no attempt, or it has no reference, or it has one
  rcases x with f | (_ | ⟨_, _, _, _, _, _, _, _ | reference⟩)
  · rintro m ⟨⟩
  · rintro m ⟨⟩
  · rintro m ⟨⟩
  · rintro m ⟨⟩
    rfl

theorem change_behaves (parent : Ident) (amount : Option (Decimal × String)) {request : Modification → Request}
    (refers : ∀ m, (request m).reference = m.reference) :
    (change c parent amount request).run.Behaves (fun _ k => k.reads = true)
      (fun x _ => ∀ request, x = .ok request → request.reference = c.transaction.text) trace := by
  unfold change
  rw [behaves_run_bind]
  refine (modification_behaves _ _).mono (fun _ _ => id) fun x trace hx => ?_
  cases x with
  | error f => exact fun m h => nomatch h
  | ok m =>
    rintro _ ⟨⟩
    exact (refers m).trans (hx m rfl)

/-- Preparing a request only reads, and the request refers to the transaction of the context. -/
theorem prepare_behaves (o : Instruction) :
    (o.prepare c).run.Behaves (fun _ k => k.reads = true)
      (fun x _ => ∀ request, x = .ok request → request.reference = c.transaction.text) trace := by
  cases o with
  | authorize d | purchase d | credit d =>
    rintro request ⟨⟩
    rfl
  | capture parent amount currency | refund parent amount currency | void parent =>
    exact change_behaves _ _ fun _ => rfl

/-! ### Carrying out -/

/-- What an operation returns, given what the gateway answered. -/
def result (c : Context) (o : Instruction) (answer : Except Failure Answer) : Info :=
  info c o.operation (o.amount?.map (·.1)) (o.amount?.map (·.2)) answer

/-- The attempt that is kept of an operation, given what the gateway answered. -/
def draft (c : Context) (o : Instruction) (answer : Except Failure Answer) : Attempt.Draft where
  account := c.account
  payment := c.payment
  transaction := c.transaction
  operation := o.operation
  amount := o.amount?.map (·.1)
  currency := o.amount?.map (·.2)
  reference := (o.result c answer).reference
  status := (o.result c answer).status
  payload := some (payload answer)
  tenant := c.tenant

/-- The runs in which a request is made: the attempt is kept, or can not be kept, or keeping it is aborted. -/
inductive Completed (c : Context) (o : Instruction) (conditions : Conditions) (w : World) (request : Request) :
    Run (Except Failure Info) → Prop where
  | kept (d : Attempt.Draft) (hd : d = o.draft c conditions.gateway) : Completed c o conditions w request
      ⟨.finished (.ok (o.result c conditions.gateway)),
        [⟨.gateway request, some conditions.gateway⟩, ⟨.recordAttempt d, some (.ok ())⟩],
        { w with journal := w.journal.record d }⟩
  | lost (d : Attempt.Draft) (hd : d = o.draft c conditions.gateway)
      (fails : conditions.fails (.recordAttempt d) = true) (f : Failure)
      (hf : f = (Call.recordAttempt d).injected) : Completed c o conditions w request
      ⟨.finished (.error f),
        [⟨.gateway request, some conditions.gateway⟩, ⟨.recordAttempt d, some (.error f)⟩], w⟩
  | aborted (d : Attempt.Draft) (hd : d = o.draft c conditions.gateway)
      (aborts : conditions.aborts (.recordAttempt d) = true) : Completed c o conditions w request
      ⟨.aborted (.recordAttempt d), [⟨.gateway request, some conditions.gateway⟩, ⟨.recordAttempt d, none⟩], w⟩

variable {o : Instruction} {conditions : Conditions} {w : World} {request : Request}

theorem Completed.requests_eq {run : Run (Except Failure Info)} (h : Completed c o conditions w request run) :
    requests run.trace = [request] := by
  cases h <;> rfl

theorem complete_run (c : Context) (o : Instruction) (request : Request) (conditions : Conditions) (w : World) :
    Completed c o conditions w request ((o.complete c request).run.run conditions w) := by
  have procedure : (o.complete c request).run = .call (.gateway request) fun answer =>
      .call (.recordAttempt (o.draft c answer)) fun recorded => .done (recorded.map fun _ => o.result c answer) := by
    refine congrArg (Procedure.call _) (funext fun answer => congrArg (Procedure.call _) (funext fun recorded => ?_))
    cases recorded <;> rfl
  have called : w.answer conditions (.gateway request) = (conditions.gateway, w) := rfl
  rw [procedure, run, if_neg (by simp [Conditions.aborts, Call.kind?]), called]
  dsimp only
  generalize hd : o.draft c conditions.gateway = d
  rw [run]
  by_cases ha : conditions.aborts (.recordAttempt d) = true
  · rw [if_pos ha]
    exact .aborted d hd.symm ha
  · rw [if_neg ha]
    by_cases hf : conditions.fails (.recordAttempt d) = true
    · have lost : w.answer conditions (.recordAttempt d) = (.error (Call.recordAttempt d).injected, w) := if_pos hf
      rw [lost]
      exact .lost d hd.symm hf _ rfl
    · have kept : w.answer conditions (.recordAttempt d) = (.ok (), { w with journal := w.journal.record d }) :=
        if_neg hf
      rw [kept]
      exact .kept d hd.symm

/-- An operation whose request can not be prepared ends with the failure, and neither calls the gateway nor writes. -/
theorem perform_of_unprepared {f : Failure}
    (h : ((o.prepare c).run.run conditions w).ending = .finished (.error f)) :
    let run := (o.perform c).run.run conditions w
    run.ending = .finished (.error f) ∧ requests run.trace = [] ∧ run.world = w := by
  have behaves : (o.prepare c).run.Behaves _ _ [] := prepare_behaves o
  obtain ⟨world, calls⟩ := behaves.quiet conditions w
  dsimp only
  rw [perform_eq, ExceptT.run_bind, bind_eq, run_bind_of_finished h, world]
  refine ⟨rfl, ?_, rfl⟩
  rw [requests_append, requests_eq_nil calls]
  rfl

/-- An operation whose request is prepared makes it. -/
theorem perform_of_prepared (h : ((o.prepare c).run.run conditions w).ending = .finished (.ok request)) :
    let run := (o.perform c).run.run conditions w
    ∃ completed, request.reference = c.transaction.text ∧ Completed c o conditions w request completed ∧
      requests run.trace = [request] ∧ run.ending = completed.ending ∧ run.world = completed.world := by
  have behaves : (o.prepare c).run.Behaves _ _ [] := prepare_behaves o
  obtain ⟨world, calls⟩ := behaves.quiet conditions w
  have completed := complete_run c o request conditions w
  dsimp only
  rw [perform_eq, ExceptT.run_bind, bind_eq, run_bind_of_finished h, world]
  refine ⟨_, behaves.result h request rfl, completed, ?_, rfl, rfl⟩
  rw [requests_append, requests_eq_nil calls, List.nil_append]
  exact completed.requests_eq

/-- An operation ends without a request, or makes one that refers to the transaction of its context. -/
theorem perform_run (c : Context) (o : Instruction) (conditions : Conditions) (w : World) :
    let run := (o.perform c).run.run conditions w
    (requests run.trace = [] ∧ run.world = w ∧ ∀ i, run.ending ≠ .finished (.ok i)) ∨
      ∃ request completed, request.reference = c.transaction.text ∧ Completed c o conditions w request completed ∧
        requests run.trace = [request] ∧ run.ending = completed.ending ∧ run.world = completed.world := by
  dsimp only
  cases ending : ((o.prepare c).run.run conditions w).ending with
  | aborted k =>
    have behaves : (o.prepare c).run.Behaves _ _ [] := prepare_behaves o
    obtain ⟨world, calls⟩ := behaves.quiet conditions w
    rw [perform_eq, ExceptT.run_bind, bind_eq, run_bind_of_aborted ending]
    exact .inl ⟨requests_eq_nil calls, world, fun i h => nomatch h⟩
  | finished x =>
    cases x with
    | error f =>
      obtain ⟨ended, none, world⟩ := perform_of_unprepared ending
      exact .inl ⟨none, world, fun i h => nomatch ended.symm.trans h⟩
    | ok request => exact .inr ⟨request, perform_of_prepared ending⟩

/-- An operation that ends well has made one request and kept one attempt. -/
theorem perform_of_ok {i : Info} (h : ((o.perform c).run.run conditions w).ending = .finished (.ok i)) :
    let run := (o.perform c).run.run conditions w
    let d := o.draft c conditions.gateway
    i = o.result c conditions.gateway ∧
      ∃ request, request.reference = c.transaction.text ∧ requests run.trace = [request] ∧
        run.world = { w with journal := w.journal.record d } := by
  dsimp only
  rcases perform_run c o conditions w with ⟨-, -, fails⟩ | ⟨request, _, refers, completed, made, ending, world⟩
  · exact absurd h (fails i)
  · rw [ending] at h
    rw [world]
    cases completed with
    | kept d hd =>
      cases h
      exact ⟨rfl, request, refers, made, by rw [hd]⟩
    | lost => cases h
    | aborted => cases h

end Instruction
end Gateway
end Reconciliation
