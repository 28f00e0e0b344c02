import Reconciliation.Proofs.Settling

/-!
# The calls of a procedure

What can be said of the calls of a procedure, whatever the answers to them are.

* `Procedure.run_bind_of_finished` computes a run with the list of its calls.
* `Procedure.Comes` says what holds of a whole run; `comes_call` and `Comes.bind` follow it along the procedure.
* `Procedure.Behaves` says which calls are allowed after which others, and what holds at the end.
* `Call.writes` tells the calls that change attempts or the platform; `Procedure.Idle` says that a run makes none.
* `Write` lists the writes that a match can lead to; `item_behaves` says that an item makes no others, each for a match
  with the payment it was answered, and asks for one audit entry.
-/

namespace Reconciliation

namespace Call

/-- Whether a call is a write to the platform. -/
def writesPlatform : Call → Bool
  | updateTransaction _ _ | createChargeback _ _ _ => true
  | _ => false

/-- Whether a call only asks for what the stores hold. -/
def reads : Call → Bool
  | findByReference _ | findByTransaction _ | getPayment _ _ | getMethod _ _ => true
  | _ => false

/-- Whether a call adds an audit entry. -/
def audits : Call → Bool
  | recordAudit _ => true
  | _ => false

/-- Whether a call may change attempts or the platform. -/
def writes : Call → Bool
  | recordAttempt _ | updateAttempt _ _ _ => true
  | c => c.writesPlatform

theorem not_audits_of_reads {c : Call} (h : c.reads = true) : c.audits = false := by
  cases c <;> first | rfl | cases h

theorem not_writes_of_reads {c : Call} (h : c.reads = true) : c.writes = false := by
  cases c <;> first | rfl | cases h

theorem writesPlatform_of_not_writes {c : Call} (h : c.writes = false) : c.writesPlatform = false := by
  cases c <;> first | rfl | exact h

end Call

/-- A call that does not write leaves attempts and platform as they are. -/
theorem World.perform_of_not_writes {c : Call} (h : c.writes = false) (gateway : Except Failure Gateway.Answer)
    (w : World) :
    (w.perform gateway c).2.journal.attempts = w.journal.attempts ∧ (w.perform gateway c).2.platform = w.platform := by
  cases c <;> first | exact ⟨rfl, rfl⟩ | cases h

/-- Only a call for an audit entry adds one, and only one. -/
theorem World.audit_perform (gateway : Except Failure Gateway.Answer) (w : World) (k : Call) :
    ∃ entries, (w.perform gateway k).2.journal.audit = w.journal.audit ++ entries ∧
      entries.length = if k.audits then 1 else 0 := by
  cases k with
  | recordAudit e => exact ⟨[e], rfl, rfl⟩
  | updateAttempt key reference status => exact ⟨[], by simp [perform], rfl⟩
  | _ => exact ⟨[], by simp [perform, Journal.record, Journal.insert], rfl⟩

theorem World.answer_of_not_writes {c : Call} (h : c.writes = false) (conditions : Conditions) (w : World) :
    (w.answer conditions c).2.journal.attempts = w.journal.attempts ∧
      (w.answer conditions c).2.platform = w.platform := by
  unfold World.answer
  split
  · exact ⟨rfl, rfl⟩
  · exact World.perform_of_not_writes h _ w

namespace Procedure

variable {α β : Type} {c : Conditions} {w : World}

/-! ### Runs -/

/-- A run goes on where the one before it had a result. -/
theorem run_bind_of_finished {p : Procedure α} {a : α} (h : (p.run c w).ending = .finished a) (f : α → Procedure β) :
    (p.bind f).run c w =
      { (f a).run c (p.run c w).world with
        trace := (p.run c w).trace ++ ((f a).run c (p.run c w).world).trace } := by
  induction p generalizing w with
  | done b =>
    cases h
    rfl
  | call k next ih =>
    rw [call_bind]
    rw [run] at h ⊢
    split
    · next ha =>
      rw [if_pos ha] at h
      cases h
    · next ha =>
      rw [if_neg ha] at h
      simp only [run, ih _ h, if_neg ha, List.cons_append]

/-- After an abort, nothing follows. -/
theorem run_bind_of_aborted {p : Procedure α} {k : Call} (h : (p.run c w).ending = .aborted k) (f : α → Procedure β) :
    (p.bind f).run c w = ⟨.aborted k, (p.run c w).trace, (p.run c w).world⟩ := by
  induction p generalizing w with
  | done b => cases h
  | call j next ih =>
    rw [call_bind]
    rw [run] at h ⊢
    split
    · next ha =>
      rw [if_pos ha] at h
      cases h
      simp only [run, if_pos ha]
    · next ha =>
      rw [if_neg ha] at h
      simp only [run, ih _ h, if_neg ha]

/-- Only calls that are made to abort do so. -/
theorem aborts_of_aborted {p : Procedure α} {k : Call} (h : (p.run c w).ending = .aborted k) : c.aborts k = true := by
  induction p generalizing w with
  | done a => cases h
  | call j next ih =>
    rw [run] at h
    split at h
    · next ha =>
      cases h
      exact ha
    · exact ih _ h

/-- Where the calls in `trace` were made before, `Q` holds of how the procedure ends, of all calls with their answers and
of the world that is left. -/
def Comes (c : Conditions) (Q : Ending α → List Event → World → Prop) (p : Procedure α) (trace : List Event)
    (w : World) : Prop :=
  Q (p.run c w).ending (trace ++ (p.run c w).trace) (p.run c w).world

theorem comes_done {Q : Ending α → List Event → World → Prop} {trace : List Event} {a : α} :
    (done a).Comes c Q trace w ↔ Q (.finished a) trace w := by
  simp [Comes]

theorem comes_call {Q : Ending α → List Event → World → Prop} {trace : List Event} {k : Call}
    {next : Except Failure k.Answer → Procedure α} :
    (call k next).Comes c Q trace w ↔
      if c.aborts k then Q (.aborted k) (trace ++ [⟨k, none⟩]) w
      else (next (w.answer c k).1).Comes c Q (trace ++ [⟨k, some (w.answer c k).1⟩]) (w.answer c k).2 := by
  unfold Comes
  rw [run]
  split
  · rfl
  · rw [List.append_assoc, List.singleton_append]

/-- A procedure goes on from what the one before it comes to, unless that is an abort. -/
theorem Comes.bind {R : Ending α → List Event → World → Prop} {Q : Ending β → List Event → World → Prop}
    {trace : List Event} {p : Procedure α} {f : α → Procedure β} (hp : p.Comes c R trace w)
    (go : ∀ a trace v, R (.finished a) trace v → (f a).Comes c Q trace v)
    (abort : ∀ k trace v, R (.aborted k) trace v → Q (.aborted k) trace v) : (p.bind f).Comes c Q trace w := by
  unfold Comes at hp ⊢
  cases he : (p.run c w).ending with
  | finished a =>
    rw [he] at hp
    have rest := go a _ _ hp
    simp only [run_bind_of_finished he]
    rwa [Comes, List.append_assoc] at rest
  | aborted k =>
    rw [he] at hp
    rw [run_bind_of_aborted he]
    exact abort k _ _ hp

/-! ### Behaviour -/

/-- Whatever the answers are, each call is allowed after those before it, and the result fits all calls; `trace` lists
the calls that were made already. -/
def Behaves (allowed : List Event → Call → Prop) (Q : α → List Event → Prop) : Procedure α → List Event → Prop
  | done a, trace => Q a trace
  | call c next, trace => allowed trace c ∧ ∀ x, (next x).Behaves allowed Q (trace ++ [⟨c, some x⟩])

variable {allowed allowed' : List Event → Call → Prop} {Q Q' : α → List Event → Prop} {trace : List Event}

theorem behaves_ask {k : Call} {Q : Except Failure k.Answer → List Event → Prop} :
    (ask k).Behaves allowed Q trace ↔ allowed trace k ∧ ∀ x, Q x (trace ++ [⟨k, some x⟩]) := Iff.rfl

theorem Behaves.mono {p : Procedure α} (h : p.Behaves allowed Q trace)
    (hallowed : ∀ trace k, allowed trace k → allowed' trace k) (hQ : ∀ a trace, Q a trace → Q' a trace) :
    p.Behaves allowed' Q' trace := by
  induction p generalizing trace with
  | done a => exact hQ a trace h
  | call k next ih => exact ⟨hallowed trace k h.1, fun x => ih x (h.2 x)⟩

theorem behaves_bind {p : Procedure α} {f : α → Procedure β} {Q : β → List Event → Prop} :
    (p.bind f).Behaves allowed Q trace ↔ p.Behaves allowed (fun a trace => (f a).Behaves allowed Q trace) trace := by
  induction p generalizing trace with
  | done a => rfl
  | call k next ih => exact and_congr_right fun _ => forall_congr' fun x => ih x

/-- The same for procedures that can end with a failure. -/
theorem behaves_run_bind {ε : Type} {p : ExceptT ε Procedure α} {f : α → ExceptT ε Procedure β}
    {Q : Except ε β → List Event → Prop} :
    (p >>= f).run.Behaves allowed Q trace ↔
      p.run.Behaves allowed
        (fun x trace =>
          match x with
          | .ok a => (f a).run.Behaves allowed Q trace
          | .error e => Q (.error e) trace) trace := by
  rw [ExceptT.run_bind, bind_eq, behaves_bind]
  constructor <;> refine fun h => h.mono (fun _ _ => id) fun x trace hx => ?_
  all_goals cases x <;> exact hx

/-- What fits the calls whatever the answers are fits them in every run. -/
theorem Behaves.result {p : Procedure α} (h : p.Behaves allowed Q trace) {a : α}
    (ha : (p.run c w).ending = .finished a) : Q a (trace ++ (p.run c w).trace) := by
  induction p generalizing trace w with
  | done b =>
    cases ha
    rw [run_done, List.append_nil]
    exact h
  | call k next ih =>
    rw [run] at ha ⊢
    split at ha
    · cases ha
    · next hk =>
      have rest := ih _ (h.2 _) ha
      rw [List.append_assoc, List.singleton_append] at rest
      rwa [if_neg hk]

/-- Calls of one kind were added. -/
def Grown (P : Call → Prop) (trace trace' : List Event) : Prop :=
  ∃ added, trace' = trace ++ added ∧ ∀ e ∈ added, P e.call

/-- Where the same calls are allowed all the time, those are the ones that are added. -/
theorem Behaves.grown {P : Call → Prop} {p : Procedure α} (h : p.Behaves (fun _ k => P k) Q trace) :
    p.Behaves (fun trace' k => P k ∧ Grown P trace trace') (fun a trace' => Q a trace' ∧ Grown P trace trace')
      trace := by
  induction p generalizing trace with
  | done a => exact ⟨h, [], by simp, by simp⟩
  | call k next ih =>
    have later {trace'} (x) : Grown P (trace ++ [⟨k, some x⟩]) trace' → Grown P trace trace' := by
      rintro ⟨added, rfl, hadded⟩
      exact ⟨⟨k, some x⟩ :: added, by simp, List.forall_mem_cons.2 ⟨h.1, hadded⟩⟩
    refine ⟨⟨h.1, [], by simp, by simp⟩, fun x => (ih x (h.2 x)).mono ?_ ?_⟩
    · exact fun trace' k' => And.imp_right (later x)
    · exact fun a trace' => And.imp_right (later x)

/-- The number of calls that asked for an audit entry. -/
def auditCalls (trace : List Event) : Nat := trace.countP (·.call.audits)

theorem auditCalls_of_grown {P : Call → Prop} {trace' : List Event} (h : Grown P trace trace')
    (hP : ∀ k, P k → k.audits = false) : auditCalls trace' = auditCalls trace := by
  obtain ⟨added, rfl, hadded⟩ := h
  have none : added.countP (·.call.audits) = 0 := List.countP_eq_zero.2 fun e he => by simp [hP _ (hadded e he)]
  rw [auditCalls, List.countP_append, none]
  rfl

/-! ### Without writes -/

/-- A run leaves attempts and platform as they are, and makes no call that could change them. -/
structure Idle (c : Conditions) (w : World) (p : Procedure α) : Prop where
  attempts : (p.run c w).world.journal.attempts = w.journal.attempts
  platform : (p.run c w).world.platform = w.platform
  calls : ∀ e ∈ (p.run c w).trace, e.call.writes = false

theorem Idle.bind {p : Procedure α} {f : α → Procedure β} (hp : Idle c w p)
    (hf : ∀ a, (p.run c w).ending = .finished a → Idle c (p.run c w).world (f a)) : Idle c w (p.bind f) := by
  cases he : (p.run c w).ending with
  | aborted k =>
    have hrun := run_bind_of_aborted he f
    exact ⟨hrun ▸ hp.attempts, hrun ▸ hp.platform, hrun ▸ hp.calls⟩
  | finished a =>
    have hrun := run_bind_of_finished he f
    have rest := hf a he
    refine ⟨hrun ▸ rest.attempts.trans hp.attempts, hrun ▸ rest.platform.trans hp.platform, ?_⟩
    rw [hrun]
    intro e h
    exact (List.mem_append.1 h).elim (hp.calls e) (rest.calls e)

/-- A procedure that makes no writing call is idle in every run. -/
theorem Behaves.idle {p : Procedure α} (h : p.Behaves (fun _ k => k.writes = false) Q trace) (w : World) :
    Idle c w p := by
  induction p generalizing trace w with
  | done a => exact ⟨rfl, rfl, by simp⟩
  | call k next ih =>
    have hk : k.writes = false := h.1
    by_cases ha : c.aborts k = true
    · have hrun : (call k next).run c w = ⟨.aborted k, [⟨k, none⟩], w⟩ := by rw [Procedure.run, if_pos ha]
      exact ⟨by rw [hrun], by rw [hrun], by simp [hrun, hk]⟩
    · have hrun : (call k next).run c w =
          { (next (w.answer c k).1).run c (w.answer c k).2 with
            trace := ⟨k, some (w.answer c k).1⟩ :: ((next (w.answer c k).1).run c (w.answer c k).2).trace } := by
        rw [Procedure.run, if_neg ha]
      have rest := ih (w.answer c k).1 (h.2 _) (w.answer c k).2
      obtain ⟨hattempts, hplatform⟩ := World.answer_of_not_writes hk c w
      refine ⟨?_, ?_, ?_⟩ <;> rw [hrun]
      · exact rest.attempts.trans hattempts
      · exact rest.platform.trans hplatform
      · exact List.forall_mem_cons.2 ⟨hk, rest.calls⟩

end Procedure

namespace Notification

open Procedure

/-! ### Matching -/

namespace Matching

variable {c : Candidates} {tenant : Option Ident} {trace : List Event}

/-- A procedure that only reads. -/
def OnlyReads {α : Type} (p : Procedure α) : Prop :=
  ∀ trace, p.Behaves (fun _ k => k.reads = true) (fun _ _ => True) trace

theorem orElse_onlyReads {α : Type} {p q : Attempted (Option α)} (hp : OnlyReads p.run) (hq : OnlyReads q.run) :
    OnlyReads (orElse p q).run := by
  intro trace
  unfold orElse
  rw [behaves_run_bind]
  refine (hp trace).mono (fun _ _ => id) fun x trace _ => ?_
  match x with
  | .ok (some a) => trivial
  | .ok none => exact hq trace
  | .error f => trivial

theorem byReference_onlyReads (source : Source) (reference : Option String) :
    OnlyReads (byReference c tenant source reference).run := by
  cases reference with
  | none => exact fun _ => trivial
  | some reference => exact fun _ => ⟨rfl, fun x => by cases x <;> trivial⟩

theorem byTransaction_onlyReads (transaction : Option Ident) :
    OnlyReads (byTransaction c tenant transaction).run := by
  cases transaction with
  | none => exact fun _ => trivial
  | some transaction => exact fun _ => ⟨rfl, fun x => by cases x <;> trivial⟩

theorem find_onlyReads (i : Item) : OnlyReads (find i c tenant).run :=
  orElse_onlyReads (byReference_onlyReads _ _)
    (orElse_onlyReads (byReference_onlyReads _ _) (byTransaction_onlyReads _))

/-- The payment of a match was answered by the platform, and has its transaction. -/
structure Loaded (trace : List Event) (m : Match) : Prop where
  payment : ∃ tenant, ⟨.getPayment m.attempt.payment tenant, some (.ok m.payment)⟩ ∈ trace
  transaction : m.payment.transaction? m.attempt.transaction = some m.transaction

theorem Loaded.grown {P : Call → Prop} {trace' : List Event} {m : Match} (h : Loaded trace m)
    (hgrown : Grown P trace trace') : Loaded trace' m := by
  obtain ⟨added, rfl, -⟩ := hgrown
  obtain ⟨⟨tenant, hmem⟩, ht⟩ := h
  exact ⟨⟨tenant, List.mem_append_left _ hmem⟩, ht⟩

theorem load_behaves (i : Item) (a : Attempt) (source : Source) :
    (load i a source).Behaves (fun _ k => k.reads = true) (fun x trace => ∀ m, x = some m → Loaded trace m) trace := by
  unfold load
  rw [bind_eq, behaves_bind, behaves_ask]
  refine ⟨rfl, fun x => ?_⟩
  cases x with
  | error f => exact fun m h => nomatch h
  | ok payment =>
    dsimp only
    cases ht : payment.transaction? a.transaction with
    | none => exact fun m h => nomatch h
    | some t =>
      refine ⟨rfl, fun method => ?_⟩
      rintro m ⟨⟩
      exact ⟨⟨a.tenant, by simp⟩, ht⟩

/-- Matching only reads, and the payment of a match was answered by the platform. -/
theorem resolve_behaves (i : Item) (tenant : Option Ident) :
    (resolve i tenant).run.Behaves (fun _ k => k.reads = true)
      (fun x trace => ∀ m, x = .ok (some m) → Loaded trace m) trace := by
  unfold resolve
  dsimp only
  split
  · exact fun m h => nomatch h
  · rw [behaves_run_bind]
    refine (find_onlyReads i trace).mono (fun _ _ => id) fun x trace _ => ?_
    match x with
    | .error f => exact fun m h => nomatch h
    | .ok none => exact fun m h => nomatch h
    | .ok (some (a, source)) =>
      refine behaves_bind.2 ((load_behaves i a source).mono (fun _ _ => id) fun y trace hy => ?_)
      rintro m ⟨⟩
      exact hy m rfl

end Matching

/-! ### Items -/

namespace Delivery

open Platform Matching

variable {i : Item} {m : Match} {t : Tenant} {trace : List Event}

section Matched

variable {r : Registry} {conditions : Conditions} {w : World}

theorem resolve_idle (i : Item) (tenant : Option Ident) (w : World) : Idle conditions w (resolve i tenant).run := by
  have behaves : (resolve i tenant).run.Behaves (fun _ k => k.reads = true) _ [] := resolve_behaves i tenant
  exact (behaves.mono (fun _ _ => Call.not_writes_of_reads) fun _ _ => id).idle w

/-- The match that an item has in the world, with the calls that fail and abort. -/
def MatchedTo (r : Registry) (conditions : Conditions) (w : World) (i : Item) (m : Match) : Prop :=
  ((resolve i ((r.forAccount? i.merchantAccount).map (·.id))).run.run conditions w).ending = .finished (.ok (some m))

/-- Where no call fails, an item is matched to what is in sight. -/
theorem matchedTo_fair_iff : MatchedTo r .fair w i m ↔
    sight w.journal.attempts w.platform i ((r.forAccount? i.merchantAccount).map (·.id)) = some m := by
  rw [MatchedTo, ending_fair, resolve_fairly]
  simp

theorem glimpsed_of_matchedTo (h : MatchedTo r conditions w i m) : Glimpsed conditions
    (sight w.journal.attempts w.platform i ((r.forAccount? i.merchantAccount).map (·.id))) m :=
  have reads : Reads conditions w (resolve i ((r.forAccount? i.merchantAccount).map (·.id))).run _ := resolve_reads i _
  reads.result h m rfl

theorem found_of_matchedTo (h : MatchedTo r conditions w i m) :
    Found w i ((r.forAccount? i.merchantAccount).map (·.id)) m := found_of_glimpsed (glimpsed_of_matchedTo h)

end Matched

/-- The writes that a match can lead to. -/
inductive Write (i : Item) (m : Match) (t : Tenant) : Call → Prop where
  | matched (s : Status) (asks : Asks i m t ⟨.matched, s⟩) (status : m.transaction.status ≠ s) :
      Write i m t (.updateTransaction (matchedChange i m s) t.id)
  | attempt (s : Status) (asks : Asks i m t ⟨.matched, s⟩) :
      Write i m t (.updateAttempt (.of m.attempt) (reference i) s)
  | created (x : Transition) (asks : Asks i m t x) (target : x.target = .newChargeback) (reference : String)
      (carried : i.reference = some reference)
      (fresh : m.payment.transactionByKey? (chargebackKey m.payment.id reference) = none) :
      Write i m t (.createChargeback m.payment.id (newChargeback i m reference) t.id)
  | reversed (s : Status) (asks : Asks i m t ⟨.existingChargeback, s⟩) (chargeback : Transaction)
      (picked : reversed? i m.payment = some chargeback) (status : chargeback.status ≠ s) :
      Write i m t (.updateTransaction (reversal i m chargeback s) t.id)

theorem behaves_ask_bind {allowed : List Event → Call → Prop} {Q : Except Obstacle Outcome → List Event → Prop}
    {obstacle : Failure → Obstacle} {k : Call} {f : k.Answer → Applying Outcome} (hk : allowed trace k)
    (stop : ∀ e trace, Q (.error e) trace) (go : ∀ a trace, (f a).run.Behaves allowed Q trace) :
    (ask obstacle k >>= f).run.Behaves allowed Q trace := by
  rw [behaves_run_bind, ask_run]
  refine ⟨hk, fun x => ?_⟩
  cases x with
  | error e => exact stop _ _
  | ok a => exact go a _

/-- Settling a match makes no other calls than these writes. -/
theorem settle_behaves (i : Item) (m : Match) (t : Tenant) :
    (settle i m t).run.Behaves (fun _ k => Write i m t k) (fun _ _ => True) trace := by
  by_cases h : ∃ x, Asks i m t x
  · obtain ⟨⟨target, s⟩, asks⟩ := h
    rw [settle_of_asks asks]
    cases target with
    | matched =>
      simp only [apply, applyToMatched]
      by_cases hs : m.transaction.status = s
      · simp only [hs, not_true_eq_false, if_false]
        exact behaves_ask_bind (.attempt s asks) (fun _ _ => trivial) fun _ _ => trivial
      · simp only [hs, not_false_eq_true, if_true]
        refine behaves_ask_bind (.matched s asks hs) (fun _ _ => trivial) fun _ _ => ?_
        exact behaves_ask_bind (.attempt s asks) (fun _ _ => trivial) fun _ _ => trivial
    | newChargeback =>
      simp only [apply, createChargeback]
      cases hr : i.reference with
      | none => trivial
      | some reference =>
        dsimp only
        cases hk : m.payment.transactionByKey? (chargebackKey m.payment.id reference) with
        | some known => trivial
        | none =>
          exact behaves_ask_bind (.created _ asks rfl reference hr hk) (fun _ _ => trivial) fun _ _ => trivial
    | existingChargeback =>
      simp only [apply, reverseChargeback]
      cases hp : reversed? i m.payment with
      | none => trivial
      | some chargeback =>
        dsimp only
        split
        · trivial
        · next hs => exact behaves_ask_bind (.reversed s asks chargeback hp hs) (fun _ _ => trivial) fun _ _ => trivial
  · obtain ⟨o, ho, -⟩ := settle_of_not_asks fun x asks => h ⟨x, asks⟩
    rw [ho]
    trivial

/-- The calls that an item may make after others. -/
inductive ItemCall (r : Registry) (i : Item) (trace : List Event) : Call → Prop where
  | read {k : Call} (h : k.reads = true) : ItemCall r i trace k
  | write {k : Call} (m : Match) (loaded : Loaded trace m) (h : Write i m (tenantFor r i m) k) : ItemCall r i trace k
  | audit (e : AuditEntry) : ItemCall r i trace (.recordAudit e)

theorem Write.not_audits {k : Call} (h : Write i m t k) : k.audits = false := by
  cases h <;> rfl

section Ends

variable {r : Registry}

theorem conclude_behaves (e : AuditEntry) (o : Outcome) (h : auditCalls trace = 0) :
    (conclude e o).Behaves (ItemCall r i) (fun _ trace => auditCalls trace = 1) trace := by
  refine ⟨.audit e, fun x => ?_⟩
  change auditCalls _ = 1
  rw [auditCalls, List.countP_append, ← auditCalls, h]
  rfl

theorem finish_behaves (e : AuditEntry) (m : Match) (x : Except Obstacle Outcome) (h : auditCalls trace = 0) :
    (finish e m x).Behaves (ItemCall r i) (fun _ trace => auditCalls trace = 1) trace := by
  match x with
  | .ok o => exact conclude_behaves _ _ h
  | .error (.refused f) => exact conclude_behaves _ _ h
  | .error (.unrecorded f) => exact conclude_behaves _ _ h

end Ends

/-- Whatever the answers are, an item reads, writes what follows from a match with the payment it was answered, and asks
for one audit entry. -/
theorem item_behaves (r : Registry) (i : Item) :
    (item r i).Behaves (ItemCall r i) (fun _ trace => auditCalls trace = 1) [] := by
  unfold item
  dsimp only
  split
  case isFalse => exact conclude_behaves _ _ rfl
  case isTrue =>
  rw [bind_eq, behaves_bind]
  refine (resolve_behaves i _).grown.mono (fun trace k h => .read h.1) ?_
  rintro x trace ⟨hloaded, hgrown⟩
  have none : auditCalls trace = 0 := auditCalls_of_grown hgrown fun k => Call.not_audits_of_reads
  match x with
  | .error f => exact conclude_behaves _ _ none
  | .ok .none => exact conclude_behaves _ _ none
  | .ok (some m) =>
    dsimp only
    split
    case isFalse => exact conclude_behaves _ _ none
    case isTrue =>
    rw [bind_eq, behaves_bind, ← tenantFor]
    have loaded : Loaded trace m := hloaded m rfl
    refine (settle_behaves i m _).grown.mono (fun trace k h => .write m (loaded.grown h.2) h.1) ?_
    rintro x trace ⟨-, hgrown⟩
    exact finish_behaves _ _ _ ((auditCalls_of_grown hgrown fun k => Write.not_audits).trans none)

end Delivery
end Notification
end Reconciliation
