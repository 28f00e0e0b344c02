import Reconciliation.Notification.Delivery
import Reconciliation.Proofs.Matching
import Reconciliation.Proofs.Stores

/-!
# What an item can do

An item goes through many stages, but there are only four ways in which it can change the stores, each with one write
to the platform at most. That there are no others is shown where the ends of an item are listed.

* `Resolution.ofEvent_eq_transition` and the lemmas after it say what transitions there are.
* `Effect` lists the ways to change the stores, `Quiet` is the lack of any, and `Accepted` is what the item has gone
  through before.
* `moved_writes`, `reversed_writes` and `created_writes` say what the platform is like after each.
-/

namespace Reconciliation.Notification

/-! ### Transitions -/

namespace Resolution

variable {operation : Operation} {current : Status} {event : EventCode} {success failing : Bool} {x : Transition}

theorem ofTransition_eq_transition {applicable : List Operation} {y : Transition} :
    ofTransition operation current applicable y = .transition x ↔
      y = x ∧ operation ∈ applicable ∧ ¬ (x = ⟨.matched, .success⟩ ∧ current = .paymentFailure) := by
  unfold ofTransition
  split
  · next h => simp [h]
  · next h =>
    split
    · next hs => simp only [reduceCtorEq, false_iff]; rintro ⟨rfl, -, hn⟩; exact hn hs
    · next hs =>
      simp only [transition.injEq]
      constructor
      · rintro rfl
        exact ⟨rfl, not_not.1 h, hs⟩
      · exact And.left

/-- The current status matters only for a success after a failure. -/
theorem ofEvent_eq_transition (current : Status) :
    ofEvent operation current event success failing = .transition x ↔
      ofEvent operation .pending event success failing = .transition x ∧
        ¬ (x = ⟨.matched, .success⟩ ∧ current = .paymentFailure) := by
  cases event <;> cases failing <;> simp [ofEvent, ofTransition_eq_transition, and_assoc]

/-- Every transition leads to a success or to a failure. -/
theorem status_of_transition (h : ofEvent operation current event success failing = .transition x) :
    x.status = .success ∨ x.status = .paymentFailure := by
  cases event <;> cases failing <;> cases success <;>
    simp [ofEvent, ofTransition_eq_transition, outcome] at h <;> simp [← h.1]

/-- A matched transaction is never a chargeback. -/
theorem not_transition_of_chargeback : ofEvent .chargeback current event success failing ≠ .transition x := by
  cases event <;> cases failing <;> simp [ofEvent, ofTransition_eq_transition]

/-- Chargebacks are created by chargeback events only, on payments and not on later operations. -/
theorem ofEvent_eq_newChargeback {s : Status} :
    ofEvent operation current event success failing = .transition ⟨.newChargeback, s⟩ ↔
      event = .chargeback ∧ failing = false ∧ s = .success ∧ (operation = .authorize ∨ operation = .purchase) := by
  cases event <;> cases failing <;> simp [ofEvent, ofTransition_eq_transition]
  exact fun _ => eq_comm

/-- Recorded chargebacks are touched by reversals only, which fail them. -/
theorem ofEvent_eq_existingChargeback {s : Status} :
    ofEvent operation current event success failing = .transition ⟨.existingChargeback, s⟩ ↔
      event = .chargebackReversed ∧ failing = false ∧ s = .paymentFailure ∧
        (operation = .authorize ∨ operation = .purchase) := by
  cases event <;> cases failing <;> simp [ofEvent, ofTransition_eq_transition]
  exact fun _ => eq_comm

theorem of_existingChargeback (h : ofEvent operation current event success failing = .transition x)
    (hx : x.target = .existingChargeback) : event = .chargebackReversed ∧ x.status = .paymentFailure := by
  obtain ⟨target, s⟩ := x
  cases hx
  obtain ⟨hevent, -, hs, -⟩ := ofEvent_eq_existingChargeback.1 h
  exact ⟨hevent, hs⟩

end Resolution

namespace Delivery

open Procedure Platform Matching

/-- The event asks for a transition. -/
def Asks (i : Item) (m : Match) (t : Tenant) (x : Transition) : Prop :=
  Resolution.ofEvent m.transaction.operation m.transaction.status i.eventCode i.success
    (Resolution.failing t m.family) = .transition x

theorem settle_of_asks {i : Item} {m : Match} {t : Tenant} {x : Transition} (h : Asks i m t x) :
    settle i m t = apply i m t x := by
  unfold settle
  rw [h]

/-- A resolution that asks for no transition is told of, and nothing is done. -/
theorem settle_of_not_asks {i : Item} {m : Match} {t : Tenant} (h : ∀ x, ¬ Asks i m t x) :
    ∃ o, settle i m t = pure o ∧ (o = .informational ∨ ∃ reason, o = .ignored reason) := by
  unfold settle
  cases hr : Resolution.ofEvent m.transaction.operation m.transaction.status i.eventCode i.success
      (Resolution.failing t m.family) with
  | transition x => exact absurd hr (h x)
  | informational => exact ⟨_, rfl, .inl rfl⟩
  | unrecognized => exact ⟨_, rfl, .inr ⟨_, rfl⟩⟩
  | superseded current => exact ⟨_, rfl, .inr ⟨_, rfl⟩⟩
  | inapplicable operation => exact ⟨_, rfl, .inr ⟨_, rfl⟩⟩

/-! ### The list of effects -/

/-- Nothing was changed but the audit, and nothing is said to be applied. -/
structure Quiet (w : World) (o : Option Outcome) (w' : World) : Prop where
  platform : w'.platform = w.platform
  attempts : w'.journal.attempts = w.journal.attempts
  outcome : ∀ t s, o ≠ some (.applied t s)

/-- The attempts after the attempt of a match was moved. -/
def movedAttempts (i : Item) (m : Match) (s : Status) (w : World) : List Attempt :=
  changeFirst (Journal.Key.of · == .of m.attempt) (Journal.moved (reference i) s) w.journal.attempts

/-- The request to move the matched transaction. -/
def matchedChange (i : Item) (m : Match) (s : Status) : StatusChange :=
  ⟨m.payment.id, m.transaction.id, s, reference i, i.unsignedData⟩

/-- The request to fail a recorded chargeback. -/
def reversal (i : Item) (m : Match) (chargeback : Transaction) (s : Status) : StatusChange :=
  ⟨m.payment.id, chargeback.id, s, chargeback.gatewayReference, i.unsignedData⟩

/-- The request to record a chargeback. -/
def newChargeback (i : Item) (m : Match) (reference : String) : NewChargeback :=
  ⟨chargebackKey m.payment.id reference, i.decimal?, i.currency?, some reference, i.unsignedData⟩

/-- The ways in which a match can lead to changes. -/
inductive Effect (i : Item) (m : Match) (t : Tenant) (w : World) : Option Outcome → World → Prop where
  /-- The transaction had the status before, and only its attempt is moved. -/
  | kept {o : Option Outcome} {w' : World} (s : Status) (asks : Asks i m t ⟨.matched, s⟩)
      (status : m.transaction.status = s)
      (platform : w'.platform = w.platform) (attempts : w'.journal.attempts = movedAttempts i m s w)
      (outcome : ∀ u v, o ≠ some (.applied u v)) : Effect i m t w o w'
  /-- The transaction is moved, and its attempt if nothing fails. -/
  | moved {o : Option Outcome} {w' : World} (s : Status) (asks : Asks i m t ⟨.matched, s⟩)
      (status : m.transaction.status ≠ s)
      (platform : w'.platform = (w.platform.updateTransaction (matchedChange i m s)).2)
      (attempts : w'.journal.attempts = w.journal.attempts ∨ w'.journal.attempts = movedAttempts i m s w)
      (outcome : ∀ u v, o = some (.applied u v) → u = m.transaction.id ∧ v = s) : Effect i m t w o w'
  /-- A chargeback is created. -/
  | created {o : Option Outcome} {w' : World} (x : Transition) (asks : Asks i m t x)
      (target : x.target = .newChargeback) (reference : String) (carried : i.reference = some reference)
      (fresh : m.payment.transactionByKey? (chargebackKey m.payment.id reference) = none)
      (platform : w'.platform = (w.platform.createChargeback m.payment.id (newChargeback i m reference)).2)
      (attempts : w'.journal.attempts = w.journal.attempts)
      (outcome : ∀ u v, o = some (.applied u v) →
        u = (w.platform.chargebackTransaction (newChargeback i m reference)).id ∧ v = .success) :
      Effect i m t w o w'
  /-- A recorded chargeback is failed. -/
  | reversed {o : Option Outcome} {w' : World} (s : Status) (asks : Asks i m t ⟨.existingChargeback, s⟩)
      (chargeback : Transaction) (picked : reversed? i m.payment = some chargeback) (status : chargeback.status ≠ s)
      (platform : w'.platform = (w.platform.updateTransaction (reversal i m chargeback s)).2)
      (attempts : w'.journal.attempts = w.journal.attempts)
      (outcome : ∀ u v, o = some (.applied u v) → u = chargeback.id ∧ v = s) : Effect i m t w o w'

/-- The tenant whose configuration applies to a match. -/
def tenantFor (r : Registry) (i : Item) (m : Match) : Tenant := tenantOf r (r.forAccount? i.merchantAccount) m.attempt

/-- What an item has gone through before it is settled: both checks of its signature, and matching. -/
structure Accepted (r : Registry) (w : World) (i : Item) (m : Match) : Prop extends
    Found w i ((r.forAccount? i.merchantAccount).map (·.id)) m where
  owner : (r.forAccount? i.merchantAccount).all (verified i) = true
  tenant : verified i (tenantFor r i m) = true

/-! ### What the effects write -/

/-- The attempt that is moved is the matched one. -/
theorem movedAttempts_split {tenant : Option Ident} {w : World} {i : Item} {m : Match}
    (found : Found w i tenant m) (distinct : w.journal.DistinctAttempts) (s : Status) :
    ∃ before after, w.journal.attempts = before ++ m.attempt :: after ∧
      movedAttempts i m s w = before ++ Journal.moved (reference i) s m.attempt :: after := by
  obtain ⟨before, after, hl, hm, -⟩ := changeFirst_split (Journal.moved (reference i) s)
    (Journal.find?_key_of_mem distinct found.recorded)
  exact ⟨before, after, hl, hm⟩

/-- The platform after the matched transaction was moved to another status. -/
theorem moved_writes {tenant : Option Ident} {w : World} {i : Item} {m : Match} {s : Status}
    (found : Found w i tenant m) (hs : m.transaction.status ≠ s) :
    ∃ p', w.platform.updateTransaction (matchedChange i m s) = (.ok (), p') ∧
      Replaced m.payment m.transaction (changed (matchedChange i m s) m.transaction) w.platform.payments p'.payments ∧
      p'.methods = w.platform.methods ∧ p'.transitions = w.platform.transitions ++ [(m.transaction.id, s)] := by
  obtain ⟨p', hu, hr, hm, hl⟩ := updateTransaction_found (c := matchedChange i m s)
    found.payment_found found.transaction_found
  exact ⟨p', hu, hr, hm, hl.trans (if_neg hs)⟩

/-- The platform after a chargeback was failed. -/
theorem reversed_writes {tenant : Option Ident} {w : World} {i : Item} {m : Match} {s : Status}
    {chargeback : Transaction} (found : Found w i tenant m) (distinct : w.platform.DistinctInPayments)
    (mem : chargeback ∈ m.payment.transactions) (hs : chargeback.status ≠ s) :
    ∃ p', w.platform.updateTransaction (reversal i m chargeback s) = (.ok (), p') ∧
      Replaced m.payment chargeback { chargeback with status := s } w.platform.payments p'.payments ∧
      p'.methods = w.platform.methods ∧ p'.transitions = w.platform.transitions ++ [(chargeback.id, s)] := by
  obtain ⟨p', hu, hr, hm, hl⟩ := updateTransaction_found (c := reversal i m chargeback s)
    found.payment_found (transaction?_of_mem (distinct _ found.payment_mem) mem)
  refine ⟨p', hu, ?_, hm, hl.trans (if_neg hs)⟩
  have : changed (reversal i m chargeback s) chargeback = { chargeback with status := s } := by
    simp [changed, reversal]
  rwa [this] at hr

/-- The platform after a chargeback was created. -/
theorem created_writes {tenant : Option Ident} {w : World} {i : Item} {m : Match} {reference : String}
    (found : Found w i tenant m)
    (fresh : m.payment.transactionByKey? (chargebackKey m.payment.id reference) = none) :
    ∃ p', w.platform.createChargeback m.payment.id (newChargeback i m reference) =
        (.ok (w.platform.chargebackTransaction (newChargeback i m reference)), p') ∧
      Appended m.payment (w.platform.chargebackTransaction (newChargeback i m reference)) w.platform.payments
        p'.payments ∧ p'.methods = w.platform.methods ∧
      p'.transitions = w.platform.transitions ++
        [((w.platform.chargebackTransaction (newChargeback i m reference)).id, .success)] :=
  createChargeback_new (c := newChargeback i m reference) found.payment_found fresh

/-! ### Steps on the way -/

variable {conditions : Conditions} {w : World} {i : Item} {m : Match} {t : Tenant}

theorem ask_run (obstacle : Failure → Obstacle) (k : Call) :
    (ask obstacle k).run = (Procedure.ask k).bind fun x => done (x.mapError obstacle) := by
  change call k _ = call k _
  congr 1
  funext x
  cases x <;> rfl

/-- The latest of some transactions. -/
theorem foldl_later (l : List Transaction) :
    l.foldl later none = lastMax (fun t u => t.created.notAfter u.created) l := by
  have : later = fun best t => pick (fun t u => t.created.notAfter u.created) best (some t) := by
    funext best t
    cases best <;> rfl
  rw [this, lastMax]

theorem created_preorder : TotalPreorder fun t u : Transaction => t.created.notAfter u.created :=
  ⟨fun _ _ _ => Time.Moment.notAfter_preorder.trans _ _ _, fun _ _ => Time.Moment.notAfter_preorder.total _ _⟩

/-- What a reversal is about is a chargeback of the payment. -/
theorem mem_of_reversed? {p : Payment} {x : Transaction} (h : reversed? i p = some x) :
    x ∈ p.transactions ∧ x.operation = .chargeback := by
  have hx : x ∈ p.chargebacks := by
    unfold reversed? at h
    dsimp only at h
    rcases Option.or_eq_some_iff.1 h with h | ⟨-, h⟩
    · obtain ⟨r, -, hr⟩ := Option.bind_eq_some_iff.1 h
      rw [foldl_later] at hr
      exact List.mem_of_mem_filter (mem_of_lastMax created_preorder hr)
    · split at h
      · next hc => cases h; simp [hc]
      · cases h
  simpa [Payment.chargebacks] using hx

theorem conclude_eq (e : AuditEntry) (o : Outcome) : conclude e o = call (.recordAudit e) fun _ => done o := rfl

/-- The end of an item adds to the audit, if anything, and takes the outcome over. -/
theorem conclude_exec (conditions : Conditions) (e : AuditEntry) (o : Outcome) (w : World) :
    ∃ o' w', (conclude e o).exec conditions w = (o', w') ∧ w'.platform = w.platform ∧
      w'.journal.attempts = w.journal.attempts ∧ (o' = none ∨ o' = some o) := by
  rw [conclude_eq, exec_call]
  by_cases ha : conditions.aborts (.recordAudit e) = true
  · exact ⟨none, w, by simp [ha], rfl, rfl, .inl rfl⟩
  · by_cases hf : conditions.fails (.recordAudit e) = true
    · exact ⟨some o, w, by simp [ha, World.answer, hf], rfl, rfl, .inr rfl⟩
    · exact ⟨some o, { w with journal := w.journal.note e }, by simp [ha, World.answer, hf, World.perform], rfl, rfl,
        .inr rfl⟩

theorem Quiet.conclude {o : Option Outcome} {v : World} (h : Quiet w o v) {o' : Option Outcome} {w' : World}
    (hp : w'.platform = v.platform) (ha : w'.journal.attempts = v.journal.attempts)
    (ho : ∀ u s, o' = some (.applied u s) → o = some (.applied u s)) : Quiet w o' w' :=
  ⟨hp.trans h.platform, ha.trans h.attempts, fun u s hu => h.outcome u s (ho u s hu)⟩

theorem Effect.conclude {o : Option Outcome} {v : World} (h : Effect i m t w o v) {o' : Option Outcome} {w' : World}
    (hp : w'.platform = v.platform) (ha : w'.journal.attempts = v.journal.attempts)
    (ho : ∀ u s, o' = some (.applied u s) → o = some (.applied u s)) : Effect i m t w o' w' := by
  cases h with
  | kept s asks status platform attempts outcome =>
    exact .kept s asks status (hp.trans platform) (ha.trans attempts) fun u v hu => outcome u v (ho u v hu)
  | moved s asks status platform attempts outcome =>
    exact .moved s asks status (hp.trans platform) (attempts.imp ha.trans ha.trans)
      fun u v hu => outcome u v (ho u v hu)
  | created x asks target reference carried fresh platform attempts outcome =>
    exact .created x asks target reference carried fresh (hp.trans platform) (ha.trans attempts)
      fun u v hu => outcome u v (ho u v hu)
  | reversed s asks chargeback picked status platform attempts outcome =>
    exact .reversed s asks chargeback picked status (hp.trans platform) (ha.trans attempts)
      fun u v hu => outcome u v (ho u v hu)

end Delivery
end Reconciliation.Notification
