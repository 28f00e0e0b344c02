import Reconciliation.Proofs.Deliveries
import Reconciliation.Proofs.Exits

/-!
# What outcomes tell

The outcome of an item tells exactly what happened to it, whatever calls failed on the way: what is applied is logged by
the platform and the other way around, and other outcomes leave the platform or the attempts as they were.

* `Touched` says that one transaction was changed or added and no other.
* `AttemptMoved` says that one attempt was moved, that of the match.
* `Reported` lists what each outcome tells; `Exit.reported` goes through the exits.
* `outcome_tells_effect` is the statement about a run.
-/

namespace Reconciliation.Notification

/-- Outcomes of items with which nothing happens. -/
def Outcome.isIdle : Outcome → Bool
  | .informational | .ignored _ | .unmatched | .rejected => true
  | _ => false

namespace Delivery

open Procedure Platform Matching

variable {r : Registry} {conditions : Conditions} {w v : World} {i : Item} {m : Match} {o : Outcome} {s : Status}
  {lost : Bool}

/-- Only the transaction with this identifier was changed or added, and it has this status now. -/
inductive Touched (t : Ident) (s : Status) (payments payments' : List Payment) : Prop where
  | changed (x : Payment) (u u' : Transaction) (change : Replaced x u u' payments payments') (before : u.id = t)
      (after : u'.id = t) (status : u'.status = s)
  | added (x : Payment) (u : Transaction) (change : Appended x u payments payments') (id : u.id = t)
      (status : u.status = s)

/-- One attempt was moved to the status that the outcome names, which has the key of the attempt that was matched. -/
def AttemptMoved (r : Registry) (conditions : Conditions) (w : World) (i : Item) (o : Outcome)
    (attempts' : List Attempt) : Prop :=
  ∃ m s before a after, MatchedTo r conditions w i m ∧
    (o = .applied m.transaction.id s ∨ o = .alreadyApplied m.transaction.id s) ∧
    w.journal.attempts = before ++ a :: after ∧ attempts' = before ++ Journal.moved (reference i) s a :: after ∧
    Journal.Key.of a = .of m.attempt

theorem attemptMoved (h : MatchedTo r conditions w i m)
    (ho : o = .applied m.transaction.id s ∨ o = .alreadyApplied m.transaction.id s) :
    AttemptMoved r conditions w i o (movedAttempts i m s w) := by
  obtain ⟨a, ha⟩ := exists_find? (p := (Journal.Key.of · == .of m.attempt)) (found_of_matchedTo h).recorded (by simp)
  obtain ⟨before, after, hl, hc, -⟩ := changeFirst_split (Journal.moved (reference i) s) ha
  exact ⟨m, s, before, a, after, h, ho, hl, hc, by simpa using List.find?_some ha⟩

/-- What the outcome of an item tells of the world that it leaves; `lost` says that its attempt could not be moved. -/
structure Reported (r : Registry) (conditions : Conditions) (w : World) (i : Item) (o : Outcome) (lost : Bool)
    (v : World) : Prop where
  /-- What is applied is the one change that the platform logs, unless the attempt could not be moved. -/
  applied (t : Ident) (s : Status) : o = .applied t s ↔
    v.platform.transitions = w.platform.transitions ++ [(t, s)] ∧
      Touched t s w.platform.payments v.platform.payments ∧ lost = false
  /-- What is applied already leaves the platform as it was, and the transaction has the status. -/
  alreadyApplied (t : Ident) (s : Status) : o = .alreadyApplied t s →
    v.platform = w.platform ∧ ∃ m u, MatchedTo r conditions w i m ∧
      w.platform.payments.find? (·.id == m.payment.id) = some m.payment ∧ m.payment.transaction? t = some u ∧
      u.status = s
  /-- A failure leaves the attempts as they were and changes no transaction but the matched one. -/
  failed (reason : String) : o = .failed reason →
    v.journal.attempts = w.journal.attempts ∧ (v.platform = w.platform ∨ ∃ m u, MatchedTo r conditions w i m ∧
      Replaced m.payment m.transaction u w.platform.payments v.platform.payments ∧ u.id = m.transaction.id)
  idle : o.isIdle = true → v.journal.attempts = w.journal.attempts ∧ v.platform = w.platform
  attempts : v.journal.attempts = w.journal.attempts ∨ AttemptMoved r conditions w i o v.journal.attempts
  methods : v.platform.methods = w.platform.methods
  /-- An item that was read is not reported as malformed. -/
  read : o ≠ .malformed

theorem attempts_eq_of_not_named (h : v.journal.attempts = w.journal.attempts ∨
    AttemptMoved r conditions w i o v.journal.attempts) (ho : o.transaction? = none) :
    v.journal.attempts = w.journal.attempts := by
  rcases h with h | ⟨m, s, -, -, -, -, rfl | rfl, -⟩
  · exact h
  · cases ho
  · cases ho

namespace Reported

/-- An end that leaves the platform as it was. -/
theorem of_same (platform : v.platform = w.platform) (applied : ∀ t s, o ≠ .applied t s) (read : o ≠ .malformed)
    (alreadyApplied : ∀ t s, o = .alreadyApplied t s → ∃ m u, MatchedTo r conditions w i m ∧
      m.payment.transaction? t = some u ∧ u.status = s)
    (attempts : v.journal.attempts = w.journal.attempts ∨ AttemptMoved r conditions w i o v.journal.attempts) :
    Reported r conditions w i o lost v where
  applied t s := by
    refine ⟨fun h => absurd h (applied t s), fun ⟨h, _⟩ => ?_⟩
    rw [platform] at h
    simp at h
  alreadyApplied t s h := by
    obtain ⟨m, u, hm, hu, hs⟩ := alreadyApplied t s h
    exact ⟨platform, m, u, hm, (found_of_matchedTo hm).payment_found, hu, hs⟩
  failed reason h := ⟨attempts_eq_of_not_named attempts (by rw [h]; rfl), .inl platform⟩
  idle h := ⟨attempts_eq_of_not_named attempts (by cases o <;> first | rfl | cases h), platform⟩
  attempts := attempts
  methods := by rw [platform]
  read := read

/-- An end at which the platform logs a change. -/
theorem of_applied {t : Ident} (transitions : v.platform.transitions = w.platform.transitions ++ [(t, s)])
    (touched : Touched t s w.platform.payments v.platform.payments)
    (attempts : v.journal.attempts = w.journal.attempts ∨
      AttemptMoved r conditions w i (.applied t s) v.journal.attempts)
    (methods : v.platform.methods = w.platform.methods) :
    Reported r conditions w i (.applied t s) false v where
  applied t' s' := by
    rw [transitions]
    constructor
    · rintro ⟨⟩
      exact ⟨rfl, touched, rfl⟩
    · rintro ⟨h, -, -⟩
      obtain ⟨rfl, rfl⟩ : t = t' ∧ s = s' := by simpa using h
      rfl
  alreadyApplied _ _ h := by cases h
  failed _ h := by cases h
  idle h := by cases h
  attempts := attempts
  methods := methods
  read h := by cases h

/-- An end at which the attempt could not be moved, though its transaction may have been. -/
theorem of_halfway {reason : String} (h : MatchedTo r conditions w i m)
    (halfway : Halfway conditions i m (tenantFor r i m) w v) :
    Reported r conditions w i (.failed reason) true v := by
  cases halfway with
  | untouched => exact of_same rfl (by simp) (by simp) (by simp) (.inl rfl)
  | moved asks status stopped =>
    obtain ⟨p', hu, hr, hmethods, -⟩ := moved_writes (found_of_matchedTo h) status
    rw [hu]
    exact ⟨by simp, by simp, fun _ _ => ⟨rfl, .inr ⟨m, _, h, hr, rfl⟩⟩, by simp [Outcome.isIdle], .inl rfl, hmethods,
      by simp⟩

/-- The audit has no part in it. -/
theorem of_stores {v' : World} (h : Reported r conditions w i o lost v)
    (attempts : v'.journal.attempts = v.journal.attempts) (platform : v'.platform = v.platform) :
    Reported r conditions w i o lost v' := by
  obtain ⟨h₁, h₂, h₃, h₄, h₅, h₆, h₇⟩ := h
  rw [← attempts, ← platform] at *
  exact ⟨h₁, h₂, h₃, h₄, h₅, h₆, h₇⟩

end Reported

theorem Settlement.reported (distinct : w.platform.DistinctInPayments) (matched : MatchedTo r conditions w i m)
    (h : Settlement conditions i m (tenantFor r i m) w (.ok o) v) : Reported r conditions w i o false v := by
  have found := found_of_matchedTo matched
  cases h with
  | passed settled outcome =>
    rcases outcome with rfl | ⟨reason, rfl⟩
    · exact .of_same rfl (by simp) (by simp) (by simp) (.inl rfl)
    · exact .of_same rfl (by simp) (by simp) (by simp) (.inl rfl)
  | standing settled recorded =>
    refine .of_same rfl (by simp) (by simp) ?_ (.inl rfl)
    rintro _ _ ⟨⟩
    exact ⟨m, _, matched, transaction?_of_mem (distinct _ found.payment_mem) recorded, rfl⟩
  | kept asks status =>
    refine .of_same rfl (by simp) (by simp) ?_ (.inr (attemptMoved matched (.inr rfl)))
    rintro _ _ ⟨⟩
    exact ⟨m, _, matched, found.transaction_found, status⟩
  | moved asks status =>
    obtain ⟨p', hu, hr, hmethods, hlog⟩ := moved_writes found status
    rw [hu]
    exact .of_applied hlog (.changed _ _ _ hr rfl rfl rfl) (.inr (attemptMoved matched (.inl rfl))) hmethods
  | created asks target carried fresh =>
    obtain ⟨p', hc, ha, hmethods, hlog⟩ := created_writes found fresh
    rw [hc]
    exact .of_applied hlog (.added _ _ ha rfl rfl) (.inl rfl) hmethods
  | reversed asks picked status =>
    obtain ⟨p', hu, hr, hmethods, hlog⟩ := reversed_writes found distinct (mem_of_reversed? picked).1 status
    rw [hu]
    exact .of_applied hlog (.changed _ _ _ hr rfl rfl rfl) (.inl rfl) hmethods

theorem Exit.reported (distinct : w.platform.DistinctInPayments) {e : AuditEntry}
    (h : Exit r conditions w i o e lost v) : Reported r conditions w i o lost v := by
  cases h with
  | settled matched accepted settlement => exact settlement.reported distinct matched
  | unrecorded matched accepted halfway => exact .of_halfway matched halfway
  | forged | unread | unmatched | disowned | refused => exact .of_same rfl (by simp) (by simp) (by simp) (.inl rfl)

/-- Whatever calls fail, an item that no call aborts has an outcome that tells exactly what happened. -/
theorem outcome_tells_effect (r : Registry) (w : World) (distinct : w.platform.DistinctInPayments) (i : Item)
    (conditions : Conditions) :
    let run := (item r i).run conditions w
    (∃ k, run.ending = .aborted k ∧ conditions.aborts k = true) ∨
      ∃ o, run.ending = .finished o ∧ Reported r conditions w i o (updateLost run.trace) run.world := by
  have ends := item_exit r conditions w i
  dsimp only
  cases he : ((item r i).run conditions w).ending with
  | aborted k => exact .inl ⟨k, rfl, aborts_of_aborted he⟩
  | finished o =>
    rw [he] at ends
    obtain ⟨e, v, exit, hv⟩ := ends
    obtain ⟨attempts, platform⟩ := World.answer_of_not_writes (c := .recordAudit e) rfl conditions v
    exact .inr ⟨o, rfl, (exit.reported distinct).of_stores (by rw [hv, attempts]) (by rw [hv, platform])⟩

/-- Conditions under which attempts can not be moved. -/
def unrecording : Conditions := { Conditions.fair with failing := [.updateAttempt] }

/-- Where its attempt can not be moved, an authorization fails, though the platform has moved it. -/
theorem outcome_tells_effect_of_authorization :
    specimen.platform.DistinctInPayments ∧
      let run := (item .empty (specimenItem .authorisation true none none)).run unrecording specimen
      run.world.platform.transitions = [(.given 4, .success)] ∧
        run.world.journal.attempts = specimen.journal.attempts ∧ ∃ reason, run.ending = .finished (.failed reason) := by
  have distinct : specimen.platform.DistinctInPayments := distinctInPayments_of_nodup (by decide)
  have moved : ((item .empty (specimenItem .authorisation true none none)).run unrecording
      specimen).world.platform.transitions = [(.given 4, .success)] := by decide +kernel
  have lost : updateLost ((item .empty (specimenItem .authorisation true none none)).run unrecording specimen).trace =
      true := by decide +kernel
  obtain ⟨k, -, hk⟩ | ⟨o, ho, reported⟩ :=
    outcome_tells_effect .empty specimen distinct (specimenItem .authorisation true none none) unrecording
  · exact absurd (hk.symm.trans (Conditions.fair_aborts k)) (by simp)
  have unlike (h : ((item .empty (specimenItem .authorisation true none none)).run unrecording
      specimen).world.platform = specimen.platform) : False := by
    rw [h] at moved
    cases moved
  refine ⟨distinct, moved, ?_⟩
  cases o with
  | applied t s => exact absurd (((reported.applied t s).1 rfl).2.2.symm.trans lost) (by simp)
  | alreadyApplied t s => exact (unlike (reported.alreadyApplied t s rfl).1).elim
  | failed reason => exact ⟨(reported.failed reason rfl).1, reason, ho⟩
  | malformed => exact (reported.read rfl).elim
  | informational | ignored | unmatched | rejected => exact (unlike (reported.idle rfl).2).elim

end Delivery
end Reconciliation.Notification
