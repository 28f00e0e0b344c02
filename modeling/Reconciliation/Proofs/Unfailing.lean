import Reconciliation.Proofs.Deliveries

/-!
# Deliveries where no call fails

Where no call fails, what becomes of an item depends on the attempts and the platform only, and can be computed.

* `accepted` is the match an item is settled with, or its outcome if there is none; `item_of_error` and `item_of_ok`
  say how the item goes on.
* `settle_kept`, `settle_moved` and so on compute the settlement in each case; `Course` lists what becomes of the item
  then, and `course` says that nothing else does.
* `each_fairly_cons` takes the first of several items.
-/

namespace Reconciliation

namespace World

/-- The world with one more audit entry. -/
def noted (w : World) (e : AuditEntry) : World := { w with journal := w.journal.note e }

/-- The world with other attempts. -/
def withAttempts (w : World) (attempts : List Attempt) : World := { w with journal.attempts := attempts }

@[simp] theorem noted_audit (w : World) (e : AuditEntry) : (w.noted e).journal.audit = w.journal.audit ++ [e] := rfl

end World

namespace Notification.Delivery

open Procedure Platform Matching

/-! ### The way of an item -/

/-- The match that an item is settled with, or the outcome of an item without one. -/
def accepted (r : Registry) (i : Item) (attempts : List Attempt) (p : Platform) : Except Outcome Match :=
  if (r.forAccount? i.merchantAccount).all (verified i) then
    match sight attempts p i ((r.forAccount? i.merchantAccount).map (·.id)) with
    | none => .error .unmatched
    | some m => if verified i (tenantFor r i m) then .ok m else .error .rejected
  else .error .rejected

variable {r : Registry} {i : Item} {w w' : World} {m : Match} {t : Tenant} {o : Outcome} {s : Status}

theorem accepted_eq_ok {attempts : List Attempt} {p : Platform} : accepted r i attempts p = .ok m ↔
    (r.forAccount? i.merchantAccount).all (verified i) = true ∧
      sight attempts p i ((r.forAccount? i.merchantAccount).map (·.id)) = some m ∧
      verified i (tenantFor r i m) = true := by
  unfold accepted
  split
  · next h =>
    cases sight attempts p i ((r.forAccount? i.merchantAccount).map (·.id)) with
    | none => simp
    | some m' =>
      simp only [h, true_and, Option.some.injEq]
      constructor
      · intro hm
        split at hm
        · next hv =>
          cases hm
          exact ⟨rfl, hv⟩
        · cases hm
      · rintro ⟨rfl, hv⟩
        rw [if_pos hv]
  · next h => simp [h]

/-- An item without a match names no transaction. -/
theorem transaction?_of_accepted_error {attempts : List Attempt} {p : Platform}
    (h : accepted r i attempts p = .error o) : o.transaction? = none := by
  unfold accepted at h
  split at h
  · split at h
    · cases h
      rfl
    · split at h
      · cases h
      · cases h
        rfl
  · cases h
    rfl

theorem item_of_error (h : accepted r i w.journal.attempts w.platform = .error o) :
    ∃ e, (item r i).fairly w = (o, w.noted e) := by
  unfold accepted at h
  unfold item
  dsimp only
  split at h
  · next hv =>
    rw [if_pos hv, bind_eq, fairly_bind, resolve_fairly]
    split at h
    · next hm =>
      cases h
      rw [hm]
      exact ⟨_, rfl⟩
    · next m hm =>
      split at h
      · cases h
      · next ht =>
        cases h
        rw [tenantFor] at ht
        rw [hm]
        dsimp only
        rw [if_neg ht]
        exact ⟨_, rfl⟩
  · next hv =>
    cases h
    rw [if_neg hv]
    exact ⟨_, rfl⟩

theorem item_of_ok (h : accepted r i w.journal.attempts w.platform = .ok m)
    (hs : (settle i m (tenantFor r i m)).run.fairly w = (.ok o, w')) :
    ∃ e, (item r i).fairly w = (o, w'.noted e) := by
  obtain ⟨hv, hm, ht⟩ := accepted_eq_ok.1 h
  rw [tenantFor] at hs ht
  unfold item
  dsimp only
  rw [if_pos hv, bind_eq, fairly_bind, resolve_fairly, hm]
  dsimp only
  rw [if_pos ht, bind_eq, fairly_bind, hs]
  exact ⟨_, rfl⟩

/-! ### Settlements -/

theorem ask_fairly {obstacle : Failure → Obstacle} {k : Call} {a : k.Answer} {f : k.Answer → Applying Outcome}
    (h : w.perform Conditions.fair.gateway k = (.ok a, w')) :
    (ask obstacle k >>= f).run.fairly w = (f a).run.fairly w' := by
  rw [fairly_run_bind, ask_run, fairly_bind, fairly_ask, h]
  rfl

theorem perform_updateAttempt (w : World) (m : Match) (i : Item) (s : Status) :
    ∃ b, w.perform Conditions.fair.gateway (.updateAttempt (.of m.attempt) (reference i) s) =
      (.ok b, w.withAttempts (movedAttempts i m s w)) := by
  refine ⟨(w.journal.updateStatus (.of m.attempt) (reference i) s).1, ?_⟩
  have : (w.journal.updateStatus (.of m.attempt) (reference i) s).2 =
      { w.journal with attempts := movedAttempts i m s w } := by
    have ha := Journal.updateStatus_attempts w.journal (.of m.attempt) (reference i) s
    have hn := Journal.updateStatus_audit w.journal (.of m.attempt) (reference i) s
    cases hj : (w.journal.updateStatus (.of m.attempt) (reference i) s).2 with
    | mk attempts audit => simp_all [movedAttempts]
  simp only [World.perform, this, World.withAttempts]

/-- What an accepted item does to the platform is done in settling it. -/
theorem platform_of_ok (h : accepted r i w.journal.attempts w.platform = .ok m)
    (hs : (settle i m (tenantFor r i m)).run.fairly w = (.ok o, w')) :
    ((item r i).fairly w).2.platform = w'.platform := by
  obtain ⟨e, he⟩ := item_of_ok h hs
  rw [he]
  rfl

theorem settle_fairly_of_eq_pure (h : settle i m t = pure o) (w : World) :
    (settle i m t).run.fairly w = (.ok o, w) := by
  rw [h]
  rfl

theorem settle_kept (asks : Asks i m t ⟨.matched, s⟩) (status : m.transaction.status = s) (w : World) :
    (settle i m t).run.fairly w =
      (.ok (.alreadyApplied m.transaction.id s), w.withAttempts (movedAttempts i m s w)) := by
  obtain ⟨b, hb⟩ := perform_updateAttempt w m i s
  rw [settle_of_asks asks]
  simp only [apply, applyToMatched, status, not_true_eq_false, if_false, if_true]
  exact ask_fairly hb

theorem settle_moved {tenant : Option Ident} (found : Found w i tenant m) (asks : Asks i m t ⟨.matched, s⟩)
    (status : m.transaction.status ≠ s) :
    (settle i m t).run.fairly w = (.ok (.applied m.transaction.id s),
      { w.withAttempts (movedAttempts i m s w) with
        platform := (w.platform.updateTransaction (matchedChange i m s)).2 }) := by
  obtain ⟨p', hu, -⟩ := moved_writes found status
  obtain ⟨b, hb⟩ := perform_updateAttempt { w with platform := p' } m i s
  rw [settle_of_asks asks, hu]
  simp only [apply, applyToMatched, status, not_false_eq_true, if_true, if_false]
  exact (ask_fairly (World.perform_updateTransaction _ _ hu)).trans (ask_fairly hb)

/-- A chargeback can not be created without a reference. -/
theorem settle_uncarried {x : Transition} (asks : Asks i m t x) (target : x.target = .newChargeback)
    (carried : i.reference = none) :
    settle i m t = pure (.ignored "chargeback without gateway reference") := by
  rw [settle_of_asks asks]
  simp only [apply, target, createChargeback, carried]

/-- A chargeback that is there is not created again. -/
theorem settle_known {x : Transition} (asks : Asks i m t x) (target : x.target = .newChargeback) {reference : String}
    (carried : i.reference = some reference) {known : Transaction}
    (hk : m.payment.transactionByKey? (chargebackKey m.payment.id reference) = some known) :
    settle i m t = pure (.alreadyApplied known.id known.status) := by
  rw [settle_of_asks asks]
  simp only [apply, target, createChargeback, carried, hk]

theorem settle_created {tenant : Option Ident} (found : Found w i tenant m) {x : Transition} (asks : Asks i m t x)
    (target : x.target = .newChargeback) {reference : String} (carried : i.reference = some reference)
    (hk : m.payment.transactionByKey? (chargebackKey m.payment.id reference) = none) :
    (settle i m t).run.fairly w =
      (.ok (.applied (w.platform.chargebackTransaction (newChargeback i m reference)).id .success),
        { w with platform := (w.platform.createChargeback m.payment.id (newChargeback i m reference)).2 }) := by
  obtain ⟨p', hc, -⟩ := created_writes found hk
  rw [settle_of_asks asks, hc]
  simp only [apply, target, createChargeback, carried, hk]
  exact ask_fairly (World.perform_createChargeback _ _ hc)

/-- A reversal that is about no chargeback. -/
theorem settle_unpicked (asks : Asks i m t ⟨.existingChargeback, s⟩) (picked : reversed? i m.payment = none) :
    ∃ reason, settle i m t = pure (.ignored reason) := by
  rw [settle_of_asks asks]
  simp only [apply, reverseChargeback, picked]
  exact ⟨_, rfl⟩

/-- A chargeback that was reversed before. -/
theorem settle_failed (asks : Asks i m t ⟨.existingChargeback, s⟩) {chargeback : Transaction}
    (picked : reversed? i m.payment = some chargeback) (status : chargeback.status = s) :
    settle i m t = pure (.alreadyApplied chargeback.id s) := by
  rw [settle_of_asks asks]
  simp only [apply, reverseChargeback, picked, status, if_true]

theorem settle_reversed {tenant : Option Ident} (found : Found w i tenant m)
    (asks : Asks i m t ⟨.existingChargeback, s⟩) {chargeback : Transaction}
    (picked : reversed? i m.payment = some chargeback) (status : chargeback.status ≠ s) :
    (settle i m t).run.fairly w = (.ok (.applied chargeback.id s),
      { w with platform := (w.platform.updateTransaction (reversal i m chargeback s)).2 }) := by
  obtain ⟨y, hy⟩ : ∃ y, m.payment.transaction? chargeback.id = some y :=
    exists_find? (mem_of_reversed? picked).1 (by simp)
  obtain ⟨p', hu, -⟩ := updateTransaction_found (c := reversal i m chargeback s) found.payment_found hy
  rw [settle_of_asks asks, hu]
  simp only [apply, reverseChargeback, picked, status, if_false]
  exact ask_fairly (World.perform_updateTransaction _ _ hu)

/-! ### Courses -/

/-- What becomes of an item where no call fails, and what it makes of the world but for the audit. -/
inductive Course (r : Registry) (i : Item) (w : World) : Outcome → World → Prop where
  /-- The item is not accepted. -/
  | stopped {o : Outcome} (h : accepted r i w.journal.attempts w.platform = .error o) : Course r i w o w
  /-- Settling the match takes no write. -/
  | idle {m : Match} {o : Outcome} (h : accepted r i w.journal.attempts w.platform = .ok m)
      (settled : settle i m (tenantFor r i m) = pure o) (outcome : ∀ u v, o ≠ .applied u v) : Course r i w o w
  | kept {m : Match} {s : Status} (h : accepted r i w.journal.attempts w.platform = .ok m)
      (asks : Asks i m (tenantFor r i m) ⟨.matched, s⟩) (status : m.transaction.status = s) :
      Course r i w (.alreadyApplied m.transaction.id s) (w.withAttempts (movedAttempts i m s w))
  | moved {m : Match} {s : Status} (h : accepted r i w.journal.attempts w.platform = .ok m)
      (asks : Asks i m (tenantFor r i m) ⟨.matched, s⟩) (status : m.transaction.status ≠ s) :
      Course r i w (.applied m.transaction.id s)
        { w.withAttempts (movedAttempts i m s w) with
          platform := (w.platform.updateTransaction (matchedChange i m s)).2 }
  | created {m : Match} {x : Transition} {reference : String}
      (h : accepted r i w.journal.attempts w.platform = .ok m) (asks : Asks i m (tenantFor r i m) x)
      (target : x.target = .newChargeback) (carried : i.reference = some reference)
      (fresh : m.payment.transactionByKey? (chargebackKey m.payment.id reference) = none) :
      Course r i w (.applied (w.platform.chargebackTransaction (newChargeback i m reference)).id .success)
        { w with platform := (w.platform.createChargeback m.payment.id (newChargeback i m reference)).2 }
  | reversed {m : Match} {s : Status} {chargeback : Transaction}
      (h : accepted r i w.journal.attempts w.platform = .ok m)
      (asks : Asks i m (tenantFor r i m) ⟨.existingChargeback, s⟩) (picked : reversed? i m.payment = some chargeback)
      (status : chargeback.status ≠ s) :
      Course r i w (.applied chargeback.id s)
        { w with platform := (w.platform.updateTransaction (reversal i m chargeback s)).2 }

theorem Course.audit {o : Outcome} {v : World} (h : Course r i w o v) : v.journal.audit = w.journal.audit := by
  cases h <;> rfl

/-- Every item takes one of these courses, and adds one entry to the audit. -/
theorem course (r : Registry) (i : Item) (w : World) :
    ∃ o v e, Course r i w o v ∧ (item r i).fairly w = (o, v.noted e) := by
  cases h : accepted r i w.journal.attempts w.platform with
  | error o =>
    obtain ⟨e, he⟩ := item_of_error h
    exact ⟨o, w, e, .stopped h, he⟩
  | ok m =>
    obtain ⟨-, hm, -⟩ := accepted_eq_ok.1 h
    have found := found_of_sight hm
    have idle {o : Outcome} (settled : settle i m (tenantFor r i m) = pure o) (outcome : ∀ u v, o ≠ .applied u v) :
        ∃ o v e, Course r i w o v ∧ (item r i).fairly w = (o, v.noted e) := by
      obtain ⟨e, he⟩ := item_of_ok h (settle_fairly_of_eq_pure settled w)
      exact ⟨o, w, e, .idle h settled outcome, he⟩
    by_cases hx : ∃ x, Asks i m (tenantFor r i m) x
    case neg =>
      obtain ⟨o, settled, ho⟩ := settle_of_not_asks fun x asks => hx ⟨x, asks⟩
      exact idle settled (by rcases ho with rfl | ⟨reason, rfl⟩ <;> simp)
    obtain ⟨⟨target, s⟩, asks⟩ := hx
    cases target with
    | matched =>
      by_cases hs : m.transaction.status = s
      · obtain ⟨e, he⟩ := item_of_ok h (settle_kept asks hs w)
        exact ⟨_, _, e, .kept h asks hs, he⟩
      · obtain ⟨e, he⟩ := item_of_ok h (settle_moved found asks hs)
        exact ⟨_, _, e, .moved h asks hs, he⟩
    | newChargeback =>
      cases hr : i.reference with
      | none => exact idle (settle_uncarried asks rfl hr) (by simp)
      | some reference =>
        cases hk : m.payment.transactionByKey? (chargebackKey m.payment.id reference) with
        | some known => exact idle (settle_known asks rfl hr hk) (by simp)
        | none =>
          obtain ⟨e, he⟩ := item_of_ok h (settle_created found asks rfl hr hk)
          exact ⟨_, _, e, .created h asks rfl hr hk, he⟩
    | existingChargeback =>
      cases hp : reversed? i m.payment with
      | none =>
        obtain ⟨reason, settled⟩ := settle_unpicked asks hp
        exact idle settled (by simp)
      | some chargeback =>
        by_cases hs : chargeback.status = s
        · exact idle (settle_failed asks hp hs) (by simp)
        · obtain ⟨e, he⟩ := item_of_ok h (settle_reversed found asks hp hs)
          exact ⟨_, _, e, .reversed h asks hp hs, he⟩

/-! ### Several items -/

theorem each_fairly_cons {α β : Type} (f : α → Procedure β) (a : α) (rest : List α) (w : World) :
    (each f (a :: rest)).fairly w =
      (((f a).fairly w).1 :: ((each f rest).fairly ((f a).fairly w).2).1,
        ((each f rest).fairly ((f a).fairly w).2).2) := by
  simp [each]

end Notification.Delivery
end Reconciliation
