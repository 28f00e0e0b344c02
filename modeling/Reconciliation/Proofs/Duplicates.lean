import Reconciliation.Proofs.Sightings

/-!
# Duplicates delivered at the same time

The gateway may deliver an item several times at once. Then each delivery finds the stores as they were or as a single
delivery leaves them, and it makes the same write, or finds it made.

* `Lands` says that what is applied leaves the stores as a single delivery does; `Course.lands` is the case analysis.
* `item_amid` says the same of a whole item amid others.
* `Adds` bounds what is logged and created.
* `duplicates` is the statement about any number of deliveries and any order of their calls.
-/

namespace Reconciliation.Notification.Delivery

open Procedure Platform Matching

variable {r : Registry} {i : Item} {u v w : World} {m m' : Match} {t : Tenant} {o : Outcome} {s : Status}

/-! ### Settling between calls -/

/-- Once the stores are as a single delivery leaves them, an audit entry is all that is added. -/
theorem conclude_amid (e : AuditEntry) (o : Outcome) (h : Alike u v) :
    (conclude e o).Amid (Toward u) (fun _ v => Alike u v) v := by
  rw [conclude_eq]
  exact fun v₁ hv₁ => ⟨⟨.inl rfl, .inl rfl⟩, fun v₂ hv₂ => (h.toward hv₁).toward ⟨hv₂.platform, hv₂.attempts⟩⟩

theorem finish_amid (e : AuditEntry) (m : Match) (x : Except Obstacle Outcome) (h : Alike u v) :
    (finish e m x).Amid (Toward u) (fun _ v => Alike u v) v := by
  match x with
  | .ok o => exact conclude_amid _ _ h
  | .error (.refused f) => exact conclude_amid _ _ h
  | .error (.unrecorded f) => exact conclude_amid _ _ h

/-- What is applied ends with the stores as a single delivery leaves them. -/
def Lands (u v : World) (p : Applying Outcome) : Prop := p.run.Amid (Toward u) (fun _ v => Alike u v) v

theorem lands_pure (o : Outcome) (h : Alike u v) : Lands u v (pure o) := fun _ hv => h.toward hv

/-- A call that is answered, in whatever state the stores are, and changes them to those of a single delivery, if at
all. -/
theorem lands_ask {obstacle : Failure → Obstacle} {k : Call} {f : k.Answer → Applying Outcome}
    (h : ∀ v', Toward u v v' → ∃ a v'', v'.perform Conditions.fair.gateway k = (.ok a, v'') ∧ Toward u v' v'' ∧
      Lands u v'' (f a)) : Lands u v (ask obstacle k >>= f) := by
  unfold Lands
  rw [ExceptT.run_bind, ask_run]
  intro v' hv'
  obtain ⟨a, v'', ha, hv'', hf⟩ := h v' hv'
  rw [ha]
  exact ⟨hv'', hf⟩

/-- The platform makes a write that it was asked for in `w`, or made by now. -/
theorem lands_write {obstacle : Failure → Obstacle} {k : Call} {f : k.Answer → Applying Outcome} (hv : Toward u w v)
    (write : ∀ v', Toward u w v' → ∃ a v'', v'.perform Conditions.fair.gateway k = (.ok a, v'') ∧
      v''.platform.uncounted = u.platform.uncounted ∧ v''.journal = v'.journal)
    (go : ∀ a v'', Toward u w v'' → v''.platform.uncounted = u.platform.uncounted → Lands u v'' (f a)) :
    Lands u v (ask obstacle k >>= f) := by
  refine lands_ask fun v' hv' => ?_
  obtain ⟨a, v'', ha, hp, hj⟩ := write v' (hv.trans hv')
  have hv'' : Toward u v' v'' := ⟨.inr hp, .inl (by rw [hj])⟩
  exact ⟨a, v'', ha, hv'', go a v'' ((hv.trans hv').trans hv'') hp⟩

/-- A match for an attempt with the same key, with the same payment and transaction, is settled in the same way. -/
theorem settle_congr (key : Journal.Key.of m'.attempt = .of m.attempt) (family : m'.family = m.family)
    (payment : m'.payment = m.payment) (transaction : m'.transaction = m.transaction) :
    settle i m' t = settle i m t := by
  obtain ⟨a', p', t', f', _⟩ := m'
  obtain ⟨a, p, t, f, _⟩ := m
  cases family
  cases payment
  cases transaction
  unfold settle apply applyToMatched
  -- the attempt plays a part in one call only, and by its key
  dsimp only at key ⊢
  generalize Journal.Key.of a' = k at key ⊢
  cases key
  rfl

/-- A match that still stands as it was is settled as before. -/
theorem settle_of_stands {tenant : Option Ident} (found : Found w i tenant m) (seen : Seen u w m m' v)
    (stands : Stands w.platform m m'.payment m'.transaction) : settle i m' t = settle i m t := by
  obtain ⟨payment, transaction⟩ := found.stands.unique stands
  exact settle_congr seen.key seen.family payment transaction

/-- Where a single delivery leaves the platform as it is, every match still stands as it was. -/
theorem settle_of_same {tenant : Option Ident} (found : Found w i tenant m) (seen : Seen u w m m' v)
    (same : u.platform = w.platform) : settle i m' t = settle i m t :=
  settle_of_stands found seen (seen.stands.elim id fun h => same ▸ h.1)

theorem rematch_of_seen (seen : Seen u w m m' v) : Rematch r i m m' where
  key := seen.key
  tenant := by
    have ht : m'.attempt.tenant = m.attempt.tenant := congrArg Journal.Key.tenant seen.key
    rw [tenantFor, tenantOf, ht, tenantFor, tenantOf]
  family := seen.family

/-! ### Writes between calls -/

theorem write_updateTransaction {c : StatusChange} {x : Payment} {y : Transaction}
    (hx : w.platform.payments.find? (·.id == c.payment) = some x) (ht : x.transaction? c.transaction = some y)
    (hu : u.platform = (w.platform.updateTransaction c).2) (tenant : Ident) (hv : Toward u w v) :
    ∃ a v', v.perform Conditions.fair.gateway (.updateTransaction c tenant) = (.ok a, v') ∧
      v'.platform.uncounted = u.platform.uncounted ∧ v'.journal = v.journal := by
  obtain ⟨p', hp', -⟩ := updateTransaction_found hx ht
  have first : (w.platform.updateTransaction c).1 = .ok () := by rw [hp']
  obtain ⟨again, same⟩ := updateTransaction_again hx ht
  obtain ⟨ok, left⟩ : (v.platform.updateTransaction c).1 = .ok () ∧
      (v.platform.updateTransaction c).2.uncounted = u.platform.uncounted := by
    rcases hv.platform with hp | hp
    · obtain ⟨h₁, h₂⟩ := updateTransaction_congr hp c
      exact ⟨h₁.trans first, h₂.trans (by rw [hu])⟩
    · rw [hu] at hp
      obtain ⟨h₁, h₂⟩ := updateTransaction_congr hp c
      exact ⟨h₁.trans again, (h₂.trans same).trans (by rw [hu])⟩
  exact ⟨(), _, World.perform_updateTransaction _ _ (Prod.ext ok rfl), left, rfl⟩

theorem write_createChargeback {k : Ident} {c : NewChargeback} {x : Payment}
    (hx : w.platform.payments.find? (·.id == k) = some x) (hk : x.transactionByKey? c.externalKey = none)
    (hu : u.platform = (w.platform.createChargeback k c).2) (tenant : Ident) (hv : Toward u w v) :
    ∃ a v', v.perform Conditions.fair.gateway (.createChargeback k c tenant) = (.ok a, v') ∧
      v'.platform.uncounted = u.platform.uncounted ∧ v'.journal = v.journal := by
  obtain ⟨p', hp', -⟩ := createChargeback_new hx hk
  have first : (w.platform.createChargeback k c).1 = .ok (w.platform.chargebackTransaction c) := by rw [hp']
  have again := createChargeback_again hx hk
  obtain ⟨ok, left⟩ : (v.platform.createChargeback k c).1 = .ok (w.platform.chargebackTransaction c) ∧
      (v.platform.createChargeback k c).2.uncounted = u.platform.uncounted := by
    rcases hv.platform with hp | hp
    · obtain ⟨h₁, h₂⟩ := createChargeback_congr hp k c
      exact ⟨h₁.trans first, h₂.trans (by rw [hu])⟩
    · rw [hu] at hp
      obtain ⟨h₁, h₂⟩ := createChargeback_congr hp k c
      rw [again] at h₁ h₂
      exact ⟨h₁, h₂.trans (by rw [hu])⟩
  exact ⟨_, _, World.perform_createChargeback _ _ (Prod.ext ok rfl), left, rfl⟩

/-- The attempt is moved, or was moved in the same way by now. -/
theorem lands_updateAttempt (ha : u.journal.attempts = movedAttempts i m s w)
    (key : Journal.Key.of m'.attempt = .of m.attempt) (hv : Toward u w v)
    (hp : v.platform.uncounted = u.platform.uncounted) (o : Outcome) :
    Lands u v (ask .unrecorded (.updateAttempt (.of m'.attempt) (reference i) s) >>= fun _ => pure o) := by
  refine lands_ask fun v' hv' => ?_
  obtain ⟨b, hb⟩ := perform_updateAttempt v' m' i s
  have moved : movedAttempts i m' s v' = u.journal.attempts := by
    rcases (hv.trans hv').attempts with hj | hj
    · rw [ha, movedAttempts, movedAttempts, hj, key]
    · rw [movedAttempts, hj, key, ha, movedAttempts]
      exact Journal.moved_again _ _ _ _
  exact ⟨b, _, hb, ⟨.inl rfl, .inr moved⟩, lands_pure _ ⟨hv'.platform_eq hp, moved⟩⟩

/-! ### Courses between calls -/

section Courses

variable {tenant : Option Ident} (found : Found w i tenant m) (seen : Seen u w m m' v) (hv : Toward u w v)

include found seen hv

/-- Where a single delivery writes nothing, neither does this one. -/
theorem lands_idle (settled : settle i m t = pure o) (hp : u.platform = w.platform)
    (ha : u.journal.attempts = w.journal.attempts) : Lands u v (settle i m' t) := by
  have same : Alike u w := ⟨by rw [hp], ha.symm⟩
  rw [settle_of_same found seen hp, settled]
  exact lands_pure _ (same.toward hv)

theorem lands_kept (asks : Asks i m t ⟨.matched, s⟩) (status : m.transaction.status = s)
    (hp : u.platform = w.platform) (ha : u.journal.attempts = movedAttempts i m s w) : Lands u v (settle i m' t) := by
  rw [settle_of_same found seen hp, settle_of_asks asks]
  simp only [apply, applyToMatched, status, not_true_eq_false, if_false, if_true]
  exact lands_updateAttempt ha rfl hv (hv.platform_eq (by rw [hp])) _

/-- The transaction is asked to move, if it was not yet when it was loaded, and then the attempt. -/
theorem lands_moved (asks : Asks i m (tenantFor r i m) ⟨.matched, s⟩) (status : m.transaction.status ≠ s)
    (hp : u.platform = (w.platform.updateTransaction (matchedChange i m s)).2)
    (ha : u.journal.attempts = movedAttempts i m s w) : Lands u v (settle i m' (tenantFor r i m')) := by
  have rematch : Rematch r i m m' := rematch_of_seen seen
  rcases seen.stands with stands | ⟨stands, hu⟩
  · rw [rematch.tenant, settle_of_stands found seen stands, settle_of_asks asks]
    simp only [apply, applyToMatched, status, not_false_eq_true, if_true, if_false]
    refine lands_write hv (fun v' => ?_) fun _ v' hv' hp' => lands_updateAttempt ha rfl hv' hp' _
    exact write_updateTransaction found.payment_found found.transaction_found hp _
  · obtain ⟨-, ht⟩ := (stands_changed found s).unique (hp ▸ stands)
    have status' : m'.transaction.status = s := by rw [ht]; rfl
    have asks' : Asks i m' (tenantFor r i m') ⟨.matched, s⟩ := by
      refine asks_again rematch asks (by rw [ht]; rfl) ?_
      rintro ⟨hs, hf⟩
      cases hs
      exact absurd (status'.symm.trans hf) (by simp)
    rw [settle_of_asks asks']
    simp only [apply, applyToMatched, status', not_true_eq_false, if_false, if_true]
    exact lands_updateAttempt ha seen.key hv hu _

/-- The chargeback is asked for, if it was not there yet when the payment was loaded. -/
theorem lands_created {x : Transition} (asks : Asks i m (tenantFor r i m) x) (target : x.target = .newChargeback)
    {reference : String} (carried : i.reference = some reference)
    (fresh : m.payment.transactionByKey? (chargebackKey m.payment.id reference) = none)
    (hp : u.platform = (w.platform.createChargeback m.payment.id (newChargeback i m reference)).2)
    (ha : u.journal.attempts = w.journal.attempts) : Lands u v (settle i m' (tenantFor r i m')) := by
  have rematch : Rematch r i m m' := rematch_of_seen seen
  rcases seen.stands with stands | ⟨stands, hu⟩
  · rw [rematch.tenant, settle_of_stands found seen stands, settle_of_asks asks]
    simp only [apply, target, createChargeback, carried, fresh]
    refine lands_write hv (fun v' => ?_) fun a v' hv' hp' => lands_pure _ ⟨hp', ?_⟩
    · exact write_createChargeback (c := newChargeback i m reference) found.payment_found fresh hp _
    · exact hv'.attempts_eq ha.symm
  · obtain ⟨hx, ht⟩ := (stands_created found fresh).unique (hp ▸ stands)
    have asks' := asks_again rematch asks (by rw [ht]) (by rintro ⟨rfl, -⟩; cases target)
    have known : m'.payment.transactionByKey? (chargebackKey m'.payment.id reference) =
        some (w.platform.chargebackTransaction (newChargeback i m reference)) := by
      rw [hx]
      exact known_of_created fresh
    rw [settle_known asks' target carried known]
    exact lands_pure _ ⟨hu, hv.attempts_eq ha.symm⟩

/-- The chargeback is asked to fail, if it had not failed yet when the payment was loaded. -/
theorem lands_reversed (distinct : w.platform.DistinctInPayments)
    (asks : Asks i m (tenantFor r i m) ⟨.existingChargeback, s⟩) {chargeback : Transaction}
    (picked : reversed? i m.payment = some chargeback) (status : chargeback.status ≠ s)
    (hp : u.platform = (w.platform.updateTransaction (reversal i m chargeback s)).2)
    (ha : u.journal.attempts = w.journal.attempts) : Lands u v (settle i m' (tenantFor r i m')) := by
  have rematch : Rematch r i m m' := rematch_of_seen seen
  have ids := distinct _ found.payment_mem
  rcases seen.stands with stands | ⟨stands, hu⟩
  · rw [rematch.tenant, settle_of_stands found seen stands, settle_of_asks asks]
    simp only [apply, reverseChargeback, picked, status, if_false]
    refine lands_write hv (fun v' => ?_) fun a v' hv' hp' => lands_pure _ ⟨hp', ?_⟩
    · exact write_updateTransaction (c := reversal i m chargeback s) found.payment_found
        (transaction?_of_mem ids (mem_of_reversed? picked).1) hp _
    · exact hv'.attempts_eq ha.symm
  · obtain ⟨hx, ht⟩ := (stands_reversed found ids asks picked).unique (hp ▸ stands)
    have asks' := asks_again rematch asks (by rw [ht]) (by simp)
    have settled := settle_failed asks' (hx ▸ reversed?_edited ids picked s) rfl
    rw [settled]
    exact lands_pure _ ⟨hu, hv.attempts_eq ha.symm⟩

end Courses

/-- However a single delivery goes, one that sees the stores change to what that leaves does the same, or finds it
done. -/
theorem Course.lands (course : Course r i w o u) (distinct : w.platform.DistinctInPayments)
    (h : accepted r i w.journal.attempts w.platform = .ok m) (seen : Seen u w m m' v) (hv : Toward u w v) :
    Lands u v (settle i m' (tenantFor r i m')) := by
  obtain ⟨-, hm, -⟩ := accepted_eq_ok.1 h
  have found := found_of_sight hm
  have tenant : tenantFor r i m' = tenantFor r i m := (rematch_of_seen seen).tenant
  cases course with
  | stopped h' => cases h'.symm.trans h
  | idle h' settled =>
    cases h'.symm.trans h
    exact tenant ▸ lands_idle found seen hv settled rfl rfl
  | kept h' asks status =>
    cases h'.symm.trans h
    exact tenant ▸ lands_kept found seen hv asks status rfl rfl
  | moved h' asks status =>
    cases h'.symm.trans h
    exact lands_moved found seen hv asks status rfl rfl
  | created h' asks target carried fresh =>
    cases h'.symm.trans h
    exact lands_created found seen hv asks target carried fresh rfl rfl
  | reversed h' asks picked status =>
    cases h'.symm.trans h
    exact lands_reversed found seen hv distinct asks picked status rfl rfl

/-- Where matching finds something, a single delivery moves the attempt, if any, and leaves the payment in place. -/
theorem single_of_ok (h : accepted r i w.journal.attempts w.platform = .ok m)
    (attempts : u.journal.attempts = w.journal.attempts ∨ ∃ s, u.journal.attempts = movedAttempts i m s w)
    (methods : u.platform.methods = w.platform.methods) {x : Payment} {y : Transaction}
    (stands : Stands u.platform m x y) (method : x.method = m.payment.method) :
    Single i ((r.forAccount? i.merchantAccount).map (·.id)) u w := by
  obtain ⟨-, hm, -⟩ := accepted_eq_ok.1 h
  refine ⟨attempts.imp_right fun ⟨s, hs⟩ => ⟨_, _, _, s, (sight_eq_some.1 hm).1, hs⟩, fun hn => ?_, fun m' hm' => ?_⟩
  · rw [hm] at hn
    cases hn
  · cases hm'.symm.trans hm
    exact ⟨methods, x, y, stands, method⟩

theorem Course.single (course : Course r i w o u) (distinct : w.platform.DistinctInPayments) :
    Single i ((r.forAccount? i.merchantAccount).map (·.id)) u w := by
  have same : Single i ((r.forAccount? i.merchantAccount).map (·.id)) w w :=
    ⟨.inl rfl, fun _ => rfl, fun m hm => ⟨rfl, _, _, (found_of_sight hm).stands, rfl⟩⟩
  cases course with
  | stopped => exact same
  | idle => exact same
  | kept h =>
    obtain ⟨-, hm, -⟩ := accepted_eq_ok.1 h
    exact single_of_ok h (.inr ⟨_, rfl⟩) rfl (found_of_sight hm).stands rfl
  | moved h =>
    obtain ⟨-, hm, -⟩ := accepted_eq_ok.1 h
    exact single_of_ok h (.inr ⟨_, rfl⟩) (methods_updateTransaction _ _) (stands_changed (found_of_sight hm) _) rfl
  | created h asks target carried fresh =>
    obtain ⟨-, hm, -⟩ := accepted_eq_ok.1 h
    exact single_of_ok h (.inl rfl) (methods_createChargeback _ _ _) (stands_created (found_of_sight hm) fresh) rfl
  | reversed h asks picked =>
    obtain ⟨-, hm, -⟩ := accepted_eq_ok.1 h
    have found := found_of_sight hm
    exact single_of_ok h (.inl rfl) (methods_updateTransaction _ _)
      (stands_reversed found (distinct _ found.payment_mem) asks picked) rfl

/-- Without a match that is accepted, nothing is changed. -/
theorem Course.alike_of_error {o' : Outcome} (course : Course r i w o u)
    (h : accepted r i w.journal.attempts w.platform = .error o') : Alike u w := by
  cases course with
  | stopped => exact ⟨rfl, rfl⟩
  | idle h' | kept h' | moved h' | created h' | reversed h' => cases h'.symm.trans h

/-- Amid other deliveries of the same item, an item leaves the stores as a single delivery does. -/
theorem item_amid (course : Course r i w o u) (distinct : w.platform.DistinctInPayments) :
    (item r i).Amid (Toward u) (fun _ v => Alike u v) w := by
  unfold item
  dsimp only
  split
  case isFalse howner =>
    have h : accepted r i w.journal.attempts w.platform = .error .rejected := if_neg howner
    exact conclude_amid _ _ (course.alike_of_error h)
  case isTrue howner =>
  rw [bind_eq]
  refine (resolve_amid (course.single distinct)).bind (Toward.refl u) ?_
  rintro x v ⟨hv, y, rfl, hnone, hsome⟩
  cases hm : sight w.journal.attempts w.platform i ((r.forAccount? i.merchantAccount).map (·.id)) with
  | none =>
    cases hnone hm
    have h : accepted r i w.journal.attempts w.platform = .error .unmatched := by rw [accepted, if_pos howner, hm]
    exact conclude_amid _ _ ((course.alike_of_error h).toward hv)
  | some m =>
    obtain ⟨m', rfl, seen⟩ := hsome m hm
    have tenant : tenantFor r i m' = tenantFor r i m := (rematch_of_seen seen).tenant
    dsimp only
    rw [← tenantFor]
    split
    case isFalse ht =>
      have h : accepted r i w.journal.attempts w.platform = .error .rejected := by
        rw [accepted, if_pos howner, hm]
        exact if_neg (tenant ▸ ht)
      exact conclude_amid _ _ ((course.alike_of_error h).toward hv)
    case isTrue ht =>
      have h : accepted r i w.journal.attempts w.platform = .ok m := accepted_eq_ok.2 ⟨howner, hm, tenant ▸ ht⟩
      rw [bind_eq]
      exact (course.lands distinct h seen hv).bind (Toward.refl u) fun x v => finish_amid _ _ x

/-! ### What a single delivery adds -/

/-- The identifier and the operation of a transaction, which never change. -/
def label (y : Transaction) : Ident × Operation := (y.id, y.operation)

/-- On the platform, at most one change of status is logged, and at most one transaction is created, which is then a
chargeback. -/
structure Adds (p p' : Platform) : Prop where
  log : ∃ log, p'.transitions = p.transitions ++ log ∧ log.length ≤ 1
  created : ∃ created, (p'.transactions.map label).Perm (p.transactions.map label ++ created) ∧ created.length ≤ 1 ∧
    ∀ x ∈ created, x.2 = .chargeback

variable {p p' : Platform}

theorem Adds.refl (p : Platform) : Adds p p := ⟨⟨[], by simp, by simp⟩, ⟨[], by simp, by simp, by simp⟩⟩

theorem Adds.of_uncounted {q : Platform} (h : Adds p p') (hq : q.uncounted = p'.uncounted) : Adds p q where
  log := transitions_of_uncounted hq ▸ h.log
  created := by
    rw [Platform.transactions, payments_of_uncounted hq]
    exact h.created

theorem Adds.of_replaced {x : Payment} {y y' : Transaction} {change : Ident × Status}
    (h : Replaced x y y' p.payments p'.payments) (same : label y' = label y)
    (log : p'.transitions = p.transitions ++ [change]) : Adds p p' where
  log := ⟨_, log, by simp⟩
  created := by
    obtain ⟨l₁, l₂, hl, hl'⟩ := h.transactions
    refine ⟨[], ?_, by simp, by simp⟩
    rw [hl, hl', List.append_nil, List.map_append, List.map_append, List.map_cons, List.map_cons, same]

theorem Adds.of_appended {x : Payment} {y : Transaction} {change : Ident × Status}
    (h : Appended x y p.payments p'.payments) (chargeback : y.operation = .chargeback)
    (log : p'.transitions = p.transitions ++ [change]) : Adds p p' where
  log := ⟨_, log, by simp⟩
  created := by
    obtain ⟨l₁, l₂, hl, hl'⟩ := h.transactions
    refine ⟨[label y], ?_, by simp, by simpa [label] using chargeback⟩
    rw [hl, hl', List.map_append, List.map_append, List.map_cons, List.append_assoc]
    exact (List.perm_append_left_iff _).2 (List.perm_append_singleton _ _).symm

theorem Course.adds (course : Course r i w o u) (distinct : w.platform.DistinctInPayments) :
    Adds w.platform u.platform := by
  cases course with
  | stopped => exact .refl _
  | idle => exact .refl _
  | kept => exact .refl _
  | moved h asks status =>
    obtain ⟨-, hm, -⟩ := accepted_eq_ok.1 h
    obtain ⟨p', hp', replaced, -, log⟩ := moved_writes (found_of_sight hm) status
    rw [hp']
    exact .of_replaced replaced rfl log
  | created h asks target carried fresh =>
    obtain ⟨-, hm, -⟩ := accepted_eq_ok.1 h
    obtain ⟨p', hp', appended, -, log⟩ := created_writes (found_of_sight hm) fresh
    rw [hp']
    exact .of_appended appended rfl log
  | reversed h asks picked status =>
    obtain ⟨-, hm, -⟩ := accepted_eq_ok.1 h
    have recorded := (mem_of_reversed? picked).1
    obtain ⟨p', hp', replaced, -, log⟩ := reversed_writes (found_of_sight hm) distinct recorded status
    rw [hp']
    exact .of_replaced replaced rfl log

/-! ### Any number of deliveries at the same time -/

/-- Without deliveries, nothing happens. -/
theorem play_start_nil (w : World) (schedule : List Nat) :
    ((Pool.start ([] : List (Procedure Outcome)) w).play .fair schedule).world = w := by
  refine congrArg Pool.world (Pool.play_preserves (· = Pool.start [] w) (fun s n hs => ?_) schedule rfl)
  rw [hs]
  rfl

/-- Once all deliveries are done, each has added one audit entry. -/
theorem audit_of_done (r : Registry) (i : Item) (w : World) (n : Nat) (schedule : List Nat)
    (done : ∀ t ∈ ((Pool.start (List.replicate n (item r i)) w).play .fair schedule).strands, t.isDone = true) :
    ∃ entries, ((Pool.start (List.replicate n (item r i)) w).play .fair schedule).world.journal.audit =
      w.journal.audit ++ entries ∧ entries.length = n := by
  have length := Pool.length_play (c := .fair) (s := Pool.start (List.replicate n (item r i)) w) schedule
  have behaves : ∀ p ∈ List.replicate n (item r i),
      p.Behaves (ItemCall r i) (fun _ trace => Procedure.auditCalls trace = 1) [] := by
    intro p hp
    rw [List.eq_of_mem_replicate hp]
    exact item_behaves r i
  replace behaves := Pool.behaves_play (c := .fair) (Pool.behaves_start behaves w) schedule
  obtain ⟨entries, haudit, hentries⟩ := Pool.audit_play (List.replicate n (item r i)) w schedule
  generalize (Pool.start (List.replicate n (item r i)) w).play .fair schedule = s at *
  have each : ∀ t ∈ s.strands, Procedure.auditCalls t.trace = 1 := by
    rintro ⟨trace, rest⟩ ht
    have hd := done _ ht
    cases rest with
    | done o => exact behaves _ ht
    | call k next => cases hd
  refine ⟨entries, haudit, ?_⟩
  rw [hentries, Pool.auditCalls_of_each each, length]
  simp [Pool.start]

/-- Once all of at least one delivery are done, the stores are as a single delivery leaves them. -/
theorem alike_of_done (r : Registry) (i : Item) (w : World) (distinct : w.platform.DistinctInPayments) {n : Nat}
    (hn : 0 < n) (schedule : List Nat)
    (done : ∀ t ∈ ((Pool.start (List.replicate n (item r i)) w).play .fair schedule).strands, t.isDone = true) :
    Alike ((item r i).fairly w).2 ((Pool.start (List.replicate n (item r i)) w).play .fair schedule).world := by
  obtain ⟨o, u, e, course, he⟩ := course r i w
  have amid : ∀ p ∈ List.replicate n (item r i), p.Amid (Toward u) (fun _ v => Alike u v) w := by
    intro p hp
    rw [List.eq_of_mem_replicate hp]
    exact item_amid course distinct
  have positive : 0 < ((Pool.start (List.replicate n (item r i)) w).play .fair schedule).strands.length := by
    rw [Pool.length_play]
    simpa [Pool.start] using hn
  obtain ⟨⟨trace, rest⟩, ht⟩ := List.exists_mem_of_length_pos positive
  have hd := done _ ht
  cases rest with
  | done a =>
    have alike : Alike u _ := Pool.amid_done (Toward.refl u) (fun _ _ _ => Toward.trans) amid schedule ht rfl
    rw [he]
    exact ⟨alike.platform, alike.attempts⟩
  | call k next => cases hd

/-- Any number of deliveries of the same item at the same time, without failing calls: once all are done, in whatever
order they made their calls, at most one change of status was logged and at most one transaction, a chargeback, was
created; attempts and platform are those after a single delivery, but for the number of calls; and each delivery is in
the audit. -/
theorem duplicates (r : Registry) (w : World) (distinct : w.platform.DistinctInPayments) (i : Item) (n : Nat)
    (schedule : List Nat) :
    let once := (item r i).run .fair w
    let all := (Pool.start (List.replicate n (item r i)) w).play .fair schedule
    (∀ t ∈ all.strands, t.isDone = true) →
      Adds w.platform all.world.platform ∧
      (0 < n → Alike once.world all.world) ∧
      ∃ entries, all.world.journal.audit = w.journal.audit ++ entries ∧ entries.length = n := by
  intro once all done
  have alike : 0 < n → Alike once.world all.world := by
    intro hn
    rw [world_fair]
    exact alike_of_done r i w distinct hn schedule done
  refine ⟨?_, alike, audit_of_done r i w n schedule done⟩
  rcases Nat.eq_zero_or_pos n with rfl | hn
  · have same : all.world = w := play_start_nil w schedule
    rw [same]
    exact .refl _
  · obtain ⟨o, u, e, course, he⟩ := course r i w
    have hu : once.world = u.noted e := by rw [world_fair, he]
    have adds : Adds w.platform once.world.platform := by
      rw [hu]
      exact course.adds distinct
    exact adds.of_uncounted (alike hn).platform

/-- The same chargeback, delivered twice. -/
def chargebackPool : Pool Outcome :=
  .start (List.replicate 2 (item .empty (specimenItem .chargeback true "B" none))) specimen

/-- Both deliveries of a chargeback look the payment up before the first creates the chargeback, and the second asks for
it as well. -/
theorem duplicates_of_chargeback :
    specimen.platform.DistinctInPayments ∧
      let all := chargebackPool.play .fair [0, 0, 1, 1, 0, 1, 0, 1, 0, 1, 0, 1]
      (∀ t ∈ all.strands, t.isDone = true) ∧ Adds specimen.platform all.world.platform ∧
        all.world.platform.transitions = [(.drawn 1, .success)] ∧ all.world.journal.audit.length = 2 := by
  have distinct : specimen.platform.DistinctInPayments := distinctInPayments_of_nodup (by decide)
  refine ⟨distinct, ?_⟩
  intro all
  have done : ∀ t ∈ all.strands, t.isDone = true := by decide +kernel
  obtain ⟨adds, alike, entries, haudit, hn⟩ := duplicates .empty specimen distinct
    (specimenItem .chargeback true "B" none) 2 [0, 0, 1, 1, 0, 1, 0, 1, 0, 1, 0, 1] done
  refine ⟨done, adds, (transitions_of_uncounted (alike (by decide)).platform).trans ?_,
    (congrArg List.length haudit).trans ?_⟩
  · rw [world_fair]
    decide +kernel
  · rw [List.length_append, hn]
    rfl

end Reconciliation.Notification.Delivery
