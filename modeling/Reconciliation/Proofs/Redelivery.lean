import Reconciliation.Proofs.Unfailing

/-!
# Delivering an item again

The gateway may deliver an item any number of times. Only the first delivery changes anything, but what it changes
decides where the second one finds its attempt: an attempt that gets its reference by the first is found by that
reference from then on.

* `spot_again`: the attempt that is spotted after an attempt was moved has the same key.
* `Rests` says that an item has an outcome and changes nothing but the audit; `rests_again` that every item rests after
  its first delivery.
* `redelivery` is the statement about any number of deliveries.
-/

namespace Reconciliation.Notification

/-- What a later delivery has as its outcome: what was applied is then there already. -/
def Outcome.again : Outcome → Outcome
  | .applied t s => .alreadyApplied t s
  | o => o

theorem Outcome.again_of_transaction?_eq_none {o : Outcome} (h : o.transaction? = none) : o.again = o := by
  cases o <;> first | rfl | cases h

/-- A payment and a transaction that a match is about, as they are on a platform. -/
structure Stands (p : Platform) (m : Match) (x : Payment) (t : Transaction) : Prop where
  payment : p.payments.find? (·.id == m.attempt.payment) = some x
  transaction : x.transaction? m.attempt.transaction = some t

theorem Found.stands {w : World} {i : Item} {tenant : Option Ident} {m : Match} (h : Found w i tenant m) :
    Stands w.platform m m.payment m.transaction := ⟨h.payment, h.transaction⟩

theorem Stands.unique {p : Platform} {m : Match} {x x' : Payment} {t t' : Transaction} (h : Stands p m x t)
    (h' : Stands p m x' t') : x' = x ∧ t' = t := by
  obtain rfl : x' = x := Option.some.inj (h'.payment.symm.trans h.payment)
  exact ⟨rfl, Option.some.inj (h'.transaction.symm.trans h.transaction)⟩

namespace Matching

/-! ### Spotting an attempt again -/

section Again

variable {c : Candidates} {tenant : Option Ident} {before after : List Attempt} {f : Attempt} {q : Option String}
  {s : Status}

/-- A choice is either a certain attempt or one with the same key as another choice. -/
def Near (f : Attempt) (x' x : Option Attempt) : Prop :=
  x' = some f ∨ x'.map Journal.Key.of = x.map Journal.Key.of

theorem Near.of_map {g : Attempt → Attempt} (hg : ∀ a, Journal.Key.of (g a) = Journal.Key.of a)
    {x' x : Option Attempt} (h : x'.map g = x.map g) : Near f x' x := by
  refine .inr ?_
  have hk : Journal.Key.of ∘ g = Journal.Key.of := funext hg
  rw [← hk, ← Option.map_map, h, Option.map_map]

/-- Where the one choice leads to a key, the other does, if each part of it is near. -/
theorem Near.or {x' x y' y : Option Attempt} (hx : Near f x' x) (hy : Near f y' y) : Near f (x'.or y') (x.or y) := by
  -- either the first choice is `f`, or both first choices are there or both are not
  rcases hx with rfl | hx
  · exact .inl rfl
  · cases x' with
    | some a =>
      cases x with
      | some b => exact .inr hx
      | none => cases hx
    | none =>
      cases x with
      | some b => cases hx
      | none => exact hy

/-- By a reference, an attempt that was moved is found, or one with the same key as before. -/
theorem spotReference_near (reference : Option String) :
    Near (Journal.moved q s f)
      (spotReference (before ++ Journal.moved q s f :: after) c tenant reference)
      (spotReference (before ++ f :: after) c tenant reference) := by
  by_cases hq : f.reference.or q = f.reference
  · -- no reference is attached, so that only a status changes
    refine .of_map (g := Attempt.blank) (fun _ => rfl) ?_
    rw [← spotReference_blank, ← spotReference_blank]
    simp [Journal.moved, Attempt.blank, hq]
  · cases reference with
    | none => exact .inr rfl
    | some ρ =>
      have hf : f.reference = none := by
        cases h : f.reference with
        | none => rfl
        | some x => simp [h] at hq
      simp only [spotReference, Option.bind_some, List.filter_append, List.filter_cons, Journal.moved, hf,
        Option.none_or, beq_iff_eq, reduceCtorEq, if_false]
      split
      · -- the reference that was attached is asked for: one more attempt is found by it
        exact (c.select_insert tenant _ _ _).imp id (congrArg (Option.map Journal.Key.of))
      · exact .inr rfl

/-- By a transaction, an attempt with the same key is found. -/
theorem spotTransaction_near (transaction : Option Ident) :
    Near (Journal.moved q s f)
      (spotTransaction (before ++ Journal.moved q s f :: after) c tenant transaction)
      (spotTransaction (before ++ f :: after) c tenant transaction) := by
  refine .of_map (g := Attempt.bare) (fun _ => rfl) ?_
  rw [← spotTransaction_bare, ← spotTransaction_bare]
  simp [Journal.moved, Attempt.bare]

theorem spot_fst (attempts : List Attempt) (i : Item) :
    (spot attempts i c tenant).map (·.1) = (spotReference attempts c tenant i.parentReference).or
      ((spotReference attempts c tenant (ownReference? i)).or
        (spotTransaction attempts c tenant (transactionId? i))) := by
  simp [spot, Option.map_or, Option.map_map, Function.comp_def]

/-- After the first attempt with a key was moved, an attempt with this key is spotted again, though perhaps by another
reference. -/
theorem spot_again {attempts : List Attempt} {i : Item} {a : Attempt} {source : Source}
    (h : spot attempts i c tenant = some (a, source)) (ha : a ∈ attempts) (q : Option String) (s : Status) :
    ∃ a' source', spot (changeFirst (Journal.Key.of · == .of a) (Journal.moved q s) attempts) i c tenant =
      some (a', source') ∧ Journal.Key.of a' = .of a := by
  obtain ⟨f, hf⟩ := exists_find? (p := (Journal.Key.of · == .of a)) ha (by simp)
  have hk : Journal.Key.of f = .of a := by simpa using List.find?_some hf
  obtain ⟨before, after, hl, hc, -⟩ := changeFirst_split (Journal.moved q s) hf
  have near : Near (Journal.moved q s f)
      ((spot (before ++ Journal.moved q s f :: after) i c tenant).map (·.1))
      ((spot (before ++ f :: after) i c tenant).map (·.1)) := by
    rw [spot_fst, spot_fst]
    exact (spotReference_near _).or ((spotReference_near _).or (spotTransaction_near _))
  rw [← hl, ← hc, h] at near
  rcases near with near | near
  · obtain ⟨x, hx, hxa⟩ := Option.map_eq_some_iff.1 near
    exact ⟨x.1, x.2, hx, by rw [hxa, Journal.key_moved, hk]⟩
  · obtain ⟨b, hb, hbk⟩ := Option.map_eq_some_iff.1 near
    obtain ⟨x, hx, rfl⟩ := Option.map_eq_some_iff.1 hb
    exact ⟨x.1, x.2, hx, hbk⟩

end Again
end Matching

namespace Delivery

open Procedure Platform Matching

variable {r : Registry} {i : Item} {attempts attempts' : List Attempt} {p p' : Platform} {m : Match} {o : Outcome}
  {s : Status}

/-! ### The same match again -/

/-- A match that tells the same of an item, but for the payment and the transaction, which may have been changed. -/
structure Rematch (r : Registry) (i : Item) (m m' : Match) : Prop where
  key : Journal.Key.of m'.attempt = .of m.attempt
  tenant : tenantFor r i m' = tenantFor r i m
  family : m'.family = m.family

/-- An item is accepted again as long as an attempt with the same key is spotted and its payment and transaction are
still there. -/
theorem accepted_again (h : accepted r i attempts p = .ok m) {a' : Attempt} {source' : Source}
    (spotted : spot attempts' i (.forEvent i.eventCode) ((r.forAccount? i.merchantAccount).map (·.id)) =
      some (a', source')) (key : Journal.Key.of a' = .of m.attempt) {x : Payment} {t : Transaction}
    (stands : Stands p' m x t) (method : x.method = m.payment.method) (methods : p'.methods = p.methods) :
    ∃ m', accepted r i attempts' p' = .ok m' ∧ Rematch r i m m' ∧ m'.payment = x ∧ m'.transaction = t := by
  obtain ⟨hv, hm, hs⟩ := accepted_eq_ok.1 h
  obtain ⟨-, -, -, hf⟩ := sight_eq_some.1 hm
  have hk := key
  simp only [Journal.Key.of, Journal.Key.mk.injEq] at hk
  obtain ⟨hp, hu, hten⟩ := hk
  have hfor : tenantFor r i ⟨a', x, t, m.family, source'⟩ = tenantFor r i m := by
    simp only [tenantFor, tenantOf, hten]
  refine ⟨⟨a', x, t, m.family, source'⟩, accepted_eq_ok.2 ⟨hv, ?_, hfor ▸ hs⟩, ⟨key, hfor, rfl⟩, rfl, rfl⟩
  refine sight_eq_some.2 ⟨spotted, hp ▸ stands.payment, hu ▸ stands.transaction, ?_⟩
  simp only [hf, method, Platform.method?, methods]

/-- After the attempt of a match was moved, an attempt with the same key is spotted. -/
theorem spotted_again (h : accepted r i attempts p = .ok m) (q : Option String) (s : Status) :
    ∃ a' source', spot (changeFirst (Journal.Key.of · == .of m.attempt) (Journal.moved q s) attempts) i
      (.forEvent i.eventCode) ((r.forAccount? i.merchantAccount).map (·.id)) = some (a', source') ∧
        Journal.Key.of a' = .of m.attempt := by
  obtain ⟨-, hm, -⟩ := accepted_eq_ok.1 h
  -- the audit plays no part in matching, so that any world with these attempts will do
  have found : Found ⟨⟨attempts, []⟩, p⟩ i _ m := found_of_sight hm
  exact spot_again (sight_eq_some.1 hm).1 found.recorded q s

/-- A transition is asked for again unless it has become stale. -/
theorem asks_again {m' : Match} (rematch : Rematch r i m m') {x : Transition} (asks : Asks i m (tenantFor r i m) x)
    (operation : m'.transaction.operation = m.transaction.operation)
    (fresh : ¬ (x = ⟨.matched, .success⟩ ∧ m'.transaction.status = .paymentFailure)) :
    Asks i m' (tenantFor r i m') x := by
  unfold Asks
  rw [operation, rematch.tenant, rematch.family, Resolution.ofEvent_eq_transition]
  exact ⟨((Resolution.ofEvent_eq_transition _).1 asks).1, fresh⟩

/-! ### Items at rest -/

/-- With these attempts and this platform, the item has an outcome and changes nothing but the audit. -/
def Rests (r : Registry) (i : Item) (o : Outcome) (attempts : List Attempt) (p : Platform) : Prop :=
  ∀ w : World, w.journal.attempts = attempts → w.platform = p → ∃ e, (item r i).fairly w = (o, w.noted e)

theorem rests_of_error (h : accepted r i attempts p = .error o) : Rests r i o attempts p := by
  rintro w rfl rfl
  exact item_of_error h

theorem rests_of_pure (h : accepted r i attempts p = .ok m) (hs : settle i m (tenantFor r i m) = pure o) :
    Rests r i o attempts p := by
  rintro w rfl rfl
  exact item_of_ok h (settle_fairly_of_eq_pure hs w)

theorem rests_of_kept (h : accepted r i attempts p = .ok m) (asks : Asks i m (tenantFor r i m) ⟨.matched, s⟩)
    (status : m.transaction.status = s)
    (moved : changeFirst (Journal.Key.of · == .of m.attempt) (Journal.moved (reference i) s) attempts = attempts) :
    Rests r i (.alreadyApplied m.transaction.id s) attempts p := by
  rintro w rfl rfl
  obtain ⟨e, he⟩ := item_of_ok h (settle_kept asks status w)
  rw [movedAttempts, moved] at he
  exact ⟨e, he⟩

/-- Once the matched transaction has the status that is asked for, and the attempt was moved, the item rests. -/
theorem rests_of_moved (h : accepted r i attempts p = .ok m) (asks : Asks i m (tenantFor r i m) ⟨.matched, s⟩)
    {x : Payment} {t : Transaction} (stands : Stands p' m x t)
    (method : x.method = m.payment.method) (methods : p'.methods = p.methods)
    (operation : t.operation = m.transaction.operation) (status : t.status = s) :
    Rests r i (.alreadyApplied t.id s)
      (changeFirst (Journal.Key.of · == .of m.attempt) (Journal.moved (reference i) s) attempts) p' := by
  obtain ⟨a', source', spotted, key⟩ := spotted_again h (reference i) s
  obtain ⟨m', h', rematch, -, rfl⟩ := accepted_again h spotted key stands method methods
  have asks' : Asks i m' (tenantFor r i m') ⟨.matched, s⟩ := by
    refine asks_again rematch asks operation ?_
    rintro ⟨hs, hf⟩
    cases hs
    exact absurd (status.symm.trans hf) (by simp)
  refine rests_of_kept h' asks' status ?_
  rw [rematch.key]
  exact Journal.moved_again _ _ _ _

/-- The payment of a match and its transaction after a chargeback was created. -/
theorem stands_created {tenant : Option Ident} {w : World} (found : Found w i tenant m) {reference : String}
    (fresh : m.payment.transactionByKey? (chargebackKey m.payment.id reference) = none) :
    Stands (w.platform.createChargeback m.payment.id (newChargeback i m reference)).2 m
      (extended (w.platform.chargebackTransaction (newChargeback i m reference)) m.payment) m.transaction where
  payment := (find?_createChargeback (c := newChargeback i m reference) found.payment_found fresh
    m.attempt.payment).trans (if_pos found.payment_id.symm)
  transaction := by
    rw [transaction?_extended, found.transaction]
    rfl

/-- A chargeback that was created is found by its key. -/
theorem known_of_created {reference : String}
    (fresh : m.payment.transactionByKey? (chargebackKey m.payment.id reference) = none) :
    (extended (p.chargebackTransaction (newChargeback i m reference)) m.payment).transactionByKey?
      (chargebackKey m.payment.id reference) = some (p.chargebackTransaction (newChargeback i m reference)) := by
  unfold Payment.transactionByKey? at fresh ⊢
  simp [extended, List.find?_append, fresh, chargebackTransaction, newChargeback]

/-- Once a chargeback was created, the item rests. -/
theorem rests_of_created {w : World} (h : accepted r i w.journal.attempts w.platform = .ok m) {x : Transition}
    (asks : Asks i m (tenantFor r i m) x) (target : x.target = .newChargeback) {reference : String}
    (carried : i.reference = some reference)
    (fresh : m.payment.transactionByKey? (chargebackKey m.payment.id reference) = none) :
    Rests r i (.alreadyApplied (w.platform.chargebackTransaction (newChargeback i m reference)).id .success)
      w.journal.attempts (w.platform.createChargeback m.payment.id (newChargeback i m reference)).2 := by
  obtain ⟨-, hm, -⟩ := accepted_eq_ok.1 h
  obtain ⟨m', h', rematch, hpay', htr'⟩ := accepted_again h (sight_eq_some.1 hm).1 rfl
    (stands_created (found_of_sight hm) fresh) rfl (methods_createChargeback _ _ _)
  have asks' := asks_again rematch asks (by rw [htr']) (by rintro ⟨rfl, -⟩; cases target)
  exact rests_of_pure h' (settle_known asks' target carried (hpay' ▸ known_of_created fresh))

/-! ### Reversals -/

/-- What a reversal is about does not depend on statuses. -/
theorem reversed?_map {g : Transaction → Transaction} (ho : ∀ a, (g a).operation = a.operation)
    (hr : ∀ a, (g a).gatewayReference = a.gatewayReference) (hc : ∀ a, (g a).created = a.created) {x x' : Payment}
    (hx : x'.transactions = x.transactions.map g) : reversed? i x' = (reversed? i x).map g := by
  have hchargebacks : x'.chargebacks = x.chargebacks.map g := by
    simp only [Payment.chargebacks, hx, List.filter_map, Function.comp_def, ho]
  unfold reversed?
  dsimp only
  rw [hchargebacks, Option.map_or, Option.map_bind]
  congr 1
  · congr 1
    funext reference
    simp only [List.filter_map, Function.comp_def, hr, foldl_later]
    exact lastMax_map g (fun a b => by rw [hc, hc]) created_preorder created_preorder _
  · -- there is either exactly one chargeback in both, or in neither
    rcases x.chargebacks with _ | ⟨a, _ | ⟨b, rest⟩⟩ <;> rfl

/-- After a chargeback was failed, the reversal is about the same one. -/
theorem reversed?_edited {m : Match} (ids : (m.payment.transactions.map (·.id)).Nodup) {chargeback : Transaction}
    (picked : reversed? i m.payment = some chargeback) (s : Status) :
    reversed? i (edited (reversal i m chargeback s) m.payment) = some { chargeback with status := s } := by
  let g (t : Transaction) : Transaction := if t.id = chargeback.id then { t with status := s } else t
  have hg : (edited (reversal i m chargeback s) m.payment).transactions = m.payment.transactions.map g := by
    rw [edited, change_eq, changeFirst_eq_map _ ids]
    refine List.map_congr_left fun t ht => ?_
    by_cases he : t.id = chargeback.id
    · rw [List.inj_on_of_nodup_map ids ht (mem_of_reversed? picked).1 he]
      simp [g, reversal, changed]
    · simp [g, reversal, he]
  have hself : g chargeback = { chargeback with status := s } := if_pos rfl
  rw [reversed?_map (g := g) ?_ ?_ ?_ hg, picked, Option.map_some, hself]
  all_goals
    intro t
    unfold g
    split <;> rfl

/-- The payment of a match and its transaction after a chargeback was failed: the transaction is no chargeback, and stays
as it is. -/
theorem stands_reversed {tenant : Option Ident} {w : World} {t : Tenant} (found : Found w i tenant m)
    (ids : (m.payment.transactions.map (·.id)).Nodup) (asks : Asks i m t ⟨.existingChargeback, s⟩)
    {chargeback : Transaction} (picked : reversed? i m.payment = some chargeback) :
    Stands (w.platform.updateTransaction (reversal i m chargeback s)).2 m
      (edited (reversal i m chargeback s) m.payment) m.transaction := by
  obtain ⟨hmem, hop⟩ := mem_of_reversed? picked
  have hc : m.payment.transaction? chargeback.id = some chargeback := transaction?_of_mem ids hmem
  have other : m.attempt.transaction ≠ chargeback.id := by
    intro he
    have : m.transaction = chargeback := by
      rw [← found.transaction_id] at he
      exact List.inj_on_of_nodup_map ids found.transaction_mem hmem he
    unfold Asks at asks
    rw [this, hop] at asks
    exact Resolution.not_transition_of_chargeback asks
  refine ⟨(find?_updateTransaction (c := reversal i m chargeback s) found.payment_found hc m.attempt.payment).trans
    (if_pos found.payment_id.symm), ?_⟩
  rw [transaction?_edited, found.transaction]
  exact if_neg other

/-- Once a chargeback was failed, the reversal is about the same chargeback, and the item rests. -/
theorem rests_of_reversed {w : World} (h : accepted r i w.journal.attempts w.platform = .ok m)
    (distinct : w.platform.DistinctInPayments) (asks : Asks i m (tenantFor r i m) ⟨.existingChargeback, s⟩)
    {chargeback : Transaction} (picked : reversed? i m.payment = some chargeback) :
    Rests r i (.alreadyApplied chargeback.id s) w.journal.attempts
      (w.platform.updateTransaction (reversal i m chargeback s)).2 := by
  obtain ⟨-, hm, -⟩ := accepted_eq_ok.1 h
  have found := found_of_sight hm
  have ids := distinct _ found.payment_mem
  obtain ⟨m', h', rematch, hpay', htr'⟩ := accepted_again h (sight_eq_some.1 hm).1 rfl
    (stands_reversed found ids asks picked) rfl (methods_updateTransaction _ _)
  have asks' := asks_again rematch asks (by rw [htr']) (by simp)
  have picked' := hpay' ▸ reversed?_edited ids picked s
  have settled := settle_failed asks' picked' rfl
  exact rests_of_pure h' settled

/-- The payment of a match and its transaction after the transaction was moved. -/
theorem stands_changed {tenant : Option Ident} {w : World} (found : Found w i tenant m) (s : Status) :
    Stands (w.platform.updateTransaction (matchedChange i m s)).2 m (edited (matchedChange i m s) m.payment)
      (changed (matchedChange i m s) m.transaction) where
  payment := (find?_updateTransaction (c := matchedChange i m s) found.payment_found found.transaction_found
    m.attempt.payment).trans (if_pos found.payment_id.symm)
  transaction := by
    rw [← found.transaction_id, transaction?_edited, found.transaction_id, found.transaction]
    exact if_pos found.transaction_id.symm

/-- Once the matched transaction was moved, the item rests. -/
theorem rests_of_changed {w : World} (h : accepted r i w.journal.attempts w.platform = .ok m)
    (asks : Asks i m (tenantFor r i m) ⟨.matched, s⟩) :
    Rests r i (.alreadyApplied m.transaction.id s) (movedAttempts i m s w)
      (w.platform.updateTransaction (matchedChange i m s)).2 := by
  obtain ⟨-, hm, -⟩ := accepted_eq_ok.1 h
  have stands := stands_changed (found_of_sight hm) s
  exact rests_of_moved (t := changed (matchedChange i m s) m.transaction) h asks stands rfl
    (methods_updateTransaction _ _) rfl rfl

/-- Whatever became of an item, it rests from then on. -/
theorem rests_of_course {w v : World} (distinct : w.platform.DistinctInPayments) (h : Course r i w o v) :
    Rests r i o.again v.journal.attempts v.platform := by
  cases h with
  | stopped h =>
    rw [Outcome.again_of_transaction?_eq_none (transaction?_of_accepted_error h)]
    exact rests_of_error h
  | idle h settled outcome =>
    have ho : o.again = o := by cases o <;> first | rfl | exact absurd rfl (outcome _ _)
    rw [ho]
    exact rests_of_pure h settled
  | kept h asks status =>
    obtain ⟨-, hm, -⟩ := accepted_eq_ok.1 h
    exact rests_of_moved h asks (found_of_sight hm).stands rfl rfl rfl status
  | moved h asks status => exact rests_of_changed h asks
  | created h asks target carried fresh => exact rests_of_created h asks target carried fresh
  | reversed h asks picked status => exact rests_of_reversed h distinct asks picked

/-- After a delivery, which adds one entry to the audit, the item rests. -/
def RestsAfter (r : Registry) (i : Item) (w : World) : Prop :=
  ∃ o v e, (item r i).fairly w = (o, v) ∧ v.journal.audit = w.journal.audit ++ [e] ∧
    Rests r i o.again v.journal.attempts v.platform

/-- After its first delivery, an item rests. -/
theorem rests_again (r : Registry) (i : Item) (w : World) (distinct : w.platform.DistinctInPayments) :
    RestsAfter r i w := by
  obtain ⟨o, v, e, hcourse, he⟩ := course r i w
  have rests := rests_of_course distinct hcourse
  refine ⟨o, v.noted e, e, he, ?_, rests⟩
  rw [World.noted_audit, hcourse.audit]

/-! ### Any number of deliveries -/

theorem each_of_rests {attempts : List Attempt} {p : Platform} (h : Rests r i o attempts p) (n : Nat) {w : World}
    (ha : w.journal.attempts = attempts) (hp : w.platform = p) :
    ∃ entries v, entries.length = n ∧ (each (item r) (List.replicate n i)).fairly w = (List.replicate n o, v) ∧
      v.journal.attempts = attempts ∧ v.platform = p ∧ v.journal.audit = w.journal.audit ++ entries := by
  induction n generalizing w with
  | zero => exact ⟨[], w, rfl, rfl, ha, hp, by simp⟩
  | succ n ih =>
    obtain ⟨e, he⟩ := h w ha hp
    obtain ⟨entries, v, hn, hv, ha', hp', haudit⟩ := ih (w := w.noted e) ha hp
    refine ⟨e :: entries, v, by rw [List.length_cons, hn], ?_, ha', hp', by simp [haudit]⟩
    rw [List.replicate_succ, each_fairly_cons, he, hv, List.replicate_succ]

/-- An item that is delivered any number of times in a row, without failing calls, changes what it changes at its first
delivery. Every delivery is added to the audit, and the outcomes after the first are the same, but that what was
applied is then there already. -/
theorem redelivery (r : Registry) (w : World) (distinct : w.platform.DistinctInPayments) (i : Item) (n : Nat) :
    let once := (item r i).run .fair w
    let all := (each (item r) (List.replicate (n + 1) i)).run .fair w
    ∃ o entries, once.ending = .finished o ∧ all.ending = .finished (o :: List.replicate n o.again) ∧
      all.world.journal.attempts = once.world.journal.attempts ∧ all.world.platform = once.world.platform ∧
      all.world.journal.audit = w.journal.audit ++ entries ∧ entries.length = n + 1 := by
  obtain ⟨o, v, e, hitem, haudit, rests⟩ := rests_again r i w distinct
  obtain ⟨entries, u, hn, heach, ha, hp, haudit'⟩ := each_of_rests rests n rfl rfl
  dsimp only
  rw [ending_fair, world_fair, ending_fair, world_fair, List.replicate_succ, each_fairly_cons, hitem, heach]
  exact ⟨o, e :: entries, rfl, rfl, ha, hp, by rw [haudit', haudit]; simp, by rw [List.length_cons, hn]⟩

/-- A chargeback that is delivered three times is created once. -/
theorem redelivery_of_chargeback :
    specimen.platform.DistinctInPayments ∧
      let all := (each (item .empty) (List.replicate 3 (specimenItem .chargeback true "B" none))).run .fair specimen
      all.ending = .finished [.applied (.drawn 1) .success, .alreadyApplied (.drawn 1) .success,
        .alreadyApplied (.drawn 1) .success] ∧ all.world.journal.audit.length = 3 := by
  have distinct : specimen.platform.DistinctInPayments := distinctInPayments_of_nodup (by decide)
  obtain ⟨o, entries, ho, hall, -, -, haudit, hn⟩ :=
    redelivery .empty specimen distinct (specimenItem .chargeback true "B" none) 2
  have : o = .applied (.drawn 1) .success := by
    rw [ending_fair] at ho
    injection ho with ho
    rw [← ho]
    decide +kernel
  subst this
  exact ⟨distinct, hall, by rw [haudit, List.length_append, hn]; rfl⟩

end Delivery
end Reconciliation.Notification
