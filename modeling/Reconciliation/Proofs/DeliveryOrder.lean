import Mathlib.Logic.Basic
import Reconciliation.Proofs.Outline
import Reconciliation.Proofs.StatusLog

/-!
# The order of deliveries

Statuses are ordered: a failure is above a success, and a success is above all others. Every item moves its transaction
up to its own status, so that the order in which items come makes no difference.

* `Hit.act_comm`: hits commute, as long as a transaction of a payment has one attempt only.
* `item_view`: an item changes the view of the world by its hit, and nothing else.
* `items_view` is the same for several items.
* `delivery_order` compares two orders of the same items.
-/

namespace Reconciliation.Notification

/-! ### Hits commute -/

namespace View

variable {v : View} {k k' : Journal.Key} {s s' : Status}

theorem put_put (v : View) (k : Journal.Key) (s s' : Status) : (v.put k s).put k s' = v.put k s' := by
  unfold put
  congr 1
  · funext payment transaction
    dsimp only
    split <;> rfl
  · funext key
    dsimp only
    split <;> rfl

/-- Two keys of different transactions. -/
def Apart (k k' : Journal.Key) : Prop := ¬ (k.payment = k'.payment ∧ k.transaction = k'.transaction)

theorem Apart.symm (h : Apart k k') : Apart k' k := fun ⟨hp, ht⟩ => h ⟨hp.symm, ht.symm⟩

theorem put_comm (h : Apart k k') (v : View) (s s' : Status) : (v.put k s).put k' s' = (v.put k' s').put k s := by
  unfold put
  congr 1
  · funext payment transaction
    dsimp only
    split
    · next h' =>
      rw [if_neg fun h'' => h ⟨h''.1.symm.trans h'.1, h''.2.symm.trans h'.2⟩]
    · rfl
  · funext key
    dsimp only
    split
    · next h' =>
      rw [if_neg fun h'' => h (by rw [← h', h'']; exact ⟨rfl, rfl⟩)]
    · rfl

theorem status_put_self (v : View) (k : Journal.Key) (s : Status) :
    (v.put k s).status k.payment k.transaction = s := by
  simp [put]

theorem status_put_of_apart (h : Apart k k') (v : View) (s : Status) :
    (v.put k s).status k'.payment k'.transaction = v.status k'.payment k'.transaction :=
  if_neg fun h' => h ⟨h'.1.symm, h'.2.symm⟩

theorem status_charge (v : View) (payment : Ident) (key : String) : (v.charge payment key).status = v.status := rfl

theorem put_charge (v : View) (payment : Ident) (key : String) (k : Journal.Key) (s : Status) :
    (v.charge payment key).put k s = (v.put k s).charge payment key := rfl

/-- A chargeback that is there already. -/
theorem charge_of_charged {v : View} {payment : Ident} {key : String} (h : v.charged payment key) :
    v.charge payment key = v := by
  unfold charge
  congr 1
  funext payment' key'
  rw [eq_iff_iff, or_iff_left_iff_imp]
  rintro ⟨rfl, rfl⟩
  exact h

theorem charge_comm (v : View) (payment payment' : Ident) (key key' : String) :
    (v.charge payment key).charge payment' key' = (v.charge payment' key').charge payment key := by
  simp only [charge, or_right_comm]

end View

namespace Hit

open View

/-- The attempt that a hit is about, if it is about one. -/
def key? : Hit → Option Journal.Key
  | succeed k | fail k => some k
  | charge _ _ => none

/-- Two hits that are about the same transaction are about the same attempt. -/
def Linked (h h' : Hit) : Prop :=
  ∀ k k', h.key? = some k → h'.key? = some k' → ¬ Apart k k' → k = k'

variable {k k' : Journal.Key}

theorem succeed_succeed (h : Apart k k') (v : View) :
    act (act v (succeed k)) (succeed k') = act (act v (succeed k')) (succeed k) := by
  simp only [act_succeed]
  by_cases hk : v.status k.payment k.transaction = .paymentFailure <;>
    by_cases hk' : v.status k'.payment k'.transaction = .paymentFailure <;>
    simp [hk, hk', status_put_of_apart h, status_put_of_apart h.symm, put_comm h]

/-- A failure and a success of different transactions, or of the same one: then the failure stays. -/
theorem fail_succeed (h : Apart k k' ∨ k = k') (v : View) :
    act (act v (fail k)) (succeed k') = act (act v (succeed k')) (fail k) := by
  simp only [act_succeed, act_fail]
  rcases h with h | rfl
  · rw [status_put_of_apart h]
    split
    · rfl
    · rw [put_comm h]
  · rw [status_put_self, if_pos rfl]
    split
    · rfl
    · rw [put_put]

theorem fail_fail (h : Apart k k') (v : View) : act (act v (fail k)) (fail k') = act (act v (fail k')) (fail k) :=
  put_comm h v _ _

theorem charge_act (v : View) (payment : Ident) (key : String) (h : Hit) :
    act (act v (charge payment key)) h = act (act v h) (charge payment key) := by
  cases h with
  | succeed k =>
    simp only [act_succeed, act_charge, status_charge]
    by_cases hk : v.status k.payment k.transaction = .paymentFailure <;> simp [hk, put_charge]
  | fail k => rfl
  | charge payment' key' => exact charge_comm v _ _ _ _

theorem act_comm {h h' : Hit} (linked : Linked h h') (v : View) : act (act v h) h' = act (act v h') h := by
  have cases_of : ∀ k k', h.key? = some k → h'.key? = some k' → Apart k k' ∨ k = k' := fun k k' hk hk' =>
    or_iff_not_imp_left.2 (linked k k' hk hk')
  match h, h' with
  | charge _ _, h' => exact charge_act v _ _ h'
  | h, charge _ _ => exact (charge_act v _ _ h).symm
  | fail k, succeed k' => exact fail_succeed (cases_of k k' rfl rfl) v
  | succeed k, fail k' => exact (fail_succeed ((cases_of k k' rfl rfl).imp Apart.symm Eq.symm) v).symm
  | succeed k, succeed k' =>
    rcases cases_of k k' rfl rfl with ha | rfl
    · exact succeed_succeed ha v
    · rfl
  | fail k, fail k' =>
    rcases cases_of k k' rfl rfl with ha | rfl
    · exact fail_fail ha v
    · rfl

end Hit

namespace Delivery

open Procedure Platform Matching View

variable {r : Registry} {i : Item} {w v : World} {m : Match} {s : Status}

/-! ### One item -/

theorem status_view {tenant : Option Ident} (found : Found w i tenant m) (ho : m.transaction.operation ≠ .chargeback) :
    (View.of w).status m.attempt.payment m.attempt.transaction = m.transaction.status := by
  change w.platform.statusOf _ _ = _
  rw [Platform.statusOf, movable?_eq_some found.payment found.transaction ho]
  rfl

/-- The hit of a transition of the matched transaction. -/
theorem act_of_asks {t : Tenant} {tenant : Option Ident} {taken : String → Bool} (found : Found w i tenant m)
    (ho : m.transaction.operation ≠ .chargeback) (asks : Asks i m t ⟨.matched, s⟩) :
    Hit.actOption (View.of w) (Hit.ofResolution i (.of m.attempt) taken (.transition ⟨.matched, s⟩)) =
      (View.of w).put (.of m.attempt) s := by
  have fresh := ((Resolution.ofEvent_eq_transition _).1 asks).2
  rcases Resolution.status_of_transition asks with hs | hs <;> dsimp only at hs <;> subst hs
  · refine if_neg fun hf => fresh ⟨rfl, ?_⟩
    rw [← status_view found ho]
    exact hf
  · rfl

/-- The hit of a new chargeback. -/
theorem act_of_newChargeback (u : View) (taken : String → Bool) (s : Status) {k : Journal.Key} {payment : Ident}
    (hp : k.payment = payment) {reference : String} (carried : i.reference = some reference) :
    Hit.actOption u (Hit.ofResolution i k taken (.transition ⟨.newChargeback, s⟩)) =
      if taken (chargebackKey payment reference) then u else u.charge payment (chargebackKey payment reference) := by
  rw [Hit.ofResolution, carried, Option.map_some, Option.bind_some, hp]
  split <;> rfl

/-- Where the event asks for nothing, the hit is stale, if there is one. -/
theorem act_of_not_asks (h : accepted r i w.journal.attempts w.platform = .ok m)
    (hx : ∀ x, ¬ Asks i m (tenantFor r i m) x) :
    Hit.actOption (View.of w) (aim r i w.platform m.attempt) = View.of w := by
  obtain ⟨-, hm, -⟩ := accepted_eq_ok.1 h
  have found := found_of_sight hm
  by_cases ho : m.transaction.operation = .chargeback
  · rw [aim_of_chargeback found ho]
    rfl
  · rw [aim_of_accepted h ho]
    cases hr : Resolution.ofEvent m.transaction.operation .pending i.eventCode i.success
        (Resolution.failing (tenantFor r i m) m.family) with
    | transition x =>
      have := hx x
      unfold Asks at this
      rw [Resolution.ofEvent_eq_transition, hr, not_and_not_right] at this
      obtain ⟨rfl, hf⟩ := this rfl
      exact if_pos ((status_view found ho).trans hf)
    | _ => rfl

/-- The item changes the view of the world by its hit, and nothing else. -/
def Follows (r : Registry) (i : Item) (w : World) : Prop :=
  Frame w ((item r i).fairly w).2 ∧ View.of ((item r i).fairly w).2 = Hit.actOption (View.of w) (hit r i w)

theorem follows_of_error {o : Outcome} (h : accepted r i w.journal.attempts w.platform = .error o) :
    Follows r i w := by
  obtain ⟨e, he⟩ := item_of_error h
  rw [Follows, he, hit_of_error h]
  exact ⟨.of_same rfl rfl, rfl⟩

/-- Nothing is written, and the hit is void. -/
theorem follows_of_pure (h : accepted r i w.journal.attempts w.platform = .ok m) {o : Outcome}
    (hs : settle i m (tenantFor r i m) = pure o)
    (void : Hit.actOption (View.of w) (aim r i w.platform m.attempt) = View.of w) : Follows r i w := by
  obtain ⟨e, he⟩ := item_of_ok h (settle_fairly_of_eq_pure hs w)
  rw [Follows, he, hit_of_ok h, void]
  exact ⟨.of_same rfl rfl, rfl⟩

/-- Where the event asks for something, this is what it bears on, and the transaction is no chargeback. -/
theorem aim_of_asks (h : accepted r i w.journal.attempts w.platform = .ok m) {x : Transition}
    (asks : Asks i m (tenantFor r i m) x) :
    m.transaction.operation ≠ .chargeback ∧ aim r i w.platform m.attempt =
      Hit.ofResolution i (.of m.attempt) (w.platform.taken m.attempt.payment) (.transition x) := by
  have ho : m.transaction.operation ≠ .chargeback := by
    intro ho
    unfold Asks at asks
    rw [ho] at asks
    exact Resolution.not_transition_of_chargeback asks
  exact ⟨ho, by rw [aim_of_accepted h ho, ((Resolution.ofEvent_eq_transition _).1 asks).1]⟩

/-- The attempt is in step with its transaction, whether or not that has the status already. -/
theorem follows_of_matched (h : accepted r i w.journal.attempts w.platform = .ok m)
    (asks : Asks i m (tenantFor r i m) ⟨.matched, s⟩)
    (references : ∀ a ∈ w.journal.attempts, a.reference.isSome = true) : Follows r i w := by
  obtain ⟨-, hm, -⟩ := accepted_eq_ok.1 h
  have found := found_of_sight hm
  obtain ⟨ho, haim⟩ := aim_of_asks h asks
  rw [Follows, hit_of_ok h, haim, act_of_asks found ho asks]
  by_cases hs : m.transaction.status = s
  · obtain ⟨e, he⟩ := item_of_ok h (settle_kept asks hs w)
    rw [he]
    exact ⟨frame_kept references rfl rfl, view_kept found ho hs rfl rfl⟩
  · obtain ⟨e, he⟩ := item_of_ok h (settle_moved found asks hs)
    rw [he]
    exact ⟨frame_matched found ho rfl rfl references hs, view_matched found ho rfl rfl⟩

/-- A chargeback is created if its key is new, and then it is new to the view. -/
theorem follows_of_newChargeback (h : accepted r i w.journal.attempts w.platform = .ok m)
    (asks : Asks i m (tenantFor r i m) ⟨.newChargeback, s⟩) : Follows r i w := by
  obtain ⟨-, hm, -⟩ := accepted_eq_ok.1 h
  have found := found_of_sight hm
  obtain ⟨-, haim⟩ := aim_of_asks h asks
  cases hr : i.reference with
  | none =>
    refine follows_of_pure h (settle_uncarried asks rfl hr) ?_
    rw [haim, Hit.ofResolution, hr]
    rfl
  | some reference =>
    have hact := act_of_newChargeback (k := .of m.attempt) (View.of w) (w.platform.taken m.attempt.payment) s
      found.payment_id.symm hr
    rw [← haim] at hact
    have hkey := transactionByKey?_eq_none found.payment (chargebackKey m.payment.id reference)
    cases hk : m.payment.transactionByKey? (chargebackKey m.payment.id reference) with
    | some known =>
      refine follows_of_pure h (settle_known asks rfl hr hk) (hact.trans ?_)
      split
      · rfl
      · next htaken =>
        -- the key is that of a chargeback, which is in the view already
        refine charge_of_charged ?_
        change _ ∈ w.platform.chargebackKeys m.payment.id
        rw [found.payment_id] at hkey hk htaken ⊢
        by_contra hn
        exact absurd (hkey.2 ⟨by simpa using htaken, hn⟩) (by simp [hk])
    | none =>
      obtain ⟨e, he⟩ := item_of_ok h (settle_created found asks rfl hr hk)
      rw [Follows, he, hit_of_ok h, hact, (hkey.1 hk).1]
      refine ⟨frame_created found hk rfl rfl, ?_⟩
      exact view_created found hk (v := World.noted _ e) rfl rfl

/-- Without failing calls, an item that is no reversal changes the view by its hit, and nothing else. -/
theorem item_view (references : ∀ a ∈ w.journal.attempts, a.reference.isSome = true)
    (event : i.eventCode ≠ .chargebackReversed) : Follows r i w := by
  cases h : accepted r i w.journal.attempts w.platform with
  | error o => exact follows_of_error h
  | ok m =>
    by_cases hx : ∃ x, Asks i m (tenantFor r i m) x
    · obtain ⟨⟨target, s⟩, asks⟩ := hx
      cases target with
      | matched => exact follows_of_matched h asks references
      | newChargeback => exact follows_of_newChargeback h asks
      | existingChargeback => exact absurd (Resolution.of_existingChargeback asks rfl).1 event
    · have hx' : ∀ x, ¬ Asks i m (tenantFor r i m) x := fun x asks => hx ⟨x, asks⟩
      obtain ⟨o, hs, -⟩ := settle_of_not_asks hx'
      exact follows_of_pure h hs (act_of_not_asks h hx')

/-! ### Several items -/

/-- The attempt that a hit is about is there. -/
theorem mem_of_hit {h : Hit} (hh : hit r i w = some h) {k : Journal.Key} (hk : h.key? = some k) :
    ∃ a ∈ w.journal.attempts, Journal.Key.of a = k := by
  unfold hit at hh
  split at hh
  · obtain ⟨⟨a, source⟩, hs, ha⟩ := Option.bind_eq_some_iff.1 hh
    refine ⟨a, (spotted_of_spot hs).1, ?_⟩
    obtain ⟨y, -, hy⟩ := Option.bind_eq_some_iff.1 ha
    dsimp only at hy
    split at hy
    · unfold Hit.ofResolution at hy
      split at hy
      · cases hy; exact Option.some.inj hk
      · cases hy; exact Option.some.inj hk
      · obtain ⟨key, -, hy⟩ := Option.bind_eq_some_iff.1 hy
        split at hy <;> cases hy
        cases hk
      · cases hy
    · cases hy
  · cases hh

/-- Where no two attempts are for the same transaction of a payment, all hits are linked. -/
theorem linked_of_hit (distinct : w.journal.DistinctAttempts) {j : Item} {h h' : Hit} (hh : hit r i w = some h)
    (hh' : hit r j w = some h') : Hit.Linked h h' := by
  intro k k' hk hk' hn
  obtain ⟨a, ha, rfl⟩ := mem_of_hit hh hk
  obtain ⟨b, hb, rfl⟩ := mem_of_hit hh' hk'
  obtain ⟨hp, ht⟩ := not_not.1 hn
  rw [List.inj_on_of_nodup_map distinct ha hb (Prod.ext hp ht)]

/-- Without failing calls, items that are no reversals change the view by their hits one after another, and nothing
else; the hits are those of the world before. -/
theorem items_view (items : List Item) (event : ∀ i ∈ items, i.eventCode ≠ .chargebackReversed) (w : World)
    (references : ∀ a ∈ w.journal.attempts, a.reference.isSome = true) :
    Frame w ((each (item r) items).fairly w).2 ∧ View.of ((each (item r) items).fairly w).2 =
      items.foldl (fun u i => Hit.actOption u (hit r i w)) (View.of w) := by
  induction items generalizing w with
  | nil => exact ⟨.of_same rfl rfl, rfl⟩
  | cons i rest ih =>
    rw [List.forall_mem_cons] at event
    obtain ⟨frame, view⟩ := item_view (r := r) references event.1
    -- the hits of the other items are computed in the world before
    obtain ⟨frame', view'⟩ := ih event.2 _ (frame.references references)
    rw [each_fairly_cons, List.foldl_cons, ← view]
    refine ⟨frame.trans frame', ?_⟩
    simpa only [frame.hit_eq] using view'

/-- Attempts that differ in nothing but what a view shows are equal where the view is. -/
theorem attempts_eq {u : World} (distinct : w.journal.DistinctAttempts) (hu : Frame w u) (hv : Frame w v)
    (view : View.of u = View.of v) : u.journal.attempts = v.journal.attempts := by
  have hblank := hu.attempts.trans hv.attempts.symm
  apply List.ext_getElem?
  intro n
  have hn := congrArg (·[n]?) hblank
  simp only [List.getElem?_map] at hn
  cases ha : u.journal.attempts[n]? with
  | none =>
    cases hb : v.journal.attempts[n]? with
    | none => rfl
    | some b => simp [ha, hb] at hn
  | some a =>
    cases hb : v.journal.attempts[n]? with
    | none => simp [ha, hb] at hn
    | some b =>
      have hab : a.blank = b.blank := by simpa [ha, hb] using hn
      have hk : Journal.Key.of a.blank = .of b.blank := by rw [hab]
      change Journal.Key.of a = .of b at hk
      have hs : a.status = b.status := by
        have := congrFun (congrArg View.attempt view) (.of a)
        simp only [View.of, Journal.statusOf] at this
        rw [Journal.find?_key_of_mem (hu.distinct distinct) (List.mem_of_getElem? ha), hk,
          Journal.find?_key_of_mem (hv.distinct distinct) (List.mem_of_getElem? hb)] at this
        exact this
      cases a
      cases b
      simp only [Attempt.blank, Attempt.mk.injEq] at hab hs ⊢
      simp [hab, hs]

/-- A transaction that was there has the same status in worlds with the same view. -/
theorem status?_eq {u : World} (unique : (u.platform.transactions.map (·.id)).Nodup)
    (unique' : (v.platform.transactions.map (·.id)).Nodup) (hu : Frame w u) (hv : Frame w v)
    (view : View.of u = View.of v) {t : Transaction} (ht : t ∈ w.platform.transactions) :
    ∃ s, u.platform.status? t.id = some s ∧ v.platform.status? t.id = some s := by
  -- where the transaction can be moved, its status is in the view
  have moved : ∀ x, (w.platform.nature? x t.id).isSome = true →
      ∃ s, u.platform.status? t.id = some s ∧ v.platform.status? t.id = some s := by
    intro x hx
    have same : ∀ {u : World}, Frame w u → (u.platform.transactions.map (·.id)).Nodup →
        u.platform.status? t.id = some (u.platform.statusOf x t.id) := by
      intro u hu unique
      rw [← hu.nature, nature?, Option.isSome_map] at hx
      obtain ⟨y, hy⟩ := Option.isSome_iff_exists.1 hx
      obtain ⟨hmem, hid⟩ := mem_of_movable? hy
      rw [Platform.statusOf, hy, ← hid, status?_of_mem unique hmem]
      rfl
    have hs : u.platform.statusOf x t.id = v.platform.statusOf x t.id :=
      congrFun (congrFun (congrArg View.status view) x) t.id
    exact ⟨_, same hu unique, hs ▸ same hv unique'⟩
  rcases hu.kept t ht with hu' | ⟨x, hx⟩
  · rcases hv.kept t ht with hv' | ⟨x, hx⟩
    · exact ⟨t.status, status?_of_mem unique hu', status?_of_mem unique' hv'⟩
    · exact moved x hx
  · exact moved x hx

theorem each_unique (items : List Item) (conditions : Conditions)
    (unique : (w.platform.transactions.map (·.id)).Nodup) :
    (((each (item r) items).run conditions w).world.platform.transactions.map (·.id)).Nodup := by
  refine each_preserves (fun u v => (u.platform.transactions.map Transaction.id).Nodup →
    (v.platform.transactions.map Transaction.id).Nodup) (fun _ h => h) (fun h h' hu => h' (h hu)) ?_ items w unique
  intro i u hu
  obtain ⟨log, h⟩ : ∃ log, Progress u.platform ((item r i).exec conditions u).2.platform log := item_progress hu
  exact h.unique

/-- Items that are no reversals may come in any order, if no call fails and every attempt has a reference: the
transactions that were there, and the attempts, end with the same statuses, and every payment with chargebacks of the
same external keys. -/
theorem delivery_order (r : Registry) (w : World)
    (references : ∀ a ∈ w.journal.attempts, a.reference.isSome = true) (attempts : w.journal.DistinctAttempts)
    (unique : (w.platform.transactions.map (·.id)).Nodup) {items items' : List Item} (perm : items.Perm items')
    (event : ∀ i ∈ items, i.eventCode ≠ .chargebackReversed) :
    let v := ((each (item r) items).run .fair w).world
    let v' := ((each (item r) items').run .fair w).world
    (v.platform.transactions.map (·.id)).Nodup ∧ (v'.platform.transactions.map (·.id)).Nodup ∧
      (∀ t ∈ w.platform.transactions, ∃ s, v.platform.status? t.id = some s ∧ v'.platform.status? t.id = some s) ∧
      v.journal.attempts = v'.journal.attempts ∧
      ∀ payment key, key ∈ v.platform.chargebackKeys payment ↔ key ∈ v'.platform.chargebackKeys payment := by
  obtain ⟨frame, view⟩ := items_view (r := r) items event w references
  obtain ⟨frame', view'⟩ := items_view (r := r) items' (fun i hi => event i (perm.mem_iff.2 hi)) w references
  have same : View.of ((each (item r) items).fairly w).2 = View.of ((each (item r) items').fairly w).2 := by
    -- all hits are those of one world, hence linked, hence they commute
    rw [view, view']
    refine perm.foldl_eq' (fun i _ j _ u => ?_) _
    cases hi : hit r i w with
    | none => rfl
    | some h =>
      cases hj : hit r j w with
      | none => rfl
      | some h' => exact Hit.act_comm (linked_of_hit attempts hi hj) u
  have hunique := each_unique (r := r) items .fair unique
  have hunique' := each_unique (r := r) items' .fair unique
  simp only [world_fair] at hunique hunique' ⊢
  refine ⟨hunique, hunique', fun t ht => status?_eq hunique hunique' frame frame' same ht,
    attempts_eq attempts frame frame' same, fun payment key => ?_⟩
  exact iff_of_eq (congrFun (congrFun (congrArg View.charged same) payment) key)

/-- An authorization that succeeds and fails, told in either order. -/
theorem delivery_order_of_authorization :
    (∀ a ∈ specimen.journal.attempts, a.reference.isSome = true) ∧ specimen.journal.DistinctAttempts ∧
      (specimen.platform.transactions.map (·.id)).Nodup ∧
      let told := specimenItem .authorisation true none none
      let corrected := specimenItem .authorisation false none none
      ((each (item .empty) [told, corrected]).run .fair specimen).world.platform.status? (.given 4) =
          some .paymentFailure ∧
        ((each (item .empty) [corrected, told]).run .fair specimen).world.platform.status? (.given 4) =
          some .paymentFailure := by
  have references : ∀ a ∈ specimen.journal.attempts, a.reference.isSome = true := by decide
  have attempts : specimen.journal.DistinctAttempts := by unfold Journal.DistinctAttempts; decide
  have unique : (specimen.platform.transactions.map (·.id)).Nodup := by decide
  refine ⟨references, attempts, unique, ?_⟩
  obtain ⟨-, -, hs, -, -⟩ := delivery_order .empty specimen references attempts unique
    (.swap (specimenItem .authorisation false none none) (specimenItem .authorisation true none none) [])
    (by decide)
  obtain ⟨s, h, h'⟩ := hs ⟨.given 4, "authorization", .authorize, .pending, none, none, none, .live 1⟩ (by decide)
  have failed : ((each (item .empty) [specimenItem .authorisation true none none,
      specimenItem .authorisation false none none]).run .fair specimen).world.platform.status? (.given 4) =
        some .paymentFailure := by
    rw [world_fair]
    decide +kernel
  exact ⟨failed, h'.trans (h.symm.trans failed)⟩

end Delivery
end Reconciliation.Notification
