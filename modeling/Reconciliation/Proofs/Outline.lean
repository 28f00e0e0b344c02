import Reconciliation.Proofs.Unfailing

/-!
# What items bear on

Where no call fails, and reversals apart, an item does one of three things: it lets a transaction succeed, lets one
fail, or has a chargeback recorded. Which of them, and to what, is fixed from the start: it depends neither on statuses
nor on chargebacks, and nothing else changes.

* `Hit` is what an item does and `hit` computes it from a world.
* `View` is what of a world can change, and `Hit.act` how a hit changes it.
* `Frame` says that nothing but the view has changed; hits are the same in both worlds (`Frame.hit_eq`).
* `view_kept`, `view_matched` and `view_created` compute the view after each change, `frame_kept` and so on its frame.
-/

namespace Reconciliation

namespace Platform

/-! ### Transactions that can be moved -/

/-- The transaction that a match would load, with the payment method, unless it is a chargeback: events move none. -/
def movable? (p : Platform) (payment transaction : Ident) : Option (Ident × Transaction) :=
  (p.payments.find? (·.id == payment)).bind fun x =>
    ((x.transaction? transaction).filter (·.operation != .chargeback)).map (x.method, ·)

/-- What of it never changes: the payment method and the operation. -/
def nature? (p : Platform) (payment transaction : Ident) : Option (Ident × Operation) :=
  (p.movable? payment transaction).map fun x => (x.1, x.2.operation)

/-- The status, or `pending` where there is no such transaction. -/
def statusOf (p : Platform) (payment transaction : Ident) : Status :=
  ((p.movable? payment transaction).map (·.2.status)).getD .pending

/-- The operations and external keys of the transactions of a payment. -/
def labels (p : Platform) (payment : Ident) : List (Operation × String) :=
  ((p.payments.find? (·.id == payment)).map fun x => x.transactions.map fun t => (t.operation, t.externalKey)).getD []

/-- A transaction other than a chargeback has the key. -/
def taken (p : Platform) (payment : Ident) (key : String) : Bool :=
  (p.labels payment).any fun x => x.1 != .chargeback && x.2 == key

/-- The external keys of the chargebacks of a payment. -/
def chargebackKeys (p : Platform) (payment : Ident) : List String :=
  ((p.payments.find? (·.id == payment)).map fun x => x.chargebacks.map (·.externalKey)).getD []

variable {p : Platform} {x : Payment} {t : Transaction} {c : StatusChange} {payment transaction : Ident}

theorem movable?_eq_some (hx : p.payments.find? (·.id == payment) = some x) (ht : x.transaction? transaction = some t)
    (ho : t.operation ≠ .chargeback) : p.movable? payment transaction = some (x.method, t) := by
  simp [movable?, hx, ht, ho]

theorem movable?_of_chargeback (hx : p.payments.find? (·.id == payment) = some x)
    (ht : x.transaction? transaction = some t) (ho : t.operation = .chargeback) :
    p.movable? payment transaction = none := by
  simp [movable?, hx, ht, ho]

theorem mem_of_movable? {y : Ident × Transaction} (h : p.movable? payment transaction = some y) :
    y.2 ∈ p.transactions ∧ y.2.id = transaction := by
  obtain ⟨x, hx, hy⟩ := Option.bind_eq_some_iff.1 h
  obtain ⟨t, ht, rfl⟩ := Option.map_eq_some_iff.1 hy
  have ht' := (Option.filter_eq_some_iff.1 ht).1
  exact ⟨List.mem_flatMap.2 ⟨x, List.mem_of_find?_eq_some hx, List.mem_of_find?_eq_some ht'⟩,
    by simpa using List.find?_some ht'⟩

theorem chargebackKeys_eq (p : Platform) (payment : Ident) :
    p.chargebackKeys payment = ((p.labels payment).filter (·.1 == .chargeback)).map (·.2) := by
  unfold chargebackKeys labels
  cases p.payments.find? (·.id == payment) with
  | none => rfl
  | some x => simp [Payment.chargebacks, List.filter_map, Function.comp_def]

/-- A change of status changes what can be moved only where it moves it. -/
theorem movable?_updateTransaction (hx : p.payments.find? (·.id == c.payment) = some x)
    (ht : x.transaction? c.transaction = some t) (payment transaction : Ident) :
    (p.updateTransaction c).2.movable? payment transaction =
      if payment = c.payment ∧ transaction = c.transaction then
        (p.movable? payment transaction).map fun y => (y.1, changed c y.2)
      else p.movable? payment transaction := by
  unfold movable?
  rw [find?_updateTransaction hx ht]
  by_cases hp : payment = c.payment
  · subst hp
    simp only [hx, if_true, true_and, Option.bind_some, transaction?_edited, edited_method]
    split
    · next hu =>
      rw [hu, ht]
      by_cases ho : t.operation = .chargeback <;> simp [Option.filter_some, ho, changed]
    · rfl
  · simp [hp]

theorem labels_updateTransaction (hx : p.payments.find? (·.id == c.payment) = some x)
    (ht : x.transaction? c.transaction = some t) (payment : Ident) :
    (p.updateTransaction c).2.labels payment = p.labels payment := by
  unfold labels
  rw [find?_updateTransaction hx ht]
  split
  · next hp =>
    rw [hp, hx]
    simp only [Option.map_some, Option.getD_some, edited, change_eq]
    exact map_changeFirst fun _ _ => rfl
  · rfl

section New

variable {n : NewChargeback} (hx : p.payments.find? (·.id == payment) = some x)
  (hk : x.transactionByKey? n.externalKey = none)

include hx hk

/-- A new chargeback can not be moved. -/
theorem movable?_createChargeback (payment' transaction : Ident) :
    (p.createChargeback payment n).2.movable? payment' transaction = p.movable? payment' transaction := by
  unfold movable?
  rw [find?_createChargeback hx hk]
  split
  · next hp =>
    subst hp
    simp only [hx, Option.bind_some, transaction?_extended, extended_method]
    cases x.transaction? transaction with
    | some t => rfl
    | none =>
      simp only [Option.none_or, Option.filter_none, Option.map_none]
      split
      · simp [chargebackTransaction]
      · rfl
  · rfl

theorem labels_createChargeback (payment' : Ident) :
    (p.createChargeback payment n).2.labels payment' =
      if payment' = payment then p.labels payment ++ [(.chargeback, n.externalKey)] else p.labels payment' := by
  unfold labels
  rw [find?_createChargeback hx hk]
  split
  · simp [hx, extended, chargebackTransaction]
  · rfl

end New

/-- A key that no transaction of a payment has. -/
theorem transactionByKey?_eq_none (hx : p.payments.find? (·.id == payment) = some x) (key : String) :
    x.transactionByKey? key = none ↔ p.taken payment key = false ∧ key ∉ p.chargebackKeys payment := by
  simp only [Payment.transactionByKey?, List.find?_eq_none, beq_iff_eq, taken, chargebackKeys_eq, labels, hx,
    Option.map_some, Option.getD_some, List.any_map, List.any_eq_false, List.filter_map, List.map_map, List.mem_map,
    List.mem_filter, Function.comp_apply, Bool.and_eq_true, bne_iff_ne, ne_eq, not_and, not_exists]
  constructor
  · intro h
    exact ⟨fun t ht _ => h t ht, fun t ⟨ht, _⟩ => h t ht⟩
  · rintro ⟨h, h'⟩ t ht
    by_cases ho : t.operation = .chargeback
    · exact h' t ⟨ht, ho⟩
    · exact h t ht ho

end Platform

/-- The status of the attempt with a key, or `pending` where there is none. -/
def Journal.statusOf (j : Journal) (key : Key) : Status :=
  ((j.attempts.find? (Key.of · == key)).map (·.status)).getD .pending

namespace Notification

/-! ### Hits -/

/-- What an item bears on. -/
inductive Hit where
  | succeed (key : Journal.Key)
  | fail (key : Journal.Key)
  | charge (payment : Ident) (key : String)
  deriving DecidableEq

/-- What of a world can change. -/
structure View where
  status : Ident → Ident → Status
  attempt : Journal.Key → Status
  charged : Ident → String → Prop

/-- The view of a world. -/
def View.of (w : World) : View where
  status := w.platform.statusOf
  attempt := w.journal.statusOf
  charged payment key := key ∈ w.platform.chargebackKeys payment

namespace View

/-- A view with another status of a transaction and of its attempt. -/
def put (v : View) (k : Journal.Key) (s : Status) : View where
  status payment transaction :=
    if payment = k.payment ∧ transaction = k.transaction then s else v.status payment transaction
  attempt key := if key = k then s else v.attempt key
  charged := v.charged

/-- A view with one more chargeback. -/
def charge (v : View) (payment : Ident) (key : String) : View :=
  { v with charged := fun payment' key' => v.charged payment' key' ∨ payment' = payment ∧ key' = key }

end View

namespace Hit

/-- What a hit makes of a view: a failure is final. -/
def act (v : View) : Hit → View
  | succeed k => if v.status k.payment k.transaction = .paymentFailure then v else v.put k .success
  | fail k => v.put k .paymentFailure
  | charge payment key => v.charge payment key

theorem act_succeed (v : View) (k : Journal.Key) :
    act v (succeed k) = if v.status k.payment k.transaction = .paymentFailure then v else v.put k .success := rfl

theorem act_fail (v : View) (k : Journal.Key) : act v (fail k) = v.put k .paymentFailure := rfl

theorem act_charge (v : View) (payment : Ident) (key : String) :
    act v (charge payment key) = v.charge payment key := rfl

/-- What a hit, or none, makes of a view. -/
def actOption (v : View) (h : Option Hit) : View := h.elim v (act v)

/-- The hit that a resolution leads to. -/
def ofResolution (i : Item) (k : Journal.Key) (taken : String → Bool) : Resolution → Option Hit
  | .transition ⟨.matched, .success⟩ => some (.succeed k)
  | .transition ⟨.matched, .paymentFailure⟩ => some (.fail k)
  | .transition ⟨.newChargeback, _⟩ =>
    (i.reference.map (Delivery.chargebackKey k.payment)).bind fun key =>
      if taken key then none else some (.charge k.payment key)
  | _ => none

end Hit

namespace Delivery

open Procedure Platform Matching

variable {r : Registry} {i : Item} {w v : World} {m : Match} {s : Status}

/-- What an item bears on through an attempt. -/
def aim (r : Registry) (i : Item) (p : Platform) (a : Attempt) : Option Hit :=
  (p.nature? a.payment a.transaction).bind fun x =>
    let t := tenantOf r (r.forAccount? i.merchantAccount) a
    if verified i t then
      Hit.ofResolution i (.of a) (p.taken a.payment) (Resolution.ofEvent x.2 .pending i.eventCode i.success
        (Resolution.failing t (family i (p.method? x.1))))
    else none

/-- What an item bears on. -/
def hit (r : Registry) (i : Item) (w : World) : Option Hit :=
  if (r.forAccount? i.merchantAccount).all (verified i) then
    (spot w.journal.attempts i (.forEvent i.eventCode) ((r.forAccount? i.merchantAccount).map (·.id))).bind
      fun x => aim r i w.platform x.1
  else none

/-- A transaction that is not there can not be moved. -/
theorem movable?_of_behold {p : Platform} {a : Attempt} {source : Source} (h : behold p i a source = none) :
    p.movable? a.payment a.transaction = none := by
  unfold movable?
  unfold behold at h
  cases hp : p.payments.find? (·.id == a.payment) with
  | none => rfl
  | some x =>
    rw [hp, Option.bind_some, Option.map_eq_none_iff] at h
    simp [h]

/-- An item whose signature is not that of the attempt's tenant bears on nothing. -/
theorem aim_of_unverified {p : Platform} {a : Attempt}
    (h : ¬ verified i (tenantOf r (r.forAccount? i.merchantAccount) a) = true) : aim r i p a = none := by
  unfold aim
  cases p.nature? a.payment a.transaction with
  | none => rfl
  | some x => exact if_neg h

theorem hit_of_error {o : Outcome} (h : accepted r i w.journal.attempts w.platform = .error o) :
    hit r i w = none := by
  unfold accepted at h
  unfold hit
  split at h
  · next hv =>
    rw [if_pos hv]
    cases hs : spot w.journal.attempts i (.forEvent i.eventCode) ((r.forAccount? i.merchantAccount).map (·.id)) with
    | none => rfl
    | some x =>
      rw [sight, hs, Option.bind_some] at h
      rw [Option.bind_some]
      cases hb : behold w.platform i x.1 x.2 with
      | none => rw [aim, nature?, movable?_of_behold hb]; rfl
      | some m =>
        dsimp only at h
        rw [hb] at h
        dsimp only at h
        split at h
        · cases h
        · next ht =>
          have ha : m.attempt = x.1 := attempt_of_behold hb
          rw [tenantFor, ha] at ht
          exact aim_of_unverified ht
  · next hv => rw [if_neg hv]

/-- Where a match is accepted, its attempt is aimed through. -/
theorem hit_of_ok (h : accepted r i w.journal.attempts w.platform = .ok m) :
    hit r i w = aim r i w.platform m.attempt := by
  obtain ⟨hv, hm, -⟩ := accepted_eq_ok.1 h
  rw [hit, if_pos hv, (sight_eq_some.1 hm).1]
  rfl

theorem aim_of_chargeback {tenant : Option Ident} (found : Found w i tenant m)
    (ho : m.transaction.operation = .chargeback) : aim r i w.platform m.attempt = none := by
  rw [aim, nature?, movable?_of_chargeback found.payment found.transaction ho]
  rfl

theorem aim_of_accepted (h : accepted r i w.journal.attempts w.platform = .ok m)
    (ho : m.transaction.operation ≠ .chargeback) :
    aim r i w.platform m.attempt = Hit.ofResolution i (.of m.attempt) (w.platform.taken m.attempt.payment)
      (Resolution.ofEvent m.transaction.operation .pending i.eventCode i.success
        (Resolution.failing (tenantFor r i m) m.family)) := by
  obtain ⟨-, hm, ht⟩ := accepted_eq_ok.1 h
  have found := found_of_sight hm
  obtain ⟨-, -, -, hf⟩ := sight_eq_some.1 hm
  rw [aim, nature?, movable?_eq_some found.payment found.transaction ho, hf]
  exact if_pos ht

/-! ### Nothing else changes -/

/-- The two worlds differ in nothing but what a view shows. -/
structure Frame (w v : World) : Prop where
  attempts : v.journal.attempts.map Attempt.blank = w.journal.attempts.map Attempt.blank
  methods : v.platform.methods = w.platform.methods
  nature : v.platform.nature? = w.platform.nature?
  taken : v.platform.taken = w.platform.taken
  /-- Transactions that can not be moved are still there. -/
  kept : ∀ t ∈ w.platform.transactions, t ∈ v.platform.transactions ∨ ∃ x, (w.platform.nature? x t.id).isSome

namespace Frame

theorem of_same (hp : v.platform = w.platform) (ha : v.journal.attempts = w.journal.attempts) : Frame w v where
  attempts := by rw [ha]
  methods := by rw [hp]
  nature := by rw [hp]
  taken := by rw [hp]
  kept t ht := .inl (hp ▸ ht)

theorem trans {u : World} (h : Frame u v) (h' : Frame v w) : Frame u w where
  attempts := h'.attempts.trans h.attempts
  methods := h'.methods.trans h.methods
  nature := h'.nature.trans h.nature
  taken := h'.taken.trans h.taken
  kept t ht := by
    rcases h.kept t ht with ht' | ht'
    · exact (h'.kept t ht').imp id fun ⟨x, hx⟩ => ⟨x, h.nature ▸ hx⟩
    · exact .inr ht'

/-- Every item bears on the same as before. -/
theorem hit_eq (h : Frame w v) (r : Registry) (i : Item) : hit r i v = hit r i w := by
  have haim : aim r i v.platform = aim r i w.platform := by
    funext a
    simp only [aim, h.nature, h.taken, Platform.method?, h.methods]
  have hspot : ∀ (p : Platform) (x : Attempt × Source), aim r i p x.1 = aim r i p x.1.blank := fun _ _ => rfl
  unfold hit
  split
  · simp only [haim, hspot w.platform]
    have := congrArg (spot · i (.forEvent i.eventCode) ((r.forAccount? i.merchantAccount).map (·.id))) h.attempts
    simp only [spot_blank] at this
    have hb := congrArg (·.bind fun x => aim r i w.platform x.1) this
    simpa only [Option.bind_map, Function.comp_def] using hb
  · rfl

theorem distinct (h : Frame w v) (distinct : w.journal.DistinctAttempts) : v.journal.DistinctAttempts := by
  have := congrArg (List.map fun a : Attempt => (a.payment, a.transaction)) h.attempts
  simp only [List.map_map, Function.comp_def, Attempt.blank] at this
  unfold Journal.DistinctAttempts
  rwa [this]

theorem references (h : Frame w v) (references : ∀ a ∈ w.journal.attempts, a.reference.isSome = true) :
    ∀ a ∈ v.journal.attempts, a.reference.isSome = true := by
  intro a ha
  have := List.mem_map_of_mem (f := Attempt.blank) ha
  rw [h.attempts] at this
  obtain ⟨b, hb, hba⟩ := List.mem_map.1 this
  have hr : b.blank.reference = a.blank.reference := by rw [hba]
  exact (congrArg Option.isSome hr).symm.trans (references b hb)

end Frame

/-! ### Moves -/

/-- Where every attempt has a reference, a move changes nothing but a status. -/
theorem blank_movedAttempts (references : ∀ a ∈ w.journal.attempts, a.reference.isSome = true) :
    (movedAttempts i m s w).map Attempt.blank = w.journal.attempts.map Attempt.blank := by
  refine map_changeFirst fun a ha => ?_
  obtain ⟨x, hx⟩ := Option.isSome_iff_exists.1 (references a ha)
  simp [Attempt.blank, Journal.moved, hx]

theorem statusOf_movedAttempts (recorded : m.attempt ∈ w.journal.attempts)
    (ha : v.journal.attempts = movedAttempts i m s w) (key : Journal.Key) :
    v.journal.statusOf key = if key = .of m.attempt then s else w.journal.statusOf key := by
  unfold Journal.statusOf
  rw [ha, movedAttempts]
  split
  · next hk =>
    obtain ⟨a, hf⟩ := exists_find? (p := (Journal.Key.of · == .of m.attempt)) recorded (by simp)
    rw [hk, find?_changeFirst fun a => by rw [Journal.key_moved], hf]
    rfl
  · next hk =>
    rw [find?_changeFirst_of_disjoint] <;>
    · intro a ha
      simp only [beq_iff_eq, beq_eq_false_iff_ne, Journal.key_moved] at ha ⊢
      exact fun h => hk (h.symm.trans ha)

/-- A move of an attempt and of its transaction is a change of their statuses in the view. -/
theorem view_moved (recorded : m.attempt ∈ w.journal.attempts) (ha : v.journal.attempts = movedAttempts i m s w)
    (hs : ∀ payment transaction, v.platform.statusOf payment transaction =
      if payment = m.attempt.payment ∧ transaction = m.attempt.transaction then s
      else w.platform.statusOf payment transaction)
    (hl : v.platform.labels = w.platform.labels) : View.of v = (View.of w).put (.of m.attempt) s := by
  have h₁ : v.platform.statusOf = ((View.of w).put (.of m.attempt) s).status := by
    funext payment transaction
    exact hs payment transaction
  have h₂ : v.journal.statusOf = ((View.of w).put (.of m.attempt) s).attempt := by
    funext key
    exact statusOf_movedAttempts recorded ha key
  have h₃ : v.platform.chargebackKeys = w.platform.chargebackKeys := by
    funext payment
    rw [chargebackKeys_eq, hl, chargebackKeys_eq]
  rw [View.of, h₁, h₂, h₃]
  rfl

/-- A match that already has the status. -/
theorem frame_kept (references : ∀ a ∈ w.journal.attempts, a.reference.isSome = true)
    (hp : v.platform = w.platform) (ha : v.journal.attempts = movedAttempts i m s w) : Frame w v where
  attempts := by rw [ha, blank_movedAttempts references]
  methods := by rw [hp]
  nature := by rw [hp]
  taken := by rw [hp]
  kept t ht := .inl (hp ▸ ht)

theorem view_kept {tenant : Option Ident} (found : Found w i tenant m) (ho : m.transaction.operation ≠ .chargeback)
    (status : m.transaction.status = s) (hp : v.platform = w.platform)
    (ha : v.journal.attempts = movedAttempts i m s w) : View.of v = (View.of w).put (.of m.attempt) s := by
  refine view_moved found.recorded ha (fun payment transaction => ?_) (by rw [hp])
  rw [hp]
  split
  · next h => rw [h.1, h.2, Platform.statusOf, movable?_eq_some found.payment found.transaction ho]; exact status
  · rfl

section Moved

variable {tenant : Option Ident} (found : Found w i tenant m) (ho : m.transaction.operation ≠ .chargeback)
  (hp : v.platform = (w.platform.updateTransaction (matchedChange i m s)).2)
  (ha : v.journal.attempts = movedAttempts i m s w)

include found hp

theorem movable?_matched (payment transaction : Ident) :
    v.platform.movable? payment transaction =
      if payment = m.attempt.payment ∧ transaction = m.attempt.transaction then
        (w.platform.movable? payment transaction).map fun y => (y.1, changed (matchedChange i m s) y.2)
      else w.platform.movable? payment transaction := by
  rw [hp, movable?_updateTransaction (c := matchedChange i m s) found.payment_found found.transaction_found,
    ← found.payment_id, ← found.transaction_id]
  rfl

theorem labels_matched : v.platform.labels = w.platform.labels := by
  funext payment
  rw [hp, labels_updateTransaction (c := matchedChange i m s) found.payment_found found.transaction_found]

include ho ha

theorem view_matched : View.of v = (View.of w).put (.of m.attempt) s := by
  refine view_moved found.recorded ha (fun payment transaction => ?_) (labels_matched found hp)
  rw [Platform.statusOf, movable?_matched found hp]
  split
  · next h =>
    rw [h.1, h.2, movable?_eq_some found.payment found.transaction ho]
    rfl
  · rfl

theorem frame_matched (references : ∀ a ∈ w.journal.attempts, a.reference.isSome = true)
    (status : m.transaction.status ≠ s) : Frame w v where
  attempts := by rw [ha, blank_movedAttempts references]
  methods := by rw [hp, methods_updateTransaction]
  nature := by
    funext payment transaction
    rw [nature?, movable?_matched found hp, nature?]
    split
    · rw [Option.map_map]
      rfl
    · rfl
  taken := by
    funext payment key
    rw [taken, labels_matched found hp, taken]
  kept t ht := by
    obtain ⟨p', hu, hr, -⟩ := moved_writes found status
    rw [hu] at hp
    obtain ⟨l₁, l₂, hl, hl'⟩ := hr.transactions
    rw [hl, List.mem_append, List.mem_cons] at ht
    rw [hp, hl', List.mem_append, List.mem_cons]
    rcases ht with ht | rfl | ht
    · exact .inl (.inl ht)
    · refine .inr ⟨m.attempt.payment, ?_⟩
      rw [nature?, found.transaction_id, movable?_eq_some found.payment found.transaction ho]
      rfl
    · exact .inl (.inr (.inr ht))

end Moved

/-! ### New chargebacks -/

section Created

variable {tenant : Option Ident} (found : Found w i tenant m) {reference : String}
  (hk : m.payment.transactionByKey? (chargebackKey m.payment.id reference) = none)
  (hp : v.platform = (w.platform.createChargeback m.payment.id (newChargeback i m reference)).2)
  (ha : v.journal.attempts = w.journal.attempts)

include found hk hp

theorem movable?_created : v.platform.movable? = w.platform.movable? := by
  funext payment transaction
  rw [hp]
  exact movable?_createChargeback (n := newChargeback i m reference) found.payment_found hk _ _

theorem labels_created (payment : Ident) : v.platform.labels payment =
    if payment = m.payment.id then
      w.platform.labels m.payment.id ++ [(.chargeback, chargebackKey m.payment.id reference)]
    else w.platform.labels payment := by
  rw [hp]
  exact labels_createChargeback (n := newChargeback i m reference) found.payment_found hk _

include ha

theorem view_created : View.of v = (View.of w).charge m.payment.id (chargebackKey m.payment.id reference) := by
  have hcharged : ∀ payment key, key ∈ v.platform.chargebackKeys payment ↔
      ((View.of w).charge m.payment.id (chargebackKey m.payment.id reference)).charged payment key := by
    intro payment key
    rw [chargebackKeys_eq, labels_created found hk hp]
    split
    · next h => simp [h, View.charge, View.of, chargebackKeys_eq]
    · next h => simp [h, View.charge, View.of, chargebackKeys_eq]
  have hstatus : v.platform.statusOf = w.platform.statusOf := by
    funext payment transaction
    rw [Platform.statusOf, movable?_created found hk hp, Platform.statusOf]
  have hattempt : v.journal.statusOf = w.journal.statusOf := by
    funext key
    rw [Journal.statusOf, ha, Journal.statusOf]
  rw [View.of, hstatus, hattempt]
  simp only [hcharged]
  rfl

theorem frame_created : Frame w v where
  attempts := by rw [ha]
  methods := by rw [hp, methods_createChargeback]
  nature := by
    funext payment transaction
    rw [nature?, movable?_created found hk hp, nature?]
  taken := by
    funext payment key
    rw [taken, labels_created found hk hp, taken]
    split
    · next h => simp [h]
    · rfl
  kept t ht := by
    obtain ⟨p', hc, happ, -⟩ := created_writes found hk
    rw [hc] at hp
    obtain ⟨l₁, l₂, hl, hl'⟩ := happ.transactions
    rw [hl, List.mem_append] at ht
    rw [hp, hl', List.mem_append, List.mem_cons]
    exact .inl (ht.imp id .inr)

end Created
end Delivery
end Notification
end Reconciliation
