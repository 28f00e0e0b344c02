import Mathlib.Data.List.Nodup
import Reconciliation.Journal

/-!
# What writes change

The platform and the journal are lists in which a write finds its place by a key: the first element with the key is
changed, or something is appended.

* `changeFirst` is the common form of all changes in place; `changeFirst_split` shows the place.
* `Replaced` and `Appended` say what a write to the platform does to its payments; `updateTransaction_found` and
  `createChargeback_new` say which of them happens.
* `Platform.updateTransaction_again`, `Platform.createChargeback_again` and `Journal.moved_again`: a write that is made
  twice changes nothing the second time but the number of calls.
* `Platform.DistinctInPayments` and `Journal.DistinctAttempts` are what makes keys unique; `find?_of_mem` uses it.
* `Journal.updateStatus_attempts` and `Journal.record_attempts` say what a write does to the journal.
-/

namespace Reconciliation

/-! ### The first element that fits -/

section First

variable {α β : Type} {p q : α → Bool} {f : α → α} {l : List α} {a : α}

/-- Changes the first element that fits. -/
def changeFirst (p : α → Bool) (f : α → α) : List α → List α
  | [] => []
  | a :: rest => if p a then f a :: rest else a :: changeFirst p f rest

theorem exists_find? (h : a ∈ l) (ha : p a = true) : ∃ b, l.find? p = some b :=
  Option.isSome_iff_exists.1 (List.find?_isSome.2 ⟨a, h, ha⟩)

/-- Where keys are distinct, an element is the one that its key finds. -/
theorem find?_of_mem {κ : Type} [DecidableEq κ] {key : α → κ} (h : (l.map key).Nodup) (ha : a ∈ l) :
    l.find? (key · == key a) = some a := by
  obtain ⟨b, hb⟩ := exists_find? (p := (key · == key a)) ha (by simp)
  have hkey : key b = key a := by simpa using List.find?_some hb
  rw [hb, List.inj_on_of_nodup_map h (List.mem_of_find?_eq_some hb) ha hkey]

theorem changeFirst_split (f : α → α) (h : l.find? p = some a) :
    ∃ before after, l = before ++ a :: after ∧ changeFirst p f l = before ++ f a :: after ∧
      ∀ b ∈ before, p b = false := by
  induction l with
  | nil => simp at h
  | cons b rest ih =>
    by_cases hb : p b = true
    · rw [List.find?_cons_of_pos hb] at h
      cases h
      exact ⟨[], rest, rfl, by simp [changeFirst, hb], by simp⟩
    · rw [List.find?_cons_of_neg hb] at h
      obtain ⟨before, after, rfl, hc, hn⟩ := ih h
      refine ⟨b :: before, after, rfl, by simp [changeFirst, hb, hc], ?_⟩
      simpa [hb] using hn

theorem changeFirst_of_find?_eq_none (f : α → α) (h : l.find? p = none) : changeFirst p f l = l := by
  induction l with
  | nil => rfl
  | cons b rest ih =>
    rw [List.find?_cons] at h
    split at h
    · cases h
    · next hb => simp [changeFirst, hb, ih h]

/-- The element that was changed is found again. -/
theorem find?_changeFirst (hf : ∀ a, p (f a) = p a) :
    (changeFirst p f l).find? p = (l.find? p).map f := by
  induction l with
  | nil => rfl
  | cons b rest ih =>
    by_cases hb : p b = true
    · simp [changeFirst, hb, hf]
    · simp [changeFirst, hb, ih]

/-- Elements of another kind are found as before. -/
theorem find?_changeFirst_of_disjoint (hq : ∀ a, p a = true → q a = false)
    (hf : ∀ a, p a = true → q (f a) = false) : (changeFirst p f l).find? q = l.find? q := by
  induction l with
  | nil => rfl
  | cons b rest ih =>
    by_cases hb : p b = true
    · simp [changeFirst, hb, hq b hb, hf b hb]
    · simp [changeFirst, hb, List.find?_cons, ih]

/-- A change that changes nothing the second time need not be made twice. -/
theorem changeFirst_changeFirst (hp : ∀ a, p (f a) = p a) (hf : ∀ a, f (f a) = f a) :
    changeFirst p f (changeFirst p f l) = changeFirst p f l := by
  induction l with
  | nil => rfl
  | cons b rest ih => by_cases hb : p b = true <;> simp [changeFirst, hb, hp, hf, ih]

/-- Where keys are distinct, the first element with a key is the only one. -/
theorem changeFirst_eq_map {κ : Type} [DecidableEq κ] {key : α → κ} {k : κ} (f : α → α) (h : (l.map key).Nodup) :
    changeFirst (key · == k) f l = l.map fun a => if key a = k then f a else a := by
  induction l with
  | nil => rfl
  | cons b rest ih =>
    rw [List.map_cons, List.nodup_cons] at h
    by_cases hb : key b = k
    · have others : rest.map (fun a => if key a = k then f a else a) = rest.map id := by
        refine List.map_congr_left fun a ha => if_neg fun hk => h.1 ?_
        rw [hb, ← hk]
        exact List.mem_map_of_mem ha
      simp [changeFirst, hb, others]
    · simp [changeFirst, hb, ih h.2]

theorem changeFirst_append_of_mem (f : α → α) {l l' : List α} (ha : a ∈ l) (hp : p a = true) :
    changeFirst p f (l ++ l') = changeFirst p f l ++ l' := by
  induction l with
  | nil => cases ha
  | cons b rest ih =>
    by_cases hb : p b = true
    · simp [changeFirst, hb]
    · have hrest : a ∈ rest := (List.mem_cons.1 ha).resolve_left fun h => hb (h ▸ hp)
      simp [changeFirst, hb, ih hrest]

theorem changeFirst_append_of_forall (f : α → α) {l l' : List α} (h : ∀ b ∈ l, p b = false) :
    changeFirst p f (l ++ l') = l ++ changeFirst p f l' := by
  induction l with
  | nil => rfl
  | cons b rest ih =>
    rw [List.forall_mem_cons] at h
    simp [changeFirst, h.1, ih h.2]

theorem map_changeFirst {g : α → β} (hg : ∀ a ∈ l, g (f a) = g a) : (changeFirst p f l).map g = l.map g := by
  induction l with
  | nil => rfl
  | cons b rest ih =>
    rw [List.forall_mem_cons] at hg
    by_cases hb : p b = true <;> simp [changeFirst, hb, hg.1, ih hg.2]

/-- What fits is found again among what is kept by a filter. -/
theorem find?_filter_of_imp (h : ∀ a, p a = true → q a = true) (l : List α) :
    (l.filter q).find? p = l.find? p := by
  rw [List.find?_filter]
  congr 1
  funext a
  cases hp : p a with
  | false => simp
  | true => simp [h a hp]

/-- A change of what is kept by a filter. -/
theorem filter_changeFirst (hp : ∀ a, p a = true → q a = true) (hf : ∀ a, q (f a) = q a) (l : List α) :
    (changeFirst p f l).filter q = changeFirst p f (l.filter q) := by
  induction l with
  | nil => rfl
  | cons a rest ih =>
    by_cases ha : p a = true
    · simp [changeFirst, ha, hf, hp a ha]
    · by_cases hq : q a = true <;> simp [changeFirst, ha, hq, ih]

/-- One element is changed and all others are as they were. -/
theorem forall₂_changeFirst {R : α → α → Prop} (refl : ∀ a, R a a) (step : ∀ a, p a = true → R a (f a))
    (l : List α) : List.Forall₂ R l (changeFirst p f l) := by
  induction l with
  | nil => exact .nil
  | cons a rest ih =>
    by_cases ha : p a = true
    · simpa [changeFirst, ha] using ⟨step a ha, fun b _ => refl b⟩
    · simpa [changeFirst, ha] using ⟨refl a, ih⟩

end First

namespace Platform

variable {α : Type} {k k' : Ident} {f : α → α}

theorem change_eq (key : α → Ident) (k : Ident) (f : α → α) (l : List α) :
    change key k f l = changeFirst (key · == k) f l := by
  induction l with
  | nil => rfl
  | cons a rest ih => simp [change, changeFirst, ih]

/-- After a change that keeps keys, every key finds what it found, changed where it is the key of the change. -/
theorem find?_change (key : α → Ident) (hf : ∀ a, key (f a) = key a) (l : List α) :
    (change key k f l).find? (key · == k') =
      if k' = k then (l.find? (key · == k')).map f else l.find? (key · == k') := by
  rw [change_eq]
  split
  · next h => subst h; exact find?_changeFirst fun a => by rw [hf]
  · next h =>
    apply find?_changeFirst_of_disjoint
    · intro a ha
      simp only [beq_iff_eq, beq_eq_false_iff_ne] at ha ⊢
      exact fun h' => h (h'.symm.trans ha)
    · intro a ha
      simp only [beq_iff_eq, beq_eq_false_iff_ne, hf] at ha ⊢
      exact fun h' => h (h'.symm.trans ha)

/-- A payment after a change of one of its transactions. -/
def edited (c : StatusChange) (x : Payment) : Payment :=
  { x with transactions := change Transaction.id c.transaction (changed c) x.transactions }

@[simp] theorem edited_method (c : StatusChange) (x : Payment) : (edited c x).method = x.method := rfl

theorem transaction?_edited (c : StatusChange) (x : Payment) (u : Ident) :
    (edited c x).transaction? u =
      if u = c.transaction then (x.transaction? u).map (changed c) else x.transaction? u :=
  find?_change Transaction.id (f := changed c) (fun _ => rfl) x.transactions

/-- A payment with one more transaction. -/
def extended (t : Transaction) (x : Payment) : Payment := { x with transactions := x.transactions ++ [t] }

@[simp] theorem extended_method (t : Transaction) (x : Payment) : (extended t x).method = x.method := rfl

theorem transaction?_extended (t : Transaction) (x : Payment) (u : Ident) :
    (extended t x).transaction? u = (x.transaction? u).or (if t.id = u then some t else none) := by
  simp [extended, Payment.transaction?, List.find?_append]

/-! ### Look-ups -/

theorem payment?_eq_ok {p : Platform} {id : Ident} {x : Payment} :
    p.payment? id = .ok x ↔ p.payments.find? (·.id == id) = some x := by
  unfold payment?
  cases p.payments.find? (·.id == id) <;> simp

/-- The transaction of a payment. -/
def transactionOf? (p : Platform) (payment transaction : Ident) : Option Transaction :=
  (p.payments.find? (·.id == payment)).bind (·.transaction? transaction)

theorem transactionOf?_eq_some {p : Platform} {payment transaction : Ident} {t : Transaction} :
    p.transactionOf? payment transaction = some t ↔
      ∃ x, p.payments.find? (·.id == payment) = some x ∧ x.transaction? transaction = some t :=
  Option.bind_eq_some_iff

/-! ### Distinct identifiers -/

/-- No payment has two transactions with the same identifier. -/
def DistinctInPayments (p : Platform) : Prop := ∀ x ∈ p.payments, (x.transactions.map (·.id)).Nodup

theorem distinctInPayments_of_nodup {p : Platform} (h : (p.transactions.map (·.id)).Nodup) : p.DistinctInPayments := by
  intro x hx
  rw [Platform.transactions, List.map_flatMap] at h
  exact (List.nodup_flatMap.1 h).1 x hx

theorem transaction?_of_mem {x : Payment} {t : Transaction} (h : (x.transactions.map (·.id)).Nodup)
    (ht : t ∈ x.transactions) : x.transaction? t.id = some t :=
  find?_of_mem h ht

/-- The status of the transaction with an identifier. -/
def status? (p : Platform) (transaction : Ident) : Option Status :=
  (p.transactions.find? (·.id == transaction)).map (·.status)

theorem status?_of_mem {p : Platform} (unique : (p.transactions.map (·.id)).Nodup) {t : Transaction}
    (ht : t ∈ p.transactions) : p.status? t.id = some t.status := by
  rw [status?, find?_of_mem unique ht, Option.map_some]

/-! ### Identifiers that are drawn -/

theorem le_foldl_max {n b : Nat} {ns : List Nat} (h : n ≤ b ∨ n ∈ ns) : n ≤ ns.foldl max b := by
  induction ns generalizing b with
  | nil => simpa using h
  | cons m ms ih =>
    apply ih
    rcases h with h | h
    · exact .inl (by omega)
    · rcases List.mem_cons.1 h with rfl | h
      · exact .inl (by omega)
      · exact .inr h

/-- An identifier that is drawn is not in use. -/
theorem drawn_nextSerial_not_mem (ids : List Ident) : Ident.drawn (nextSerial ids) ∉ ids := by
  intro h
  have hle : nextSerial ids ≤ nextSerial ids - 1 := by
    conv_rhs => unfold nextSerial greatest
    rw [Nat.add_sub_cancel]
    exact le_foldl_max (.inr (List.mem_map.2 ⟨_, h, rfl⟩))
  have : 0 < nextSerial ids := Nat.succ_pos _
  omega

theorem chargebackTransaction_id_not_mem (p : Platform) (c : NewChargeback) :
    (p.chargebackTransaction c).id ∉ p.transactions.map (·.id) :=
  drawn_nextSerial_not_mem _

/-! ### Writes to the platform -/

/-- One transaction of one payment is replaced. -/
def Replaced (x : Payment) (t t' : Transaction) (payments payments' : List Payment) : Prop :=
  ∃ before after earlier later, payments = before ++ x :: after ∧ x.transactions = earlier ++ t :: later ∧
    payments' = before ++ { x with transactions := earlier ++ t' :: later } :: after

/-- One payment gets one more transaction. -/
def Appended (x : Payment) (t : Transaction) (payments payments' : List Payment) : Prop :=
  ∃ before after, payments = before ++ x :: after ∧
    payments' = before ++ { x with transactions := x.transactions ++ [t] } :: after

variable {p p' : Platform} {x : Payment} {t t' : Transaction} {c : StatusChange}

theorem Replaced.transactions (h : Replaced x t t' p.payments p'.payments) :
    ∃ l₁ l₂, p.transactions = l₁ ++ t :: l₂ ∧ p'.transactions = l₁ ++ t' :: l₂ := by
  obtain ⟨before, after, earlier, later, hp, hx, hp'⟩ := h
  refine ⟨before.flatMap (·.transactions) ++ earlier, later ++ after.flatMap (·.transactions), ?_, ?_⟩
  · simp [Platform.transactions, hp, hx]
  · simp [Platform.transactions, hp']

theorem Appended.transactions (h : Appended x t p.payments p'.payments) :
    ∃ l₁ l₂, p.transactions = l₁ ++ l₂ ∧ p'.transactions = l₁ ++ t :: l₂ := by
  obtain ⟨before, after, hp, hp'⟩ := h
  refine ⟨before.flatMap (·.transactions) ++ x.transactions, after.flatMap (·.transactions), ?_, ?_⟩
  · simp [Platform.transactions, hp]
  · simp [Platform.transactions, hp']

theorem Replaced.refl {payments : List Payment} (hx : x ∈ payments) (ht : t ∈ x.transactions) :
    Replaced x t t payments payments := by
  obtain ⟨before, after, rfl⟩ := List.append_of_mem hx
  obtain ⟨earlier, later, hl⟩ := List.append_of_mem ht
  exact ⟨before, after, earlier, later, rfl, hl, by rw [← hl]⟩

theorem Replaced.distinct (h : Replaced x t t' p.payments p'.payments) (hid : t'.id = t.id)
    (distinct : p.DistinctInPayments) : p'.DistinctInPayments := by
  obtain ⟨before, after, earlier, later, hp, hx, hp'⟩ := h
  intro y hy
  rw [hp', List.mem_append, List.mem_cons] at hy
  rcases hy with hy | rfl | hy
  · exact distinct y (by simp [hp, hy])
  · have ids := distinct x (by simp [hp])
    rw [hx] at ids
    simpa [hid] using ids
  · exact distinct y (by simp [hp, hy])

theorem Appended.distinct (h : Appended x t p.payments p'.payments) (fresh : t.id ∉ p.transactions.map (·.id))
    (distinct : p.DistinctInPayments) : p'.DistinctInPayments := by
  obtain ⟨before, after, hp, hp'⟩ := h
  intro y hy
  rw [hp', List.mem_append, List.mem_cons] at hy
  rcases hy with hy | rfl | hy
  · exact distinct y (by simp [hp, hy])
  · have ids := distinct x (by simp [hp])
    have new : t.id ∉ x.transactions.map (·.id) := by
      rw [Platform.transactions, hp] at fresh
      simp only [List.flatMap_append, List.flatMap_cons, List.map_append, List.mem_append, not_or] at fresh
      exact fresh.2.1
    rw [List.map_append, List.map_singleton, ← List.concat_eq_append]
    exact ids.concat new
  · exact distinct y (by simp [hp, hy])

@[simp] theorem methods_updateTransaction (p : Platform) (c : StatusChange) :
    (p.updateTransaction c).2.methods = p.methods := by
  unfold updateTransaction
  dsimp only
  split <;> rfl

@[simp] theorem methods_createChargeback (p : Platform) (payment : Ident) (c : NewChargeback) :
    (p.createChargeback payment c).2.methods = p.methods := by
  unfold createChargeback
  split
  · rfl
  · split <;> rfl

theorem payments_updateTransaction (hx : p.payments.find? (·.id == c.payment) = some x)
    (ht : x.transaction? c.transaction = some t) :
    (p.updateTransaction c).2.payments = change Payment.id c.payment (edited c) p.payments := by
  unfold updateTransaction
  simp only [hx, Option.bind_some, ht]
  rfl

/-- After a change, the payment is found with its transaction changed, and other payments are found as before. -/
theorem find?_updateTransaction (hx : p.payments.find? (·.id == c.payment) = some x)
    (ht : x.transaction? c.transaction = some t) (k : Ident) :
    (p.updateTransaction c).2.payments.find? (·.id == k) =
      if k = c.payment then some (edited c x) else p.payments.find? (·.id == k) := by
  rw [payments_updateTransaction hx ht, find?_change Payment.id (f := edited c) fun _ => rfl]
  split
  · next h => rw [h, hx]; rfl
  · rfl

/-- A transaction that a payment has is moved, and the move is logged if the status is another. -/
theorem updateTransaction_found (hx : p.payments.find? (·.id == c.payment) = some x)
    (ht : x.transaction? c.transaction = some t) :
    ∃ p', p.updateTransaction c = (.ok (), p') ∧ Replaced x t (changed c t) p.payments p'.payments ∧
      p'.methods = p.methods ∧
      p'.transitions =
        if t.status = c.status then p.transitions else p.transitions ++ [(c.transaction, c.status)] := by
  have hp := payments_updateTransaction hx ht
  unfold updateTransaction at hp ⊢
  simp only [hx, Option.bind_some, ht] at hp ⊢
  refine ⟨_, rfl, ?_, rfl, rfl⟩
  obtain ⟨before, after, hl, hc, -⟩ := changeFirst_split (edited c) hx
  obtain ⟨earlier, later, hx', hc', -⟩ := changeFirst_split (changed c) ht
  refine ⟨before, after, earlier, later, hl, hx', ?_⟩
  rw [hp, change_eq, hc, edited, change_eq, hc']

theorem payments_createChargeback {payment : Ident} {c : NewChargeback}
    (hx : p.payments.find? (·.id == payment) = some x) (hk : x.transactionByKey? c.externalKey = none) :
    (p.createChargeback payment c).2.payments =
      change Payment.id payment (extended (p.chargebackTransaction c)) p.payments := by
  unfold createChargeback payment?
  simp only [hx, hk]
  rfl

/-- After a chargeback was created, its payment is found with it, and other payments are found as before. -/
theorem find?_createChargeback {payment : Ident} {c : NewChargeback}
    (hx : p.payments.find? (·.id == payment) = some x) (hk : x.transactionByKey? c.externalKey = none) (k : Ident) :
    (p.createChargeback payment c).2.payments.find? (·.id == k) =
      if k = payment then some (extended (p.chargebackTransaction c) x) else p.payments.find? (·.id == k) := by
  rw [payments_createChargeback hx hk,
    find?_change Payment.id (f := extended (p.chargebackTransaction c)) fun _ => rfl]
  split
  · next h => rw [h, hx]; rfl
  · rfl

/-- A chargeback whose key is new to the payment is appended and logged as successful. -/
theorem createChargeback_new {payment : Ident} {c : NewChargeback}
    (hx : p.payments.find? (·.id == payment) = some x) (hk : x.transactionByKey? c.externalKey = none) :
    ∃ p', p.createChargeback payment c = (.ok (p.chargebackTransaction c), p') ∧
      Appended x (p.chargebackTransaction c) p.payments p'.payments ∧ p'.methods = p.methods ∧
      p'.transitions = p.transitions ++ [((p.chargebackTransaction c).id, .success)] := by
  have hp := payments_createChargeback hx hk
  unfold createChargeback payment? at hp ⊢
  simp only [hx, hk] at hp ⊢
  refine ⟨_, rfl, ?_, rfl, rfl⟩
  obtain ⟨before, after, hl, hc, -⟩ := changeFirst_split (extended (p.chargebackTransaction c)) hx
  exact ⟨before, after, hl, by rw [hp, change_eq, hc]; rfl⟩

/-! ### Writes to the platform made twice -/

/-- The platform without the number of calls. -/
def uncounted (p : Platform) : Platform := { p with updateCalls := 0 }

variable {q : Platform}

theorem payments_of_uncounted (h : p.uncounted = q.uncounted) : p.payments = q.payments := by
  have : p.uncounted.payments = q.uncounted.payments := by rw [h]
  exact this

theorem methods_of_uncounted (h : p.uncounted = q.uncounted) : p.methods = q.methods := by
  have : p.uncounted.methods = q.uncounted.methods := by rw [h]
  exact this

theorem transitions_of_uncounted (h : p.uncounted = q.uncounted) : p.transitions = q.transitions := by
  have : p.uncounted.transitions = q.uncounted.transitions := by rw [h]
  exact this

/-- The number of calls makes no difference to a change. -/
theorem updateTransaction_congr (h : p.uncounted = q.uncounted) (c : StatusChange) :
    (p.updateTransaction c).1 = (q.updateTransaction c).1 ∧
      (p.updateTransaction c).2.uncounted = (q.updateTransaction c).2.uncounted := by
  obtain ⟨payments, methods, transitions, n⟩ := p
  obtain ⟨payments', methods', transitions', n'⟩ := q
  cases h
  unfold updateTransaction
  dsimp only
  split <;> exact ⟨rfl, rfl⟩

theorem createChargeback_congr (h : p.uncounted = q.uncounted) (k : Ident) (c : NewChargeback) :
    (p.createChargeback k c).1 = (q.createChargeback k c).1 ∧
      (p.createChargeback k c).2.uncounted = (q.createChargeback k c).2.uncounted := by
  obtain ⟨payments, methods, transitions, n⟩ := p
  obtain ⟨payments', methods', transitions', n'⟩ := q
  cases h
  unfold createChargeback payment?
  dsimp only
  cases payments.find? (·.id == k) with
  | none => exact ⟨rfl, rfl⟩
  | some y =>
    dsimp only
    split <;> exact ⟨rfl, rfl⟩

/-- A change that is made again changes nothing. -/
theorem updateTransaction_again {c : StatusChange} (hx : p.payments.find? (·.id == c.payment) = some x)
    (ht : x.transaction? c.transaction = some t) :
    ((p.updateTransaction c).2.updateTransaction c).1 = .ok () ∧
      ((p.updateTransaction c).2.updateTransaction c).2.uncounted = (p.updateTransaction c).2.uncounted := by
  have hx' := (find?_updateTransaction hx ht c.payment).trans (if_pos rfl)
  have ht' : (edited c x).transaction? c.transaction = some (changed c t) := by
    rw [transaction?_edited, if_pos rfl, ht, Option.map_some]
  obtain ⟨p', hp', -, hmethods, htransitions⟩ := updateTransaction_found (c := c) hx' ht'
  have hpayments := payments_updateTransaction hx' ht'
  -- what was changed stays the same when it is changed in the same way
  have twice : ∀ y, edited c (edited c y) = edited c y := by
    intro y
    simp only [edited, change_eq, Payment.mk.injEq, true_and]
    refine changeFirst_changeFirst (fun _ => rfl) fun u => ?_
    simp [changed, Option.or_assoc]
  have same : ∀ y, ((edited c y).id == c.payment) = (y.id == c.payment) := fun _ => rfl
  have hfirst := payments_updateTransaction hx ht
  rw [hfirst, change_eq, change_eq, changeFirst_changeFirst same twice, ← change_eq, ← hfirst] at hpayments
  replace htransitions := htransitions.trans (if_pos rfl)
  rw [hp'] at hpayments ⊢
  refine ⟨rfl, ?_⟩
  simp only [uncounted, Platform.mk.injEq, and_true]
  exact ⟨hpayments, hmethods, htransitions⟩

/-- A chargeback that is recorded again is there already. -/
theorem createChargeback_again {k : Ident} {c : NewChargeback} (hx : p.payments.find? (·.id == k) = some x)
    (hk : x.transactionByKey? c.externalKey = none) :
    (p.createChargeback k c).2.createChargeback k c =
      (.ok (p.chargebackTransaction c), (p.createChargeback k c).2) := by
  have hx' := (find?_createChargeback hx hk k).trans (if_pos rfl)
  have hk' : (extended (p.chargebackTransaction c) x).transactionByKey? c.externalKey =
      some (p.chargebackTransaction c) := by
    unfold Payment.transactionByKey? at hk ⊢
    simp [extended, List.find?_append, hk, chargebackTransaction]
  generalize p.createChargeback k c = y at hx' ⊢
  unfold createChargeback payment?
  simp only [hx', hk']

end Platform

/-! ### Writes to the journal -/

namespace Journal

variable {j : Journal} {key : Key} {reference : Option String} {status : Status} {a : Attempt}

theorem change_eq (key : Key) (f : Attempt → Attempt) (l : List Attempt) :
    change key f l = changeFirst (Key.of · == key) f l := by
  induction l with
  | nil => rfl
  | cons a rest ih => simp [change, changeFirst, ih]

@[simp] theorem key_moved (reference : Option String) (status : Status) (a : Attempt) :
    Key.of (moved reference status a) = Key.of a := rfl

/-- Where there is no news, a move changes nothing. -/
theorem moved_eq_self (h : isNews reference status a = false) : moved reference status a = a := by
  simp only [isNews, Bool.or_eq_false_iff, bne_eq_false_iff_eq, Bool.and_eq_false_iff] at h
  obtain ⟨rfl, h⟩ := h
  cases a with
  | mk id account payment transaction operation amount currency ref status payload created tenant =>
    cases ref with
    | some s => rfl
    | none =>
      have : reference = none := by simpa using h
      simp [moved, this]

/-- An attempt that was moved is not changed by the same move. -/
theorem moved_again (key : Key) (reference : Option String) (status : Status) (l : List Attempt) :
    changeFirst (Key.of · == key) (moved reference status) (changeFirst (Key.of · == key) (moved reference status) l) =
      changeFirst (Key.of · == key) (moved reference status) l :=
  changeFirst_changeFirst (fun a => by rw [key_moved]) fun a => by simp [moved, Option.or_assoc]

/-- The first attempt with the key is moved, whether or not that is news. -/
theorem updateStatus_attempts (j : Journal) (key : Key) (reference : Option String) (status : Status) :
    (j.updateStatus key reference status).2.attempts =
      changeFirst (Key.of · == key) (moved reference status) j.attempts := by
  unfold updateStatus
  cases h : j.attempts.find? (Key.of · == key) with
  | none => exact (changeFirst_of_find?_eq_none _ h).symm
  | some a =>
    simp only
    split
    · rw [change_eq]
    · next hn =>
      obtain ⟨before, after, hl, hc, -⟩ := changeFirst_split (moved reference status) h
      rw [hc, moved_eq_self (by simpa using hn), ← hl]

/-- No two attempts are for the same transaction of the same payment. -/
def DistinctAttempts (j : Journal) : Prop := (j.attempts.map fun a => (a.payment, a.transaction)).Nodup

/-- An attempt is the one that its key finds. -/
theorem find?_key_of_mem (distinct : j.DistinctAttempts) (h : a ∈ j.attempts) :
    j.attempts.find? (Key.of · == .of a) = some a := by
  have keys : (j.attempts.map Key.of).Nodup := by
    refine List.Nodup.of_map (fun k => (k.payment, k.transaction)) ?_
    rwa [List.map_map]
  exact find?_of_mem keys h

/-- What is recorded is behind all other attempts. -/
theorem record_attempts (j : Journal) (d : Attempt.Draft) :
    ∃ a, (j.record d).attempts = j.attempts ++ [a] ∧ a.draft = d :=
  ⟨_, rfl, rfl⟩

@[simp] theorem updateStatus_audit (j : Journal) (key : Key) (reference : Option String) (status : Status) :
    (j.updateStatus key reference status).2.audit = j.audit := by
  unfold updateStatus
  split
  · rfl
  · split <;> rfl

end Journal
end Reconciliation
