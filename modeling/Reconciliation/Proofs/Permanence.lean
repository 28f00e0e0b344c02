import Reconciliation.Proofs.Chargebacks
import Reconciliation.Proofs.Operations

/-!
# What lasts

Nothing that the stores hold is ever taken back: attempts, transactions and audit entries are only added, and of what is
there only the status may change, and a missing reference may be filled in.

* `Continued` says that a list goes on where another ends; `World.Lasting` says so of all that the stores hold.
* `answer_lasting`: any call, whether it fails or not, leaves what lasts in place.
* `passed_pairwise` carries a relation that every call respects over the worlds of a run.
* `history_lasting` is the statement about deliveries and operations in any order.
-/

namespace Reconciliation

/-! ### Lists that go on -/

/-- What the first list has at a place, the second has there as `R` allows, and what it has behind satisfies `P`. -/
structure Continued {α : Type} (R : α → α → Prop) (P : α → Prop) (l l' : List α) : Prop where
  kept : ∀ (n : Nat) (a : α), l[n]? = some a → ∃ b, l'[n]? = some b ∧ R a b
  added : ∀ (n : Nat) (b : α), l.length ≤ n → l'[n]? = some b → P b

namespace Continued

variable {α : Type} {R : α → α → Prop} {P : α → Prop} {l l' l'' : List α}

theorem of_forall₂ (h : List.Forall₂ R l l') : Continued R P l l' where
  kept n a ha := by
    obtain ⟨hn, rfl⟩ := List.getElem?_eq_some_iff.1 ha
    have hn' : n < l'.length := h.length_eq ▸ hn
    exact ⟨l'[n], List.getElem?_eq_getElem hn', h.get hn hn'⟩
  added n b hn hb := by
    obtain ⟨hn', -⟩ := List.getElem?_eq_some_iff.1 hb
    have := h.length_eq
    omega

theorem refl (hR : ∀ a, R a a) (l : List α) : Continued R P l l := of_forall₂ (List.forall₂_same.2 fun a _ => hR a)

theorem append (hR : ∀ a, R a a) {more : List α} (hP : ∀ b ∈ more, P b) : Continued R P l (l ++ more) where
  kept n a ha := by
    obtain ⟨hn, -⟩ := List.getElem?_eq_some_iff.1 ha
    exact ⟨a, by rw [List.getElem?_append_left hn, ha], hR a⟩
  added n b hn hb := by
    rw [List.getElem?_append_right hn] at hb
    exact hP b (List.mem_of_getElem? hb)

theorem trans (hR : ∀ {a b c}, R a b → R b c → R a c) (hP : ∀ {a b}, R a b → P a → P b) (h : Continued R P l l')
    (h' : Continued R P l' l'') : Continued R P l l'' where
  kept n a ha := by
    obtain ⟨b, hb, hab⟩ := h.kept n a ha
    obtain ⟨c, hc, hbc⟩ := h'.kept n b hb
    exact ⟨c, hc, hR hab hbc⟩
  added n c hn hc := by
    -- it was added before, or only now
    rcases Nat.lt_or_ge n l'.length with hn' | hn'
    · obtain ⟨c', hc', hR'⟩ := h'.kept n _ (List.getElem?_eq_getElem hn')
      obtain rfl : c' = c := Option.some.inj (hc'.symm.trans hc)
      exact hP hR' (h.added n _ hn (List.getElem?_eq_getElem hn'))
    · exact h'.added n c hn' hc

end Continued

/-! ### Records -/

/-- A reference, once it is there, stays the same. -/
def Settled (reference reference' : Option String) : Prop := ∀ s, reference = some s → reference' = some s

/-- All but the status is the same, and the reference is the same if there was one. -/
structure Attempt.Lasting (a b : Attempt) : Prop where
  bare : b.bare = a.bare
  reference : Settled a.reference b.reference

/-- All but the status is the same, and the gateway reference is the same if there was one. -/
structure Transaction.Lasting (t u : Transaction) : Prop where
  bare : u.bare = t.bare
  reference : Settled t.gatewayReference u.gatewayReference

/-- The transactions are still there, and only chargebacks are added. -/
structure Payment.Lasting (x y : Payment) : Prop where
  id : y.id = x.id
  account : y.account = x.account
  method : y.method = x.method
  transactions : Continued Transaction.Lasting (·.operation = .chargeback) x.transactions y.transactions

/-- Attempts and audit entries are only added, payments are not added either, and all that is there lasts. -/
structure World.Lasting (w v : World) : Prop where
  attempts : Continued Attempt.Lasting (fun _ => True) w.journal.attempts v.journal.attempts
  audit : w.journal.audit <+: v.journal.audit
  payments : Continued Payment.Lasting (fun _ => False) w.platform.payments v.platform.payments

theorem Settled.or (reference reference' : Option String) : Settled reference (reference.or reference') := by
  rintro s rfl
  rfl

theorem Attempt.Lasting.refl (a : Attempt) : a.Lasting a := ⟨rfl, fun _ h => h⟩

theorem Attempt.Lasting.trans {a b c : Attempt} (h : a.Lasting b) (h' : b.Lasting c) : a.Lasting c :=
  ⟨h'.bare.trans h.bare, fun s hs => h'.reference s (h.reference s hs)⟩

theorem Transaction.Lasting.refl (t : Transaction) : t.Lasting t := ⟨rfl, fun _ h => h⟩

theorem Transaction.Lasting.trans {t u v : Transaction} (h : t.Lasting u) (h' : u.Lasting v) : t.Lasting v :=
  ⟨h'.bare.trans h.bare, fun s hs => h'.reference s (h.reference s hs)⟩

theorem Transaction.Lasting.operation {t u : Transaction} (h : t.Lasting u) : u.operation = t.operation :=
  congrArg (·.operation) h.bare

theorem Payment.Lasting.refl (x : Payment) : x.Lasting x := ⟨rfl, rfl, rfl, .refl .refl _⟩

theorem Payment.Lasting.trans {x y z : Payment} (h : x.Lasting y) (h' : y.Lasting z) : x.Lasting z where
  id := h'.id.trans h.id
  account := h'.account.trans h.account
  method := h'.method.trans h.method
  transactions := h.transactions.trans .trans (fun lasting hc => lasting.operation.trans hc) h'.transactions

namespace World.Lasting

theorem refl (w : World) : w.Lasting w := ⟨.refl .refl _, List.prefix_refl _, .refl .refl _⟩

theorem trans {u v w : World} (h : u.Lasting v) (h' : v.Lasting w) : u.Lasting w where
  attempts := h.attempts.trans .trans (fun _ => id) h'.attempts
  audit := h.audit.trans h'.audit
  payments := h.payments.trans .trans (fun _ => id) h'.payments

/-- Only attempts are written. -/
theorem of_attempts {w : World} {j : Journal}
    (h : Continued Attempt.Lasting (fun _ => True) w.journal.attempts j.attempts) (audit : j.audit = w.journal.audit) :
    w.Lasting { w with journal := j } :=
  ⟨h, audit ▸ List.prefix_refl _, .refl .refl _⟩

/-- Only the platform is written. -/
theorem of_payments {w : World} {p : Platform}
    (h : Continued Payment.Lasting (fun _ => False) w.platform.payments p.payments) :
    w.Lasting { w with platform := p } :=
  ⟨.refl .refl _, List.prefix_refl _, h⟩

end World.Lasting

/-! ### Writes -/

namespace Platform

/-- A payment that is changed in place lasts if the change lets it last. -/
theorem change_lasting {f : Payment → Payment} (h : ∀ x, Payment.Lasting x (f x)) (k : Ident)
    (payments : List Payment) :
    Continued Payment.Lasting (fun _ => False) payments (change Payment.id k f payments) := by
  rw [change_eq]
  exact .of_forall₂ (forall₂_changeFirst .refl (fun x _ => h x) payments)

theorem edited_lasting (c : StatusChange) (x : Payment) : x.Lasting (edited c x) := by
  refine ⟨rfl, rfl, rfl, .of_forall₂ ?_⟩
  rw [edited, change_eq]
  exact forall₂_changeFirst .refl (fun t _ => ⟨rfl, .or _ _⟩) x.transactions

theorem extended_lasting {t : Transaction} (ht : t.operation = .chargeback) (x : Payment) : x.Lasting (extended t x) :=
  ⟨rfl, rfl, rfl, .append .refl (by simpa using ht)⟩

theorem updateTransaction_lasting (p : Platform) (c : StatusChange) :
    Continued Payment.Lasting (fun _ => False) p.payments (p.updateTransaction c).2.payments := by
  unfold updateTransaction
  dsimp only
  split
  · exact .refl .refl _
  · exact change_lasting (edited_lasting c) _ _

theorem createChargeback_lasting (p : Platform) (payment : Ident) (c : NewChargeback) :
    Continued Payment.Lasting (fun _ => False) p.payments (p.createChargeback payment c).2.payments := by
  unfold createChargeback
  split
  · exact .refl .refl _
  · split
    · exact .refl .refl _
    · exact change_lasting (extended_lasting (t := p.chargebackTransaction c) rfl) _ _

end Platform

theorem Journal.updateStatus_lasting (j : Journal) (key : Key) (reference : Option String) (status : Status) :
    Continued Attempt.Lasting (fun _ => True) j.attempts (j.updateStatus key reference status).2.attempts := by
  rw [updateStatus_attempts]
  exact .of_forall₂ (forall₂_changeFirst .refl (fun a _ => ⟨rfl, .or _ _⟩) j.attempts)

namespace World

/-- Whatever a call does, what was there lasts. -/
theorem perform_lasting (gateway : Except Failure Gateway.Answer) (w : World) (k : Call) :
    w.Lasting (w.perform gateway k).2 := by
  cases k with
  | findByReference | findByTransaction | getPayment | getMethod | gateway => exact .refl w
  | recordAttempt d => exact .of_attempts (.append .refl fun _ _ => trivial) rfl
  | updateAttempt key reference status =>
    exact .of_attempts (w.journal.updateStatus_lasting _ _ _) (w.journal.updateStatus_audit _ _ _)
  | recordAudit e => exact ⟨.refl .refl _, List.prefix_append _ _, .refl .refl _⟩
  | updateTransaction c tenant => exact .of_payments (w.platform.updateTransaction_lasting c)
  | createChargeback payment c tenant => exact .of_payments (w.platform.createChargeback_lasting payment c)

theorem answer_lasting (conditions : Conditions) (w : World) (k : Call) : w.Lasting (w.answer conditions k).2 := by
  unfold World.answer
  split
  · exact .refl w
  · exact w.perform_lasting _ k

end World

/-! ### Runs -/

namespace Procedure

variable {α : Type}

/-- The worlds that the calls of a run leave, one for each call that is answered. -/
def passed (conditions : Conditions) : Procedure α → World → List World
  | done _, _ => []
  | call k next, w =>
    if conditions.aborts k then []
    else (w.answer conditions k).2 :: (next (w.answer conditions k).1).passed conditions (w.answer conditions k).2

/-- A relation that every call respects holds between any two worlds of a run, the earlier and the later, and between each
of them and the world that the run leaves. -/
theorem passed_pairwise {R : World → World → Prop} (refl : ∀ w, R w w) (trans : ∀ {u v w}, R u v → R v w → R u w)
    {conditions : Conditions} (step : ∀ w k, R w (w.answer conditions k).2) (p : Procedure α) (w : World) :
    (w :: p.passed conditions w).Pairwise R ∧
      ∀ v ∈ w :: p.passed conditions w, R v (p.run conditions w).world := by
  induction p generalizing w with
  | done a => simp [passed, refl]
  | call k next ih =>
    rw [passed, run]
    split
    · simp [refl]
    · obtain ⟨later, leads⟩ := ih (w.answer conditions k).1 (w.answer conditions k).2
      have first : ∀ v ∈ _, R w v := List.forall_mem_cons.2
        ⟨step w k, fun v hv => trans (step w k) (List.rel_of_pairwise_cons later hv)⟩
      exact ⟨List.pairwise_cons.2 ⟨first, later⟩,
        List.forall_mem_cons.2 ⟨trans (step w k) (leads _ List.mem_cons_self), leads⟩⟩

end Procedure

/-! ### Histories -/

open Gateway Procedure Notification.Delivery

/-- Something that the program does, with what happens to the calls made for it. -/
inductive Activity where
  | delivery (d : Posting)
  | operation (c : Context) (o : Instruction) (conditions : Conditions)

namespace Activity

variable (r : Registry)

/-- The world afterwards. -/
def after (w : World) : Activity → World
  | delivery d => ((process r d.body).run d.conditions w).world
  | operation c o conditions => ((o.perform c).run.run conditions w).world

/-- The worlds on the way there, one for each call that is answered. -/
def passed (w : World) : Activity → List World
  | delivery d => (process r d.body).passed d.conditions w
  | operation c o conditions => (o.perform c).run.passed conditions w

/-- The worlds that some activities, one after another, pass through. -/
def history : List Activity → World → List World
  | [], _ => []
  | x :: rest, w => x.passed r w ++ history rest (x.after r w)

variable {r}

theorem passed_lasting (x : Activity) (w : World) :
    (w :: x.passed r w).Pairwise World.Lasting ∧ ∀ v ∈ w :: x.passed r w, v.Lasting (x.after r w) := by
  cases x with
  | delivery d => exact passed_pairwise .refl .trans (World.answer_lasting _) _ w
  | operation c o conditions => exact passed_pairwise .refl .trans (World.answer_lasting _) _ w

/-- Whatever deliveries come and whatever operations are carried out, one after another, whichever of their calls fail or
abort and whatever the gateway answers: what the stores hold at one point lasts at every later point. -/
theorem history_lasting (r : Registry) (activities : List Activity) (w : World) :
    (w :: history r activities w).Pairwise World.Lasting ∧
      ∀ v ∈ w :: history r activities w, v.Lasting (activities.foldl (after r) w) := by
  induction activities generalizing w with
  | nil => simp [history, World.Lasting.refl]
  | cons x rest ih =>
    obtain ⟨now, leads⟩ := x.passed_lasting (r := r) w
    obtain ⟨later, ends⟩ := ih (x.after r w)
    rw [history, List.foldl_cons, ← List.cons_append]
    refine ⟨List.pairwise_append.2 ⟨now, later.of_cons, fun u hu v hv => ?_⟩, fun u hu => ?_⟩
    · exact (leads u hu).trans (List.rel_of_pairwise_cons later hv)
    · rcases List.mem_append.1 hu with hu | hu
      · exact (leads u hu).trans (ends _ List.mem_cons_self)
      · exact ends u (List.mem_cons_of_mem _ hu)

end Activity

end Reconciliation
