import Reconciliation.Proofs.Deliveries
import Reconciliation.Proofs.Exits

/-!
# The log of statuses

A transaction whose status deliveries change becomes successful, or fails, or first the one and then the other.
A failure is final.

* `Status.Advances` is one such change, `Status.Path` a sequence of them.
* `Platform.Progress` says what deliveries make of a platform: `Progress.trans` composes it, and
  `item_progress` finds it in every effect of an item.
* `status_log_of_deliveries` is the statement about whole runs.
-/

namespace Reconciliation

namespace Status

/-- A change that a delivery can make. -/
def Advances (a b : Status) : Prop := a ≠ .paymentFailure ∧ a ≠ b ∧ (b = .success ∨ b = .paymentFailure)

/-- The statuses `l` lead from `s` to `s'`, each by an advance. -/
def Path (s : Status) (l : List Status) (s' : Status) : Prop := List.IsChain Advances (s :: l) ∧ l.getLastD s = s'

variable {s s' s'' : Status} {l l' : List Status}

theorem Path.refl (s : Status) : Path s [] s := ⟨.singleton s, rfl⟩

theorem Path.single (h : Advances s s') : Path s [s'] s' := ⟨List.isChain_cons_cons.2 ⟨h, .singleton s'⟩, rfl⟩

theorem Path.append (h : Path s l s') (h' : Path s' l' s'') : Path s (l ++ l') s'' := by
  induction l generalizing s with
  | nil =>
    obtain ⟨-, rfl⟩ := h
    exact h'
  | cons a rest ih =>
    obtain ⟨hc, hl⟩ := h
    obtain ⟨ha, hr⟩ := List.isChain_cons_cons.1 hc
    obtain ⟨hc', hl'⟩ := ih ⟨hr, by rwa [List.getLastD_cons] at hl⟩
    exact ⟨List.isChain_cons_cons.2 ⟨ha, hc'⟩, by rwa [List.cons_append, List.getLastD_cons]⟩

theorem Path.of_failure (h : Path .paymentFailure l s') : l = [] := by
  cases l with
  | nil => rfl
  | cons a rest => exact absurd rfl (List.isChain_cons_cons.1 h.1).1.1

/-- There are four sequences. -/
theorem Path.forms (h : Path s l s') :
    l ∈ [[], [.success], [.paymentFailure], [.success, .paymentFailure]] := by
  match l, h.1 with
  | [], _ => simp
  | a :: rest, hc =>
    obtain ⟨⟨-, -, rfl | rfl⟩, hr⟩ := List.isChain_cons_cons.1 hc
    · match rest, hr with
      | [], _ => simp
      | b :: rest, hr =>
        obtain ⟨⟨-, hb, rfl | rfl⟩, hr⟩ := List.isChain_cons_cons.1 hr
        · exact absurd rfl hb
        · cases Path.of_failure ⟨hr, rfl⟩
          simp
    · cases Path.of_failure ⟨hr, rfl⟩
      simp

/-- The same for a transaction that was created with a success. -/
theorem Path.forms_cons (h : Path .success l s') :
    .success :: l ∈ [[], [.success], [.paymentFailure], [.success, .paymentFailure]] :=
  forms ((single (s := .pending) ⟨by simp, by simp, .inl rfl⟩).append h)

theorem Path.end_of_failure (h : Path .paymentFailure l s') : s' = .paymentFailure := by
  obtain rfl := h.of_failure
  exact h.2.symm

/-- A path that is empty or ends at a success or a failure. -/
theorem Path.end_eq (h : Path s l s') :
    s' = s ∨ s' = .success ∨ s' = .paymentFailure := by
  obtain ⟨hc, rfl⟩ := h
  have hf := Path.forms ⟨hc, rfl⟩
  simp only [List.mem_cons, List.not_mem_nil, or_false] at hf
  rcases hf with rfl | rfl | rfl | rfl <;> simp

end Status

namespace Platform

open Status

/-- The statuses that a log gives a transaction, in order. -/
def statusesIn (t : Ident) (log : List (Ident × Status)) : List Status := (log.filter (·.1 == t)).map (·.2)

@[simp] theorem statusesIn_append (t : Ident) (l l' : List (Ident × Status)) :
    statusesIn t (l ++ l') = statusesIn t l ++ statusesIn t l' := by
  simp [statusesIn]

theorem statusesIn_self (t : Ident) (s : Status) : statusesIn t [(t, s)] = [s] := by simp [statusesIn]

theorem statusesIn_of_ne {t u : Ident} (h : u ≠ t) (s : Status) : statusesIn t [(u, s)] = [] := by
  simp [statusesIn, h]

theorem statusesIn_eq_nil {t : Ident} {log : List (Ident × Status)} {ids : List Ident}
    (hlog : ∀ e ∈ log, e.1 ∈ ids) (ht : t ∉ ids) : statusesIn t log = [] := by
  simp only [statusesIn, List.map_eq_nil_iff, List.filter_eq_nil_iff, beq_iff_eq]
  intro e he h
  exact ht (h ▸ hlog e he)

/-- What deliveries make of a platform, with what they log. -/
structure Progress (p p' : Platform) (log : List (Ident × Status)) : Prop where
  logged : p'.transitions = p.transitions ++ log
  unique : (p'.transactions.map (·.id)).Nodup
  known : ∀ e ∈ log, e.1 ∈ p'.transactions.map (·.id)
  kept : ∀ x ∈ p.transactions, ∃ y ∈ p'.transactions, y.id = x.id ∧ y.operation = x.operation ∧
    Path x.status (statusesIn x.id log) y.status
  added : ∀ y ∈ p'.transactions, y.id ∉ p.transactions.map (·.id) → y.operation = .chargeback ∧
    ∃ rest, statusesIn y.id log = .success :: rest ∧ Path .success rest y.status

namespace Progress

variable {p p' p'' : Platform} {log log' : List (Ident × Status)}

theorem refl (unique : (p.transactions.map (·.id)).Nodup) : Progress p p [] where
  logged := by simp
  unique := unique
  known := by simp
  kept x hx := ⟨x, hx, rfl, rfl, .refl _⟩
  added y hy hn := absurd (List.mem_map_of_mem hy) hn

theorem id_mem (h : Progress p p' log) {t : Ident} (ht : t ∈ p.transactions.map (·.id)) :
    t ∈ p'.transactions.map (·.id) := by
  obtain ⟨x, hx, rfl⟩ := List.mem_map.1 ht
  obtain ⟨y, hy, hyx, -⟩ := h.kept x hx
  exact List.mem_map.2 ⟨y, hy, hyx⟩

theorem trans (h : Progress p p' log) (h' : Progress p' p'' log') : Progress p p'' (log ++ log') where
  logged := by rw [h'.logged, h.logged, List.append_assoc]
  unique := h'.unique
  known e he := by
    rcases List.mem_append.1 he with he | he
    · exact h'.id_mem (h.known e he)
    · exact h'.known e he
  kept x hx := by
    obtain ⟨y, hy, hid, hop, hpath⟩ := h.kept x hx
    obtain ⟨z, hz, hid', hop', hpath'⟩ := h'.kept y hy
    rw [hid] at hpath'
    exact ⟨z, hz, hid'.trans hid, hop'.trans hop, statusesIn_append .. ▸ hpath.append hpath'⟩
  added z hz hn := by
    by_cases hm : z.id ∈ p'.transactions.map (·.id)
    · -- added before, and moved since
      obtain ⟨y, hy, hid⟩ := List.mem_map.1 hm
      obtain ⟨hop, rest, hr, hpath⟩ := h.added y hy (hid ▸ hn)
      obtain ⟨z', hz', hid', hop', hpath'⟩ := h'.kept y hy
      obtain rfl : z' = z := List.inj_on_of_nodup_map h'.unique hz' hz (hid'.trans hid)
      rw [hid] at hr hpath'
      exact ⟨hop'.trans hop, rest ++ statusesIn z'.id log', by simp [hr], hpath.append hpath'⟩
    · obtain ⟨hop, rest, hr, hpath⟩ := h'.added z hz hm
      exact ⟨hop, rest, by simp [hr, statusesIn_eq_nil h.known hm], hpath⟩

/-- A transaction is moved to a status that is an advance. -/
theorem of_replaced {x : Payment} {t t' : Transaction} (unique : (p.transactions.map (·.id)).Nodup)
    (h : Replaced x t t' p.payments p'.payments) (hid : t'.id = t.id) (hop : t'.operation = t.operation)
    (advances : Advances t.status t'.status) (logged : p'.transitions = p.transitions ++ [(t.id, t'.status)]) :
    Progress p p' [(t.id, t'.status)] := by
  obtain ⟨l₁, l₂, hp, hp'⟩ := h.transactions
  have ids : p'.transactions.map (·.id) = p.transactions.map (·.id) := by simp [hp, hp', hid]
  refine ⟨logged, ids ▸ unique, ?_, ?_, ?_⟩
  · simp [hp', hid]
  · intro y hy
    rw [hp, List.mem_append, List.mem_cons] at hy
    -- another transaction has another identifier
    have other : y ∈ l₁ ∨ y ∈ l₂ → t.id ≠ y.id := by
      rw [hp, List.map_append, List.map_cons, List.nodup_middle, List.nodup_cons, List.mem_append] at unique
      rintro (hy | hy) he
      · exact unique.1 (.inl (he ▸ List.mem_map_of_mem hy))
      · exact unique.1 (.inr (he ▸ List.mem_map_of_mem hy))
    have keep : y ∈ l₁ ∨ y ∈ l₂ → ∃ z ∈ p'.transactions, z.id = y.id ∧ z.operation = y.operation ∧
        Path y.status (statusesIn y.id [(t.id, t'.status)]) z.status := by
      intro hy
      refine ⟨y, ?_, rfl, rfl, ?_⟩
      · rw [hp', List.mem_append, List.mem_cons]
        exact hy.imp id .inr
      · rw [statusesIn_of_ne (other hy)]
        exact .refl _
    rcases hy with hy | rfl | hy
    · exact keep (.inl hy)
    · exact ⟨t', by simp [hp'], hid, hop, by rw [statusesIn_self]; exact .single advances⟩
    · exact keep (.inr hy)
  · intro y hy hn
    exact absurd (ids ▸ List.mem_map_of_mem hy) hn

/-- A chargeback with a new identifier is appended. -/
theorem of_appended {x : Payment} {t : Transaction} (unique : (p.transactions.map (·.id)).Nodup)
    (h : Appended x t p.payments p'.payments) (fresh : t.id ∉ p.transactions.map (·.id))
    (hop : t.operation = .chargeback) (hs : t.status = .success)
    (logged : p'.transitions = p.transitions ++ [(t.id, .success)]) : Progress p p' [(t.id, .success)] := by
  obtain ⟨l₁, l₂, hp, hp'⟩ := h.transactions
  refine ⟨logged, ?_, by simp [hp'], ?_, ?_⟩
  · rw [hp', List.map_append, List.map_cons, List.nodup_middle, ← List.map_append, ← hp]
    exact List.nodup_cons.2 ⟨fresh, unique⟩
  · intro y hy
    have other : t.id ≠ y.id := by
      intro he
      rw [he] at fresh
      exact fresh (List.mem_map_of_mem hy)
    refine ⟨y, ?_, rfl, rfl, ?_⟩
    · rw [hp, List.mem_append] at hy
      rw [hp', List.mem_append, List.mem_cons]
      exact hy.imp id .inr
    · rw [statusesIn_of_ne other]
      exact .refl _
  · intro y hy hn
    have : y ∉ p.transactions := fun hm => hn (List.mem_map_of_mem hm)
    rw [hp, List.mem_append, not_or] at this
    rw [hp', List.mem_append, List.mem_cons] at hy
    rcases hy with hy | rfl | hy
    · exact absurd hy this.1
    · exact ⟨hop, [], statusesIn_self _ _, hs ▸ .refl _⟩
    · exact absurd hy this.2

end Progress
end Platform

namespace Notification.Delivery

open Procedure Platform Status

/-- A transition that the event asks for and that is not there yet is an advance. -/
theorem advances_of_asks {i : Item} {m : Match} {t : Tenant} {s : Status} (asks : Asks i m t ⟨.matched, s⟩)
    (hne : m.transaction.status ≠ s) : Advances m.transaction.status s := by
  have hs := Resolution.status_of_transition asks
  have hstale := ((Resolution.ofEvent_eq_transition _).1 asks).2
  refine ⟨fun hf => ?_, hne, hs⟩
  rcases hs with rfl | rfl
  · exact hstale ⟨rfl, hf⟩
  · exact hne hf

variable {r : Registry} {i : Item} {conditions : Conditions} {w : World}

/-- Whatever an item changes on the platform is progress. -/
theorem item_progress (unique : (w.platform.transactions.map (·.id)).Nodup) :
    ∃ log, Progress w.platform ((item r i).exec conditions w).2.platform log := by
  rcases item_effect r i conditions w with h | ⟨m, hacc, h⟩
  · rw [h.platform]
    exact ⟨[], .refl unique⟩
  cases h with
  | kept s asks status platform attempts outcome =>
    rw [platform]
    exact ⟨[], .refl unique⟩
  | moved s asks status platform attempts outcome =>
    obtain ⟨p', hu, hr, -, hl⟩ := moved_writes hacc.toFound status
    rw [platform, hu]
    exact ⟨_, .of_replaced unique hr rfl rfl (advances_of_asks asks status) hl⟩
  | created x asks target reference carried fresh platform attempts outcome =>
    obtain ⟨p', hc, ha, -, hl⟩ := created_writes hacc.toFound fresh
    rw [platform, hc]
    exact ⟨_, .of_appended unique ha (chargebackTransaction_id_not_mem _ _) rfl rfl hl⟩
  | reversed s asks chargeback picked status platform attempts outcome =>
    obtain ⟨p', hu, hr, -, hl⟩ := reversed_writes hacc.toFound (distinctInPayments_of_nodup unique)
      (mem_of_reversed? picked).1 status
    -- a reversal can do nothing but fail a chargeback that has not failed yet
    have hs : s = .paymentFailure := (Resolution.of_existingChargeback asks rfl).2
    rw [platform, hu]
    exact ⟨_, .of_replaced unique hr rfl rfl ⟨hs ▸ status, status, .inr hs⟩ hl⟩

theorem deliverAll_progress (r : Registry) (ds : List Posting) (w : World)
    (unique : (w.platform.transactions.map (·.id)).Nodup) :
    ∃ log, Progress w.platform (deliverAll r ds w).platform log := by
  refine deliverAll_preserves (fun v w => (v.platform.transactions.map (·.id)).Nodup →
    ∃ log, Progress v.platform w.platform log) ?_ ?_ ds ?_ w unique
  · intro u v w huv hvw hu
    obtain ⟨log, h⟩ := huv hu
    obtain ⟨log', h'⟩ := hvw h.unique
    exact ⟨_, h.trans h'⟩
  · intro v w hp _ hv
    rw [hp]
    exact ⟨[], .refl hv⟩
  · intro d _ i w hw
    exact item_progress hw

/-- The changes that deliveries make to one transaction, as the platform logs them, are a success, a failure, or a
success and then a failure, each new to the transaction. They lead from the status it had to the one it has, at
any two points of the run; what is created is a chargeback, first logged as a success. -/
theorem status_log_of_deliveries (r : Registry) (w : World) (unique : (w.platform.transactions.map (·.id)).Nodup)
    (ds : List Posting) :
    ∃ log, (deliverAll r ds w).platform.transitions = w.platform.transitions ++ log ∧
      (∀ t, statusesIn t log ∈ [[], [.success], [.paymentFailure], [.success, .paymentFailure]]) ∧
      (∀ x ∈ w.platform.transactions, ∃ y ∈ (deliverAll r ds w).platform.transactions, y.id = x.id ∧
        Path x.status (statusesIn x.id log) y.status) ∧
      (∀ y ∈ (deliverAll r ds w).platform.transactions, y.id ∉ w.platform.transactions.map (·.id) →
        y.operation = .chargeback ∧ ∃ rest, statusesIn y.id log = .success :: rest ∧ Path .success rest y.status) ∧
      ∀ earlier later, ds = earlier ++ later →
        ∀ x ∈ (deliverAll r earlier w).platform.transactions,
          ∃ y ∈ (deliverAll r ds w).platform.transactions, y.id = x.id ∧
            (x.status = .paymentFailure → y.status = .paymentFailure) ∧
            (y.status = x.status ∨ y.status = .success ∨ y.status = .paymentFailure) := by
  obtain ⟨log, h⟩ := deliverAll_progress r ds w unique
  -- a logged transaction was either there before or was created
  refine ⟨log, h.logged, fun t => ?_, fun x hx => ?_, h.added, ?_⟩
  · by_cases ht : t ∈ w.platform.transactions.map (·.id)
    · obtain ⟨x, hx, rfl⟩ := List.mem_map.1 ht
      obtain ⟨y, -, -, -, hpath⟩ := h.kept x hx
      exact hpath.forms
    · by_cases hn : t ∈ (deliverAll r ds w).platform.transactions.map (·.id)
      · obtain ⟨y, hy, rfl⟩ := List.mem_map.1 hn
        obtain ⟨-, rest, hl, hpath⟩ := h.added y hy ht
        exact hl ▸ hpath.forms_cons
      · simp [statusesIn_eq_nil h.known hn]
  · obtain ⟨y, hy, hid, -, hpath⟩ := h.kept x hx
    exact ⟨y, hy, hid, hpath⟩
  · rintro earlier later rfl x hx
    obtain ⟨_, he⟩ := deliverAll_progress r earlier w unique
    obtain ⟨_, hl⟩ := deliverAll_progress r later _ he.unique
    rw [← deliverAll_append] at hl
    obtain ⟨y, hy, hid, -, hpath⟩ := hl.kept x hx
    refine ⟨y, hy, hid, fun hf => ?_, hpath.end_eq⟩
    rw [hf] at hpath
    exact hpath.end_of_failure

/-- An authorization that first succeeds and is then corrected. -/
theorem status_log_of_authorization :
    (specimen.platform.transactions.map (·.id)).Nodup ∧
      ∃ log, (deliverAll .empty [specimenPosting "true", specimenPosting "false"] specimen).platform.transitions =
          specimen.platform.transitions ++ log ∧ statusesIn (.given 4) log = [.success, .paymentFailure] := by
  have unique : (specimen.platform.transactions.map (·.id)).Nodup := by decide
  obtain ⟨log, hlog, -, -, -, -⟩ := status_log_of_deliveries .empty specimen unique
    [specimenPosting "true", specimenPosting "false"]
  refine ⟨unique, log, hlog, ?_⟩
  have : log = [(.given 4, .success), (.given 4, .paymentFailure)] := hlog.symm.trans (by decide +kernel)
  rw [this]
  decide

end Notification.Delivery
end Reconciliation
