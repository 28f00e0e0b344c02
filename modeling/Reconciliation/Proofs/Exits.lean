import Reconciliation.Proofs.Unfailing
import Reconciliation.Proofs.Unread

/-!
# How an item ends

Whatever calls fail or abort, there are only so many ways in which an item can end, each with its outcome, its audit
entry and its writes. What is reported, recorded and repaired is read off this list.

* `Settlement` lists what settling a match comes to, and `Halfway` what it leaves if the attempt can not be moved.
* `Exit` lists the ends of an item before its audit entry is written.
* `item_exit` says that a run ends in one of them, or is aborted on the way to one.
* `Left` lists what an item leaves of the stores, and `left_of_item` says that there is nothing else.
* `item_effect` says the same in terms of effects.
-/

namespace Reconciliation

/-- Whether this is a call to move an attempt that failed. -/
def Event.losesUpdate : Event → Bool
  | ⟨.updateAttempt _ _ _, some (.error _)⟩ => true
  | _ => false

/-- Whether an attempt could not be moved. -/
def updateLost (trace : List Event) : Bool := trace.any (·.losesUpdate)

theorem updateLost_append (trace trace' : List Event) :
    updateLost (trace ++ trace') = (updateLost trace || updateLost trace') := List.any_append

theorem losesUpdate_of_not_writes {e : Event} (h : e.call.writes = false) : e.losesUpdate = false := by
  obtain ⟨k, x⟩ := e
  cases k <;> first | rfl | cases h

theorem updateLost_of_not_writes {trace : List Event} (h : ∀ e ∈ trace, e.call.writes = false) :
    updateLost trace = false :=
  List.any_eq_false.2 fun e he => by simp [losesUpdate_of_not_writes (h e he)]

namespace Notification.Delivery

open Procedure Platform Matching

variable {r : Registry} {conditions : Conditions} {i : Item} {m : Match} {t : Tenant} {u v w : World} {o : Outcome}
  {s : Status} {trace : List Event}

/-! ### Settling a match -/

/-- What is left where the attempt of a match could not be moved: the world as it was, or with the transaction moved. -/
inductive Halfway (conditions : Conditions) (i : Item) (m : Match) (t : Tenant) (w : World) : World → Prop where
  | untouched : Halfway conditions i m t w w
  | moved {s : Status} (asks : Asks i m t ⟨.matched, s⟩) (status : m.transaction.status ≠ s)
      (stopped : conditions.fails (.updateAttempt (.of m.attempt) (reference i) s) = true ∨
        conditions.aborts (.updateAttempt (.of m.attempt) (reference i) s) = true) :
      Halfway conditions i m t w { w with platform := (w.platform.updateTransaction (matchedChange i m s)).2 }

/-- What settling a match comes to, with the world that it leaves. -/
inductive Settlement (conditions : Conditions) (i : Item) (m : Match) (t : Tenant) (w : World) :
    Except Obstacle Outcome → World → Prop where
  /-- The event asks for nothing that can be done. -/
  | passed {o : Outcome} (settled : settle i m t = pure o)
      (outcome : o = .informational ∨ ∃ reason, o = .ignored reason) : Settlement conditions i m t w (.ok o) w
  /-- A chargeback is there already, or failed already. -/
  | standing {x : Transaction} (settled : settle i m t = pure (.alreadyApplied x.id x.status))
      (recorded : x ∈ m.payment.transactions) : Settlement conditions i m t w (.ok (.alreadyApplied x.id x.status)) w
  /-- The transaction had the status before, and its attempt is moved. -/
  | kept {s : Status} (asks : Asks i m t ⟨.matched, s⟩) (status : m.transaction.status = s) :
      Settlement conditions i m t w (.ok (.alreadyApplied m.transaction.id s)) (w.withAttempts (movedAttempts i m s w))
  /-- The transaction and its attempt are moved. -/
  | moved {s : Status} (asks : Asks i m t ⟨.matched, s⟩) (status : m.transaction.status ≠ s) :
      Settlement conditions i m t w (.ok (.applied m.transaction.id s))
        { w.withAttempts (movedAttempts i m s w) with
          platform := (w.platform.updateTransaction (matchedChange i m s)).2 }
  /-- A chargeback is created. -/
  | created {x : Transition} {reference : String} (asks : Asks i m t x) (target : x.target = .newChargeback)
      (carried : i.reference = some reference)
      (fresh : m.payment.transactionByKey? (chargebackKey m.payment.id reference) = none) :
      Settlement conditions i m t w
        (.ok (.applied (w.platform.chargebackTransaction (newChargeback i m reference)).id .success))
        { w with platform := (w.platform.createChargeback m.payment.id (newChargeback i m reference)).2 }
  /-- A recorded chargeback is failed. -/
  | reversed {s : Status} {chargeback : Transaction} (asks : Asks i m t ⟨.existingChargeback, s⟩)
      (picked : reversed? i m.payment = some chargeback) (status : chargeback.status ≠ s) :
      Settlement conditions i m t w (.ok (.applied chargeback.id s))
        { w with platform := (w.platform.updateTransaction (reversal i m chargeback s)).2 }
  /-- The platform refuses. -/
  | refused {f : Failure} {k : Call} (kind : k.writesPlatform = true) (fails : conditions.fails k = true) :
      Settlement conditions i m t w (.error (.refused f)) w
  /-- The attempt can not be moved. -/
  | unrecorded {f : Failure} {v : World} (halfway : Halfway conditions i m t w v) :
      Settlement conditions i m t w (.error (.unrecorded f)) v

/-- Whether settling failed because the attempt could not be moved. -/
def isUnrecorded : Except Obstacle Outcome → Bool
  | .error (.unrecorded _) => true
  | _ => false

/-- How settling ends: with a settlement, or by an abort before there is one. -/
def Settles (conditions : Conditions) (i : Item) (m : Match) (t : Tenant) (w : World) :
    Ending (Except Obstacle Outcome) → List Event → World → Prop
  | .finished x, trace, v => Settlement conditions i m t w x v ∧ updateLost trace = isUnrecorded x
  | .aborted _, _, v => Halfway conditions i m t w v

/-- A call that the stores would answer may be aborted or fail instead. -/
theorem Comes.ask {Q : Ending (Except Obstacle Outcome) → List Event → World → Prop} {obstacle : Failure → Obstacle}
    {k : Call} {a : k.Answer} {f : k.Answer → Applying Outcome} (h : w.perform conditions.gateway k = (.ok a, v))
    (abort : conditions.aborts k = true → Q (.aborted k) (trace ++ [⟨k, none⟩]) w)
    (stop : conditions.fails k = true →
      Q (.finished (.error (obstacle k.injected))) (trace ++ [⟨k, some (.error k.injected)⟩]) w)
    (go : (f a).run.Comes conditions Q (trace ++ [⟨k, some (.ok a)⟩]) v) :
    (ask obstacle k >>= f).run.Comes conditions Q trace w := by
  rw [ExceptT.run_bind, ask_run, Procedure.ask, call_bind, bind_eq, call_bind, comes_call]
  by_cases ha : conditions.aborts k = true
  · rw [if_pos ha]
    exact abort ha
  rw [if_neg ha]
  by_cases hf : conditions.fails k = true
  · have answer : w.answer conditions k = (.error k.injected, w) := by rw [World.answer, if_pos hf]
    rw [answer]
    exact comes_done.2 (stop hf)
  · have answer : w.answer conditions k = (.ok a, v) := by rw [World.answer, if_neg hf, h]
    rw [answer]
    exact go

theorem settles_pure {x : Outcome} (h : Settlement conditions i m t w (.ok x) v) (lost : updateLost trace = false) :
    (pure x : Applying Outcome).run.Comes conditions (Settles conditions i m t w) trace v :=
  comes_done.2 ⟨h, lost⟩

/-- The platform is asked first; if it refuses or the call is aborted, the world is as it was. -/
theorem settles_write {k : Call} {a : k.Answer} {f : k.Answer → Applying Outcome} (kind : k.writesPlatform = true)
    (h : w.perform conditions.gateway k = (.ok a, v)) (lost : updateLost trace = false)
    (go : ∀ trace, updateLost trace = false → (f a).run.Comes conditions (Settles conditions i m t w) trace v) :
    (ask .refused k >>= f).run.Comes conditions (Settles conditions i m t w) trace w := by
  have lost' : ∀ x, updateLost (trace ++ [⟨k, x⟩]) = false := by
    intro x
    have quiet : updateLost [⟨k, x⟩] = false := by cases k <;> first | rfl | cases kind
    rw [updateLost_append, lost, quiet, Bool.false_or]
  exact Comes.ask h (fun _ => .untouched) (fun hf => ⟨.refused kind hf, lost' _⟩) (go _ (lost' _))

theorem applyToMatched_comes {tenant : Option Ident} (found : Found w i tenant m) (asks : Asks i m t ⟨.matched, s⟩)
    (lost : updateLost trace = false) :
    (applyToMatched i m t s).run.Comes conditions (Settles conditions i m t w) trace w := by
  -- the attempt is moved in the world `v` that is there by then, which the call for it may leave as it is
  have update {o : Outcome} {v : World} {trace : List Event} (lost : updateLost trace = false)
      (halfway : conditions.fails (.updateAttempt (.of m.attempt) (reference i) s) = true ∨
        conditions.aborts (.updateAttempt (.of m.attempt) (reference i) s) = true → Halfway conditions i m t w v)
      (done : Settlement conditions i m t w (.ok o) (v.withAttempts (movedAttempts i m s v))) :
      (ask .unrecorded (.updateAttempt (.of m.attempt) (reference i) s) >>= fun _ => pure o).run.Comes conditions
        (Settles conditions i m t w) trace v := by
    obtain ⟨b, hb⟩ := perform_updateAttempt v m i s
    refine Comes.ask hb (fun ha => halfway (.inr ha)) (fun hf => ⟨.unrecorded (halfway (.inl hf)), ?_⟩) ?_
    · rw [updateLost_append, lost]
      rfl
    · exact settles_pure done (by rw [updateLost_append, lost]; rfl)
  unfold applyToMatched
  by_cases hs : m.transaction.status = s
  · simp only [hs, not_true_eq_false, if_false, if_true]
    exact update lost (fun _ => .untouched) (.kept asks hs)
  · simp only [hs, not_false_eq_true, if_true, if_false]
    obtain ⟨p', hu, -⟩ := moved_writes found hs
    refine settles_write rfl (World.perform_updateTransaction _ _ hu) lost fun trace lost => ?_
    have hp : p' = (w.platform.updateTransaction (matchedChange i m s)).2 := by rw [hu]
    subst hp
    exact update lost (.moved asks hs) (.moved asks hs)

theorem createChargeback_comes {tenant : Option Ident} (found : Found w i tenant m) {x : Transition}
    (asks : Asks i m t x) (target : x.target = .newChargeback) (lost : updateLost trace = false) :
    (createChargeback i m t).run.Comes conditions (Settles conditions i m t w) trace w := by
  have settled : settle i m t = createChargeback i m t := by rw [settle_of_asks asks, apply, target]
  unfold createChargeback at settled ⊢
  cases hr : i.reference with
  | none =>
    rw [hr] at settled
    exact settles_pure (.passed settled (.inr ⟨_, rfl⟩)) lost
  | some reference =>
    simp only [hr] at settled ⊢
    cases hk : m.payment.transactionByKey? (chargebackKey m.payment.id reference) with
    | some known =>
      rw [hk] at settled
      exact settles_pure (.standing settled (List.mem_of_find?_eq_some hk)) lost
    | none =>
      -- the payment was loaded in the same world, so that the platform finds no such key either
      obtain ⟨p', hc, -⟩ := created_writes found hk
      refine settles_write rfl (World.perform_createChargeback _ _ hc) lost fun trace lost => ?_
      have hp : p' = (w.platform.createChargeback m.payment.id (newChargeback i m reference)).2 := by rw [hc]
      subst hp
      exact settles_pure (.created asks target hr hk) lost

theorem reverseChargeback_comes {tenant : Option Ident} (found : Found w i tenant m)
    (asks : Asks i m t ⟨.existingChargeback, s⟩) (lost : updateLost trace = false) :
    (reverseChargeback i m t s).run.Comes conditions (Settles conditions i m t w) trace w := by
  have settled : settle i m t = reverseChargeback i m t s := by rw [settle_of_asks asks, apply]
  unfold reverseChargeback at settled ⊢
  cases hr : reversed? i m.payment with
  | none =>
    rw [hr] at settled
    exact settles_pure (.passed settled (.inr ⟨_, rfl⟩)) lost
  | some chargeback =>
    simp only [hr] at settled ⊢
    by_cases hs : chargeback.status = s
    · subst hs
      rw [if_pos rfl] at settled ⊢
      exact settles_pure (.standing settled (mem_of_reversed? hr).1) lost
    · rw [if_neg hs]
      obtain ⟨y, hy⟩ : ∃ y, m.payment.transaction? chargeback.id = some y :=
        exists_find? (mem_of_reversed? hr).1 (by simp)
      obtain ⟨p', hu, -⟩ := updateTransaction_found (c := reversal i m chargeback s) found.payment_found hy
      refine settles_write rfl (World.perform_updateTransaction _ _ hu) lost fun trace lost => ?_
      have hp : p' = (w.platform.updateTransaction (reversal i m chargeback s)).2 := by rw [hu]
      subst hp
      exact settles_pure (.reversed asks hr hs) lost

theorem settle_comes {tenant : Option Ident} (found : Found w i tenant m) (lost : updateLost trace = false) :
    (settle i m t).run.Comes conditions (Settles conditions i m t w) trace w := by
  by_cases h : ∃ x, Asks i m t x
  · obtain ⟨⟨target, s⟩, asks⟩ := h
    rw [settle_of_asks asks]
    cases target with
    | matched => exact applyToMatched_comes found asks lost
    | newChargeback => exact createChargeback_comes found asks rfl lost
    | existingChargeback => exact reverseChargeback_comes found asks lost
  · obtain ⟨o, settled, ho⟩ := settle_of_not_asks fun x asks => h ⟨x, asks⟩
    rw [settled]
    exact settles_pure (.passed settled ho) lost

/-! ### The way of an item -/

/-- What matching the item comes to. -/
def Resolves (r : Registry) (conditions : Conditions) (w : World) (i : Item) (x : Except Failure (Option Match)) :
    Prop :=
  ((resolve i ((r.forAccount? i.merchantAccount).map (·.id))).run.run conditions w).ending = .finished x

/-- The audit entry of an item before it is matched. -/
def ownerEntry (r : Registry) (i : Item) : AuditEntry :=
  { i.audit with tenant := (r.forAccount? i.merchantAccount).map (·.id) }

/-- The audit entry of an item whose tenant is known, before it is linked. -/
def tenantEntry (r : Registry) (i : Item) (m : Match) : AuditEntry :=
  { i.audit with tenant := some (tenantFor r i m).id }

/-- The ends of an item: its outcome, its audit entry, whether its attempt could not be moved, and the world before the
entry is written. -/
inductive Exit (r : Registry) (conditions : Conditions) (w : World) (i : Item) :
    Outcome → AuditEntry → Bool → World → Prop where
  /-- The owner of the merchant account does not accept the signature. -/
  | forged (h : (r.forAccount? i.merchantAccount).all (verified i) = false) :
      Exit r conditions w i .rejected (ownerEntry r i) false w
  /-- The attempt can not be looked up. -/
  | unread {f : Failure} (h : Resolves r conditions w i (.error f)) :
      Exit r conditions w i (.failed f.message) (ownerEntry r i) false w
  | unmatched (h : Resolves r conditions w i (.ok none)) : Exit r conditions w i .unmatched (ownerEntry r i) false w
  /-- The tenant of the attempt does not accept the signature. -/
  | disowned {m : Match} (h : MatchedTo r conditions w i m) (unverified : verified i (tenantFor r i m) = false) :
      Exit r conditions w i .rejected (tenantEntry r i m) false w
  | settled {m : Match} {o : Outcome} {v : World} (h : MatchedTo r conditions w i m) (accepted : Accepted r w i m)
      (settlement : Settlement conditions i m (tenantFor r i m) w (.ok o) v) :
      Exit r conditions w i o (linked (tenantEntry r i m) m (o.transaction?.getD m.transaction.id)) false v
  /-- The platform refuses, and the item counts as unmatched. -/
  | refused {m : Match} {k : Call} (h : MatchedTo r conditions w i m) (kind : k.writesPlatform = true)
      (fails : conditions.fails k = true) : Exit r conditions w i .unmatched (tenantEntry r i m) false w
  /-- The attempt can not be moved. -/
  | unrecorded {m : Match} {f : Failure} {v : World} (h : MatchedTo r conditions w i m) (accepted : Accepted r w i m)
      (halfway : Halfway conditions i m (tenantFor r i m) w v) :
      Exit r conditions w i (.failed f.message) (linked (tenantEntry r i m) m m.transaction.id) true v

/-- How an item ends: in one of its exits, with its audit entry written unless that fails, or by an abort, on the way to
an exit or when the entry was to be written. -/
def Ends (r : Registry) (conditions : Conditions) (w : World) (i : Item) : Ending Outcome → List Event → World → Prop
  | .finished o, trace, v => ∃ e u, Exit r conditions w i o e (updateLost trace) u ∧
      v = (u.answer conditions (.recordAudit e)).2
  | .aborted k, _, v => v = w ∨ (∃ m, MatchedTo r conditions w i m ∧ Accepted r w i m ∧
      Halfway conditions i m (tenantFor r i m) w v) ∨ ∃ o e lost, k = .recordAudit e ∧ Exit r conditions w i o e lost v

/-- From an exit on, only the audit entry is written. -/
theorem Exit.conclude {e : AuditEntry} (h : Exit r conditions w i o e (updateLost trace) v) :
    (conclude e o).Comes conditions (Ends r conditions w i) trace v := by
  rw [conclude_eq, comes_call]
  split
  · exact .inr (.inr ⟨o, e, _, rfl, h⟩)
  · have lost : ∀ x, updateLost (trace ++ [⟨.recordAudit e, some x⟩]) = updateLost trace := by
      intro x
      rw [updateLost_append]
      exact Bool.or_false _
    exact comes_done.2 ⟨e, v, by rwa [lost], rfl⟩

/-- What matching comes to; it leaves the world as it was and moves no attempt. -/
theorem resolve_comes (r : Registry) (conditions : Conditions) (w : World) (i : Item) :
    (resolve i ((r.forAccount? i.merchantAccount).map (·.id))).run.Comes conditions
      (fun x trace v => v = w ∧ updateLost trace = false ∧
        ∀ y, x = .finished y → Resolves r conditions w i y) [] w := by
  obtain ⟨x, hx, -⟩ : Reads conditions w (resolve i ((r.forAccount? i.merchantAccount).map (·.id))).run _ :=
    resolve_reads i _
  exact ⟨congrArg Prod.snd hx, updateLost_of_not_writes (resolve_idle i _ w).calls, fun _ => id⟩

/-- What was applied to a match decides the exit. -/
theorem finish_comes (matched : MatchedTo r conditions w i m) (accepted : Accepted r w i m)
    {x : Except Obstacle Outcome} (h : Settles conditions i m (tenantFor r i m) w (.finished x) trace v) :
    (finish (tenantEntry r i m) m x).Comes conditions (Ends r conditions w i) trace v := by
  obtain ⟨settlement, lost⟩ := h
  match x with
  | .ok o => exact Exit.conclude (lost ▸ .settled matched accepted settlement)
  | .error (.refused f) =>
    cases settlement with
    | refused kind fails => exact Exit.conclude (lost ▸ .refused matched kind fails)
  | .error (.unrecorded f) =>
    cases settlement with
    | unrecorded halfway => exact Exit.conclude (lost ▸ .unrecorded matched accepted halfway)

theorem item_comes (r : Registry) (conditions : Conditions) (w : World) (i : Item) :
    (item r i).Comes conditions (Ends r conditions w i) [] w := by
  unfold item
  dsimp only
  split
  case isFalse howner => exact Exit.conclude (.forged (by simpa using howner))
  case isTrue howner =>
  refine Comes.bind (resolve_comes r conditions w i) ?_ fun k trace v h => .inl h.1
  rintro x trace v ⟨rfl, lost, hx⟩
  have resolves := hx x rfl
  match x with
  | .error f => exact Exit.conclude (lost ▸ .unread resolves)
  | .ok none => exact Exit.conclude (lost ▸ .unmatched resolves)
  | .ok (some m) =>
    dsimp only
    rw [← tenantFor]
    split
    case isFalse htenant => exact Exit.conclude (lost ▸ .disowned resolves (by simpa using htenant))
    case isTrue htenant =>
    have accepted : Accepted r v i m := ⟨found_of_matchedTo resolves, howner, htenant⟩
    refine Comes.bind (settle_comes accepted.toFound lost) (fun x trace u h => finish_comes resolves accepted h) ?_
    exact fun k trace u h => .inr (.inl ⟨m, resolves, accepted, h⟩)

/-- Whatever calls fail or abort, an item ends in one of its exits or is aborted on the way to one. -/
theorem item_exit (r : Registry) (conditions : Conditions) (w : World) (i : Item) :
    Ends r conditions w i ((item r i).run conditions w).ending ((item r i).run conditions w).trace
      ((item r i).run conditions w).world := by
  have comes : (item r i).Comes conditions _ [] w := item_comes r conditions w i
  rwa [Comes, List.nil_append] at comes

/-! ### What is left -/

/-- What a delivery under these conditions leaves, but for the audit. -/
inductive Left (r : Registry) (conditions : Conditions) (w : World) (i : Item) : World → Prop where
  | nothing : Left r conditions w i w
  | halfway {m : Match} {u : World} (matched : MatchedTo r conditions w i m) (accepted : Accepted r w i m)
      (halfway : Halfway conditions i m (tenantFor r i m) w u) : Left r conditions w i u
  | settled {m : Match} {o : Outcome} {u : World} (matched : MatchedTo r conditions w i m)
      (accepted : Accepted r w i m) (settlement : Settlement conditions i m (tenantFor r i m) w (.ok o) u) :
      Left r conditions w i u

theorem Exit.left {e : AuditEntry} {lost : Bool} (h : Exit r conditions w i o e lost u) : Left r conditions w i u := by
  cases h with
  | settled matched accepted settlement => exact .settled matched accepted settlement
  | unrecorded matched accepted halfway => exact .halfway matched accepted halfway
  | forged | unread | unmatched | disowned | refused => exact .nothing

/-- Whatever calls fail or abort, nothing else is left. -/
theorem left_of_item (r : Registry) (conditions : Conditions) (w : World) (i : Item) :
    ∃ u, Left r conditions w i u ∧ u.Same ((item r i).run conditions w).world := by
  have ends := item_exit r conditions w i
  cases he : ((item r i).run conditions w).ending with
  | finished o =>
    rw [he] at ends
    obtain ⟨e, u, exit, hv⟩ := ends
    exact ⟨u, exit.left, hv ▸ World.Same.of_answer rfl conditions u⟩
  | aborted k =>
    rw [he] at ends
    rcases ends with hw | ⟨m, matched, accepted, halfway⟩ | ⟨o, e, lost, -, exit⟩
    · exact ⟨w, .nothing, hw.symm ▸ .refl w⟩
    · exact ⟨_, .halfway matched accepted halfway, .refl _⟩
    · exact ⟨_, exit.left, .refl _⟩

/-! ### Effects -/

theorem Halfway.effect {o : Option Outcome} (h : Halfway conditions i m t w u)
    (outcome : ∀ t s, o ≠ some (.applied t s)) : Quiet w o u ∨ Effect i m t w o u := by
  cases h with
  | untouched => exact .inl ⟨rfl, rfl, outcome⟩
  | @moved s asks status stopped =>
    exact .inr (.moved s asks status rfl (.inl rfl) fun t s' ho => absurd ho (outcome t s'))

theorem Settlement.effect (h : Settlement conditions i m t w (.ok o) u) :
    Quiet w (some o) u ∨ Effect i m t w (some o) u := by
  cases h with
  | passed settled outcome => exact .inl ⟨rfl, rfl, by rcases outcome with rfl | ⟨reason, rfl⟩ <;> simp⟩
  | standing settled recorded => exact .inl ⟨rfl, rfl, by simp⟩
  | @kept s asks status => exact .inr (.kept s asks status rfl rfl (by simp))
  | @moved s asks status => exact .inr (.moved s asks status rfl (.inr rfl) (by simp +contextual [eq_comm]))
  | @created x reference asks target carried fresh =>
    exact .inr (.created x asks target reference carried fresh rfl rfl (by simp +contextual [eq_comm]))
  | @reversed s chargeback asks picked status =>
    exact .inr (.reversed s asks chargeback picked status rfl rfl (by simp +contextual [eq_comm]))

theorem Exit.effect {e : AuditEntry} {lost : Bool} (h : Exit r conditions w i o e lost u) :
    Quiet w (some o) u ∨ ∃ m, Accepted r w i m ∧ Effect i m (tenantFor r i m) w (some o) u := by
  cases h with
  | settled matched accepted settlement => exact settlement.effect.imp id fun effect => ⟨_, accepted, effect⟩
  | unrecorded matched accepted halfway => exact (halfway.effect (by simp)).imp id fun effect => ⟨_, accepted, effect⟩
  | forged | unread | unmatched | disowned | refused => exact .inl ⟨rfl, rfl, by simp⟩

/-- Whatever calls fail or abort, an item changes nothing, or it was verified and matched and has one of the
effects. -/
theorem item_effect (r : Registry) (i : Item) (conditions : Conditions) (w : World) :
    Quiet w ((item r i).exec conditions w).1 ((item r i).exec conditions w).2 ∨
      ∃ m, Accepted r w i m ∧
        Effect i m (tenantFor r i m) w ((item r i).exec conditions w).1 ((item r i).exec conditions w).2 := by
  -- what follows an exit changes neither of the stores, and may lose the outcome
  have later {o : Outcome} {e : AuditEntry} {lost : Bool} {u v : World} {o' : Option Outcome}
      (exit : Exit r conditions w i o e lost u) (same : u.Same v) (ho : o' = none ∨ o' = some o) :
      Quiet w o' v ∨ ∃ m, Accepted r w i m ∧ Effect i m (tenantFor r i m) w o' v := by
    have applied (t : Ident) (s : Status) (h : o' = some (.applied t s)) : some o = some (.applied t s) := by
      rcases ho with rfl | rfl
      · cases h
      · exact h
    refine exit.effect.imp (·.conclude same.platform same.attempts applied) ?_
    exact fun ⟨m, accepted, effect⟩ => ⟨m, accepted, effect.conclude same.platform same.attempts applied⟩
  have ends := item_exit r conditions w i
  unfold exec
  cases he : ((item r i).run conditions w).ending with
  | finished o =>
    rw [he] at ends
    obtain ⟨e, u, exit, hv⟩ := ends
    exact later exit (hv ▸ World.Same.of_answer rfl conditions u) (.inr rfl)
  | aborted k =>
    rw [he] at ends
    rcases ends with hw | ⟨m, matched, accepted, halfway⟩ | ⟨o, e, lost, -, exit⟩
    · exact .inl ⟨by rw [hw], by rw [hw], by simp [Ending.result?]⟩
    · exact (halfway.effect (by simp [Ending.result?])).imp id fun effect => ⟨m, accepted, effect⟩
    · exact later exit (.refl _) (.inl rfl)

end Notification.Delivery
end Reconciliation
