import Reconciliation.Notification.Matching
import Reconciliation.Proofs.Execution
import Reconciliation.Proofs.Selection
import Reconciliation.Proofs.Stores

/-!
# What an item is matched to

Matching makes calls, but changes nothing, so it can be described by what the stores hold.

* `Found` is what is known of a match, whatever calls failed (`resolve_reads`).
* `sight` is the match itself where no call fails (`resolve_fairly`).
* `spot_map`: which attempt is spotted does not depend on the statuses of attempts.
-/

namespace Reconciliation

/-- An attempt without its status. -/
def Attempt.blank (a : Attempt) : Attempt := { a with status := .pending }

/-- An attempt without its status and its reference. -/
def Attempt.bare (a : Attempt) : Attempt := { a with status := .pending, reference := none }

namespace Notification

/-- A match agrees with what the stores hold, and the operation of the attempt is one the event can come from. -/
structure Found (w : World) (i : Item) (tenant : Option Ident) (m : Match) : Prop where
  recorded : m.attempt ∈ w.journal.attempts
  owned : tenant.all (m.attempt.tenant == ·) = true
  candidate : ∃ n, (Candidates.forEvent i.eventCode).rank? m.attempt.operation = some n
  payment : w.platform.payments.find? (·.id == m.attempt.payment) = some m.payment
  transaction : m.payment.transaction? m.attempt.transaction = some m.transaction

namespace Found

variable {w : World} {i : Item} {tenant : Option Ident} {m : Match}

theorem payment_id (h : Found w i tenant m) : m.payment.id = m.attempt.payment := by
  simpa using List.find?_some h.payment

theorem transaction_id (h : Found w i tenant m) : m.transaction.id = m.attempt.transaction := by
  simpa using List.find?_some h.transaction

theorem payment_found (h : Found w i tenant m) :
    w.platform.payments.find? (·.id == m.payment.id) = some m.payment := h.payment_id ▸ h.payment

theorem transaction_found (h : Found w i tenant m) : m.payment.transaction? m.transaction.id = some m.transaction :=
  h.transaction_id ▸ h.transaction

theorem payment_mem (h : Found w i tenant m) : m.payment ∈ w.platform.payments :=
  List.mem_of_find?_eq_some h.payment

theorem transaction_mem (h : Found w i tenant m) : m.transaction ∈ m.payment.transactions :=
  List.mem_of_find?_eq_some h.transaction

end Found

namespace Matching

open Procedure

variable {conditions : Conditions} {w : World} {c : Candidates} {tenant : Option Ident}

/-! ### What is there -/

/-- The attempt is one of these, belongs to the tenant, and its operation is one that the event can come from. -/
def Spotted (attempts : List Attempt) (c : Candidates) (tenant : Option Ident) (a : Attempt) : Prop :=
  a ∈ attempts ∧ tenant.all (a.tenant == ·) = true ∧ ∃ n, c.rank? a.operation = some n

/-- The best of the attempts with a reference. -/
def spotReference (attempts : List Attempt) (c : Candidates) (tenant : Option Ident) (reference : Option String) :
    Option Attempt :=
  reference.bind fun s => c.select tenant (attempts.filter (·.reference == some s))

/-- The first attempt for a transaction, if it is a candidate. -/
def spotTransaction (attempts : List Attempt) (c : Candidates) (tenant : Option Ident) (transaction : Option Ident) :
    Option Attempt :=
  transaction.bind fun t => c.select tenant (attempts.find? (·.transaction == t)).toList

/-- The attempt that an item tells of, with the reference it is found by. -/
def spot (attempts : List Attempt) (i : Item) (c : Candidates) (tenant : Option Ident) : Option (Attempt × Source) :=
  ((spotReference attempts c tenant i.parentReference).map (·, .parentReference)).or
    (((spotReference attempts c tenant (ownReference? i)).map (·, .ownReference)).or
      ((spotTransaction attempts c tenant (transactionId? i)).map (·, .merchantReference)))

/-- The transaction of an attempt, with all that belongs to a match. -/
def behold (p : Platform) (i : Item) (a : Attempt) (source : Source) : Option Match :=
  (p.payments.find? (·.id == a.payment)).bind fun payment =>
    (payment.transaction? a.transaction).map fun t =>
      ⟨a, payment, t, family i (p.method? payment.method), source⟩

/-- What an item is matched to where no call fails. -/
def sight (attempts : List Attempt) (p : Platform) (i : Item) (tenant : Option Ident) : Option Match :=
  (spot attempts i (.forEvent i.eventCode) tenant).bind fun (a, source) => behold p i a source

theorem attempt_of_behold {p : Platform} {i : Item} {a : Attempt} {source : Source} {m : Match}
    (h : behold p i a source = some m) : m.attempt = a := by
  obtain ⟨x, -, hx⟩ := Option.bind_eq_some_iff.1 h
  obtain ⟨t, -, rfl⟩ := Option.map_eq_some_iff.1 hx
  rfl

theorem sight_eq_some {attempts : List Attempt} {p : Platform} {i : Item} {m : Match} :
    sight attempts p i tenant = some m ↔
      spot attempts i (.forEvent i.eventCode) tenant = some (m.attempt, m.source) ∧
        p.payments.find? (·.id == m.attempt.payment) = some m.payment ∧
        m.payment.transaction? m.attempt.transaction = some m.transaction ∧
        m.family = family i (p.method? m.payment.method) := by
  simp only [sight, behold, Option.bind_eq_some_iff, Option.map_eq_some_iff, Prod.exists]
  constructor
  · rintro ⟨a, source, hs, payment, hp, t, ht, rfl⟩
    exact ⟨hs, hp, ht, rfl⟩
  · rintro ⟨hs, hp, ht, hf⟩
    exact ⟨_, _, hs, _, hp, _, ht, by rw [← hf]⟩

/-- What holds of an attempt that is selected. -/
theorem spotted_of_spotReference {attempts : List Attempt} {reference : Option String} {a : Attempt}
    (h : spotReference attempts c tenant reference = some a) : Spotted attempts c tenant a := by
  obtain ⟨s, -, hs⟩ := Option.bind_eq_some_iff.1 h
  obtain ⟨hm, hr⟩ := c.mem_of_select tenant hs
  exact ⟨List.mem_of_mem_filter hm, hr⟩

theorem spotted_of_spotTransaction {attempts : List Attempt} {transaction : Option Ident} {a : Attempt}
    (h : spotTransaction attempts c tenant transaction = some a) : Spotted attempts c tenant a := by
  obtain ⟨t, -, ht⟩ := Option.bind_eq_some_iff.1 h
  obtain ⟨hm, hr⟩ := c.mem_of_select tenant ht
  exact ⟨List.mem_of_find?_eq_some (Option.mem_toList.1 hm), hr⟩

theorem spotted_of_spot {attempts : List Attempt} {i : Item} {a : Attempt} {source : Source}
    (h : spot attempts i c tenant = some (a, source)) : Spotted attempts c tenant a := by
  simp only [spot, Option.or_eq_some_iff, Option.map_eq_some_iff, Prod.mk.injEq] at h
  rcases h with ⟨_, h, rfl, -⟩ | ⟨-, ⟨_, h, rfl, -⟩ | ⟨-, _, h, rfl, -⟩⟩
  · exact spotted_of_spotReference h
  · exact spotted_of_spotReference h
  · exact spotted_of_spotTransaction h

/-- A match that is seen agrees with what the stores hold. -/
theorem found_of_sight {i : Item} {m : Match} (h : sight w.journal.attempts w.platform i tenant = some m) :
    Found w i tenant m := by
  obtain ⟨hs, hp, ht, -⟩ := sight_eq_some.1 h
  obtain ⟨hr, ho, hc⟩ := spotted_of_spot hs
  exact ⟨hr, ho, hc, hp, ht⟩

/-! ### Under any conditions -/

/-- A search that does not fail gives what is there. -/
def Gives (x : Option (Attempt × Source)) : Except Failure (Option (Attempt × Source)) → Prop
  | .ok y => y = x
  | .error _ => True

theorem orElse_reads {p q : Attempted (Option (Attempt × Source))} {x y : Option (Attempt × Source)}
    (hp : Reads conditions w p.run (Gives x)) (hq : Reads conditions w q.run (Gives y)) :
    Reads conditions w (orElse p q).run (Gives (x.or y)) := by
  unfold orElse
  rw [ExceptT.run_bind]
  refine hp.bind fun z hz => ?_
  match z with
  | .ok (some a) =>
    cases hz
    exact .done rfl
  | .ok none =>
    cases hz
    exact hq
  | .error f => exact .done trivial

theorem byReference_reads (source : Source) (reference : Option String) :
    Reads conditions w (byReference c tenant source reference).run
      (Gives ((spotReference w.journal.attempts c tenant reference).map (·, source))) := by
  cases reference with
  | none => exact .done rfl
  | some reference =>
    refine Reads.bind (Reads.ask rfl) fun x hx => ?_
    cases x with
    | error f => exact .done trivial
    | ok attempts =>
      obtain rfl : attempts = w.journal.withReference reference := by simpa [World.perform] using hx
      refine .done (congrArg (Option.map (·, source)) ?_)
      rw [Journal.withReference, c.select_mergeSort]
      rfl

theorem byTransaction_reads (transaction : Option Ident) :
    Reads conditions w (byTransaction c tenant transaction).run
      (Gives ((spotTransaction w.journal.attempts c tenant transaction).map (·, .merchantReference))) := by
  cases transaction with
  | none => exact .done rfl
  | some transaction =>
    refine Reads.bind (Reads.ask rfl) fun x hx => ?_
    cases x with
    | error f => exact .done trivial
    | ok attempt =>
      obtain rfl : attempt = w.journal.withTransaction? transaction := by simpa [World.perform] using hx
      exact .done rfl

theorem find_reads (i : Item) :
    Reads conditions w (find i c tenant).run (Gives (spot w.journal.attempts i c tenant)) :=
  orElse_reads (byReference_reads _ _) (orElse_reads (byReference_reads _ _) (byTransaction_reads _))

/-- A match that was loaded is the one that is seen, but perhaps for the family: the payment method may not be known. -/
structure Glimpsed (conditions : Conditions) (x : Option Match) (m : Match) : Prop where
  seen : ∃ family, x = some { m with family }
  known : .getMethod ∉ conditions.failing → x = some m

theorem found_of_glimpsed {i : Item} {m : Match}
    (h : Glimpsed conditions (sight w.journal.attempts w.platform i tenant) m) : Found w i tenant m := by
  obtain ⟨family, seen⟩ := h.seen
  -- nothing of it is about the family
  obtain ⟨hr, ho, hc, hp, ht⟩ := found_of_sight seen
  exact ⟨hr, ho, hc, hp, ht⟩

theorem load_reads (i : Item) (a : Attempt) (source : Source) :
    Reads conditions w (load i a source) fun x => ∀ m, x = some m →
      Glimpsed conditions (behold w.platform i a source) m := by
  unfold load
  refine Reads.bind (Reads.ask rfl) fun x hx => ?_
  cases x with
  | error f => exact .done (by simp)
  | ok payment =>
    have hp : w.platform.payment? a.payment = .ok payment := hx.elim Eq.symm fun h => nomatch h.2
    replace hp := Platform.payment?_eq_ok.1 hp
    dsimp only
    split
    · exact .done (by simp)
    · next t ht =>
      refine Reads.bind (Reads.ask rfl) fun method hm => .done ?_
      rintro _ ⟨⟩
      have seen : behold w.platform i a source =
          some ⟨a, payment, t, family i (w.platform.method? payment.method), source⟩ := by
        rw [behold, hp, Option.bind_some, ht, Option.map_some]
      refine ⟨⟨_, seen⟩, fun methods => ?_⟩
      rcases hm with rfl | ⟨hf, -⟩
      · exact seen
      · exact absurd (by simpa [Conditions.fails, Call.kind?] using hf) methods

/-- Matching changes nothing, and a match is one that is seen. -/
theorem resolve_reads (i : Item) (tenant : Option Ident) :
    Reads conditions w (resolve i tenant).run fun x => ∀ m, x = .ok (some m) →
      Glimpsed conditions (sight w.journal.attempts w.platform i tenant) m := by
  unfold resolve
  dsimp only
  split
  · exact .done (by simp)
  · rw [ExceptT.run_bind]
    refine (find_reads i).bind fun x hx => ?_
    match x with
    | .error f => exact .done (by simp)
    | .ok none => exact .done (by simp)
    | .ok (some (a, source)) =>
      refine Reads.bind (load_reads i a source) fun y hy => .done ?_
      rintro m ⟨⟩
      rw [sight, ← hx]
      exact hy m rfl

/-! What is spotted depends neither on the statuses of attempts nor, where no reference is asked for, on references. -/

section Map

variable {g : Attempt → Attempt} (htenant : ∀ a, (g a).tenant = a.tenant)
  (hoperation : ∀ a, (g a).operation = a.operation) (hcreated : ∀ a, (g a).created = a.created)

include htenant hoperation hcreated

theorem spotReference_map (hreference : ∀ a, (g a).reference = a.reference) (attempts : List Attempt)
    (reference : Option String) :
    spotReference (attempts.map g) c tenant reference = (spotReference attempts c tenant reference).map g := by
  cases reference with
  | none => rfl
  | some s =>
    simp only [spotReference, Option.bind_some, List.filter_map, Function.comp_def, hreference]
    exact c.select_map tenant g htenant hoperation hcreated _

theorem spotTransaction_map (htransaction : ∀ a, (g a).transaction = a.transaction) (attempts : List Attempt)
    (transaction : Option Ident) :
    spotTransaction (attempts.map g) c tenant transaction = (spotTransaction attempts c tenant transaction).map g := by
  cases transaction with
  | none => rfl
  | some u =>
    simp only [spotTransaction, Option.bind_some, List.find?_map, Function.comp_def, htransaction]
    rw [← c.select_map tenant g htenant hoperation hcreated, Option.toList_map]

theorem spot_map (hreference : ∀ a, (g a).reference = a.reference)
    (htransaction : ∀ a, (g a).transaction = a.transaction) (attempts : List Attempt) (i : Item) :
    spot (attempts.map g) i c tenant = (spot attempts i c tenant).map fun x => (g x.1, x.2) := by
  simp only [spot, spotReference_map htenant hoperation hcreated hreference,
    spotTransaction_map htenant hoperation hcreated htransaction, Option.map_or, Option.map_map, Function.comp_def]

end Map

theorem spotReference_blank (attempts : List Attempt) (reference : Option String) :
    spotReference (attempts.map Attempt.blank) c tenant reference =
      (spotReference attempts c tenant reference).map Attempt.blank :=
  spotReference_map (g := Attempt.blank) (fun _ => rfl) (fun _ => rfl) (fun _ => rfl) (fun _ => rfl) attempts reference

theorem spotTransaction_bare (attempts : List Attempt) (transaction : Option Ident) :
    spotTransaction (attempts.map Attempt.bare) c tenant transaction =
      (spotTransaction attempts c tenant transaction).map Attempt.bare :=
  spotTransaction_map (g := Attempt.bare) (fun _ => rfl) (fun _ => rfl) (fun _ => rfl) (fun _ => rfl) attempts
    transaction

theorem spot_blank (attempts : List Attempt) (i : Item) :
    spot (attempts.map Attempt.blank) i c tenant = (spot attempts i c tenant).map fun x => (x.1.blank, x.2) :=
  spot_map (g := Attempt.blank) (fun _ => rfl) (fun _ => rfl) (fun _ => rfl) (fun _ => rfl) (fun _ => rfl) attempts i

theorem select_of_isEmpty (h : c.isEmpty = true) (attempts : List Attempt) : c.select tenant attempts = none := by
  cases hs : c.select tenant attempts with
  | none => rfl
  | some a =>
    obtain ⟨-, -, n, hn⟩ := c.mem_of_select tenant hs
    simp only [Candidates.isEmpty, Bool.and_eq_true, List.isEmpty_iff] at h
    simp [Candidates.rank?, h.1, h.2] at hn

theorem spot_of_isEmpty {attempts : List Attempt} {i : Item} (h : c.isEmpty = true) :
    spot attempts i c tenant = none := by
  have href : ∀ reference, spotReference attempts c tenant reference = none := by
    intro reference
    cases reference with
    | none => rfl
    | some s => exact select_of_isEmpty h _
  have htr : ∀ transaction, spotTransaction attempts c tenant transaction = none := by
    intro transaction
    cases transaction with
    | none => rfl
    | some t => exact select_of_isEmpty h _
  simp [spot, href, htr]

/-! ### Where no call fails -/

theorem orElse_fairly {p q : Attempted (Option (Attempt × Source))} {x y : Option (Attempt × Source)}
    (hp : p.run.fairly w = (.ok x, w)) (hq : q.run.fairly w = (.ok y, w)) :
    (orElse p q).run.fairly w = (.ok (x.or y), w) := by
  unfold orElse
  rw [ExceptT.run_bind, bind_eq, fairly_bind, hp]
  cases x with
  | none => exact hq
  | some a => rfl

theorem byReference_fairly (source : Source) (reference : Option String) :
    (byReference c tenant source reference).run.fairly w =
      (.ok ((spotReference w.journal.attempts c tenant reference).map (·, source)), w) := by
  cases reference with
  | none => rfl
  | some reference =>
    change (Except.ok ((c.select tenant (w.journal.withReference reference)).map (·, source)), w) = _
    rw [Journal.withReference, c.select_mergeSort]
    rfl

theorem find_fairly (i : Item) :
    (find i c tenant).run.fairly w = (.ok (spot w.journal.attempts i c tenant), w) := by
  refine orElse_fairly (byReference_fairly _ _) (orElse_fairly (byReference_fairly _ _) ?_)
  cases transactionId? i <;> rfl

theorem load_fairly (i : Item) (a : Attempt) (source : Source) :
    (load i a source).fairly w = (behold w.platform i a source, w) := by
  unfold load behold
  rw [bind_eq, fairly_bind, fairly_ask]
  simp only [World.perform, Platform.payment?]
  cases w.platform.payments.find? (·.id == a.payment) with
  | none => rfl
  | some payment =>
    simp only [Option.bind_some]
    cases payment.transaction? a.transaction <;> rfl

theorem resolve_fairly (i : Item) (tenant : Option Ident) :
    (resolve i tenant).run.fairly w = (.ok (sight w.journal.attempts w.platform i tenant), w) := by
  unfold resolve
  dsimp only
  split
  · next h =>
    rw [sight, spot_of_isEmpty h]
    rfl
  · rw [ExceptT.run_bind, bind_eq, fairly_bind, find_fairly, sight]
    cases spot w.journal.attempts i (.forEvent i.eventCode) tenant with
    | none => rfl
    | some x =>
      obtain ⟨a, source⟩ := x
      change ((load i a source).bind _).fairly w = _
      rw [fairly_bind, load_fairly]
      rfl

end Matching
end Notification
end Reconciliation
