import Reconciliation.Proofs.Designation
import Reconciliation.Proofs.Identifiers
import Reconciliation.Proofs.Isolation
import Reconciliation.Proofs.Operations

/-!
# Operations and the events that tell of them

An operation gives the gateway the identifier of its transaction, and the gateway's events carry it back. By it, an event
finds the attempt of the operation, whether or not the gateway's answer had a reference.

* `Instruction.events` lists the events that tell of an operation; the operation is a candidate for each of them.
* `spot_of_last`: the only attempt for a transaction is spotted by an item that names the transaction, unless another
  attempt carries one of its references.
* `operation_reunion` is the statement about an operation and the items that come after it.
-/

namespace Reconciliation

open Notification Gateway Procedure

/-- The events that tell of an operation. -/
def Gateway.Instruction.events : Instruction → List EventCode
  | .authorize _ => [.authorisation]
  | .purchase _ => [.authorisation, .capture]
  | .credit _ => [.refund]
  | .capture _ _ _ => [.capture]
  | .refund _ _ _ => [.refund]
  | .void _ => [.cancellation]

theorem Gateway.Instruction.rank?_of_event {o : Instruction} {e : EventCode} (h : e ∈ o.events) :
    ∃ rank, (Candidates.forEvent e).rank? o.operation = some rank := by
  cases o with
  | purchase d =>
    simp only [events, List.mem_cons, List.not_mem_nil, or_false] at h
    rcases h with rfl | rfl <;> exact ⟨1, rfl⟩
  | credit d =>
    obtain rfl := List.mem_singleton.1 h
    exact ⟨1, rfl⟩
  | _ =>
    obtain rfl := List.mem_singleton.1 h
    exact ⟨2, rfl⟩

namespace Notification.Matching

variable {attempts : List Attempt} {c : Candidates} {tenant : Option Ident} {i : Item} {a : Attempt}

/-- No attempt carries the reference, if there is one. -/
def Foreign (attempts : List Attempt) (reference : Option String) : Prop :=
  ∀ b ∈ attempts, ∀ s, reference = some s → b.reference ≠ some s

/-- By a reference that no other attempt carries, the last attempt is found, or none. -/
theorem spotReference_of_last (c : Candidates) (tenant : Option Ident) (a : Attempt) {reference : Option String}
    (foreign : Foreign attempts reference) :
    spotReference (attempts ++ [a]) c tenant reference = some a ∨
      spotReference (attempts ++ [a]) c tenant reference = none := by
  cases h : spotReference (attempts ++ [a]) c tenant reference with
  | none => exact .inr rfl
  | some b =>
    obtain ⟨s, hs, hb⟩ := Option.bind_eq_some_iff.1 h
    obtain ⟨hmem, -, -⟩ := c.mem_of_select tenant hb
    obtain ⟨hmem, carried⟩ := List.mem_filter.1 hmem
    rcases List.mem_append.1 hmem with hmem | hmem
    · exact absurd (by simpa using carried) (foreign b hmem s hs)
    · exact .inl (by rw [List.mem_singleton.1 hmem])

/-- The last attempt, if it is the first for its transaction, is found by the identifier of the transaction. -/
theorem spotTransaction_of_last (fresh : ∀ b ∈ attempts, b.transaction ≠ a.transaction)
    (owned : ∀ t, tenant = some t → a.tenant = t) (ranked : ∃ rank, c.rank? a.operation = some rank) :
    spotTransaction (attempts ++ [a]) c tenant (some a.transaction) = some a := by
  have others : attempts.find? (·.transaction == a.transaction) = none :=
    List.find?_eq_none.2 fun b hb => by simpa using fresh b hb
  have first : (attempts ++ [a]).find? (·.transaction == a.transaction) = some a := by
    rw [List.find?_append, others]
    simp
  exact select_toList_eq_some_iff.2 ⟨first, owned, ranked⟩

/-- An item that names the transaction of the last attempt finds this attempt, whichever of its references does so. -/
theorem spot_of_last (fresh : ∀ b ∈ attempts, b.transaction ≠ a.transaction)
    (owned : ∀ t, tenant = some t → a.tenant = t) (ranked : ∃ rank, c.rank? a.operation = some rank)
    (named : transactionId? i = some a.transaction) (parent : Foreign attempts i.parentReference)
    (own : Foreign attempts i.reference) : ∃ source, spot (attempts ++ [a]) i c tenant = some (a, source) := by
  rw [spot_eq, named, spotTransaction_of_last fresh owned ranked]
  rcases spotReference_of_last c tenant a parent with h | h
  · exact ⟨.parentReference, by rw [h]; rfl⟩
  · rw [h]
    rcases spotReference_of_last c tenant a own with h | h
    · exact ⟨.ownReference, by rw [h]; rfl⟩
    · exact ⟨.merchantReference, by rw [h]; rfl⟩

end Notification.Matching

namespace Notification.Delivery

open Matching Instruction

variable {r : Registry} {c : Context} {o : Instruction}

/-- Where an item spots an attempt whose transaction the platform knows, it is matched to it, and whatever calls fail, to
no other. -/
theorem matchedTo_of_spot {w : World} {i : Item} {a : Attempt} {source : Source} {x : Payment} {t : Transaction}
    (spotted : spot w.journal.attempts i (.forEvent i.eventCode) ((r.forAccount? i.merchantAccount).map (·.id)) =
      some (a, source))
    (payment : w.platform.payments.find? (·.id == a.payment) = some x)
    (listed : x.transaction? a.transaction = some t) :
    (∃ m, MatchedTo r .fair w i m ∧ m.attempt = a) ∧
      ∀ conditions m, MatchedTo r conditions w i m → m.attempt = a := by
  have seen : sight w.journal.attempts w.platform i ((r.forAccount? i.merchantAccount).map (·.id)) =
      some ⟨a, x, t, Matching.family i (w.platform.method? x.method), source⟩ :=
    sight_eq_some.2 ⟨spotted, payment, listed, rfl⟩
  refine ⟨⟨_, matchedTo_fair_iff.2 seen, rfl⟩, fun conditions m hm => ?_⟩
  obtain ⟨family, glimpsed⟩ := (glimpsed_of_matchedTo hm).seen
  rw [seen, Option.some.injEq] at glimpsed
  exact congrArg (·.attempt) glimpsed.symm

/-- Whatever the gateway answers, an operation on a transaction of a known number that ended well has sent one request and
kept one attempt. Where it is the first on its transaction, and the platform knows the transaction, any item of an event
that tells of the operation, with the merchant account and the reference of the request, is matched to this attempt,
provided that no other attempt carries one of its references; whatever calls fail, it is matched to no other. -/
theorem operation_reunion (r : Registry) (c : Context) (n : BitVec 128) (number : c.transaction = .given n)
    (owner : (r.forAccount? c.merchantAccount).map (·.id) = some c.tenant) (o : Instruction) (conditions : Conditions)
    (w : World) (fresh : ∀ b ∈ w.journal.attempts, b.transaction ≠ c.transaction) (x : Payment) (t : Transaction)
    (payment : w.platform.payments.find? (·.id == c.payment) = some x) (listed : x.transaction? c.transaction = some t)
    (result : Info) (succeeds : ((o.perform c).run.run conditions w).ending = .finished (.ok result)) :
    let run := (o.perform c).run.run conditions w
    ∃ request a, requests run.trace = [request] ∧ request.reference = c.transaction.text ∧
      run.world.journal.attempts = w.journal.attempts ++ [a] ∧
      ∀ i : Item, i.eventCode ∈ o.events → i.merchantAccount = c.merchantAccount →
        i.merchantReference = some request.reference → Foreign w.journal.attempts i.reference →
        Foreign w.journal.attempts i.parentReference →
          (∃ m, MatchedTo r .fair run.world i m ∧ m.attempt = a) ∧
            ∀ conditions m, MatchedTo r conditions run.world i m → m.attempt = a := by
  dsimp only
  obtain ⟨-, request, refers, made, world⟩ := perform_of_ok succeeds
  obtain ⟨a, attempts, drafted⟩ := w.journal.record_attempts (o.draft c conditions.gateway)
  have htransaction : a.transaction = c.transaction := congrArg (·.transaction) drafted
  have hpayment : a.payment = c.payment := congrArg (·.payment) drafted
  have htenant : a.tenant = c.tenant := congrArg (·.tenant) drafted
  have hoperation : a.operation = o.operation := congrArg (·.operation) drafted
  rw [world]
  refine ⟨request, a, made, refers, attempts, fun i event account merchant own parent => ?_⟩
  have named : transactionId? i = some a.transaction := by
    rw [transactionId?_eq_some_iff, htransaction, number]
    exact ⟨_, merchant, by rw [refers, number, Ident.ofText?_trim_text]⟩
  have owned : ∀ t, some c.tenant = some t → a.tenant = t := fun t ht => htenant.trans (Option.some.inj ht)
  obtain ⟨source, spotted⟩ :=
    spot_of_last (htransaction ▸ fresh) owned (hoperation ▸ rank?_of_event event) named parent own
  rw [← owner, ← account, ← attempts] at spotted
  exact matchedTo_of_spot spotted (hpayment ▸ payment) (htransaction ▸ listed)

/-- The small world before any attempt was made. -/
def untried : World := { specimen with journal := .empty }

/-- The context of the authorization of the small world. -/
def authorizing : Context := ⟨.given 2, .given 3, .given 4, .given 7, "M"⟩

/-- The gateway does not answer to an authorization, and the event that tells of it later is matched to the attempt that
was kept without a reference. -/
theorem operation_reunion_of_lost_answer :
    let o := Instruction.authorize ⟨default, "EUR", .null, none⟩
    let run := (o.perform authorizing).run.run .fair untried
    let i := { specimenItem .authorisation true (some "P") none with merchantReference := some (Ident.given 4).text }
    (∀ b ∈ untried.journal.attempts, b.transaction ≠ authorizing.transaction) ∧
      ∃ a, run.world.journal.attempts = [a] ∧ a.reference = none ∧
        ∃ m, MatchedTo (.single smallOwner) .fair run.world i m ∧ m.attempt = a := by
  dsimp only
  have fresh : ∀ b ∈ untried.journal.attempts, b.transaction ≠ authorizing.transaction := by decide
  obtain ⟨request, a, -, refers, attempts, meets⟩ := operation_reunion (.single smallOwner) authorizing 4 rfl
    (by decide) (.authorize ⟨default, "EUR", .null, none⟩) .fair untried fresh _ _ rfl rfl _ rfl
  have unused (reference : Option String) : Foreign untried.journal.attempts reference := fun b hb => nomatch hb
  have matched := (meets { specimenItem .authorisation true (some "P") none with
    merchantReference := some (Ident.given 4).text } (by decide) rfl (by rw [refers]; rfl) (unused _) (unused _)).1
  have references : [none] = [a.reference] := congrArg (·.map (·.reference)) attempts
  exact ⟨fresh, a, attempts, (List.cons.inj references).1.symm, matched⟩

end Notification.Delivery
end Reconciliation
