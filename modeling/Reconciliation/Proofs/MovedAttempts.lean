import Reconciliation.Proofs.Calls
import Reconciliation.Proofs.Unfailing

/-!
# Which attempt is moved

A transaction that was tried more than once has an attempt for each try. An item may name any of them, by its reference,
but the attempt that is moved is found by its payment, its transaction and its tenant, which all of them share. It is the
first of them that is moved.

* `changeFirst_eq_modify` says at which place a write changes a list.
* `matched_attempt_moves_iff` says when the matched attempt is the one that is moved.
* `later_attempt_stays` is a transaction that was tried twice, where it is not.
-/

namespace Reconciliation

theorem changeFirst_eq_modify {α : Type} (p : α → Bool) (f : α → α) (l : List α) :
    changeFirst p f l = l.modify (l.findIdx p) f := by
  induction l with
  | nil => rfl
  | cons a rest ih => by_cases ha : p a = true <;> simp [changeFirst, List.findIdx_cons, ha, ih]

namespace Notification.Delivery

open Procedure Platform Matching

variable {r : Registry} {w : World} {i : Item} {m : Match} {s : Status} {o : Outcome}

/-- The place of the first attempt of the same payment, transaction and tenant. -/
def firstTry (attempts : List Attempt) (a : Attempt) : Nat := attempts.findIdx (Journal.Key.of · == .of a)

theorem movedAttempts_eq (i : Item) (m : Match) (s : Status) (w : World) : movedAttempts i m s w =
    w.journal.attempts.modify (firstTry w.journal.attempts m.attempt) (Journal.moved (reference i) s) :=
  changeFirst_eq_modify _ _ _

/-- The first try is not preceded by another. -/
theorem firstTry_eq_iff {attempts : List Attempt} {a : Attempt} {n : Nat} (h : attempts[n]? = some a) :
    firstTry attempts a = n ↔ ∀ b ∈ attempts.take n, Journal.Key.of b ≠ .of a := by
  obtain ⟨hn, ha⟩ := List.getElem?_eq_some_iff.1 h
  rw [firstTry, List.findIdx_eq hn]
  simp only [ha, beq_self_eq_true, true_and, beq_eq_false_iff_ne, List.mem_take_iff_getElem]
  constructor
  · rintro h' b ⟨j, hj, rfl⟩
    exact h' j (by omega)
  · exact fun h' j hj => h' _ ⟨j, by omega, rfl⟩

/-- An item that comes to something about a transaction is accepted with its match. -/
theorem accepted_of_outcome (matched : MatchedTo r .fair w i m) (ended : ((item r i).fairly w).1 = o)
    (about : o.transaction? ≠ none) : accepted r i w.journal.attempts w.platform = .ok m := by
  cases h : accepted r i w.journal.attempts w.platform with
  | error o' =>
    obtain ⟨e, he⟩ := item_of_error h
    rw [he] at ended
    cases ended
    exact absurd (transaction?_of_accepted_error h) about
  | ok m' =>
    have sighted := matchedTo_fair_iff.1 matched
    rw [(accepted_eq_ok.1 h).2.1, Option.some.injEq] at sighted
    rw [sighted]

/-- Whether or not the matched transaction had the status before, its attempt is moved. -/
theorem attempts_of_asks (h : accepted r i w.journal.attempts w.platform = .ok m)
    (asks : Asks i m (tenantFor r i m) ⟨.matched, s⟩) :
    ((item r i).fairly w).2.journal.attempts = movedAttempts i m s w := by
  have found := found_of_sight (accepted_eq_ok.1 h).2.1
  by_cases hs : m.transaction.status = s
  · obtain ⟨e, he⟩ := item_of_ok h (settle_kept asks hs w)
    rw [he]
    rfl
  · obtain ⟨e, he⟩ := item_of_ok h (settle_moved found asks hs)
    rw [he]
    rfl

/-- Where an item comes to a status of its matched transaction and no call fails, the first attempt of the transaction
is given the status. The matched attempt has it afterwards only if it is the first or had it before. -/
theorem matched_attempt_moves_iff (r : Registry) (w : World) (i : Item) (m : Match) (matched : MatchedTo r .fair w i m)
    (s : Status) (asks : Asks i m (tenantFor r i m) ⟨.matched, s⟩) (t : Ident)
    (ended : ((item r i).run .fair w).ending = .finished (.applied t s) ∨
      ((item r i).run .fair w).ending = .finished (.alreadyApplied t s)) :
    let attempts := ((item r i).run .fair w).world.journal.attempts
    m.attempt ∈ w.journal.attempts ∧
      attempts = w.journal.attempts.modify (firstTry w.journal.attempts m.attempt) (Journal.moved (reference i) s) ∧
      ∀ n, w.journal.attempts[n]? = some m.attempt →
        (attempts[n]?.map (·.status) = some s ↔
          (∀ b ∈ w.journal.attempts.take n, Journal.Key.of b ≠ .of m.attempt) ∨ m.attempt.status = s) := by
  have h : accepted r i w.journal.attempts w.platform = .ok m := by
    rw [ending_fair, Ending.finished.injEq, Ending.finished.injEq] at ended
    rcases ended with ended | ended
    · exact accepted_of_outcome matched ended (by simp [Outcome.transaction?])
    · exact accepted_of_outcome matched ended (by simp [Outcome.transaction?])
  dsimp only
  rw [world_fair, attempts_of_asks h asks, movedAttempts_eq]
  refine ⟨(found_of_sight (accepted_eq_ok.1 h).2.1).recorded, rfl, fun n hn => ?_⟩
  rw [← firstTry_eq_iff hn, List.getElem?_modify, hn]
  split
  · next here => simp [here, Journal.moved]
  · next elsewhere => simp [elsewhere]

/-- A try of the small world's authorization that was refused. -/
def refusedTry : Attempt :=
  ⟨.given 10, .given 2, .given 3, .given 4, .authorize, none, none, some "A", .paymentFailure, none, .live 1, .given 7⟩

/-- Another try of it, which has not ended. -/
def secondTry : Attempt :=
  ⟨.given 12, .given 2, .given 3, .given 4, .authorize, none, none, some "B", .pending, none, .live 2, .given 7⟩

/-- The small world with both tries. -/
def retried : World := { specimen with journal := ⟨[refusedTry, secondTry], []⟩ }

/-- The small world's match with one of the tries. -/
def retriedMatch (attempt : Attempt) : Match := { specimenMatch .ownReference with attempt := attempt }

/-- The first try is moved by an item under its reference. -/
theorem matched_attempt_moves_of_first :
    let i := specimenItem .authorisation true (some "A") none
    let m := retriedMatch refusedTry
    let run := (item .empty i).run .fair retried
    MatchedTo .empty .fair retried i m ∧ run.ending = .finished (.applied (.given 4) .success) ∧
      run.world.journal.attempts[0]?.map (·.status) = some .success := by
  intro i m run
  have matched : MatchedTo .empty .fair retried i m := matchedTo_fair_iff.2 (by decide +kernel)
  have outcome : ((item .empty i).fairly retried).1 = .applied (.given 4) .success := by decide +kernel
  have ended : run.ending = .finished (.applied (.given 4) .success) := by rw [ending_fair, outcome]
  obtain ⟨-, -, moves⟩ := matched_attempt_moves_iff .empty retried i m matched .success rfl (.given 4) (.inl ended)
  exact ⟨matched, ended, (moves 0 rfl).2 (.inl (by simp))⟩

/-- The second try is named by the reference of the item and keeps its status; the first has it already. -/
theorem later_attempt_stays :
    let i := specimenItem .authorisation false (some "B") none
    let m := retriedMatch secondTry
    let run := (item .empty i).run .fair retried
    MatchedTo .empty .fair retried i m ∧ Asks i m (tenantFor .empty i m) ⟨.matched, .paymentFailure⟩ ∧
      run.ending = .finished (.applied (.given 4) .paymentFailure) ∧
      run.world.platform.status? (.given 4) = some .paymentFailure ∧
      run.world.journal.attempts = retried.journal.attempts ∧
      run.world.journal.attempts[1]?.map (·.status) = some .pending := by
  intro i m run
  have matched : MatchedTo .empty .fair retried i m := matchedTo_fair_iff.2 (by decide +kernel)
  have outcome : ((item .empty i).fairly retried).1 = .applied (.given 4) .paymentFailure := by decide +kernel
  exact ⟨matched, rfl, by rw [ending_fair, outcome], by decide +kernel⟩

end Notification.Delivery
end Reconciliation
