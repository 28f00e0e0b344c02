import Reconciliation.World

/-!
# What a procedure comes to

The result of a procedure, unless it was aborted, and the world that it leaves, without the list of its calls.

* `Procedure.exec` is this pair; `exec_bind` and `exec_ask` compute it step by step.
* `Procedure.Reads` says that the world is left as it is and what holds of the result.
* `Procedure.fairly` is the same where no call fails; a procedure then always has a result (`exec_fair`).
-/

namespace Reconciliation

/-- The result, if there is one. -/
def Ending.result? {α : Type} : Ending α → Option α
  | .finished a => some a
  | .aborted _ => none

namespace Conditions

@[simp] theorem fair_aborts (c : Call) : fair.aborts c = false := by
  cases c <;> rfl

@[simp] theorem fair_fails (c : Call) : fair.fails c = false := by
  cases c <;> rfl

end Conditions

namespace World

variable {w : World} {p : Platform} (gateway : Except Failure Gateway.Answer) (tenant : Ident)

theorem perform_updateTransaction {c : StatusChange} {x : Except Failure Unit}
    (h : w.platform.updateTransaction c = (x, p)) :
    w.perform gateway (.updateTransaction c tenant) = (x, { w with platform := p }) := by
  simp only [perform, h]

theorem perform_createChargeback {payment : Ident} {c : NewChargeback} {x : Except Failure Transaction}
    (h : w.platform.createChargeback payment c = (x, p)) :
    w.perform gateway (.createChargeback payment c tenant) = (x, { w with platform := p }) := by
  simp only [perform, h]

end World

namespace Procedure

variable {α β : Type} (c : Conditions)

/-- The result of a procedure, unless it was aborted, and the world afterwards. -/
def exec (p : Procedure α) (w : World) : Option α × World :=
  ((p.run c w).ending.result?, (p.run c w).world)

@[simp] theorem exec_done (a : α) (w : World) : (done a).exec c w = (some a, w) := rfl

theorem exec_call (k : Call) (next : Except Failure k.Answer → Procedure α) (w : World) :
    (call k next).exec c w =
      if c.aborts k then (none, w) else (next (w.answer c k).1).exec c (w.answer c k).2 := by
  unfold exec
  rw [run]
  split <;> rfl

theorem exec_ask (k : Call) (w : World) :
    (ask k).exec c w = if c.aborts k then (none, w) else (some (w.answer c k).1, (w.answer c k).2) := by
  simp [ask, exec_call]

/-- A procedure goes on where the one before it had a result. -/
theorem exec_bind (p : Procedure α) (f : α → Procedure β) (w : World) :
    (p.bind f).exec c w =
      match p.exec c w with
      | (some a, w') => (f a).exec c w'
      | (none, w') => (none, w') := by
  induction p generalizing w with
  | done a => rfl
  | call k next ih =>
    -- an abort at the first call ends both sides there
    rw [call_bind, exec_call, exec_call]
    split
    · rfl
    · exact ih _ _

theorem exec_bind_of_some {c : Conditions} {p : Procedure α} {w v : World} {a : α} (h : p.exec c w = (some a, v))
    (f : α → Procedure β) : (p.bind f).exec c w = (f a).exec c v := by
  rw [exec_bind, h]

theorem exec_eq_some_iff {c : Conditions} {p : Procedure α} {w v : World} {a : α} :
    p.exec c w = (some a, v) ↔ (p.run c w).ending = .finished a ∧ (p.run c w).world = v := by
  unfold exec
  cases (p.run c w).ending <;> simp [Ending.result?]

/-! ### Reading -/

/-- The procedure leaves the world as it is, and any result satisfies `Q`. -/
def Reads (w : World) (p : Procedure α) (Q : α → Prop) : Prop :=
  ∃ x, p.exec c w = (x, w) ∧ ∀ a, x = some a → Q a

variable {c} {w : World} {Q : α → Prop} {R : β → Prop}

theorem Reads.done {a : α} (h : Q a) : Reads c w (done a) Q := by
  refine ⟨some a, rfl, ?_⟩
  rintro _ ⟨⟩
  exact h

theorem Reads.bind {p : Procedure α} {f : α → Procedure β} (hp : Reads c w p Q)
    (hf : ∀ a, Q a → Reads c w (f a) R) : Reads c w (p.bind f) R := by
  obtain ⟨x, hx, hQ⟩ := hp
  rw [Reads, exec_bind, hx]
  cases x with
  | none => exact ⟨none, rfl, fun _ h => nomatch h⟩
  | some a => exact hf a (hQ a rfl)

/-- A call that has no effect; it may be made to fail or to abort. -/
theorem Reads.ask {k : Call} (h : (w.perform c.gateway k).2 = w) :
    Reads c w (ask k) fun x => x = (w.perform c.gateway k).1 ∨ c.fails k = true ∧ x = .error k.injected := by
  rw [Reads, exec_ask]
  split
  · exact ⟨none, rfl, fun _ h => nomatch h⟩
  · unfold World.answer
    split
    · next hf =>
      refine ⟨_, rfl, ?_⟩
      rintro _ ⟨⟩
      exact .inr ⟨hf, rfl⟩
    · refine ⟨_, by rw [h], ?_⟩
      rintro _ ⟨⟩
      exact .inl rfl

theorem Reads.result {p : Procedure α} (h : Reads c w p Q) {a : α} (ha : (p.run c w).ending = .finished a) : Q a := by
  obtain ⟨x, hx, hQ⟩ := h
  have result : (p.run c w).ending.result? = x := congrArg Prod.fst hx
  rw [ha] at result
  exact hQ a result.symm

/-! ### Without failures -/

/-- What a procedure comes to where no call fails. -/
def fairly : Procedure α → World → α × World
  | done a, w => (a, w)
  | call k next, w =>
    let answered := w.perform Conditions.fair.gateway k
    (next answered.1).fairly answered.2

@[simp] theorem fairly_done (a : α) (w : World) : (done a).fairly w = (a, w) := rfl

@[simp] theorem fairly_ask (k : Call) (w : World) :
    (ask k).fairly w = w.perform Conditions.fair.gateway k := rfl

@[simp] theorem fairly_bind (p : Procedure α) (f : α → Procedure β) (w : World) :
    (p.bind f).fairly w = (f (p.fairly w).1).fairly (p.fairly w).2 := by
  induction p generalizing w with
  | done a => rfl
  | call k next ih => exact ih _ _

theorem fairly_run_bind {ε : Type} (p : ExceptT ε Procedure α) (f : α → ExceptT ε Procedure β) (w : World) :
    (p >>= f).run.fairly w =
      match p.run.fairly w with
      | (.ok a, w') => (f a).run.fairly w'
      | (.error e, w') => (.error e, w') := by
  rw [ExceptT.run_bind, bind_eq, fairly_bind]
  match p.run.fairly w with
  | (.ok a, w') => rfl
  | (.error e, w') => rfl

theorem exec_fair (p : Procedure α) (w : World) :
    p.exec .fair w = (some (p.fairly w).1, (p.fairly w).2) := by
  induction p generalizing w with
  | done a => rfl
  | call k next ih =>
    rw [exec_call, Conditions.fair_aborts, if_neg Bool.false_ne_true, ih]
    simp only [World.answer, Conditions.fair_fails, fairly, Bool.false_eq_true, if_false]

theorem ending_fair (p : Procedure α) (w : World) : (p.run .fair w).ending = .finished (p.fairly w).1 := by
  have h : (p.run .fair w).ending.result? = some (p.fairly w).1 := congrArg Prod.fst (exec_fair p w)
  cases he : (p.run .fair w).ending with
  | finished a =>
    rw [he] at h
    cases h
    rfl
  | aborted k => simp [he, Ending.result?] at h

theorem world_fair (p : Procedure α) (w : World) : (p.run .fair w).world = (p.fairly w).2 :=
  congrArg Prod.snd (exec_fair p w)

end Procedure
end Reconciliation
