import Reconciliation.Proofs.Calls

/-!
# Two runs side by side

Statements about two runs compare the runs step by step: the calls that they make and the worlds that these leave.

* `Procedure.Abreast` says that two runs end with related results or are both aborted, and leave related worlds.
* `Abreast.bind` follows two runs along their procedures, and `abreast_ask` past one call each.
* `Behaves.abreast` compares two runs of one procedure all of whose calls are `Steady`.
-/

namespace Reconciliation

/-- The worlds are these and no others. -/
def World.Still (w v : World) : World → World → Prop := fun w' v' => w' = w ∧ v' = v

/-- In related worlds, this call is answered in the same way and leaves related worlds. -/
def Call.Steady (c : Conditions) (S : World → World → Prop) (k : Call) : Prop :=
  ∀ w v, S w v → (v.answer c k).1 = (w.answer c k).1 ∧ S (w.answer c k).2 (v.answer c k).2

/-- It is enough that this holds where the call does not fail. -/
theorem Call.steady_of_perform {c : Conditions} {S : World → World → Prop} {k : Call}
    (h : ∀ w v, S w v → (v.perform c.gateway k).1 = (w.perform c.gateway k).1 ∧
      S (w.perform c.gateway k).2 (v.perform c.gateway k).2) : k.Steady c S := by
  intro w v hS
  unfold World.answer
  split
  · exact ⟨rfl, hS⟩
  · exact h w v hS

/-- Reading leaves the world as it is. -/
theorem Call.steady_of_reads {k : Call} {w : World} (h : k.reads = true) (c : Conditions) :
    k.Steady c (World.Still w w) := by
  refine Call.steady_of_perform ?_
  rintro _ _ ⟨rfl, rfl⟩
  refine ⟨rfl, ?_, ?_⟩ <;> cases k <;> first | rfl | cases h

namespace Procedure

variable {α β γ δ : Type} {c : Conditions} {w v : World} {S S' : World → World → Prop} {R : α → β → Prop}

/-- Both runs end, with results that `R` relates, or both are aborted; `S` relates the worlds that they leave. -/
structure Abreast (c : Conditions) (S : World → World → Prop) (R : α → β → Prop) (p : Procedure α)
    (q : Procedure β) (w v : World) : Prop where
  result : Option.Rel R (p.exec c w).1 (q.exec c v).1
  world : S (p.exec c w).2 (q.exec c v).2

theorem Abreast.done {a : α} {b : β} (hR : R a b) (hS : S w v) : Abreast c S R (done a) (done b) w v :=
  ⟨.some hR, hS⟩

/-- Two runs that come to the same. -/
theorem abreast_of_exec {p q : Procedure α} (h : q.exec c v = p.exec c w) : Abreast c Eq Eq p q w v := by
  refine ⟨?_, by rw [h]⟩
  rw [h]
  cases (p.exec c w).1 with
  | none => exact .none
  | some a => exact .some rfl

/-- The results that are related are those that the runs end with. -/
theorem Abreast.ended {p : Procedure α} {q : Procedure β} (h : Abreast c S R p q w v) :
    Abreast c S (fun a b => R a b ∧ (p.run c w).ending = .finished a ∧ (q.run c v).ending = .finished b) p q w v := by
  refine ⟨?_, h.world⟩
  have result : Option.Rel R (p.run c w).ending.result? (q.run c v).ending.result? := h.result
  unfold exec
  cases hp : (p.run c w).ending <;> cases hq : (q.run c v).ending <;> rw [hp, hq] at result <;>
    rcases result with hR | _
  · exact .some ⟨hR, rfl, rfl⟩
  · exact .none

/-- Two runs go on from where the runs before them end. -/
theorem Abreast.bind {p : Procedure α} {q : Procedure β} {f : α → Procedure γ} {g : β → Procedure δ}
    {R' : γ → δ → Prop} (h : Abreast c S R p q w v) (abort : ∀ w v, S w v → S' w v)
    (go : ∀ a b w v, R a b → S w v → Abreast c S' R' (f a) (g b) w v) :
    Abreast c S' R' (p.bind f) (q.bind g) w v := by
  obtain ⟨result, world⟩ := h
  rcases hp : p.exec c w with ⟨x, w'⟩
  rcases hq : q.exec c v with ⟨y, v'⟩
  rw [hp, hq] at result world
  cases result with
  | some hR =>
    have rest := go _ _ _ _ hR world
    refine ⟨?_, ?_⟩ <;> rw [exec_bind_of_some hp, exec_bind_of_some hq]
    · exact rest.result
    · exact rest.world
  | none =>
    refine ⟨?_, ?_⟩ <;> rw [exec_bind, exec_bind, hp, hq]
    · exact .none
    · exact abort _ _ world

/-- Two calls of the same kind are aborted or not at the same time. -/
theorem abreast_ask {k k' : Call} {R : Except Failure k.Answer → Except Failure k'.Answer → Prop}
    (kind : k'.kind? = k.kind?) (abort : S w v)
    (go : R (w.answer c k).1 (v.answer c k').1 ∧ S (w.answer c k).2 (v.answer c k').2) :
    Abreast c S R (ask k) (ask k') w v := by
  have aborts : c.aborts k' = c.aborts k := by rw [Conditions.aborts, Conditions.aborts, kind]
  refine ⟨?_, ?_⟩ <;> rw [exec_ask, exec_ask, aborts] <;> split
  · exact .none
  · exact .some go.1
  · exact abort
  · exact go.2

/-- Two runs of one procedure have the same result where all of its calls are steady. -/
theorem Behaves.abreast {p : Procedure α} {Q : α → List Event → Prop} {trace : List Event}
    (h : p.Behaves (fun _ k => k.Steady c S) Q trace) (hS : S w v) : Abreast c S Eq p p w v := by
  induction p generalizing trace w v with
  | done a => exact .done rfl hS
  | call k next ih =>
    obtain ⟨steady, later⟩ := h
    obtain ⟨answer, world⟩ := steady w v hS
    refine Abreast.bind (abreast_ask (S := S) (R := Eq) rfl hS ⟨answer.symm, world⟩) (fun _ _ => id) ?_
    rintro x _ w v rfl hS
    exact ih x (later x) hS

theorem Abreast.result?_eq {p q : Procedure α} (h : Abreast c S Eq p q w v) :
    (q.run c v).ending.result? = (p.run c w).ending.result? := by
  have result : Option.Rel Eq (p.run c w).ending.result? (q.run c v).ending.result? := h.result
  generalize (p.run c w).ending.result? = x at result ⊢
  generalize (q.run c v).ending.result? = y at result ⊢
  cases result with
  | some h => rw [h]
  | none => rfl

end Procedure
end Reconciliation
