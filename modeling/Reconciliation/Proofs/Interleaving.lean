import Reconciliation.Proofs.Calls

/-!
# Interleaving

Procedures that run at the same time make their calls in turns. Each call is answered at once, in the world as the
others have left it.

* `Strand` is a procedure on its way, `Pool` some of them in one world; `Pool.play` makes calls in a given order.
* `Pool.step_cases` says what one call does; what all strands preserve is carried over whole schedules
  (`Pool.behaves_play`, `Pool.audit_play`).
* `Procedure.Amid` says what a procedure achieves while the world may change in certain ways between its calls, and
  makes only such changes itself; `Pool.amid_play` is the statement about pools of such procedures.
-/

namespace Reconciliation

variable {α β : Type}

/-- A procedure on its way: the calls that it made, and what is left to do. -/
structure Strand (α : Type) where
  trace : List Event
  rest : Procedure α

/-- Procedures that run at the same time in one world. -/
structure Pool (α : Type) where
  strands : List (Strand α)
  world : World

namespace Strand

/-- Nothing is left to do. -/
def isDone (s : Strand α) : Bool :=
  match s.rest with
  | .done _ => true
  | .call _ _ => false

end Strand

namespace Pool

/-- Procedures that have made no calls yet. -/
def start (ps : List (Procedure α)) (w : World) : Pool α := ⟨ps.map (⟨[], ·⟩), w⟩

/-- The strand with this number makes its next call, if there is one and it is not aborted there. -/
def step (c : Conditions) (s : Pool α) (n : Nat) : Pool α :=
  match s.strands[n]? with
  | some ⟨trace, .call k next⟩ =>
    if c.aborts k then s
    else
      let (answer, w) := s.world.answer c k
      ⟨s.strands.set n ⟨trace ++ [⟨k, some answer⟩], next answer⟩, w⟩
  | _ => s

/-- The strands make calls in the order of a schedule, which lists their numbers. -/
def play (c : Conditions) (s : Pool α) (schedule : List Nat) : Pool α := schedule.foldl (step c) s

variable {c : Conditions} {s : Pool α} {n : Nat}

@[simp] theorem play_nil (c : Conditions) (s : Pool α) : s.play c [] = s := rfl

@[simp] theorem play_cons (c : Conditions) (s : Pool α) (n : Nat) (schedule : List Nat) :
    s.play c (n :: schedule) = (s.step c n).play c schedule := rfl

theorem play_append (c : Conditions) (s : Pool α) (schedule schedule' : List Nat) :
    s.play c (schedule ++ schedule') = (s.play c schedule).play c schedule' := List.foldl_append

/-- A turn changes nothing, or one strand has made its next call. -/
theorem step_cases (c : Conditions) (s : Pool α) (n : Nat) :
    s.step c n = s ∨ ∃ before trace k next after, s.strands = before ++ ⟨trace, .call k next⟩ :: after ∧
      before.length = n ∧ c.aborts k = false ∧
      s.step c n = ⟨before ++ ⟨trace ++ [⟨k, some (s.world.answer c k).1⟩], next (s.world.answer c k).1⟩ :: after,
        (s.world.answer c k).2⟩ := by
  unfold step
  split
  · next trace k next hn =>
    split
    · exact .inl rfl
    · next ha =>
      obtain ⟨hlt, hget⟩ := List.getElem?_eq_some_iff.1 hn
      refine .inr ⟨s.strands.take n, trace, k, next, s.strands.drop (n + 1), ?_, ?_, by simpa using ha, ?_⟩
      · rw [← hget, ← List.drop_eq_getElem_cons hlt, List.take_append_drop]
      · rw [List.length_take, Nat.min_eq_left (Nat.le_of_lt hlt)]
      · dsimp only
        rw [List.set_eq_take_append_cons_drop, if_pos hlt]
  · exact .inl rfl

/-- The other strands stay as they are. -/
theorem getElem?_append_cons_of_ne {before after : List (Strand α)} {t t' : Strand α} (hn : n ≠ before.length) :
    (before ++ t :: after)[n]? = (before ++ t' :: after)[n]? := by
  rcases Nat.lt_or_gt_of_ne hn with hlt | hgt
  · rw [List.getElem?_append_left hlt, List.getElem?_append_left hlt]
  · obtain ⟨d, rfl⟩ := Nat.exists_eq_add_of_lt hgt
    have hd : before.length + d + 1 - before.length = d + 1 := by omega
    rw [List.getElem?_append_right (by omega), List.getElem?_append_right (by omega), hd, List.getElem?_cons_succ,
      List.getElem?_cons_succ]

/-- What holds of the start and is preserved by each turn holds after any schedule. -/
theorem play_preserves (P : Pool α → Prop) (step : ∀ s n, P s → P (s.step c n)) (schedule : List Nat) (h : P s) :
    P (s.play c schedule) := by
  induction schedule generalizing s with
  | nil => exact h
  | cons n rest ih => exact ih (step s n h)

/-- Strands behave as their procedures do. -/
theorem behaves_play {allowed : List Event → Call → Prop} {Q : α → List Event → Prop}
    (h : ∀ t ∈ s.strands, t.rest.Behaves allowed Q t.trace) (schedule : List Nat) :
    ∀ t ∈ (s.play c schedule).strands, t.rest.Behaves allowed Q t.trace := by
  refine play_preserves (fun s => ∀ t ∈ s.strands, t.rest.Behaves allowed Q t.trace) (fun s n hs => ?_) schedule h
  rcases step_cases c s n with hstep | ⟨before, trace, k, next, after, hstrands, -, -, hstep⟩
  · rw [hstep]
    exact hs
  · rw [hstep]
    rw [hstrands, List.forall_mem_append, List.forall_mem_cons] at hs
    obtain ⟨hbefore, hcall, hafter⟩ := hs
    rw [List.forall_mem_append, List.forall_mem_cons]
    exact ⟨hbefore, hcall.2 _, hafter⟩

theorem behaves_start {allowed : List Event → Call → Prop} {Q : α → List Event → Prop} {ps : List (Procedure α)}
    (h : ∀ p ∈ ps, p.Behaves allowed Q []) (w : World) :
    ∀ t ∈ (start ps w).strands, t.rest.Behaves allowed Q t.trace := by
  intro t ht
  obtain ⟨p, hp, rfl⟩ := List.mem_map.1 ht
  exact h p hp

theorem length_play (schedule : List Nat) : (s.play c schedule).strands.length = s.strands.length := by
  refine play_preserves (fun s' => s'.strands.length = s.strands.length) (fun s' n hs => ?_) schedule rfl
  rcases step_cases c s' n with hstep | ⟨before, trace, k, next, after, hstrands, -, -, hstep⟩
  · rw [hstep, hs]
  · rw [hstep, ← hs, hstrands]
    simp

/-- Where no call fails, each call for an audit entry adds one. -/
theorem audit_play (ps : List (Procedure α)) (w : World) (schedule : List Nat) :
    ∃ entries, ((start ps w).play .fair schedule).world.journal.audit = w.journal.audit ++ entries ∧
      entries.length =
        Procedure.auditCalls (((start ps w).play .fair schedule).strands.flatMap (·.trace)) := by
  let P (s : Pool α) : Prop := ∃ entries, s.world.journal.audit = w.journal.audit ++ entries ∧
    entries.length = Procedure.auditCalls (s.strands.flatMap (·.trace))
  have none : P (start ps w) := by
    have uncalled : (start ps w).strands.flatMap (·.trace) = [] := by simp [start, List.flatMap_eq_nil_iff]
    exact ⟨[], by simp [start], by rw [uncalled]; rfl⟩
  refine play_preserves P (fun s n hs => ?_) schedule none
  rcases step_cases .fair s n with hstep | ⟨before, trace, k, next, after, hstrands, -, -, hstep⟩
  · rw [hstep]
    exact hs
  · obtain ⟨entries, haudit, hlength⟩ := hs
    obtain ⟨more, hmore, hcount⟩ := World.audit_perform Conditions.fair.gateway s.world k
    rw [hstep]
    refine ⟨entries ++ more, ?_, ?_⟩
    · simp only [World.answer, Conditions.fair_fails, Bool.false_eq_true, if_false]
      rw [hmore, haudit, List.append_assoc]
    · rw [List.length_append, hlength, hcount, hstrands]
      simp only [Procedure.auditCalls, List.flatMap_append, List.flatMap_cons, List.countP_append,
        List.countP_singleton]
      omega

/-- The calls for audit entries where each strand made one. -/
theorem auditCalls_of_each {strands : List (Strand α)} (h : ∀ t ∈ strands, Procedure.auditCalls t.trace = 1) :
    Procedure.auditCalls (strands.flatMap (·.trace)) = strands.length := by
  induction strands with
  | nil => rfl
  | cons t rest ih =>
    rw [List.forall_mem_cons] at h
    have hrest := ih h.2
    rw [Procedure.auditCalls] at h hrest ⊢
    rw [List.flatMap_cons, List.countP_append, hrest, h.1, List.length_cons, Nat.add_comm]

end Pool

/-! ### Amid others -/

namespace Procedure

/-- Whatever changes of the kind `R` the others make between its calls, a procedure without failing calls makes only
such changes itself, and its result and the world satisfy `Q` from then on. -/
def Amid (R : World → World → Prop) (Q : α → World → Prop) : Procedure α → World → Prop
  | done a, w => ∀ v, R w v → Q a v
  | call k next, w => ∀ v, R w v →
    R v (v.perform Conditions.fair.gateway k).2 ∧
      (next (v.perform Conditions.fair.gateway k).1).Amid R Q (v.perform Conditions.fair.gateway k).2

variable {R : World → World → Prop} {Q : α → World → Prop} {w v : World}

theorem Amid.later (trans : ∀ u v w, R u v → R v w → R u w) {p : Procedure α} (h : p.Amid R Q w) (hv : R w v) :
    p.Amid R Q v := by
  cases p with
  | done a => exact fun u hu => h u (trans _ _ _ hv hu)
  | call k next => exact fun u hu => h u (trans _ _ _ hv hu)

theorem Amid.mono {p : Procedure α} {Q' : α → World → Prop} (h : p.Amid R Q w) (hQ : ∀ a v, Q a v → Q' a v) :
    p.Amid R Q' w := by
  induction p generalizing w with
  | done a => exact fun v hv => hQ a v (h v hv)
  | call k next ih => exact fun v hv => ⟨(h v hv).1, ih _ (h v hv).2⟩

theorem Amid.bind (refl : ∀ w, R w w) {p : Procedure α} {f : α → Procedure β} {Q' : β → World → Prop}
    (hp : p.Amid R Q w) (hf : ∀ a v, Q a v → (f a).Amid R Q' v) : (p.bind f).Amid R Q' w := by
  induction p generalizing w with
  | done a => exact hf a w (hp w (refl w))
  | call k next ih => exact fun v hv => ⟨(hp v hv).1, ih _ (hp v hv).2⟩

theorem Amid.ask {k : Call} {Q : Except Failure k.Answer → World → Prop}
    (h : ∀ v, R w v → R v (v.perform Conditions.fair.gateway k).2 ∧
      ∀ u, R (v.perform Conditions.fair.gateway k).2 u → Q (v.perform Conditions.fair.gateway k).1 u) :
    (ask k).Amid R Q w := h

end Procedure

namespace Pool

variable {R : World → World → Prop} {Q : α → World → Prop}

/-- What the strands of a pool achieve amid each other. -/
theorem amid_play (refl : ∀ w, R w w) (trans : ∀ u v w, R u v → R v w → R u w) {s : Pool α}
    (h : ∀ t ∈ s.strands, t.rest.Amid R Q s.world) (schedule : List Nat) :
    ∀ t ∈ (s.play .fair schedule).strands, t.rest.Amid R Q (s.play .fair schedule).world := by
  refine play_preserves (fun s => ∀ t ∈ s.strands, t.rest.Amid R Q s.world) (fun s n hs => ?_) schedule h
  rcases step_cases .fair s n with hstep | ⟨before, trace, k, next, after, hstrands, -, -, hstep⟩
  · rw [hstep]
    exact hs
  · rw [hstrands, List.forall_mem_append, List.forall_mem_cons] at hs
    obtain ⟨hbefore, hcall, hafter⟩ := hs
    obtain ⟨hR, hnext⟩ := hcall s.world (refl _)
    have hanswer : s.world.answer .fair k = s.world.perform Conditions.fair.gateway k := by simp [World.answer]
    rw [hstep, hanswer, List.forall_mem_append, List.forall_mem_cons]
    exact ⟨fun t ht => (hbefore t ht).later trans hR, hnext, fun t ht => (hafter t ht).later trans hR⟩

/-- Once a strand is done, it has achieved what it does amid the others. -/
theorem amid_done (refl : ∀ w, R w w) (trans : ∀ u v w, R u v → R v w → R u w) {ps : List (Procedure α)} {w : World}
    (h : ∀ p ∈ ps, p.Amid R Q w) (schedule : List Nat) {t : Strand α} {a : α}
    (ht : t ∈ ((start ps w).play .fair schedule).strands) (ha : t.rest = .done a) :
    Q a ((start ps w).play .fair schedule).world := by
  have hstart : ∀ t ∈ (start ps w).strands, t.rest.Amid R Q (start ps w).world := by
    intro t ht
    obtain ⟨p, hp, rfl⟩ := List.mem_map.1 ht
    exact h p hp
  have amid := amid_play refl trans hstart schedule t ht
  rw [ha] at amid
  exact amid _ (refl _)

end Pool
end Reconciliation
