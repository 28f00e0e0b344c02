import Reconciliation.Proofs.Calls
import Reconciliation.Proofs.Deliveries

/-!
# The audit is never read

Entries are added to the audit, but nothing that is done depends on them, nor on whether they could be added.

* `World.Same` says that two worlds differ in the audit only.
* `Procedure.Heedless` says that a procedure goes on in the same way however a call for an audit entry is answered;
  `item_heedless` and `process_heedless` that items and deliveries do.
* `Heedless.run_same` compares two runs of such a procedure.
-/

namespace Reconciliation

namespace World

/-- The worlds are the same but for the audit. -/
structure Same (w v : World) : Prop where
  attempts : v.journal.attempts = w.journal.attempts
  platform : v.platform = w.platform

variable {u v w : World}

theorem Same.refl (w : World) : Same w w := ⟨rfl, rfl⟩

theorem Same.symm (h : Same w v) : Same v w := ⟨h.attempts.symm, h.platform.symm⟩

theorem Same.trans (h : Same w v) (h' : Same v u) : Same w u :=
  ⟨h'.attempts.trans h.attempts, h'.platform.trans h.platform⟩

/-- Calls are answered in the same way, and their effects are the same. -/
theorem Same.perform (h : Same w v) (gateway : Except Failure Gateway.Answer) (k : Call) :
    (v.perform gateway k).1 = (w.perform gateway k).1 ∧ Same (w.perform gateway k).2 (v.perform gateway k).2 := by
  obtain ⟨⟨attempts, audit⟩, platform⟩ := w
  obtain ⟨⟨attempts', audit'⟩, platform'⟩ := v
  obtain ⟨rfl, rfl⟩ := h
  cases k with
  | updateAttempt key reference status =>
    simp only [World.perform, Journal.updateStatus]
    cases attempts'.find? (Journal.Key.of · == key) with
    | none => exact ⟨rfl, rfl, rfl⟩
    | some a =>
      dsimp only
      split <;> exact ⟨rfl, rfl, rfl⟩
  | _ => exact ⟨rfl, rfl, rfl⟩

theorem Same.of_answer {k : Call} (h : k.writes = false) (conditions : Conditions) (w : World) :
    Same w (w.answer conditions k).2 :=
  have unwritten := World.answer_of_not_writes h conditions w
  ⟨unwritten.1, unwritten.2⟩

end World

/-- The same happens to all calls, but perhaps to those for audit entries. -/
structure Conditions.Like (c c' : Conditions) : Prop where
  aborts : ∀ k, c'.aborts k = c.aborts k
  fails : ∀ k, k.audits = false → c'.fails k = c.fails k
  gateway : c'.gateway = c.gateway

theorem Conditions.Like.refl (c : Conditions) : c.Like c := ⟨fun _ => rfl, fun _ _ => rfl, rfl⟩

theorem Call.not_writes_of_audits {k : Call} (h : k.audits = true) : k.writes = false := by
  cases k <;> first | rfl | cases h

namespace Procedure

variable {α β : Type} {c c' : Conditions} {w v : World}

/-- How a call for an audit entry is answered makes no difference to what follows. -/
def Heedless : Procedure α → Prop
  | done _ => True
  | call k next => (k.audits = true → ∀ x y, next x = next y) ∧ ∀ x, (next x).Heedless

theorem Heedless.bind {p : Procedure α} {f : α → Procedure β} (hp : p.Heedless) (hf : ∀ a, (f a).Heedless) :
    (p.bind f).Heedless := by
  induction p with
  | done a => exact hf a
  | call k next ih => exact ⟨fun hk x y => congrArg (·.bind f) (hp.1 hk x y), fun x => ih x (hp.2 x)⟩

/-- A procedure that asks for no audit entries. -/
theorem Behaves.heedless {p : Procedure α} {Q : α → List Event → Prop} {trace : List Event}
    (h : p.Behaves (fun _ k => k.audits = false) Q trace) : p.Heedless := by
  induction p generalizing trace with
  | done a => trivial
  | call k next ih => exact ⟨fun hk => absurd (h.1.symm.trans hk) (by simp), fun x => ih x (h.2 x)⟩

/-- In worlds that differ in the audit only, and where the same happens to other calls, the same calls are made, the
result is the same, and so is what becomes of the stores. -/
theorem Heedless.run_same {p : Procedure α} (h : p.Heedless) (like : c.Like c') (same : w.Same v) :
    (p.run c' v).ending = (p.run c w).ending ∧
      (p.run c' v).trace.map (·.call) = (p.run c w).trace.map (·.call) ∧
      (p.run c w).world.Same (p.run c' v).world := by
  induction p generalizing w v with
  | done a => exact ⟨rfl, rfl, same⟩
  | call k next ih =>
    simp only [run, like.aborts k]
    split
    · exact ⟨rfl, rfl, same⟩
    -- the answers are the same, unless they are to a call for an audit entry; what follows is the same either way
    have later : next (v.answer c' k).1 = next (w.answer c k).1 ∧ (w.answer c k).2.Same (v.answer c' k).2 := by
      cases hk : k.audits with
      | true =>
        have kept (c : Conditions) (w : World) := World.Same.of_answer (Call.not_writes_of_audits hk) c w
        exact ⟨h.1 hk _ _, ((kept c w).symm.trans same).trans (kept c' v)⟩
      | false =>
        obtain ⟨answer, world⟩ := same.perform c.gateway k
        simp only [World.answer, like.fails k hk, like.gateway]
        split
        · exact ⟨rfl, same⟩
        · exact ⟨congrArg next answer, world⟩
    rw [later.1]
    obtain ⟨ending, trace, world⟩ := ih _ (h.2 _) later.2
    exact ⟨ending, congrArg (k :: ·) trace, world⟩

end Procedure

namespace Notification.Delivery

open Procedure Matching

variable {r : Registry}

theorem conclude_heedless (e : AuditEntry) (o : Outcome) : (conclude e o).Heedless :=
  ⟨fun _ _ _ => rfl, fun _ => trivial⟩

theorem finish_heedless (e : AuditEntry) (m : Match) (x : Except Obstacle Outcome) : (finish e m x).Heedless := by
  match x with
  | .ok o => exact conclude_heedless _ _
  | .error (.refused f) => exact conclude_heedless _ _
  | .error (.unrecorded f) => exact conclude_heedless _ _

theorem resolve_heedless (i : Item) (tenant : Option Ident) : (resolve i tenant).run.Heedless :=
  have behaves : (resolve i tenant).run.Behaves _ _ [] := resolve_behaves i tenant
  (behaves.mono (fun _ _ => Call.not_audits_of_reads) fun _ _ => id).heedless

theorem settle_heedless (i : Item) (m : Match) (t : Tenant) : (settle i m t).run.Heedless :=
  have behaves : (settle i m t).run.Behaves _ _ [] := settle_behaves i m t
  (behaves.mono (fun _ _ => Write.not_audits) fun _ _ => id).heedless

theorem item_heedless (r : Registry) (i : Item) : (item r i).Heedless := by
  unfold item
  dsimp only
  split
  case isFalse => exact conclude_heedless _ _
  case isTrue =>
  refine (resolve_heedless i _).bind fun x => ?_
  match x with
  | .error f => exact conclude_heedless _ _
  | .ok none => exact conclude_heedless _ _
  | .ok (some m) =>
    dsimp only
    split
    case isFalse => exact conclude_heedless _ _
    case isTrue => exact (settle_heedless i m _).bind fun x => finish_heedless _ _ x

end Notification.Delivery
end Reconciliation
