import Reconciliation.Proofs.Settling

/-!
# Runs of deliveries

Deliveries come one after another, each with a body of its own and under conditions of its own.

* `parts` lists what is in a delivery, and `process_eq` says that a delivery does one part after another.
* `deliverAll` is the world after some deliveries.
* `deliverAll_preserves`: what every item preserves, whatever calls fail or abort, every run of deliveries preserves.
* `specimen` is a small world, in which an authorization and a capture share a reference, for instances of general
  statements.
-/

namespace Reconciliation.Notification.Delivery

open Procedure

/-! ### What is in a delivery -/

/-- An item, or something that can not be read, with the problem. -/
inductive Part where
  | unread (problem : String)
  | item (i : Item)

/-- The parts of a delivery: first those that can not be read. A body that can not be read is one part. -/
def parts (body : Text.Utf8.Bytes) : List Part :=
  match Batch.parse body with
  | .error f => [.unread f.message]
  | .ok b => b.malformed.map .unread ++ b.items.map .item

/-- What is done for a part. -/
def Part.handle (r : Registry) (body : Text.Utf8.Bytes) : Part → Procedure Outcome
  | .unread problem => conclude (unreadable body problem) .malformed
  | .item i => Delivery.item r i

section Each

variable {α β γ : Type}

theorem each_map (f : β → Procedure γ) (g : α → β) (l : List α) : each f (l.map g) = each (fun a => f (g a)) l := by
  induction l with
  | nil => rfl
  | cons a rest ih => rw [List.map_cons, each, each, ih]

theorem each_append (f : α → Procedure β) (l l' : List α) :
    each f (l ++ l') = (each f l).bind fun bs => (each f l').bind fun bs' => done (bs ++ bs') := by
  induction l with
  | nil => exact (bind_done _).symm
  | cons a rest ih => simp only [List.cons_append, each, ih, bind_eq, pure_eq, bind_assoc, done_bind]

end Each

/-- A delivery does one part after another. -/
theorem process_eq (r : Registry) (body : Text.Utf8.Bytes) :
    process r body = (each (Part.handle r body) (parts body)).bind fun os => done ⟨acknowledgement, os⟩ := by
  unfold process parts
  cases Batch.parse body with
  | error f => rfl
  | ok b =>
    dsimp only
    rw [each_append, each_map, each_map]
    rfl

/-! ### Runs of deliveries -/

/-- A delivery, with what happens to the calls made for it. -/
structure Posting where
  body : Text.Utf8.Bytes
  conditions : Conditions

/-- The world after some deliveries, one after another. -/
def deliverAll (r : Registry) : List Posting → World → World
  | [], w => w
  | d :: rest, w => deliverAll r rest ((process r d.body).run d.conditions w).world

theorem deliverAll_append (r : Registry) (ds ds' : List Posting) (w : World) :
    deliverAll r (ds ++ ds') w = deliverAll r ds' (deliverAll r ds w) := by
  induction ds generalizing w with
  | nil => rfl
  | cons d rest ih => exact ih _

/-! ### What runs preserve -/

section Preserves

variable (R : World → World → Prop) {conditions : Conditions} {r : Registry}

theorem bind_preserves {α β : Type} {p : Procedure α} {f : α → Procedure β} {w : World}
    (trans : ∀ {u v w}, R u v → R v w → R u w) (hp : R w (p.exec conditions w).2)
    (hf : ∀ a v, R v ((f a).exec conditions v).2) : R w ((p.bind f).exec conditions w).2 := by
  rw [exec_bind]
  rcases h : p.exec conditions w with ⟨a, v⟩
  rw [h] at hp
  cases a with
  | none => exact hp
  | some a => exact trans hp (hf a v)

theorem each_preserves {α β : Type} {f : α → Procedure β} (refl : ∀ w, R w w)
    (trans : ∀ {u v w}, R u v → R v w → R u w) (step : ∀ a w, R w ((f a).exec conditions w).2)
    (l : List α) (w : World) : R w ((each f l).exec conditions w).2 := by
  induction l generalizing w with
  | nil => exact refl w
  | cons a rest ih =>
    exact bind_preserves R trans (step a w) fun b v => bind_preserves R trans (ih v) fun bs u => refl u

/-- A relation that all items and all audit entries respect is respected by a delivery. -/
theorem process_preserves (trans : ∀ {u v w}, R u v → R v w → R u w)
    (same : ∀ {v w : World}, w.platform = v.platform → w.journal.attempts = v.journal.attempts → R v w)
    (step : ∀ i w, R w ((item r i).exec conditions w).2) (body : Text.Utf8.Bytes) (w : World) :
    R w ((process r body).exec conditions w).2 := by
  have refl : ∀ w, R w w := fun w => same rfl rfl
  have handle : ∀ x w, R w ((Part.handle r body x).exec conditions w).2 := by
    intro x w
    cases x with
    | unread problem =>
      obtain ⟨o, w', h, hp, ha, -⟩ := conclude_exec conditions (unreadable body problem) .malformed w
      rw [Part.handle, h]
      exact same hp ha
    | item i => exact step i w
  rw [process_eq]
  exact bind_preserves R trans (each_preserves R refl trans handle (parts body) w) fun os v => refl v

/-- What every item preserves, every run of deliveries preserves. -/
theorem deliverAll_preserves (trans : ∀ {u v w}, R u v → R v w → R u w)
    (same : ∀ {v w : World}, w.platform = v.platform → w.journal.attempts = v.journal.attempts → R v w)
    (ds : List Posting) (step : ∀ d ∈ ds, ∀ i w, R w ((item r i).exec d.conditions w).2) (w : World) :
    R w (deliverAll r ds w) := by
  induction ds generalizing w with
  | nil => exact same rfl rfl
  | cons d rest ih =>
    have first : R w ((process r d.body).exec d.conditions w).2 :=
      process_preserves R trans same (step d List.mem_cons_self) d.body w
    exact trans first (ih (fun d' hd => step d' (List.mem_cons_of_mem _ hd)) _)

end Preserves

/-! ### A small world -/

/-- A payment that is authorized and captured under one reference; neither has ended. -/
def specimen : World where
  journal := ⟨[
    ⟨.given 10, .given 2, .given 3, .given 4, .authorize, none, none, some "A", .pending, none, .live 1, .given 7⟩,
    ⟨.given 11, .given 2, .given 3, .given 5, .capture, none, none, some "A", .pending, none, .live 2, .given 7⟩], []⟩
  platform := ⟨[⟨.given 3, .given 2, .given 6, [
    ⟨.given 4, "authorization", .authorize, .pending, none, none, none, .live 1⟩,
    ⟨.given 5, "capture", .capture, .pending, none, none, none, .live 2⟩]⟩], [], [], 0⟩

/-- An item that names the authorization by its transaction. -/
def specimenItem (code : EventCode) (success : Bool) (reference parentReference : Option String) : Item where
  reference := reference
  parentReference := parentReference
  merchantAccount := "M"
  merchantReference := some "00000000000000000000000000000004"
  eventCode := code
  success := success
  amount := none
  reason := none
  paymentMethod := none
  eventDate := none
  additionalData := none

/-- The authorization as it is matched to an item, where no family is known. -/
def specimenMatch (source : Source) : Match where
  attempt :=
    ⟨.given 10, .given 2, .given 3, .given 4, .authorize, none, none, some "A", .pending, none, .live 1, .given 7⟩
  payment := ⟨.given 3, .given 2, .given 6, [
    ⟨.given 4, "authorization", .authorize, .pending, none, none, none, .live 1⟩,
    ⟨.given 5, "capture", .capture, .pending, none, none, none, .live 2⟩]⟩
  transaction := ⟨.given 4, "authorization", .authorize, .pending, none, none, none, .live 1⟩
  family := none
  source := source

/-- A delivery that tells whether the authorization succeeded. -/
def specimenPosting (success : String) : Posting where
  body := ["\x7b\"notificationItems\":[\x7b\"merchantReference\":\"00000000000000000000000000000004\",",
    "\"merchantAccountCode\":\"M\",\"eventCode\":\"AUTHORISATION\",\"success\":", success,
    "\x7d]\x7d"].flatMap Text.Utf8.encode
  conditions := .fair

end Reconciliation.Notification.Delivery
