import Reconciliation.Proofs.Accounting
import Reconciliation.Proofs.Permanence

/-!
# Changes go by the first attempt

Every attempt of an operation is kept, also one that the gateway did not answer, and so a transaction that was tried
again has several attempts. A change to the transaction looks at the first of them alone. It can be asked for if the
reference of the gateway is there, and not if it is only with a later attempt.

* `Journal.firstReference?` is the reference that counts. `World.Lasting.firstReference?_eq`: once there, it stays;
  `first_of_operations`: without deliveries, it does not come later either.
* `prepare_of_reference` and `prepare_of_none` say what becomes of a change with it and without it.
* `change_goes_by_first` puts them together; `second_answer_unused` is a transaction that was tried again and can not be
  changed.
-/

namespace Reconciliation

/-- The reference of the first attempt for a transaction, if there is an attempt and it has one. -/
def Journal.firstReference? (j : Journal) (transaction : Ident) : Option String :=
  (j.withTransaction? transaction).bind (·.reference)

theorem Journal.mem_of_firstReference? {j : Journal} {transaction : Ident} {reference : String}
    (h : j.firstReference? transaction = some reference) :
    ∃ a ∈ j.attempts, a.transaction = transaction ∧ a.reference = some reference := by
  obtain ⟨a, first, carried⟩ := Option.bind_eq_some_iff.1 h
  exact ⟨a, List.mem_of_find?_eq_some first, by simpa using List.find?_some first, carried⟩

/-! ### What becomes of the first attempt -/

/-- Where a list goes on, the first entry with a property that lasts is the first one still. -/
theorem Continued.find?_eq {α : Type} {R : α → α → Prop} {P : α → Prop} {l l' : List α} (h : Continued R P l l')
    {p : α → Bool} (same : ∀ {a b}, R a b → p b = p a) {a : α} (first : l.find? p = some a) :
    ∃ b, l'.find? p = some b ∧ R a b := by
  obtain ⟨hp, n, hn, rfl, before⟩ := List.find?_eq_some_iff_getElem.1 first
  obtain ⟨b, hb, lasting⟩ := h.kept n _ (List.getElem?_eq_getElem hn)
  obtain ⟨hn', rfl⟩ := List.getElem?_eq_some_iff.1 hb
  refine ⟨l'[n], List.find?_eq_some_iff_getElem.2 ⟨(same lasting).trans hp, n, hn', rfl, fun j hj => ?_⟩, lasting⟩
  -- what stands before it now stood there before
  obtain ⟨c, hc, kept⟩ := h.kept j _ (List.getElem?_eq_getElem (Nat.lt_trans hj hn))
  obtain ⟨_, rfl⟩ := List.getElem?_eq_some_iff.1 hc
  rw [same kept]
  exact before j hj

theorem World.Lasting.withTransaction?_eq {w v : World} (h : w.Lasting v) {transaction : Ident} {a : Attempt}
    (first : w.journal.withTransaction? transaction = some a) :
    ∃ b, v.journal.withTransaction? transaction = some b ∧ a.Lasting b :=
  h.attempts.find?_eq (fun lasting => congrArg (·.transaction == transaction) lasting.bare) first

theorem World.Lasting.firstReference?_eq {w v : World} (h : w.Lasting v) {transaction : Ident} {reference : String}
    (first : w.journal.firstReference? transaction = some reference) :
    v.journal.firstReference? transaction = some reference := by
  obtain ⟨a, found, carried⟩ := Option.bind_eq_some_iff.1 first
  obtain ⟨b, found', lasting⟩ := h.withTransaction?_eq found
  exact Option.bind_eq_some_iff.2 ⟨b, found', lasting.reference _ carried⟩

open Gateway Procedure

namespace Activity

variable (r : Registry)

def isOperation : Activity → Bool
  | delivery _ => false
  | operation _ _ _ => true

/-- An operation adds attempts and leaves those that are there as they are. -/
theorem attempts_of_operation {x : Activity} (h : x.isOperation = true) (w : World) :
    w.journal.attempts <+: (x.after r w).journal.attempts := by
  cases x with
  | delivery d => cases h
  | operation c o conditions =>
    rcases o.perform_run c conditions w with ⟨-, same, -⟩ | ⟨request, _, -, completed, -, -, world⟩
    · exact (congrArg (·.journal.attempts) same) ▸ List.prefix_refl _
    · refine (congrArg (·.journal.attempts) world) ▸ ?_
      cases completed with
      | kept d => exact List.prefix_append _ _
      | lost | aborted => exact List.prefix_refl _

theorem first_of_operations {activities : List Activity} (operations : ∀ x ∈ activities, x.isOperation = true)
    {w : World} {transaction : Ident} {a : Attempt} (first : w.journal.withTransaction? transaction = some a) :
    (activities.foldl (after r) w).journal.withTransaction? transaction = some a := by
  induction activities generalizing w with
  | nil => exact first
  | cons x rest ih =>
    rw [List.forall_mem_cons] at operations
    obtain ⟨more, attempts⟩ := attempts_of_operation r operations.1 w
    refine ih operations.2 ?_
    rw [Journal.withTransaction?, ← attempts, List.find?_append, ← Journal.withTransaction?, first]
    rfl

end Activity

namespace Gateway

/-- The reference of the earlier payment that a request would change, if it is one that does. -/
def Request.parentReference? : Request → Option String
  | .authorize _ | .credit _ => none
  | .capture m | .refund m | .cancel m => some m.parentReference

namespace Instruction

open Operations

variable {conditions : Conditions} {w : World} {c : Context} {o : Instruction} {parent : Ident}

/-- A look at the first attempt that neither fails nor aborts. -/
theorem run_findByTransaction {α : Type} (reads : .findByTransaction ∉ conditions.failing)
    (answers : .findByTransaction ∉ conditions.aborting) (parent : Ident)
    (next : Except Failure (Option Attempt) → Procedure α) :
    ((Procedure.call (.findByTransaction parent) next).run conditions w).ending =
      ((next (.ok (w.journal.withTransaction? parent))).run conditions w).ending := by
  have called : w.answer conditions (.findByTransaction parent) = (.ok (w.journal.withTransaction? parent), w) :=
    if_neg (by simpa [Conditions.fails, Call.kind?] using reads)
  rw [run, if_neg (by simpa [Conditions.aborts, Call.kind?] using answers), called]

theorem modification_of_reference (reads : .findByTransaction ∉ conditions.failing)
    (answers : .findByTransaction ∉ conditions.aborting) {reference : String}
    (first : w.journal.firstReference? parent = some reference) (amount : Option (Number.Decimal × String)) :
    ((modification c parent amount).run.run conditions w).ending =
      .finished (.ok ⟨c.merchantAccount, reference, c.transaction.text, amount.map (·.1), amount.map (·.2)⟩) := by
  obtain ⟨a, found, carried⟩ := Option.bind_eq_some_iff.1 first
  rcases a with ⟨_, _, _, _, _, _, _, _ | _⟩
  · cases carried
  · cases carried
    refine (run_findByTransaction reads answers parent _).trans ?_
    rw [found]
    rfl

theorem modification_of_none (reads : .findByTransaction ∉ conditions.failing)
    (answers : .findByTransaction ∉ conditions.aborting) (none : w.journal.firstReference? parent = none)
    (amount : Option (Number.Decimal × String)) :
    ∃ f, Unprepared conditions.failing w parent f ∧
      ((modification c parent amount).run.run conditions w).ending = .finished (.error f) := by
  cases found : w.journal.withTransaction? parent with
  | none =>
    refine ⟨_, .missing reads found, (run_findByTransaction reads answers parent _).trans ?_⟩
    rw [found]
    rfl
  | some a =>
    rcases a with ⟨_, _, _, _, _, _, _, _ | _⟩
    · refine ⟨_, .unreferenced reads found rfl, (run_findByTransaction reads answers parent _).trans ?_⟩
      rw [found]
      rfl
    · rw [Journal.firstReference?, found] at none
      cases none

theorem change_of_modification {amount : Option (Number.Decimal × String)} {x : Except Failure Modification}
    (h : ((modification c parent amount).run.run conditions w).ending = .finished x)
    (request : Modification → Request) :
    ((change c parent amount request).run.run conditions w).ending = .finished (x.map request) := by
  unfold change
  rw [ExceptT.run_bind, bind_eq, run_bind_of_finished h]
  cases x <;> rfl

/-- With the reference of the first attempt, a change is prepared; it is a change to the payment with this reference. -/
theorem prepare_of_reference (changes : o.parent? = some parent) (reads : .findByTransaction ∉ conditions.failing)
    (answers : .findByTransaction ∉ conditions.aborting) {reference : String}
    (first : w.journal.firstReference? parent = some reference) :
    ∃ request, request.parentReference? = some reference ∧
      ((o.prepare c).run.run conditions w).ending = .finished (.ok request) := by
  cases o with
  | authorize | purchase | credit => cases changes
  | capture | refund | void =>
    cases changes
    exact ⟨_, rfl, change_of_modification (modification_of_reference reads answers first _) _⟩

theorem prepare_of_none (changes : o.parent? = some parent) (reads : .findByTransaction ∉ conditions.failing)
    (answers : .findByTransaction ∉ conditions.aborting) (none : w.journal.firstReference? parent = none) :
    ∃ f, Unprepared conditions.failing w parent f ∧
      ((o.prepare c).run.run conditions w).ending = .finished (.error f) := by
  cases o with
  | authorize | purchase | credit => cases changes
  | capture | refund | void =>
    cases changes
    obtain ⟨f, unprepared, ended⟩ := modification_of_none reads answers none _
    exact ⟨f, unprepared, change_of_modification ended _⟩

/-- Whatever was delivered and carried out before: where the first attempt of a transaction has a reference, a change to
the transaction calls the gateway once, with this reference; where it has none, the gateway is not called, nothing is
written, and the change fails. The reference, once it is there, stays the same; and while there are only operations and no
deliveries, the first attempt stays as it is, so that trying the transaction again does not help. -/
theorem change_goes_by_first (r : Registry) (activities : List Activity) (w : World) (c : Context) (o : Instruction)
    (parent : Ident) (changes : o.parent? = some parent) (conditions : Conditions)
    (reads : .findByTransaction ∉ conditions.failing) (answers : .findByTransaction ∉ conditions.aborting) :
    let v := activities.foldl (Activity.after r) w
    let run := (o.perform c).run.run conditions v
    (∀ reference, v.journal.firstReference? parent = some reference →
      (∃ a ∈ v.journal.attempts, a.transaction = parent ∧ a.reference = some reference) ∧
        ∃ request, requests run.trace = [request] ∧ request.parentReference? = some reference) ∧
    (v.journal.firstReference? parent = none → requests run.trace = [] ∧ run.world = v ∧
      ∃ f, Unprepared conditions.failing v parent f ∧ run.ending = .finished (.error f)) ∧
    (∀ reference, w.journal.firstReference? parent = some reference →
      v.journal.firstReference? parent = some reference) ∧
    ((∀ x ∈ activities, x.isOperation = true) → ∀ a, w.journal.withTransaction? parent = some a →
      v.journal.firstReference? parent = a.reference) := by
  intro v run
  refine ⟨fun reference first => ⟨Journal.mem_of_firstReference? first, ?_⟩, fun none => ?_, fun reference first => ?_,
    fun operations a first => ?_⟩
  · obtain ⟨request, refers, prepared⟩ := prepare_of_reference (c := c) changes reads answers first
    obtain ⟨_, -, -, sent, -⟩ := perform_of_prepared prepared
    exact ⟨request, sent, refers⟩
  · obtain ⟨f, unprepared, ended⟩ := prepare_of_none (c := c) changes reads answers none
    obtain ⟨ending, sent, world⟩ := perform_of_unprepared ended
    exact ⟨sent, world, f, unprepared, ending⟩
  · have lasting := (Activity.history_lasting r activities w).2 w List.mem_cons_self
    exact lasting.firstReference?_eq first
  · rw [Journal.firstReference?, Activity.first_of_operations r operations first]
    rfl

/-- A try to authorize a payment, with what the gateway answers. -/
def tried (answer : Except Failure Answer) : Activity :=
  .operation ⟨.given 2, .given 3, .given 4, .given 7, "ShopEU"⟩ (.authorize ⟨default, "EUR", .null, none⟩)
    ⟨[], [], answer⟩

/-- A capture of this payment. -/
def capturing : Attempted Info :=
  perform ⟨.given 2, .given 3, .given 5, .given 7, "ShopEU"⟩ (.capture (.given 4) default "EUR")

/-- The gateway answers with the reference by which the payment is captured. -/
theorem change_goes_by_first_of_answer :
    let v := [tried (.ok ⟨some "A", "Authorised", none, .null⟩)].foldl (Activity.after .empty) World.empty
    Call.Kind.findByTransaction ∉ Conditions.fair.failing ∧ Call.Kind.findByTransaction ∉ Conditions.fair.aborting ∧
      ∃ request, requests (capturing.run.run .fair v).trace = [request] ∧ request.parentReference? = some "A" := by
  refine ⟨by decide, by decide, ?_⟩
  obtain ⟨calls, -⟩ := change_goes_by_first .empty [tried (.ok ⟨some "A", "Authorised", none, .null⟩)] World.empty
    ⟨.given 2, .given 3, .given 5, .given 7, "ShopEU"⟩ (.capture (.given 4) default "EUR") (.given 4) rfl .fair
    (by decide) (by decide)
  exact (calls "A" rfl).2

/-- The gateway does not answer to the first try and answers to the second. Its reference is kept, but the payment can
not be captured by it. -/
theorem second_answer_unused :
    let v := [tried (.error (.ofKind (.gateway "" "unreachable" true))),
      tried (.ok ⟨some "A", "Authorised", none, .null⟩)].foldl (Activity.after .empty) World.empty
    let run := capturing.run.run .fair v
    (∃ a ∈ v.journal.attempts, a.transaction = .given 4 ∧ a.reference = some "A") ∧ requests run.trace = [] ∧
      run.ending = .finished
        (.error (.validation ("transaction " ++ (Ident.given 4).text ++ " has no gateway reference yet"))) := by
  intro v run
  exact ⟨⟨_, .tail _ (.head _), rfl, rfl⟩, rfl, rfl⟩

end Instruction
end Gateway
end Reconciliation
