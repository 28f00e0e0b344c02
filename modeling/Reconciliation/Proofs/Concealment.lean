import Reconciliation.Proofs.Batches
import Reconciliation.Proofs.Verification

/-!
# Where signatures go

The signature of an item is compared with the one that would be made, and left out of all that is stored or passed on.
So two deliveries whose items differ in their signatures only, with the same result of verification, make the same calls.
There is one exception: what could not be read of a batch is recorded with the beginning of the whole batch, in which the
signatures of the other items stand.

* `Item.Resigned` says that two items differ in their signatures only, `Resigned` that the values they are read from do.
* `VerifiedAlike` says that verification gives the same answer for two items, `VerifiedInTurn` for lists of them.
* `Procedure.audit_run` reads the entries that a run adds to the audit off its calls.
* `item_resigned`: the run of an item is the same; `items_resigned` is the same for lists, where the audits may differ.
* `signatures_concealed` is the statement about two deliveries.
-/

namespace Reconciliation

namespace Call

/-- Whether a call is one to the platform. -/
def toPlatform (k : Call) : Bool := k.kind?.any fun kind => !kind.isJournal

/-- The audit entry that a call adds, if it comes to that. -/
def entered (c : Conditions) : Call → Option AuditEntry
  | recordAudit e => if c.aborts (recordAudit e) || c.fails (recordAudit e) then none else some e
  | _ => none

end Call

theorem World.audit_answer {c : Conditions} {k : Call} (unaborted : c.aborts k = false) (w : World) :
    (w.answer c k).2.journal.audit = w.journal.audit ++ (k.entered c).toList := by
  cases k with
  | recordAudit e =>
    rw [Call.entered, World.answer, unaborted]
    cases c.fails (.recordAudit e) <;> simp [World.perform, Journal.note]
  | _ =>
    rw [World.answer]
    split <;> simp [World.perform, Call.entered, Journal.record, Journal.insert]

/-- The runs end in the same way after the same calls, and leave worlds that differ in the audit only. -/
structure Run.Alike {α : Type} (first second : Run α) : Prop where
  ending : second.ending = first.ending
  calls : second.trace.map (·.call) = first.trace.map (·.call)
  world : first.world.Same second.world

theorem ending_of_result? {α : Type} {ending : Ending α} {a : α} (h : ending.result? = some a) :
    ending = .finished a := by
  cases ending with
  | finished b => rw [Option.some.inj h]
  | aborted k => cases h

theorem aborted_of_result? {α : Type} {ending : Ending α} (h : ending.result? = none) :
    ∃ k, ending = .aborted k := by
  cases ending with
  | finished b => cases h
  | aborted k => exact ⟨k, rfl⟩

namespace Procedure

variable {α β : Type} {c : Conditions} {u v w : World}

/-- A run adds to the audit what its calls add, in their order. -/
theorem audit_run (p : Procedure α) (w : World) : (p.run c w).world.journal.audit =
    w.journal.audit ++ ((p.run c w).trace.map (·.call)).filterMap (Call.entered c) := by
  induction p generalizing w with
  | done a => simp
  | call k next ih =>
    rw [run]
    split
    · next aborted =>
      have none : k.entered c = none := by
        cases k <;> simp [Call.entered, aborted]
      simp [none]
    · next unaborted =>
      dsimp only
      rw [ih, World.audit_answer (by simpa using unaborted), List.map_cons, List.append_assoc]
      cases entered : k.entered c <;> simp [entered]

/-- What goes on in the same way from where a procedure ends is the same. -/
theorem run_bind_congr {p : Procedure α} {f g : α → Procedure β}
    (h : ∀ a, (p.run c w).ending = .finished a → (f a).run c (p.run c w).world = (g a).run c (p.run c w).world) :
    (p.bind f).run c w = (p.bind g).run c w := by
  cases ending : (p.run c w).ending with
  | finished a => rw [run_bind_of_finished ending, run_bind_of_finished ending, h a ending]
  | aborted k => rw [run_bind_of_aborted ending, run_bind_of_aborted ending]

theorem Heedless.run_alike {p : Procedure α} (h : p.Heedless) (same : u.Same v) : (p.run c u).Alike (p.run c v) :=
  have ⟨ending, calls, world⟩ := h.run_same (.refl c) same
  ⟨ending, calls, world⟩

end Procedure

namespace Run.Alike

open Procedure

variable {α β : Type} {c : Conditions} {u v : World} {x y z : Run α}

theorem symm (h : x.Alike y) : y.Alike x := ⟨h.ending.symm, h.calls.symm, h.world.symm⟩

theorem trans (h : x.Alike y) (h' : y.Alike z) : x.Alike z :=
  ⟨h'.ending.trans h.ending, h'.calls.trans h.calls, h.world.trans h'.world⟩

/-- Runs that are alike may go on, if they go on alike. -/
theorem bind {p q : Procedure α} {f g : α → Procedure β} (h : (p.run c u).Alike (q.run c v))
    (go : ∀ a, (p.run c u).ending = .finished a →
      ((f a).run c (p.run c u).world).Alike ((g a).run c (q.run c v).world)) :
    ((p.bind f).run c u).Alike ((q.bind g).run c v) := by
  cases ending : (p.run c u).ending with
  | finished a =>
    have rest := go a ending
    rw [run_bind_of_finished ending, run_bind_of_finished (h.ending.trans ending)]
    refine ⟨rest.ending, ?_, rest.world⟩
    rw [List.map_append, List.map_append, h.calls, rest.calls]
  | aborted k =>
    rw [run_bind_of_aborted ending, run_bind_of_aborted (h.ending.trans ending)]
    exact ⟨rfl, h.calls, h.world⟩

theorem map {p q : Procedure α} (h : (p.run c u).Alike (q.run c v)) (f : α → β) :
    ((p.bind fun a => done (f a)).run c u).Alike ((q.bind fun a => done (f a)).run c v) :=
  h.bind fun a _ => by
    rw [run_done, run_done]
    exact ⟨rfl, rfl, h.world⟩

end Run.Alike

namespace Notification

open Json Procedure

/-- The items are the same, but perhaps for their signatures. -/
structure Item.Resigned (i j : Item) : Prop where
  others : j = { i with additionalData := j.additionalData }
  unsigned : j.unsignedData = i.unsignedData

/-- The values are items that differ in their signatures only, or they are the same and no item. -/
def Resigned (x y : Value) : Prop :=
  (∃ i j, Batch.item x = .ok i ∧ Batch.item y = .ok j ∧ i.Resigned j) ∨ (y = x ∧ Unreadable x)

/-- The same values can not be read, for the same reasons, and the others are items in the same order. -/
theorem sort_resigned {xs ys : List Value} (h : List.Forall₂ Resigned xs ys) (index : Nat) :
    (Batch.sort index ys).2 = (Batch.sort index xs).2 ∧
      List.Forall₂ Item.Resigned (Batch.sort index xs).1 (Batch.sort index ys).1 := by
  induction h generalizing index with
  | nil => exact ⟨rfl, .nil⟩
  | @cons x y xs ys first rest ih =>
    obtain ⟨problems, items⟩ := ih (index + 1)
    rcases first with ⟨i, j, hx, hy, resigned⟩ | ⟨rfl, unreadable⟩
    · simp only [Batch.sort, hx, hy]
      exact ⟨problems, .cons resigned items⟩
    · cases hx : Batch.item y with
      | ok i => exact absurd hx (unreadable i)
      | error cause =>
        simp only [Batch.sort, hx]
        exact ⟨congrArg _ problems, items⟩

namespace Delivery

open Matching

variable {r : Registry} {c : Conditions} {u v w : World} {i j : Item} {m : Match}

/-- Verification gives the same answer for both items, with the key of the owner of the merchant account and with that
of the tenant of the match. -/
structure VerifiedAlike (r : Registry) (c : Conditions) (w : World) (i j : Item) : Prop where
  owner : (r.forAccount? i.merchantAccount).all (verified j) = (r.forAccount? i.merchantAccount).all (verified i)
  tenant : ∀ m, MatchedTo r c w i m → verified j (tenantFor r i m) = verified i (tenantFor r i m)

/-- Verification gives the same answers where the items are delivered one after another, as far as they are. -/
def VerifiedInTurn (r : Registry) (c : Conditions) : World → List Item → List Item → Prop
  | w, i :: is, j :: js =>
    VerifiedAlike r c w i j ∧
      ∀ o, ((item r i).run c w).ending = .finished o → VerifiedInTurn r c ((item r i).run c w).world is js
  | _, _, _ => True

/-- Where there are no tenants, nothing is verified. -/
theorem verifiedAlike_of_unregistered : VerifiedAlike .empty c w i j := by
  refine ⟨by rw [Registry.forAccount?_empty, Option.all_none, Option.all_none], fun m _ => ?_⟩
  rw [show tenantFor .empty i m = .unconfigured m.attempt.tenant from rfl]
  simp [verified, Tenant.signatureKey?, Tenant.unconfigured]

/-! ### One item -/

/-- Neither the entry of an item nor its match has anything to do with the signature. -/
theorem audit_resigned (h : i.Resigned j) : j.audit = i.audit := by
  obtain ⟨others, unsigned⟩ := h
  rw [Item.audit, Item.audit, unsigned, others]
  rfl

theorem resolve_resigned (h : i.Resigned j) (tenant : Option Ident) : resolve j tenant = resolve i tenant := by
  rw [h.others]
  rfl

theorem settle_resigned (h : i.Resigned j) (m : Match) (t : Tenant) : settle j m t = settle i m t := by
  obtain ⟨others, unsigned⟩ := h
  unfold settle apply applyToMatched createChargeback reverseChargeback
  rw [unsigned, others]
  rfl

/-- Items that differ in their signatures only have the same run where verification gives the same answer. -/
theorem item_resigned (h : i.Resigned j) (alike : VerifiedAlike r c w i j) :
    (item r j).run c w = (item r i).run c w := by
  have account : j.merchantAccount = i.merchantAccount := by rw [h.others]
  unfold item
  simp only [account, alike.owner, audit_resigned h, resolve_resigned h, settle_resigned h]
  split
  case isFalse => rfl
  case isTrue =>
  refine run_bind_congr fun x matched => ?_
  match x with
  | .error f => rfl
  | .ok none => rfl
  | .ok (some m) =>
    dsimp only
    rw [← tenantFor, alike.tenant m matched]

/-! ### Several items -/

/-- Items whose verification gives the same answers come to the same, in worlds that differ in the audit only. -/
theorem items_resigned {is js : List Item} (h : List.Forall₂ Item.Resigned is js)
    (verified : VerifiedInTurn r c w is js) (first : w.Same u) (second : w.Same v) :
    ((each (item r) is).run c u).Alike ((each (item r) js).run c v) := by
  induction h generalizing w u v with
  | nil => exact ⟨rfl, rfl, first.symm.trans second⟩
  | @cons i j is js resigned rest ih =>
    obtain ⟨alike, later⟩ := verified
    have one : ((item r i).run c w).Alike ((item r i).run c u) := (item_heedless r i).run_alike first
    have other : ((item r i).run c w).Alike ((item r j).run c v) := by
      rw [← item_resigned resigned alike]
      exact (item_heedless r j).run_alike second
    rw [each, each]
    refine (one.symm.trans other).bind fun o ended => ?_
    exact (ih (later o (one.ending.symm.trans ended)) one.world other.world).map (o :: ·)

/-! ### What could not be read -/

/-- The characters of a delivery that are kept where something in it could not be read. -/
def excerpt (body : Text.Utf8.Bytes) : List Char := (Text.Utf8.decodeLossy body).take excerptLength

theorem unreadable_eq_iff {body body' : Text.Utf8.Bytes} {problem : String} :
    unreadable body' problem = unreadable body problem ↔ excerpt body' = excerpt body := by
  simp [unreadable, excerpt, String.ofList_inj]

/-- The problems that are told of: all, unless the first call for an audit entry aborts. -/
def told (c : Conditions) (problems : List String) : List String :=
  if .recordAudit ∈ c.aborting then problems.take 1 else problems

/-- The problems that an audit entry is added for. -/
def noted (c : Conditions) (problems : List String) : List String :=
  if .recordAudit ∈ c.aborting ∨ .recordAudit ∈ c.failing then [] else problems

/-- The call for the audit entry of a problem. -/
def tell (body : Text.Utf8.Bytes) (problem : String) : Call := .recordAudit (unreadable body problem)

theorem aborts_tell_iff {body : Text.Utf8.Bytes} {problem : String} :
    c.aborts (tell body problem) = true ↔ .recordAudit ∈ c.aborting := by
  simp [Conditions.aborts, tell, Call.kind?]

theorem entered_tell (body : Text.Utf8.Bytes) (problem : String) : Call.entered c (tell body problem) =
    if .recordAudit ∈ c.aborting ∨ .recordAudit ∈ c.failing then none else some (unreadable body problem) := by
  simp [tell, Call.entered, Conditions.aborts, Conditions.fails, Call.kind?]

theorem entered_told (body : Text.Utf8.Bytes) (problems : List String) :
    ((told c problems).map (tell body)).filterMap (Call.entered c) = (noted c problems).map (unreadable body) := by
  rw [List.filterMap_map, noted]
  by_cases lost : .recordAudit ∈ c.aborting ∨ .recordAudit ∈ c.failing
  · simp [lost, entered_tell]
  · rw [told, if_neg (fun aborting => lost (.inl aborting)), if_neg lost, ← List.filterMap_eq_map]
    refine List.filterMap_congr fun problem _ => ?_
    rw [Function.comp_apply, entered_tell, if_neg lost]
    rfl

/-- What could not be read is told of, and nothing else is done for it. -/
theorem unread_run (r : Registry) (body : Text.Utf8.Bytes) (problems : List String) (w : World) :
    let run := (each (Part.handle r body) (problems.map .unread)).run c w
    run.trace.map (·.call) = (told c problems).map (tell body) ∧ w.Same run.world ∧
      run.ending.result? =
        if .recordAudit ∈ c.aborting ∧ problems ≠ [] then none
        else some (List.replicate problems.length .malformed) := by
  induction problems generalizing w with
  | nil => exact ⟨by simp [told, each], .refl w, by simp [each, Ending.result?]⟩
  | cons problem rest ih =>
    have first : each (Part.handle r body) ((problem :: rest).map .unread) = .call (tell body problem) fun _ =>
        (each (Part.handle r body) (rest.map .unread)).bind fun os => .done (.malformed :: os) := rfl
    rw [first, run]
    by_cases aborting : .recordAudit ∈ c.aborting
    · rw [if_pos (aborts_tell_iff.2 aborting)]
      exact ⟨by simp [told, aborting], .refl w, by simp [aborting, Ending.result?]⟩
    · rw [if_neg (mt aborts_tell_iff.1 aborting)]
      obtain ⟨calls, same, result⟩ := ih (w.answer c (tell body problem)).2
      rw [if_neg (fun both => aborting both.1)] at result
      have ended := ending_of_result? result
      dsimp only
      rw [run_bind_of_finished ended, run_done, if_neg (fun both => aborting both.1)]
      refine ⟨?_, (World.Same.of_answer rfl c w).trans same, rfl⟩
      rw [List.append_nil, List.map_cons, calls]
      simp [told, aborting]

/-! ### Deliveries -/

/-- A batch tells of what could not be read, and then goes through its items. -/
theorem process_of_envelopes {body : Text.Utf8.Bytes} {values : List Value} (h : Envelopes body values) :
    process r body = (each (Part.handle r body) ((Batch.sort 0 values).2.map .unread)).bind fun lost =>
      (each (item r) (Batch.sort 0 values).1).bind fun os => done ⟨acknowledgement, lost ++ os⟩ := by
  have items : each (Part.handle r body) ((Batch.sort 0 values).1.map .item) = each (item r) (Batch.sort 0 values).1 :=
    each_map _ _ _
  rw [process_eq, parts_of_envelopes h, each_append, items]
  simp only [bind_assoc, done_bind]

section Batches

variable {body body' : Text.Utf8.Bytes} {values values' : List Value}

/-- Two deliveries that differ in signatures only make the same calls, but for those that tell of what could not be
read. -/
theorem process_resigned (first : Envelopes body values) (second : Envelopes body' values')
    (resigned : List.Forall₂ Resigned values values')
    (verified : VerifiedInTurn r c w (Batch.sort 0 values).1 (Batch.sort 0 values').1) :
    let run := (process r body).run c w
    let run' := (process r body').run c w
    run'.ending.result? = run.ending.result? ∧ run.world.Same run'.world ∧ ∃ calls,
      run.trace.map (·.call) = (told c (Batch.sort 0 values).2).map (tell body) ++ calls ∧
      run'.trace.map (·.call) = (told c (Batch.sort 0 values).2).map (tell body') ++ calls := by
  dsimp only
  obtain ⟨problems, items⟩ := sort_resigned resigned 0
  rw [process_of_envelopes first, process_of_envelopes second, problems]
  obtain ⟨calls, same, result⟩ := unread_run r body (Batch.sort 0 values).2 w (c := c)
  obtain ⟨calls', same', result'⟩ := unread_run r body' (Batch.sort 0 values).2 w (c := c)
  split at result
  · -- the first call aborts
    next lost =>
    rw [if_pos lost] at result'
    obtain ⟨k, ended⟩ := aborted_of_result? result
    obtain ⟨k', ended'⟩ := aborted_of_result? result'
    rw [run_bind_of_aborted ended, run_bind_of_aborted ended']
    exact ⟨rfl, same.symm.trans same', [], by rw [List.append_nil, calls], by rw [List.append_nil, calls']⟩
  · next kept =>
    rw [if_neg kept] at result'
    have alike := (items_resigned items verified same same').map fun os => (⟨acknowledgement,
      List.replicate (Batch.sort 0 values).2.length .malformed ++ os⟩ : Report)
    rw [run_bind_of_finished (ending_of_result? result), run_bind_of_finished (ending_of_result? result')]
    exact ⟨congrArg Ending.result? alike.ending, alike.world, _, List.map_append.trans (congrArg (· ++ _) calls),
      List.map_append.trans (congrArg₂ (· ++ ·) calls' alike.calls)⟩

/-- The calls to the platform have nothing to do with what could not be read. -/
theorem toPlatform_told (problems : List String) : ((told c problems).map (tell body)).filter Call.toPlatform = [] := by
  refine List.filter_eq_nil_iff.2 fun k hk => ?_
  obtain ⟨problem, -, rfl⟩ := List.mem_map.1 hk
  exact Bool.false_ne_true

/-- They add the same to the audit, but for the entries for what could not be read. -/
theorem audits_resigned (first : Envelopes body values) (second : Envelopes body' values')
    (resigned : List.Forall₂ Resigned values values')
    (verified : VerifiedInTurn r c w (Batch.sort 0 values).1 (Batch.sort 0 values').1) :
    let problems := noted c (Batch.sort 0 values).2
    ∃ entries,
      ((process r body).run c w).world.journal.audit =
        w.journal.audit ++ problems.map (unreadable body) ++ entries ∧
      ((process r body').run c w).world.journal.audit =
        w.journal.audit ++ problems.map (unreadable body') ++ entries := by
  obtain ⟨-, -, calls, made, made'⟩ := process_resigned first second resigned verified
  refine ⟨calls.filterMap (Call.entered c), ?_, ?_⟩
  · rw [audit_run, made, List.filterMap_append, entered_told, List.append_assoc]
  · rw [audit_run, made', List.filterMap_append, entered_told, List.append_assoc]

theorem audit_resigned_eq_iff (first : Envelopes body values) (second : Envelopes body' values')
    (resigned : List.Forall₂ Resigned values values')
    (verified : VerifiedInTurn r c w (Batch.sort 0 values).1 (Batch.sort 0 values').1) :
    ((process r body').run c w).world.journal.audit = ((process r body).run c w).world.journal.audit ↔
      noted c (Batch.sort 0 values).2 = [] ∨ excerpt body' = excerpt body := by
  obtain ⟨entries, audit, audit'⟩ := audits_resigned first second resigned verified
  rw [audit, audit', List.append_left_inj, List.append_right_inj]
  cases noted c (Batch.sort 0 values).2 with
  | nil => simp
  | cons problem rest => simpa [unreadable_eq_iff] using fun same _ _ => same

/-- Of two deliveries whose items differ in their signatures only, with the same answers of verification, both come to
the same result, whatever calls fail or abort; they make the same calls to the platform, leave the same attempts and the
same platform, and add the same entries for their items to the audit. The entries for what could not be read hold the
beginning of the delivery, and are the same only if that is, signatures included. -/
theorem signatures_concealed (r : Registry) (w : World) (c : Conditions) (first : Envelopes body values)
    (second : Envelopes body' values') (resigned : List.Forall₂ Resigned values values')
    (verified : VerifiedInTurn r c w (Batch.sort 0 values).1 (Batch.sort 0 values').1) :
    let run := (process r body).run c w
    let run' := (process r body').run c w
    let problems := noted c (Batch.sort 0 values).2
    run'.ending.result? = run.ending.result? ∧ run.world.Same run'.world ∧
      (run'.trace.map (·.call)).filter Call.toPlatform = (run.trace.map (·.call)).filter Call.toPlatform ∧
      (∃ entries,
        run.world.journal.audit = w.journal.audit ++ problems.map (unreadable body) ++ entries ∧
        run'.world.journal.audit = w.journal.audit ++ problems.map (unreadable body') ++ entries) ∧
      (run'.world.journal.audit = run.world.journal.audit ↔ problems = [] ∨ excerpt body' = excerpt body) := by
  dsimp only
  obtain ⟨result, same, calls, made, made'⟩ := process_resigned first second resigned verified
  refine ⟨result, same, ?_, audits_resigned first second resigned verified,
    audit_resigned_eq_iff first second resigned verified⟩
  rw [made, made', List.filter_append, List.filter_append, toPlatform_told, toPlatform_told]

end Batches

/-- An authorization of the small world with a signature. -/
def sealedItem (signature : String) : Item :=
  { specimenItem .authorisation true none none with additionalData := some [(Item.signatureKey, .string signature)] }

/-- How it is written. -/
def sealedText (signature : String) : String :=
  "\x7b\"merchantReference\":\"00000000000000000000000000000004\",\"merchantAccountCode\":\"M\"," ++
    "\"eventCode\":\"AUTHORISATION\",\"success\":true,\"additionalData\":\x7b\"hmacSignature\":\"" ++ signature ++
    "\"\x7d\x7d"

/-- A delivery of it alone. -/
def sealedBody (signature : String) : Text.Utf8.Bytes := envelopeText [sealedText signature]

/-- What the text says. -/
def sealedValue (signature : String) : Value :=
  .object [("additionalData", .object [("hmacSignature", .string signature)]), ("eventCode", .string "AUTHORISATION"),
    ("merchantAccountCode", .string "M"), ("merchantReference", .string "00000000000000000000000000000004"),
    ("success", .bool true)]

/-- The value is read as the item. -/
def Unsealed (signature : String) : Prop := Batch.item (sealedValue signature) = .ok (sealedItem signature)

theorem resigned_of_unsealed {s s' : String} (h : Unsealed s) (h' : Unsealed s') :
    Resigned (sealedValue s) (sealedValue s') :=
  .inl ⟨_, _, h, h', rfl, by simp [sealedItem, Item.unsignedData, Members.erase]⟩

theorem sort_of_unsealed {s : String} (h : Unsealed s) : Batch.sort 0 [sealedValue s] = ([sealedItem s], []) := by
  rw [Unsealed] at h
  simp only [Batch.sort, h]

/-- The signature that belongs to the item under the key of the small world. -/
def rightSignature : String := "tpBlov+tgHlZ4g1jQ5xdcpmTWpSiIPZjR+CJqjlmeJo="

/-- The right signature, with and without a blank before it, authorizes the payment; the audit does not tell which it
was. -/
theorem signatures_concealed_of_blank :
    ((process (.single keyedTenant) (sealedBody rightSignature)).run .fair specimen).world.platform.transitions =
        [(.given 4, .success)] ∧
      ((process (.single keyedTenant) (sealedBody (" " ++ rightSignature))).run .fair specimen).world.platform =
        ((process (.single keyedTenant) (sealedBody rightSignature)).run .fair specimen).world.platform ∧
      ((process (.single keyedTenant) (sealedBody (" " ++ rightSignature))).run .fair specimen).world.journal.audit =
        ((process (.single keyedTenant) (sealedBody rightSignature)).run .fair specimen).world.journal.audit := by
  have read : Unsealed rightSignature := by
    unfold Unsealed
    decide +kernel
  have read' : Unsealed (" " ++ rightSignature) := by
    unfold Unsealed
    decide +kernel
  have envelopes : Envelopes (sealedBody rightSignature) [sealedValue rightSignature] := ⟨none, by decide +kernel⟩
  have envelopes' : Envelopes (sealedBody (" " ++ rightSignature)) [sealedValue (" " ++ rightSignature)] :=
    ⟨none, by decide +kernel⟩
  have right : verified (sealedItem rightSignature) keyedTenant = true := by decide +kernel
  have right' : verified (sealedItem (" " ++ rightSignature)) keyedTenant = true := by decide +kernel
  have owner (s : String) :
      (Registry.single keyedTenant).forAccount? (sealedItem s).merchantAccount = some keyedTenant :=
    Registry.forAccount?_single (List.mem_singleton_self _)
  have alike : VerifiedAlike (.single keyedTenant) .fair specimen (sealedItem rightSignature)
      (sealedItem (" " ++ rightSignature)) := by
    refine ⟨?_, fun m _ => ?_⟩
    · rw [owner, Option.all_some, Option.all_some, right, right']
    · rw [tenantFor, owner, tenantOf, Option.getD_some, right, right']
  obtain ⟨-, same, -, -, audits⟩ := signatures_concealed (.single keyedTenant) specimen .fair envelopes envelopes'
    (.cons (resigned_of_unsealed read read') .nil) (by
      rw [sort_of_unsealed read, sort_of_unsealed read']
      exact ⟨alike, fun _ _ => trivial⟩)
  refine ⟨?_, same.platform, audits.2 (.inl ?_)⟩
  · rw [process_of_envelopes envelopes, sort_of_unsealed read, world_fair, fairly_bind, fairly_bind, fairly_done, each,
      bind_eq, fairly_bind]
    decide +kernel
  · rw [sort_of_unsealed read, noted, ite_self]

/-- The item beside something that is none. -/
def besideUnread (signature : String) : Text.Utf8.Bytes := envelopeText ["7", sealedText signature]

def besideUnreadValues (signature : String) : List Value := [.number (.integer 7), sealedValue signature]

theorem sort_besideUnread {s : String} (h : Unsealed s) : (Batch.sort 0 (besideUnreadValues s)).1 = [sealedItem s] ∧
    (Batch.sort 0 (besideUnreadValues s)).2 ≠ [] := by
  rw [Unsealed] at h
  have none : Batch.item (.number (.integer 7)) =
      .error (.wrongType (Numeral.integer 7).kind "struct NotificationItem") := rfl
  simp only [besideUnreadValues, Batch.sort, h, none]
  exact ⟨trivial, List.cons_ne_nil _ _⟩

/-- Beside something that is no item, a signature is kept in the audit. -/
theorem signature_recorded_beside_unread :
    Envelopes (besideUnread "A") (besideUnreadValues "A") ∧ Envelopes (besideUnread "B") (besideUnreadValues "B") ∧
      List.Forall₂ Resigned (besideUnreadValues "A") (besideUnreadValues "B") ∧
      VerifiedInTurn .empty .fair specimen (Batch.sort 0 (besideUnreadValues "A")).1
        (Batch.sort 0 (besideUnreadValues "B")).1 ∧
      ((process .empty (besideUnread "B")).run .fair specimen).world.journal.audit ≠
        ((process .empty (besideUnread "A")).run .fair specimen).world.journal.audit := by
  have readA : Unsealed "A" := by
    unfold Unsealed
    decide +kernel
  have readB : Unsealed "B" := by
    unfold Unsealed
    decide +kernel
  have envelopesA : Envelopes (besideUnread "A") (besideUnreadValues "A") := ⟨none, by decide +kernel⟩
  have envelopesB : Envelopes (besideUnread "B") (besideUnreadValues "B") := ⟨none, by decide +kernel⟩
  have resigned : List.Forall₂ Resigned (besideUnreadValues "A") (besideUnreadValues "B") :=
    .cons (.inr ⟨rfl, fun i hi => nomatch hi⟩) (.cons (resigned_of_unsealed readA readB) .nil)
  have verified : VerifiedInTurn .empty .fair specimen (Batch.sort 0 (besideUnreadValues "A")).1
      (Batch.sort 0 (besideUnreadValues "B")).1 := by
    rw [(sort_besideUnread readA).1, (sort_besideUnread readB).1]
    exact ⟨verifiedAlike_of_unregistered, fun _ _ => trivial⟩
  refine ⟨envelopesA, envelopesB, resigned, verified, fun same => ?_⟩
  rcases (audit_resigned_eq_iff envelopesA envelopesB resigned verified).1 same with unnoted | same
  · exact (sort_besideUnread readA).2 unnoted
  · exact absurd same (by decide +kernel)

end Delivery
end Notification
end Reconciliation
