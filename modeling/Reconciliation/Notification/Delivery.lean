import Reconciliation.Notification.Batch
import Reconciliation.Notification.Matching
import Reconciliation.Notification.Resolution
import Reconciliation.Notification.Signature
import Reconciliation.Tenant.Registry

/-!
# Deliveries

Every delivery is acknowledged. Each item is verified, matched, resolved and applied, and leaves one audit entry
behind. What fails on the way becomes the outcome of the item.

* `Delivery.item` is the whole way of one item.
* `Delivery.process` is that of a delivery: first the items that could not be read, then the others.
-/

namespace Reconciliation.Notification

open Number

/-- What became of an item. -/
inductive Outcome where
  /-- The platform was asked for the status. -/
  | applied (transaction : Ident) (status : Status)
  /-- The transaction had the status before. -/
  | alreadyApplied (transaction : Ident) (status : Status)
  | informational
  | ignored (reason : String)
  | unmatched
  /-- The signature is wrong. -/
  | rejected
  | failed (reason : String)
  /-- The item could not be read. -/
  | malformed
  deriving Repr, DecidableEq

structure Report where
  acknowledgement : String
  outcomes : List Outcome
  deriving Repr, DecidableEq

/-- The transaction an outcome names. -/
def Outcome.transaction? : Outcome → Option Ident
  | .applied t _ | .alreadyApplied t _ => some t
  | _ => none

namespace Delivery

/-- What keeps a transition from being applied. -/
inductive Obstacle where
  /-- The platform refused it. -/
  | refused (f : Failure)
  /-- The platform made it, but the journal could not be changed. -/
  | unrecorded (f : Failure)
  deriving Repr, DecidableEq

abbrev Applying := ExceptT Obstacle Procedure

/-- Makes a call whose failure is an obstacle. -/
def ask (obstacle : Failure → Obstacle) (c : Call) : Applying c.Answer := do
  match ← Procedure.ask c with
  | .ok a => pure a
  | .error f => throw (obstacle f)

/-! ### Applying a transition -/

/-- The reference that belongs to the matched transaction: that of a chargeback does not. -/
def reference (i : Item) : Option String :=
  match i.eventCode with
  | .chargeback => i.parentReference
  | _ => i.reference

/-- Moves the matched transaction on the platform, unless it is there already, and then its attempt. -/
def applyToMatched (i : Item) (m : Match) (t : Tenant) (status : Status) : Applying Outcome := do
  let already := m.transaction.status = status
  if ¬ already then
    ask .refused (.updateTransaction ⟨m.payment.id, m.transaction.id, status, reference i, i.unsignedData⟩ t.id)
  let _ ← ask .unrecorded (.updateAttempt (.of m.attempt) (reference i) status)
  pure (if already then .alreadyApplied m.transaction.id status else .applied m.transaction.id status)

/-- The external key of a chargeback. -/
def chargebackKey (payment : Ident) (reference : String) : String := payment.text ++ "-" ++ reference

/-- Records a chargeback on the matched payment, unless it is there already. -/
def createChargeback (i : Item) (m : Match) (t : Tenant) : Applying Outcome :=
  match i.reference with
  | none => pure (.ignored "chargeback without gateway reference")
  | some reference =>
    let key := chargebackKey m.payment.id reference
    match m.payment.transactionByKey? key with
    | some known => pure (.alreadyApplied known.id known.status)
    | none => do
      let created ← ask .refused
        (.createChargeback m.payment.id ⟨key, i.decimal?, i.currency?, some reference, i.unsignedData⟩ t.id)
      pure (.applied created.id created.status)

/-- The later of two transactions, the later in the list where they are of the same time. -/
def later (latest : Option Transaction) (next : Transaction) : Option Transaction :=
  match latest with
  | none => some next
  | some t => if t.created.notAfter next.created then some next else some t

/-- The chargeback that a reversal is about: the latest with its reference, or the only one. -/
def reversed? (i : Item) (p : Payment) : Option Transaction :=
  let byReference := i.reference.bind fun r => (p.chargebacks.filter (·.gatewayReference == some r)).foldl later none
  let only := match p.chargebacks with
    | [t] => some t
    | _ => none
  byReference.or only

/-- Fails the chargeback that a reversal is about. -/
def reverseChargeback (i : Item) (m : Match) (t : Tenant) (status : Status) : Applying Outcome :=
  match reversed? i m.payment with
  | none =>
    let n := m.payment.chargebacks.length
    pure (.ignored (if n = 0 then "no chargeback to reverse"
      else "reversal matches none of " ++ digitsText n ++ " chargebacks"))
  | some chargeback =>
    if chargeback.status = status then pure (.alreadyApplied chargeback.id status)
    else do
      ask .refused (.updateTransaction
        ⟨m.payment.id, chargeback.id, status, chargeback.gatewayReference, i.unsignedData⟩ t.id)
      pure (.applied chargeback.id status)

def apply (i : Item) (m : Match) (t : Tenant) (x : Transition) : Applying Outcome :=
  match x.target with
  | .matched => applyToMatched i m t x.status
  | .newChargeback => createChargeback i m t
  | .existingChargeback => reverseChargeback i m t x.status

/-- Does what an event asks for. -/
def settle (i : Item) (m : Match) (t : Tenant) : Applying Outcome :=
  match Resolution.ofEvent m.transaction.operation m.transaction.status i.eventCode i.success
      (Resolution.failing t m.family) with
  | .transition x => apply i m t x
  | .informational => pure .informational
  | .unrecognized => pure (.ignored ("unrecognized event code " ++ i.eventCode.text))
  | .superseded current =>
    pure (.ignored (i.eventCode.text ++ " superseded, transaction already " ++ current.name))
  | .inapplicable operation => pure (.ignored (i.eventCode.text ++ " does not apply to " ++ operation.name))

/-! ### The way of an item -/

/-- Whether the signature of an item is right for a tenant; a tenant without a key takes any. -/
def verified (i : Item) (t : Tenant) : Bool :=
  match t.signatureKey? with
  | none => true
  | some secret => i.signature?.any (Signature.verify secret i.signingPayload ·)

/-- Adds an audit entry; whether that works makes no difference. -/
def record (e : AuditEntry) : Procedure Unit := do
  let _ ← Procedure.ask (.recordAudit e)
  pure ()

/-- Ends with an audit entry and an outcome. -/
def conclude (e : AuditEntry) (o : Outcome) : Procedure Outcome := do
  record e
  pure o

/-- An audit entry with what the item belongs to. -/
def linked (e : AuditEntry) (m : Match) (transaction : Ident) : AuditEntry :=
  { e with
    account := some m.payment.account
    payment := some m.payment.id
    transaction := some transaction }

/-- Ends according to what was applied. An item that the platform refused counts as unmatched. -/
def finish (e : AuditEntry) (m : Match) : Except Obstacle Outcome → Procedure Outcome
  | .ok o => conclude (linked e m (o.transaction?.getD m.transaction.id)) o
  | .error (.refused _) => conclude e .unmatched
  | .error (.unrecorded f) => conclude (linked e m m.transaction.id) (.failed f.message)

/-- The tenant whose configuration applies: the owner of the merchant account, or else that of the attempt. -/
def tenantOf (r : Registry) (owner : Option Tenant) (a : Attempt) : Tenant :=
  owner.getD ((r.forTenant? a.tenant).getD (.unconfigured a.tenant))

/-- Verifies, matches, resolves and applies an item. Without an owner of the merchant account, the key is that of
the tenant of the attempt. -/
def item (r : Registry) (i : Item) : Procedure Outcome :=
  let owner := r.forAccount? i.merchantAccount
  let entry := { i.audit with tenant := owner.map (·.id) }
  if owner.all (verified i) then do
    match ← (Matching.resolve i (owner.map (·.id))).run with
    | .error f => conclude entry (.failed f.message)
    | .ok none => conclude entry .unmatched
    | .ok (some m) =>
      let t := tenantOf r owner m.attempt
      let entry := { entry with tenant := some t.id }
      if verified i t then do finish entry m (← (settle i m t).run) else conclude entry .rejected
  else conclude entry .rejected

/-! ### Whole deliveries -/

/-- The event code of the entry for what can not be read. -/
def unreadableEvent : String := "UNPARSEABLE"

/-- The number of characters of a delivery that are kept with such an entry. -/
def excerptLength : Nat := 4096

/-- The audit entry of something that can not be read. -/
def unreadable (body : Text.Utf8.Bytes) (problem : String) : AuditEntry :=
  { AuditEntry.blank with
    eventCode := unreadableEvent
    reason := some problem
    additionalData := some (.object
      [("body", .string (String.ofList ((Text.Utf8.decodeLossy body).take excerptLength)))]) }

/-- Does one thing after another. -/
def each {α β : Type} (f : α → Procedure β) : List α → Procedure (List β)
  | [] => pure []
  | a :: rest => do
    let b ← f a
    let bs ← each f rest
    pure (b :: bs)

/-- Processes a batch; `body` is what it was read from. -/
def batch (r : Registry) (body : Text.Utf8.Bytes) (b : Batch) : Procedure (List Outcome) := do
  let malformed ← each (fun problem => conclude (unreadable body problem) .malformed) b.malformed
  let outcomes ← each (item r) b.items
  pure (malformed ++ outcomes)

/-- Processes a delivery. -/
def process (r : Registry) (body : Text.Utf8.Bytes) : Procedure Report := do
  let outcomes ←
    match Batch.parse body with
    | .error f => do pure [← conclude (unreadable body f.message) .malformed]
    | .ok b => batch r body b
  pure ⟨acknowledgement, outcomes⟩

end Delivery
end Reconciliation.Notification
