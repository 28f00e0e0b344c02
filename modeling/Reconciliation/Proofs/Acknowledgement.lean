import Reconciliation.Proofs.Batches
import Reconciliation.Service.Endpoint

/-!
# Which requests are acknowledged

The gateway sends a delivery again until it is acknowledged. Nothing that is in a delivery or that happens to it keeps
it from being acknowledged, but its length does.

* `Posts` says that a request is a delivery, `Acknowledges` what the answer to one should be and what it should leave.
* `Procedure.run_map`: a procedure that drops its result makes the same calls.
* `parse_blanks`: blanks in front of a delivery make no difference to what is read of it.
* `acknowledged_iff` is the statement about requests, `padded_refused` says which deliveries are lost.
-/

namespace Reconciliation

/-! ### Dropping results -/

def Ending.map {α β : Type} (f : α → β) : Ending α → Ending β
  | .finished a => .finished (f a)
  | .aborted call => .aborted call

theorem Ending.result?_map {α β : Type} (f : α → β) (x : Ending α) : (x.map f).result? = x.result?.map f := by
  cases x <;> rfl

/-- The same calls, with another result. -/
def Run.map {α β : Type} (f : α → β) (x : Run α) : Run β := ⟨x.ending.map f, x.trace, x.world⟩

theorem Procedure.run_map {α β : Type} (p : Procedure α) (f : α → β) (c : Conditions) (w : World) :
    (p.bind fun a => done (f a)).run c w = (p.run c w).map f := by
  cases ending : (p.run c w).ending with
  | finished a => rw [run_bind_of_finished ending, run_done, Run.map, ending, List.append_nil]; rfl
  | aborted k => rw [run_bind_of_aborted ending, Run.map, ending]; rfl

/-! ### Blanks in front -/

namespace Json.Reader

variable {α β : Type}

/-- Blanks in front make no difference to the reader. -/
def SkipsBlanks (x : Reader α) : Prop :=
  ∀ blanks s : Text.Utf8.Bytes, (∀ b ∈ blanks, isBlankByte b = true) → x (blanks ++ s) = x s

theorem skipsBlanks_skipBlanks : SkipsBlanks skipBlanks := fun blanks s h => by
  unfold skipBlanks
  rw [List.dropWhile_append_of_pos h]

theorem SkipsBlanks.bind {x : Reader α} (h : SkipsBlanks x) (f : α → Reader β) : SkipsBlanks (x >>= f) := by
  intro blanks s blank
  have same := h blanks s blank
  change (x (blanks ++ s) >>= fun p => f p.1 p.2) = (x s >>= fun p => f p.1 p.2)
  rw [same]

theorem skipsBlanks_peekSolid : SkipsBlanks peekSolid := skipsBlanks_skipBlanks.bind _

end Json.Reader

namespace Notification

open Json Reader

theorem Batch.envelope_blanks {blanks : Text.Utf8.Bytes} (h : ∀ b ∈ blanks, isBlankByte b = true)
    (body : Text.Utf8.Bytes) : envelope.parse (blanks ++ body) = envelope.parse body := by
  -- the first thing that is done with a structure is to look for its bracket behind blanks
  have skips : SkipsBlanks (envelope.ofText maxLevels) := (skipsBlanks_peekSolid.bind _).bind _
  have whole := skips.bind (fun a => do finish; pure a) blanks body h
  unfold Decoder.parse run
  rw [whole]

/-- Only the places of faults are others behind blanks. -/
theorem Batch.parse_blanks {blanks body : Text.Utf8.Bytes} {b : Batch} (h : ∀ b ∈ blanks, isBlankByte b = true)
    (read : parse body = .ok b) : parse (blanks ++ body) = .ok b := by
  unfold parse at read ⊢
  rw [envelope_blanks h]
  cases whole : envelope.parse body with
  | error f =>
    rw [whole] at read
    cases read
  | ok x =>
    rw [whole] at read
    exact read

/-- Where all items can be read, what is processed does not depend on blanks in front. -/
theorem Delivery.process_blanks {blanks body : Text.Utf8.Bytes} {b : Batch} (h : ∀ b ∈ blanks, isBlankByte b = true)
    (read : Batch.parse body = .ok b) (readable : b.malformed = []) (registry : Registry) :
    process registry (blanks ++ body) = process registry body := by
  unfold process
  rw [Batch.parse_blanks h read, read]
  simp only [batch, readable, each]

end Notification

namespace Service.Endpoint

open Notification Delivery

/-- The request posts to the path of the deliveries. -/
structure Posts (r : Request) : Prop where
  method : r.method = "POST"
  path : path r.target = "/notifications"

/-- The request is acknowledged, and the stores are left as processing its body leaves them. -/
structure Acknowledges (e : Endpoint) (c : Conditions) (w : World) (r : Request) : Prop where
  status : (e.serve c w r).1.status = 200
  body : (e.serve c w r).1.body = acknowledgement
  world : (e.serve c w r).2.world = ((process e.registry r.body).run c w).world

variable {e : Endpoint} {c : Conditions} {w : World} {r : Request}

/-! ### What a request asks for -/

theorem action_of_posts (h : Posts r) :
    action r = if r.body.length ≤ bodyLimit then .deliver r.body else .refuse := by
  simp only [action, h.path, h.method]

theorem action_eq_deliver_iff {body : Text.Utf8.Bytes} :
    action r = .deliver body ↔ Posts r ∧ r.body.length ≤ bodyLimit ∧ r.body = body := by
  constructor
  · intro h
    unfold action at h
    split at h
    · next path =>
      split at h
      · next method =>
        split at h
        · next fits => exact ⟨⟨method, path⟩, fits, Action.deliver.inj h⟩
        · cases h
      · cases h
    · split at h <;> cases h
    · cases h
  · rintro ⟨posts, fits, rfl⟩
    rw [action_of_posts posts, if_pos fits]

theorem health_ne_acknowledgement (e : Endpoint) : e.health ≠ acknowledgement := by
  intro same
  have brace : e.health.toList.head? = some '\x7b' := by simp [health, report]
  rw [same] at brace
  exact absurd brace (by decide)

/-- Only what is delivered is answered with the acknowledgement. -/
theorem deliver_of_acknowledged {a : Action} {id : Option String} (status : (e.response id a).status = 200)
    (body : (e.response id a).body = acknowledgement) : ∃ body, a = .deliver body := by
  cases a with
  | deliver delivered => exact ⟨delivered, rfl⟩
  | refuse | otherMethod | otherPath => cases status
  | health shown =>
    cases shown with
    | false => exact absurd body (by decide : ¬ "" = acknowledgement)
    | true => exact absurd body e.health_ne_acknowledgement

/-! ### What is done for it -/

theorem work_deliver (e : Endpoint) (body : Text.Utf8.Bytes) (c : Conditions) (w : World) :
    (e.work (.deliver body)).run c w = ((process e.registry body).run c w).map fun _ => () :=
  Procedure.run_map _ _ c w

/-- What processing reports, if it comes to an end, is the acknowledgement. -/
theorem report_acknowledged {registry : Registry} {body : Text.Utf8.Bytes} {report : Report}
    (h : ((process registry body).run c w).ending = .finished report) : report.acknowledgement = acknowledgement := by
  rw [process_eq, Procedure.run_map, Run.map] at h
  cases ending : ((each (Part.handle registry body) (parts body)).run c w).ending with
  | finished outcomes =>
    rw [ending] at h
    cases h
    rfl
  | aborted k =>
    rw [ending] at h
    cases h

theorem serve_of_fitting (posts : Posts r) (fits : r.body.length ≤ bodyLimit) : e.serve c w r =
    (⟨200, some plainText, none, acknowledgement, r.id⟩, ((process e.registry r.body).run c w).map fun _ => ()) := by
  rw [serve, action_eq_deliver_iff.2 ⟨posts, fits, rfl⟩, work_deliver]
  rfl

theorem serve_of_oversized (posts : Posts r) (long : bodyLimit < r.body.length) : e.serve c w r =
    (⟨413, some plainText, none, "Failed to buffer the request body: length limit exceeded", r.id⟩,
      ⟨.finished (), [], w⟩) := by
  rw [serve, action_of_posts posts, if_neg (Nat.not_le.2 long)]
  rfl

/-- A request is acknowledged, and the stores are left as processing its body leaves them, if and only if it is a
delivery that is not too long, whatever it holds, whatever the stores hold and whatever calls fail or abort. The calls
made for it and their answers are then those of the processing, and the answer is what a report acknowledges with. A
delivery that is too long is refused, and nothing is done for it. -/
theorem acknowledged_iff (e : Endpoint) (c : Conditions) (w : World) (r : Request) :
    let served := e.serve c w r
    let processed := (process e.registry r.body).run c w
    (Acknowledges e c w r ↔ Posts r ∧ r.body.length ≤ bodyLimit) ∧
    (Acknowledges e c w r → served.2 = processed.map (fun _ => ()) ∧
      ∀ report, processed.ending = .finished report → report.acknowledgement = served.1.body) ∧
    (Posts r → bodyLimit < r.body.length → served.1.status = 413 ∧ served.2 = ⟨.finished (), [], w⟩) := by
  dsimp only
  have fitting (acknowledges : Acknowledges e c w r) : Posts r ∧ r.body.length ≤ bodyLimit := by
    obtain ⟨body, asked⟩ := deliver_of_acknowledged acknowledges.status acknowledges.body
    obtain ⟨posts, fits, -⟩ := action_eq_deliver_iff.1 asked
    exact ⟨posts, fits⟩
  refine ⟨⟨fitting, fun ⟨posts, fits⟩ => ?_⟩, fun acknowledges => ?_, fun posts long => ?_⟩
  · have served := serve_of_fitting (e := e) (c := c) (w := w) posts fits
    exact ⟨by rw [served], by rw [served], by rw [served]; rfl⟩
  · obtain ⟨posts, fits⟩ := fitting acknowledges
    rw [serve_of_fitting posts fits]
    exact ⟨rfl, fun report ended => report_acknowledged ended⟩
  · rw [serve_of_oversized posts long]
    exact ⟨rfl, rfl⟩

/-- An endpoint without tenants and database. -/
def bare : Endpoint := ⟨.empty, "development", .disabled⟩

/-- Attempts can not be moved: the procedure is aborted. -/
def halting : Conditions := { Conditions.fair with aborting := [.updateAttempt] }

/-- A delivery of the authorization. -/
def posted : Request := ⟨"POST", "/notifications?live=true", (specimenPosting "true").body, none⟩

/-- A delivery of nothing but blanks, and too many. -/
def blank : Request := ⟨"POST", "/notifications", List.replicate (bodyLimit + 1) 32, none⟩

/-- The authorization is acknowledged though its processing is aborted halfway; too many blanks are refused. -/
theorem acknowledged_though_aborted :
    (Posts posted ∧ posted.body.length ≤ bodyLimit ∧ Acknowledges bare halting specimen posted ∧
      (bare.serve halting specimen posted).2.ending.result? = none ∧
      (bare.serve halting specimen posted).2.world.platform.transitions = [(.given 4, .success)] ∧
      (bare.serve halting specimen posted).2.world.journal.attempts = specimen.journal.attempts) ∧
    Posts blank ∧ bodyLimit < blank.body.length ∧ (bare.serve halting specimen blank).1.status = 413 := by
  have posts : Posts posted := ⟨rfl, by decide⟩
  have fits : posted.body.length ≤ bodyLimit := by decide +kernel
  have posts' : Posts blank := ⟨rfl, by decide⟩
  have long : bodyLimit < blank.body.length := by
    rw [blank, List.length_replicate]
    exact Nat.lt_succ_self _
  obtain ⟨acknowledged, same, -⟩ := acknowledged_iff bare halting specimen posted
  obtain ⟨-, -, refused⟩ := acknowledged_iff bare halting specimen blank
  have acknowledges := acknowledged.2 ⟨posts, fits⟩
  obtain ⟨result, transitions, attempts⟩ :
      ((process bare.registry posted.body).run halting specimen).ending.result? = none ∧
        ((process bare.registry posted.body).run halting specimen).world.platform.transitions =
          [(.given 4, .success)] ∧
        ((process bare.registry posted.body).run halting specimen).world.journal.attempts =
          specimen.journal.attempts := by decide +kernel
  refine ⟨⟨posts, fits, acknowledges, ?_, ?_, ?_⟩, posts', long, (refused posts' long).1⟩
  · rw [(same acknowledges).1, Run.map, Ending.result?_map, result]
    rfl
  · rw [acknowledges.world, transitions]
  · rw [acknowledges.world, attempts]

/-! ### Deliveries that are lost -/

/-- Any delivery whose items can be read is refused, and nothing is done for it, behind enough blanks, though it is
processed behind blanks as it is without. -/
theorem padded_refused {body : Text.Utf8.Bytes} {b : Batch} (read : Batch.parse body = .ok b)
    (readable : b.malformed = []) (filled : body ≠ []) (e : Endpoint) (c : Conditions) (w : World) {r : Request}
    (posts : Posts r) (padded : r.body = List.replicate bodyLimit 32 ++ body) :
    (e.serve c w r).1.status = 413 ∧ (e.serve c w r).2.world = w ∧
      process e.registry r.body = process e.registry body := by
  have long : bodyLimit < r.body.length := by
    rw [padded, List.length_append, List.length_replicate]
    exact Nat.lt_add_of_pos_right (List.length_pos_iff.2 filled)
  have blank : ∀ b ∈ List.replicate bodyLimit (32 : UInt8), Json.Reader.isBlankByte b = true := by
    intro b hb
    rw [List.eq_of_mem_replicate hb]
    rfl
  rw [serve_of_oversized posts long, padded]
  exact ⟨rfl, rfl, process_blanks blank read readable _⟩

/-- A delivery of the authorization behind too many blanks. -/
def padded : Request :=
  ⟨"POST", "/notifications", List.replicate bodyLimit 32 ++ (specimenPosting "true").body, none⟩

/-- It is not acknowledged and leaves the authorization as it was, though processing it would settle the
authorization. -/
theorem padded_delivery_lost :
    Posts padded ∧ ¬ Acknowledges bare .fair specimen padded ∧ (bare.serve .fair specimen padded).1.status = 413 ∧
      (bare.serve .fair specimen padded).2.world = specimen ∧
      ((process bare.registry padded.body).run .fair specimen).world.platform.transitions =
        [(.given 4, .success)] := by
  have posts : Posts padded := ⟨rfl, by decide⟩
  have read : Batch.parse (specimenPosting "true").body =
      .ok ⟨false, [specimenItem .authorisation true none none], []⟩ := by decide +kernel
  obtain ⟨status, world, same⟩ := padded_refused read rfl (by decide +kernel) bare .fair specimen posts rfl
  refine ⟨posts, fun acknowledges => ?_, status, world, ?_⟩
  · have accepted := acknowledges.status
    rw [status] at accepted
    cases accepted
  · rw [same, Procedure.world_fair]
    decide +kernel

end Service.Endpoint
end Reconciliation
