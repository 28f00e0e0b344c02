import Reconciliation.Proofs.Exits

/-!
# A batch is its items

What a delivery holds could as well be delivered piece by piece, whatever calls fail: the stores end up the same, and so
do the outcomes. Only their order may differ, since a batch tells first of what could not be read.

* `Envelopes` says what values a delivery holds, `Unreadable` which of them are no items.
* `reports` lists what several deliveries end with.
* `each_follows`: item by item, a batch follows the deliveries of its pieces.
* `batch_of_pieces` is the statement about whole deliveries.
-/

namespace Reconciliation

open Procedure

variable {c : Conditions} {w v : World}

namespace Procedure

variable {α : Type} {p : Procedure α} {a : α}

/-- Where no call aborts, a procedure has a result. -/
theorem exec_of_unaborted (unaborted : c.aborting = []) (p : Procedure α) (w : World) :
    ∃ a v, p.exec c w = (some a, v) := by
  cases he : (p.run c w).ending with
  | finished a => exact ⟨a, _, exec_eq_some_iff.2 ⟨he, rfl⟩⟩
  | aborted k =>
    have aborts := aborts_of_aborted he
    rw [Conditions.aborts, unaborted] at aborts
    cases hk : k.kind? <;> simp [hk] at aborts

/-- The audit makes no difference to the result. -/
theorem Heedless.exec_same (h : p.Heedless) {w' : World} (hp : p.exec c w = (some a, v)) (same : w.Same w') :
    ∃ v', p.exec c w' = (some a, v') ∧ v.Same v' := by
  obtain ⟨ending, rfl⟩ := exec_eq_some_iff.1 hp
  obtain ⟨ending', -, world⟩ := h.run_same (.refl c) same
  exact ⟨_, exec_eq_some_iff.2 ⟨ending'.trans ending, rfl⟩, world⟩

end Procedure

namespace Notification

open Json

/-- The delivery holds these values, one for each item. -/
def Envelopes (body : Text.Utf8.Bytes) (values : List Value) : Prop :=
  ∃ live, Batch.envelope.parse body = .ok (live, values)

/-- The value is no item, wrapped or not. -/
def Unreadable (x : Value) : Prop := ∀ i, Batch.item x ≠ .ok i

namespace Delivery

variable {r : Registry} {i : Item} {o : Outcome} {body : Text.Utf8.Bytes} {x : Value}

/-- What some deliveries end with, one after another. -/
def reports (r : Registry) : List Posting → World → List (Ending Report)
  | [], _ => []
  | d :: rest, w =>
    let run := (process r d.body).run d.conditions w
    run.ending :: reports r rest run.world

/-! ### Single pieces -/

theorem Exit.read {e : AuditEntry} {lost : Bool} (h : Exit r c w i o e lost v) : o ≠ .malformed := by
  cases h with
  | settled matched accepted settlement =>
    cases settlement with
    | passed settled outcome => rcases outcome with rfl | ⟨reason, rfl⟩ <;> simp
    | standing | kept | moved | created | reversed => simp
  | forged | unread | unmatched | disowned | refused | unrecorded => simp

/-- What was read is not malformed. -/
theorem read_of_exec (h : (item r i).exec c w = (some o, v)) : o ≠ .malformed := by
  have ends := item_exit r c w i
  rw [(exec_eq_some_iff.1 h).1] at ends
  obtain ⟨e, u, exit, -⟩ := ends
  exact exit.read

theorem conclude_exec_same (unaborted : c.aborting = []) (e : AuditEntry) (o : Outcome) (w : World) :
    ∃ v, (conclude e o).exec c w = (some o, v) ∧ w.Same v := by
  obtain ⟨o', v, h, platform, attempts, ho⟩ := conclude_exec c e o w
  obtain ⟨o'', v', h'⟩ := exec_of_unaborted unaborted (conclude e o) w
  rw [h, Prod.mk.injEq] at h'
  obtain ⟨rfl, -⟩ := h'
  rcases ho with ho | ho
  · cases ho
  · exact ⟨v, ho ▸ h, attempts, platform⟩

theorem parts_of_envelopes {values : List Value} (h : Envelopes body values) :
    parts body = (Batch.sort 0 values).2.map .unread ++ (Batch.sort 0 values).1.map .item := by
  obtain ⟨live, h⟩ := h
  unfold parts Batch.parse
  rw [h]

theorem process_of_part {part : Part} (h : parts body = [part])
    (handled : (part.handle r body).exec c w = (some o, v)) :
    (process r body).exec c w = (some ⟨acknowledgement, [o]⟩, v) := by
  have all : (each (Part.handle r body) (parts body)).exec c w = (some [o], v) := by
    rw [h, each]
    exact exec_bind_of_some handled _
  rw [process_eq, exec_bind_of_some all]
  rfl

/-- A piece that is an item is processed like the item. -/
theorem process_of_item (h : Envelopes body [x]) (hx : Batch.item x = .ok i)
    (handled : (item r i).exec c w = (some o, v)) :
    (process r body).exec c w = (some ⟨acknowledgement, [o]⟩, v) := by
  have single : parts body = [.item i] := by
    rw [parts_of_envelopes h, Batch.sort, hx]
    rfl
  exact process_of_part single handled

/-- A piece that is none changes nothing. -/
theorem process_of_unreadable (unaborted : c.aborting = []) (h : Envelopes body [x]) (hx : Unreadable x) (w : World) :
    ∃ v, (process r body).exec c w = (some ⟨acknowledgement, [.malformed]⟩, v) ∧ w.Same v := by
  cases hi : Batch.item x with
  | ok i => exact absurd hi (hx i)
  | error cause =>
    have single : ∃ problem, parts body = [.unread problem] := by
      rw [parts_of_envelopes h, Batch.sort, hi]
      exact ⟨_, rfl⟩
    obtain ⟨problem, single⟩ := single
    obtain ⟨v, hv, same⟩ := conclude_exec_same unaborted (unreadable body problem) .malformed w
    exact ⟨v, process_of_part single hv, same⟩

/-! ### Batches -/

/-- Delivered one by one, the values have these outcomes; those that are no items are malformed. -/
structure PieceByPiece (r : Registry) (values : List Value) (ds : List Posting) (w : World)
    (outcomes : List Outcome) : Prop where
  reports : reports r ds w = outcomes.map fun o => .finished ⟨acknowledgement, [o]⟩
  malformed : List.Forall₂ (fun x o => o = .malformed ↔ Unreadable x) values outcomes

theorem PieceByPiece.cons {values : List Value} {ds : List Posting} {outcomes : List Outcome}
    (first : (process r body).exec c w = (some ⟨acknowledgement, [o]⟩, v)) (kind : o = .malformed ↔ Unreadable x)
    (rest : PieceByPiece r values ds v outcomes) :
    PieceByPiece r (x :: values) (⟨body, c⟩ :: ds) w (o :: outcomes) := by
  obtain ⟨ending, rfl⟩ := exec_eq_some_iff.1 first
  refine ⟨?_, .cons kind rest.malformed⟩
  rw [Delivery.reports, List.map_cons, ← rest.reports, ending]

/-- The items of a batch have the outcomes of the single deliveries, and lead where those do. -/
theorem each_follows (unaborted : c.aborting = []) {bodies : List Text.Utf8.Bytes} {values : List Value}
    (single : List.Forall₂ (fun b x => Envelopes b [x]) bodies values) (index : Nat) (same : w.Same v) :
    ∃ outcomes u, PieceByPiece r values (bodies.map (⟨·, c⟩)) w outcomes ∧
      (each (item r) (Batch.sort index values).1).exec c v = (some (outcomes.filter (· != .malformed)), u) ∧
      (Batch.sort index values).2.length = outcomes.count .malformed ∧
      (deliverAll r (bodies.map (⟨·, c⟩)) w).Same u := by
  induction single generalizing index w v with
  | nil => exact ⟨[], v, ⟨rfl, .nil⟩, rfl, rfl, same⟩
  | @cons body x bodies values envelopes single ih =>
    cases hx : Batch.item x with
    | ok i =>
      obtain ⟨o, w', hw⟩ := exec_of_unaborted unaborted (item r i) w
      obtain ⟨v', hv, same'⟩ := (item_heedless r i).exec_same hw same
      have first := process_of_item envelopes hx hw
      have read := read_of_exec hw
      obtain ⟨outcomes, u, pieces, items, unread, after⟩ := ih (index + 1) same'
      refine ⟨o :: outcomes, u, .cons first ⟨fun ho => absurd ho read, fun hu => absurd hx (hu i)⟩ pieces, ?_, ?_, ?_⟩
      · rw [List.filter_cons_of_pos (by simpa using read)]
        simp only [Batch.sort, hx, each, bind_eq]
        rw [exec_bind_of_some hv, exec_bind_of_some items]
        rfl
      · rw [List.count_cons_of_ne read]
        simpa only [Batch.sort, hx] using unread
      · rwa [List.map_cons, deliverAll, (exec_eq_some_iff.1 first).2]
    | error cause =>
      have unreadable : Unreadable x := fun i hi => by rw [hx] at hi; cases hi
      obtain ⟨w', first, same'⟩ := process_of_unreadable (r := r) unaborted envelopes unreadable w
      obtain ⟨outcomes, u, pieces, items, unread, after⟩ := ih (index + 1) (same'.symm.trans same)
      refine ⟨.malformed :: outcomes, u, .cons first ⟨fun _ => unreadable, fun _ => rfl⟩ pieces, ?_, ?_, ?_⟩
      · rw [List.filter_cons_of_neg (by simp)]
        simpa only [Batch.sort, hx] using items
      · rw [List.count_cons_self, ← unread]
        simp only [Batch.sort, hx, List.length_cons]
      · rwa [List.map_cons, deliverAll, (exec_eq_some_iff.1 first).2]

/-- What could not be read comes first, and changes nothing. -/
theorem each_unread_exec (unaborted : c.aborting = []) (body : Text.Utf8.Bytes) (problems : List String) (w : World) :
    ∃ v, (each (Part.handle r body) (problems.map .unread)).exec c w =
      (some (List.replicate problems.length .malformed), v) ∧ w.Same v := by
  induction problems generalizing w with
  | nil => exact ⟨w, rfl, .refl w⟩
  | cons problem rest ih =>
    obtain ⟨u, hu, same⟩ := conclude_exec_same unaborted (unreadable body problem) .malformed w
    obtain ⟨v, hv, same'⟩ := ih u
    refine ⟨v, ?_, same.trans same'⟩
    rw [List.map_cons, each, bind_eq, Part.handle, exec_bind_of_some hu, bind_eq, exec_bind_of_some hv]
    rfl

/-- Where no call aborts, whatever calls fail, a delivery of some values leaves the attempts and the platform as
deliveries of the single values do, one after another. It has the same outcomes in the same order, but those of values
that are no items come first; a delivery of such a value changes nothing. -/
theorem batch_of_pieces (r : Registry) (w : World) (c : Conditions) (unaborted : c.aborting = [])
    {body : Text.Utf8.Bytes} {values : List Value} (whole : Envelopes body values) {bodies : List Text.Utf8.Bytes}
    (single : List.Forall₂ (fun b x => Envelopes b [x]) bodies values) :
    let run := (process r body).run c w
    let ds : List Posting := bodies.map (⟨·, c⟩)
    (∃ outcomes, PieceByPiece r values ds w outcomes ∧
        run.ending = .finished
          ⟨acknowledgement, outcomes.filter (· == .malformed) ++ outcomes.filter (· != .malformed)⟩) ∧
      (deliverAll r ds w).Same run.world ∧
      ∀ b x, Envelopes b [x] → Unreadable x → ∀ u : World, u.Same ((process r b).run c u).world := by
  dsimp only
  obtain ⟨v, unread, same⟩ := each_unread_exec (r := r) unaborted body (Batch.sort 0 values).2 w
  obtain ⟨outcomes, u, pieces, items, count, after⟩ := each_follows (r := r) unaborted single 0 same
  have all : (process r body).exec c w =
      (some ⟨acknowledgement, outcomes.filter (· == .malformed) ++ outcomes.filter (· != .malformed)⟩, u) := by
    rw [process_eq, parts_of_envelopes whole, each_append, each_map (Part.handle r body) .item, bind_assoc,
      exec_bind_of_some unread, bind_assoc]
    change Procedure.exec c (Procedure.bind (each (item r) _) _) v = _
    rw [exec_bind_of_some items, List.filter_beq, count]
    rfl
  obtain ⟨ending, rfl⟩ := exec_eq_some_iff.1 all
  refine ⟨⟨outcomes, pieces, ending⟩, after, fun b x envelopes unreadable u => ?_⟩
  obtain ⟨v, hv, same⟩ := process_of_unreadable (r := r) unaborted envelopes unreadable u
  exact (exec_eq_some_iff.1 hv).2 ▸ same

/-- The text of a delivery that holds what these texts say. -/
def envelopeText (texts : List String) : Text.Utf8.Bytes :=
  Text.Utf8.encode ("\x7b\"notificationItems\":[" ++ ",".intercalate texts ++ "]\x7d")

/-- An authorization of the small world, as it may be wrapped, and something that is no item. -/
def mixedTexts : List String := [
  "\x7b\"NotificationRequestItem\":\x7b\"merchantReference\":\"00000000000000000000000000000004\"," ++
    "\"merchantAccountCode\":\"M\",\"eventCode\":\"AUTHORISATION\",\"success\":true\x7d\x7d",
  "7"]

/-- What these texts say. -/
def mixedValues : List Value := [
  .object [("NotificationRequestItem", .object [("eventCode", .string "AUTHORISATION"),
    ("merchantAccountCode", .string "M"), ("merchantReference", .string "00000000000000000000000000000004"),
    ("success", .bool true)])],
  .number (.integer 7)]

theorem mixedTexts_single : List.Forall₂ (fun b x => Envelopes b [x]) (mixedTexts.map fun t => envelopeText [t])
    mixedValues :=
  .cons ⟨none, by decide +kernel⟩ (.cons ⟨none, by decide +kernel⟩ .nil)

/-- What can not be read is told of first, though it comes last. -/
theorem batch_of_mixed_pieces :
    Conditions.fair.aborting = [] ∧ Envelopes (envelopeText mixedTexts) mixedValues ∧
      let run := (process .empty (envelopeText mixedTexts)).run .fair specimen
      let ds : List Posting := (mixedTexts.map fun t => envelopeText [t]).map (⟨·, .fair⟩)
      run.ending = .finished ⟨acknowledgement, [.malformed, .applied (.given 4) .success]⟩ ∧
        reports .empty ds specimen = [.finished ⟨acknowledgement, [.applied (.given 4) .success]⟩,
          .finished ⟨acknowledgement, [.malformed]⟩] ∧
        (deliverAll .empty ds specimen).platform.transitions = [(.given 4, .success)] := by
  have whole : Envelopes (envelopeText mixedTexts) mixedValues := ⟨none, by decide +kernel⟩
  obtain ⟨⟨outcomes, pieces, ending⟩, same, -⟩ := batch_of_pieces .empty specimen .fair rfl whole mixedTexts_single
  have report : ((process .empty (envelopeText mixedTexts)).fairly specimen).1 =
      ⟨acknowledgement, [.malformed, .applied (.given 4) .success]⟩ := by decide +kernel
  have told : outcomes.filter (· == .malformed) ++ outcomes.filter (· != .malformed) =
      [.malformed, .applied (.given 4) .success] := by
    rw [ending_fair, report, Ending.finished.injEq, Report.mk.injEq] at ending
    exact ending.2.symm
  -- the first value is an item and the second is none
  have order : outcomes = [.applied (.given 4) .success, .malformed] := by
    have item : ¬ Unreadable mixedValues[0] := fun h => h _ rfl
    have none : Unreadable (.number (.integer 7)) := fun i hi => nomatch hi
    obtain _ | ⟨first, _ | ⟨second, _ | _⟩⟩ := pieces.malformed
    obtain rfl := second.2 none
    simpa [mt first.1 item] using told
  refine ⟨rfl, whole, by rw [ending_fair, report], by rw [pieces.reports, order]; rfl, ?_⟩
  rw [← same.platform, world_fair]
  decide +kernel

end Delivery
end Notification
end Reconciliation
