import Reconciliation.Proofs.Deliveries
import Reconciliation.Proofs.Designation

/-!
# The parent reference before the item's own

Where the own reference of an item is carried by one attempt only, and the event is named for its operation, it might
seem that the item can mean no other. But the parent reference is looked up first, for operations of the same kind: the
gateway may have given the parent reference to another capture or refund of the payment as well, and that one is found.

* `NamedOnce` says that the own reference of an item leaves no choice.
* `Takes` is what is found then, and `designates_iff_takes` shows that it is.
* `found_of_named_once` says when the item reaches the transaction that its own reference names.
* `sibling_under_parent_reference` is an item that does not.
-/

namespace Reconciliation.Notification.Matching

open Procedure

/-- Of all attempts of the tenant, only the one at this place carries the own reference of the item, and the event is
named for its operation. -/
structure NamedOnce (attempts : List Attempt) (t : Ident) (i : Item) (place : Nat) (a : Attempt) : Prop where
  recorded : attempts[place]? = some a
  owned : a.tenant = t
  carried : ∃ s, i.reference = some s ∧ a.reference = some s
  only : ∀ place' b, attempts[place']? = some b → b.tenant = t → b.reference = i.reference → place' = place
  exact : a.operation ∈ (Candidates.forEvent i.eventCode).exact

/-- What is found for an item whose own reference is carried by `a`: what is foremost by the parent reference, and if
nothing comes into question by it, `a`. -/
inductive Takes (attempts : List Attempt) (c : Candidates) (tenant : Option Ident) (i : Item) (a : Attempt) :
    Attempt → Source → Prop where
  | parent {s : String} {b : Attempt} (carried : i.parentReference = some s) (foremost : Foremost attempts c tenant s b) :
      Takes attempts c tenant i a b .parentReference
  | own (parent : Unclaimed attempts c tenant i.parentReference) : Takes attempts c tenant i a a .ownReference

variable {attempts : List Attempt} {c : Candidates} {tenant : Option Ident} {t : Ident} {i : Item} {a b : Attempt}
  {place rank : Nat} {source : Source} {s : String}

theorem notAbove_self (place rank : Nat) (a : Attempt) : NotAbove place rank a place rank a := by
  have itself := Time.Moment.notAfter_preorder.total a.created a.created
  exact .inr ⟨rfl, by simpa using itself, fun _ => Nat.le_refl _⟩

theorem foremost_unique (ha : Foremost attempts c tenant s a) (hb : Foremost attempts c tenant s b) : a = b :=
  Option.some.inj ((spotReference_eq_some_iff.2 ha).symm.trans (spotReference_eq_some_iff.2 hb))

theorem not_foremost_of_unclaimed (h : Unclaimed attempts c tenant (some s)) : ¬ Foremost attempts c tenant s a :=
  fun ⟨place, rank, entrant, _⟩ => h s rfl place rank a entrant

/-- An attempt that alone comes into question is the foremost. -/
theorem Entrant.foremost (h : Entrant attempts c tenant s place rank a)
    (only : ∀ place' rank' b, Entrant attempts c tenant s place' rank' b → place' = place) :
    Foremost attempts c tenant s a := by
  refine ⟨place, rank, h, fun place' rank' b entrant => ?_⟩
  obtain rfl := only place' rank' b entrant
  obtain rfl : b = a := Option.some.inj (entrant.recorded.symm.trans h.recorded)
  obtain rfl : rank' = rank := Option.some.inj (entrant.ranked.symm.trans h.ranked)
  exact notAbove_self place' rank' b

theorem NamedOnce.foremost (h : NamedOnce attempts t i place a) :
    ∃ s, i.reference = some s ∧ Foremost attempts (.forEvent i.eventCode) (some t) s a := by
  obtain ⟨s, hs, carried⟩ := h.carried
  have ranked : (Candidates.forEvent i.eventCode).rank? a.operation = some 2 := if_pos h.exact
  have entrant : Entrant attempts (.forEvent i.eventCode) (some t) s place 2 a :=
    ⟨h.recorded, carried, by simpa using h.owned, ranked⟩
  refine ⟨s, hs, entrant.foremost fun place' rank' b hb => ?_⟩
  exact h.only place' b hb.recorded (hb.owned t rfl) (hb.carried.trans hs.symm)

/-- The merchant reference has no part in it. -/
theorem designates_iff_takes (h : NamedOnce attempts t i place a) {x : Option (Attempt × Source)} :
    Designates attempts (.forEvent i.eventCode) (some t) i x ↔
      ∃ b source, x = some (b, source) ∧ Takes attempts (.forEvent i.eventCode) (some t) i a b source := by
  obtain ⟨s, hs, foremost⟩ := h.foremost
  have claimed : ¬ Unclaimed attempts (.forEvent i.eventCode) (some t) i.reference := by
    rw [hs]
    exact fun h => not_foremost_of_unclaimed h foremost
  constructor
  · rintro (⟨carried, ahead⟩ | ⟨parent, carried, own⟩ | ⟨-, own, -⟩ | ⟨-, own, -⟩)
    · exact ⟨_, _, rfl, .parent carried ahead⟩
    · rw [hs, Option.some.injEq] at carried
      obtain rfl := carried
      obtain rfl := foremost_unique own foremost
      exact ⟨_, _, rfl, .own parent⟩
    · exact absurd own claimed
    · exact absurd own claimed
  · rintro ⟨b, source, rfl, ⟨carried, ahead⟩ | ⟨parent⟩⟩
    · exact .byParent carried ahead
    · exact .byOwn parent hs foremost

/-- What is found is of the transaction of `a` only if what goes before `a` is. -/
theorem Takes.transaction_eq_iff (h : Takes attempts c tenant i a b source) : b.transaction = a.transaction ↔
    ∀ s d, i.parentReference = some s → Foremost attempts c tenant s d → d.transaction = a.transaction := by
  cases h with
  | parent carried foremost =>
    constructor
    · intro same s d hs hd
      rw [carried, Option.some.injEq] at hs
      obtain rfl := hs
      rw [foremost_unique hd foremost, same]
    · exact fun all => all _ _ carried foremost
  | own unclaimed =>
    refine ⟨fun _ s d hs hd => ?_, fun _ => rfl⟩
    rw [hs] at unclaimed
    exact absurd hd (not_foremost_of_unclaimed unclaimed)

theorem Takes.own_of_unclaimed (h : Takes attempts c tenant i a b source)
    (parent : Unclaimed attempts c tenant i.parentReference) : b = a ∧ source = .ownReference := by
  cases h with
  | parent carried foremost =>
    rw [carried] at parent
    exact absurd foremost (not_foremost_of_unclaimed parent)
  | own _ => exact ⟨rfl, rfl⟩

/-- Where only one attempt of the tenant carries the own reference of an item, and the event is named for its operation,
the search finds an attempt if no call fails, and whatever calls fail, it finds no other. It is of the transaction that
the own reference names unless the foremost attempt by the parent reference is of another, and it is the very attempt
where none comes into question by the parent reference. -/
theorem found_of_named_once (t : Ident) (i : Item) (w : World) (place : Nat) (a : Attempt)
    (named : NamedOnce w.journal.attempts t i place a) :
    let attempts := w.journal.attempts
    let c := Candidates.forEvent i.eventCode
    ∃ b source, ((find i c (some t)).run.run .fair w).ending = .finished (.ok (some (b, source))) ∧
      (∀ conditions x, ((find i c (some t)).run.run conditions w).ending = .finished (.ok x) → x = some (b, source)) ∧
      (b.transaction = a.transaction ↔
        ∀ s d, i.parentReference = some s → Foremost attempts c (some t) s d → d.transaction = a.transaction) ∧
      (Unclaimed attempts c (some t) i.parentReference → b = a ∧ source = .ownReference) := by
  intro attempts c
  obtain ⟨b, source, found, takes⟩ := (designates_iff_takes named).1 (designates_iff.2 rfl)
  refine ⟨b, source, ?_, fun conditions x ended => ?_, takes.transaction_eq_iff, takes.own_of_unclaimed⟩
  · rw [ending_fair, find_fairly, found]
  · have reads : Reads conditions w (find i c (some t)).run _ := find_reads i
    have gives : x = spot attempts i c (some t) := reads.result ended
    exact gives.trans found

/-- The first capture of the payment of the small world. -/
def firstCapture (reference : String) : Attempt :=
  ⟨.given 11, .given 2, .given 3, .given 5, .capture, none, none, some reference, .pending, none, .live 2, .given 7⟩

/-- Another capture of it. -/
def secondCapture : Attempt :=
  ⟨.given 12, .given 2, .given 3, .given 8, .capture, none, none, some "B", .pending, none, .live 3, .given 7⟩

/-- The small world with both captures. -/
def capturedTwice (reference : String) : World where
  journal := ⟨[
    ⟨.given 10, .given 2, .given 3, .given 4, .authorize, none, none, some "A", .success, none, .live 1, .given 7⟩,
    firstCapture reference, secondCapture], []⟩
  platform := Delivery.specimen.platform

/-- An item that names the second capture and comes with the reference of the payment. -/
def captureItem : Item := Delivery.specimenItem .capture true (some "B") (some "A")

theorem namedOnce_secondCapture {reference : String} (h : reference ≠ "B") :
    NamedOnce (capturedTwice reference).journal.attempts (.given 7) captureItem 2 secondCapture where
  recorded := rfl
  owned := rfl
  carried := ⟨"B", rfl, rfl⟩
  only := by
    intro place b recorded owned carried
    match place with
    | 0 => cases recorded; exact absurd carried (by decide)
    | 1 => cases recorded; exact absurd (Option.some.inj carried) h
    | 2 => rfl
    | n + 3 => cases recorded
  exact := by decide

/-- The second capture is found where the first has a reference of its own. -/
theorem found_of_named_once_of_unclaimed :
    NamedOnce (capturedTwice "C").journal.attempts (.given 7) captureItem 2 secondCapture ∧
      Unclaimed (capturedTwice "C").journal.attempts (.forEvent .capture) (some (.given 7)) (some "A") ∧
      ((find captureItem (.forEvent .capture) (some (.given 7))).run.run .fair (capturedTwice "C")).ending =
        .finished (.ok (some (secondCapture, .ownReference))) := by
  have named : NamedOnce (capturedTwice "C").journal.attempts (.given 7) captureItem 2 secondCapture :=
    namedOnce_secondCapture (by decide)
  have unclaimed : Unclaimed (capturedTwice "C").journal.attempts (.forEvent .capture) (some (.given 7)) (some "A") :=
    spotReference_eq_none_iff.1 (by decide +kernel)
  obtain ⟨b, source, ended, -, -, itself⟩ := found_of_named_once (.given 7) captureItem (capturedTwice "C") 2 _ named
  obtain ⟨rfl, rfl⟩ := itself unclaimed
  exact ⟨named, unclaimed, ended⟩

/-- The first capture is found where it shares the reference of the payment. -/
theorem sibling_under_parent_reference :
    NamedOnce (capturedTwice "A").journal.attempts (.given 7) captureItem 2 secondCapture ∧
      ((find captureItem (.forEvent .capture) (some (.given 7))).run.run .fair (capturedTwice "A")).ending =
        .finished (.ok (some (firstCapture "A", .parentReference))) ∧
      (firstCapture "A").transaction ≠ secondCapture.transaction := by
  refine ⟨namedOnce_secondCapture (by decide), ?_, by decide⟩
  rw [ending_fair, find_fairly]
  exact congrArg (fun x => Ending.finished (Except.ok x)) (by decide +kernel)

end Reconciliation.Notification.Matching
