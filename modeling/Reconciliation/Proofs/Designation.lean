import Reconciliation.Proofs.Matching

/-!
# The attempt that an item designates

Which attempt is found for an item, told from what the journal holds and not from the calls that are made: among all
attempts with a reference, the one of the highest rank, of these the latest, and of these the last that was recorded.

* `Entrant` says that an attempt comes into question by a reference, `Foremost` that no other stands above it.
* `Designates` is the attempt for an item, or that there is none.
* `spot_eq`: the item's own reference need not be looked up where it is the parent reference as well.
* `find_iff_designates` is the statement about the search.
-/

namespace Reconciliation.Notification.Matching

open Procedure

/-- The attempt at this place carries the reference, belongs to the tenant if one is given, and its operation has this
rank. -/
structure Entrant (attempts : List Attempt) (c : Candidates) (tenant : Option Ident) (reference : String)
    (place rank : Nat) (a : Attempt) : Prop where
  recorded : attempts[place]? = some a
  carried : a.reference = some reference
  owned : ∀ t, tenant = some t → a.tenant = t
  ranked : c.rank? a.operation = some rank

/-- The first of two attempts does not stand above the second: its rank is lower, or it is the same and the attempt is
older, or it is of the same time and was not recorded later. -/
def NotAbove (place rank : Nat) (a : Attempt) (place' rank' : Nat) (b : Attempt) : Prop :=
  rank < rank' ∨ rank = rank' ∧ a.created.notAfter b.created = true ∧
    (b.created.notAfter a.created = true → place ≤ place')

/-- The attempt comes into question by the reference, and no other that does stands above it. -/
def Foremost (attempts : List Attempt) (c : Candidates) (tenant : Option Ident) (reference : String) (a : Attempt) :
    Prop :=
  ∃ place rank, Entrant attempts c tenant reference place rank a ∧
    ∀ place' rank' b, Entrant attempts c tenant reference place' rank' b → NotAbove place' rank' b place rank a

/-- No attempt comes into question by the reference, if there is one. -/
def Unclaimed (attempts : List Attempt) (c : Candidates) (tenant : Option Ident) (reference : Option String) : Prop :=
  ∀ s, reference = some s → ∀ place rank a, ¬ Entrant attempts c tenant s place rank a

/-- The merchant reference of the item, without blanks around it, is the identifier of a transaction, and the first
attempt that was recorded for it comes into question. -/
structure Named (attempts : List Attempt) (c : Candidates) (tenant : Option Ident) (i : Item) (a : Attempt) : Prop where
  first : ∃ s transaction, i.merchantReference = some s ∧ Ident.ofText? (Text.trim s) = .ok transaction ∧
    attempts.find? (·.transaction == transaction) = some a
  owned : ∀ t, tenant = some t → a.tenant = t
  ranked : ∃ rank, c.rank? a.operation = some rank

/-- The attempt that an item tells of and the reference that says so: the parent reference goes before the item's own,
and this before the merchant reference. -/
inductive Designates (attempts : List Attempt) (c : Candidates) (tenant : Option Ident) (i : Item) :
    Option (Attempt × Source) → Prop where
  | byParent {s : String} {a : Attempt} (carried : i.parentReference = some s)
      (foremost : Foremost attempts c tenant s a) : Designates attempts c tenant i (some (a, .parentReference))
  | byOwn {s : String} {a : Attempt} (parent : Unclaimed attempts c tenant i.parentReference)
      (carried : i.reference = some s) (foremost : Foremost attempts c tenant s a) :
      Designates attempts c tenant i (some (a, .ownReference))
  | byMerchant {a : Attempt} (parent : Unclaimed attempts c tenant i.parentReference)
      (own : Unclaimed attempts c tenant i.reference) (named : Named attempts c tenant i a) :
      Designates attempts c tenant i (some (a, .merchantReference))
  | nothing (parent : Unclaimed attempts c tenant i.parentReference) (own : Unclaimed attempts c tenant i.reference)
      (unnamed : ∀ a, ¬ Named attempts c tenant i a) : Designates attempts c tenant i none

variable {attempts : List Attempt} {c : Candidates} {tenant : Option Ident} {i : Item} {a : Attempt}

/-! ### By a reference -/

theorem ranked?_eq_some_iff {rank : Nat} : c.ranked? tenant a = some (rank, a) ↔
    (∀ t, tenant = some t → a.tenant = t) ∧ c.rank? a.operation = some rank := by
  rw [Candidates.ranked?_eq_some]
  cases tenant <;> simp

theorem exists_entrant {s : String} (ha : a ∈ attempts) (carried : a.reference = some s) {y : Nat × Attempt}
    (hy : c.ranked? tenant a = some y) : ∃ place rank, y = (rank, a) ∧ Entrant attempts c tenant s place rank a := by
  obtain ⟨rank, b⟩ := y
  obtain rfl : b = a := (Candidates.ranked?_eq_some.1 hy).2.2
  obtain ⟨place, hplace⟩ := List.getElem?_of_mem ha
  obtain ⟨owned, ranked⟩ := ranked?_eq_some_iff.1 hy
  exact ⟨place, rank, rfl, hplace, carried, owned, ranked⟩

theorem spotReference_eq_none_iff {reference : Option String} :
    spotReference attempts c tenant reference = none ↔ Unclaimed attempts c tenant reference := by
  cases reference with
  | none => simp [spotReference, Unclaimed]
  | some s =>
    simp only [spotReference, Option.bind_some, Candidates.select_eq_none_iff, Unclaimed, Option.some.injEq,
      forall_eq', List.mem_filter, beq_iff_eq]
    constructor
    · rintro none place rank a ⟨recorded, carried, owned, ranked⟩
      have := none a ⟨List.mem_of_getElem? recorded, carried⟩
      simp [ranked?_eq_some_iff.2 ⟨owned, ranked⟩] at this
    · rintro none a ⟨ha, carried⟩
      cases hy : c.ranked? tenant a with
      | none => rfl
      | some y =>
        obtain ⟨place, rank, -, entrant⟩ := exists_entrant ha carried hy
        exact absurd entrant (none _ _ _)

/-- What is selected among the attempts with a property, by a split of all attempts. -/
theorem select_filter_eq_some_iff {p : Attempt → Bool} :
    c.select tenant (attempts.filter p) = some a ↔ ∃ before after x, attempts = before ++ a :: after ∧ p a = true ∧
      c.ranked? tenant a = some x ∧
      (∀ b ∈ before, p b = true → ∀ y ∈ c.ranked? tenant b, Candidates.givesWay y x = true) ∧
      ∀ b ∈ after, p b = true → ∀ y ∈ c.ranked? tenant b, Candidates.givesWay x y = false := by
  rw [Candidates.select_eq_some_iff]
  constructor
  · rintro ⟨front, back, x, hl, hx, hfront, hback⟩
    obtain ⟨before, rest, rfl, rfl, hrest⟩ := List.filter_eq_append_iff.1 hl
    obtain ⟨skipped, after, rfl, hskipped, ha, rfl⟩ := List.filter_eq_cons_iff.1 hrest
    refine ⟨before ++ skipped, after, x, by simp, ha, hx, fun b hb hp => ?_, fun b hb hp => ?_⟩
    · rcases List.mem_append.1 hb with hb | hb
      · exact hfront b (List.mem_filter.2 ⟨hb, hp⟩)
      · exact absurd hp (hskipped b hb)
    · exact hback b (List.mem_filter.2 ⟨hb, hp⟩)
  · rintro ⟨before, after, x, rfl, ha, hx, hbefore, hafter⟩
    refine ⟨before.filter p, after.filter p, x, by simp [ha], hx, fun b hb => ?_, fun b hb => ?_⟩
    · exact hbefore b (List.mem_filter.1 hb).1 (List.mem_filter.1 hb).2
    · exact hafter b (List.mem_filter.1 hb).1 (List.mem_filter.1 hb).2

theorem givesWay_iff {rank rank' : Nat} {b : Attempt} : Candidates.givesWay (rank, a) (rank', b) = true ↔
    rank < rank' ∨ rank = rank' ∧ a.created.notAfter b.created = true := by
  simp [Candidates.givesWay]

theorem place_cases {before after : List Attempt} {place : Nat} {b : Attempt}
    (h : (before ++ a :: after)[place]? = some b) :
    place < before.length ∧ b ∈ before ∨ place = before.length ∧ b = a ∨ before.length < place ∧ b ∈ after := by
  rcases Nat.lt_trichotomy place before.length with hlt | rfl | hgt
  · rw [List.getElem?_append_left hlt] at h
    exact .inl ⟨hlt, List.mem_of_getElem? h⟩
  · exact .inr (.inl ⟨rfl, by simpa using h.symm⟩)
  · obtain ⟨d, rfl⟩ := Nat.exists_eq_add_of_lt hgt
    rw [List.getElem?_append_right (by omega), show before.length + d + 1 - before.length = d + 1 by omega,
      List.getElem?_cons_succ] at h
    exact .inr (.inr ⟨hgt, List.mem_of_getElem? h⟩)

/-- The best of the attempts with a reference is the foremost. -/
theorem spotReference_eq_some_iff {s : String} :
    spotReference attempts c tenant (some s) = some a ↔ Foremost attempts c tenant s a := by
  rw [spotReference, Option.bind_some, select_filter_eq_some_iff]
  constructor
  · rintro ⟨before, after, ⟨rank, b⟩, rfl, ha, hx, hbefore, hafter⟩
    obtain rfl : b = a := (Candidates.ranked?_eq_some.1 hx).2.2
    obtain ⟨owned, ranked⟩ := ranked?_eq_some_iff.1 hx
    refine ⟨before.length, rank, ⟨by simp, by simpa using ha, owned, ranked⟩, ?_⟩
    rintro place' rank' d ⟨recorded, carried, owned', ranked'⟩
    have hd : c.ranked? tenant d = some (rank', d) := ranked?_eq_some_iff.2 ⟨owned', ranked'⟩
    have carries : (d.reference == some s) = true := by simpa using carried
    rcases place_cases recorded with ⟨hlt, hmem⟩ | ⟨rfl, rfl⟩ | ⟨-, hmem⟩
    · have way := givesWay_iff.1 (hbefore d hmem carries _ hd)
      exact way.imp_right fun h => ⟨h.1, h.2, fun _ => Nat.le_of_lt hlt⟩
    · rw [ranked] at ranked'
      have itself := Time.Moment.notAfter_preorder.total d.created d.created
      exact .inr ⟨(Option.some.inj ranked').symm, by simpa using itself, fun _ => Nat.le_refl _⟩
    · -- one that was recorded later is of a lower rank or older
      have stays : ¬ Candidates.givesWay (rank, b) (rank', d) = true := by simp [hafter d hmem carries _ hd]
      rw [givesWay_iff, not_or, not_and, Nat.not_lt] at stays
      rcases Nat.lt_or_eq_of_le stays.1 with hlt | rfl
      · exact .inl hlt
      · have older := stays.2 rfl
        have total := Time.Moment.notAfter_preorder.total d.created b.created
        exact .inr ⟨rfl, by simpa [older] using total, fun h => absurd h older⟩
  · rintro ⟨place, rank, ⟨recorded, carried, owned, ranked⟩, above⟩
    obtain ⟨hlt, hget⟩ := List.getElem?_eq_some_iff.1 recorded
    have split : attempts = attempts.take place ++ a :: attempts.drop (place + 1) := by
      rw [← hget, ← List.drop_eq_getElem_cons hlt, List.take_append_drop]
    have length : (attempts.take place).length = place := List.length_take_of_le (Nat.le_of_lt hlt)
    refine ⟨_, _, (rank, a), split, by simpa using carried, ranked?_eq_some_iff.2 ⟨owned, ranked⟩, ?_, ?_⟩
    · rintro b hb carries ⟨rank', d⟩ hy
      obtain rfl : d = b := (Candidates.ranked?_eq_some.1 hy).2.2
      obtain ⟨place', hlt', hplace⟩ := List.mem_take_iff_getElem.1 hb
      obtain ⟨owned', ranked'⟩ := ranked?_eq_some_iff.1 hy
      have notAbove := above place' rank' d
        ⟨List.getElem?_eq_some_iff.2 ⟨by omega, hplace⟩, by simpa using carries, owned', ranked'⟩
      exact givesWay_iff.2 (notAbove.imp_right fun h => ⟨h.1, h.2.1⟩)
    · rintro b hb carries ⟨rank', d⟩ hy
      obtain rfl : d = b := (Candidates.ranked?_eq_some.1 hy).2.2
      obtain ⟨place', hplace⟩ := List.getElem?_of_mem hb
      rw [List.getElem?_drop] at hplace
      obtain ⟨owned', ranked'⟩ := ranked?_eq_some_iff.1 hy
      have notAbove := above _ rank' d ⟨hplace, by simpa using carries, owned', ranked'⟩
      rw [← Bool.not_eq_true, givesWay_iff]
      rcases notAbove with hlt | ⟨rfl, -, earlier⟩
      · omega
      · rintro (h | ⟨-, h⟩)
        · exact Nat.lt_irrefl _ h
        · have := earlier h
          omega

/-! ### By any reference -/

/-- Where the item's own reference is the parent reference as well, looking it up again would find nothing else. -/
theorem spot_eq (attempts : List Attempt) (i : Item) : spot attempts i c tenant =
    ((spotReference attempts c tenant i.parentReference).map (·, .parentReference)).or
      (((spotReference attempts c tenant i.reference).map (·, .ownReference)).or
        ((spotTransaction attempts c tenant (transactionId? i)).map (·, .merchantReference))) := by
  unfold spot ownReference?
  split
  · next same =>
    rw [← same]
    cases spotReference attempts c tenant i.parentReference <;> rfl
  · rfl

theorem select_toList_eq_some_iff {x : Option Attempt} : c.select tenant x.toList = some a ↔
    x = some a ∧ (∀ t, tenant = some t → a.tenant = t) ∧ ∃ rank, c.rank? a.operation = some rank := by
  constructor
  · intro h
    obtain ⟨hmem, owned, ranked⟩ := c.mem_of_select tenant h
    refine ⟨Option.mem_toList.1 hmem, ?_, ranked⟩
    rintro t rfl
    simpa using owned
  · rintro ⟨rfl, owned, rank, ranked⟩
    refine (c.select_eq_some_iff tenant).2 ⟨[], [], (rank, a), rfl, ranked?_eq_some_iff.2 ⟨owned, ranked⟩, ?_, ?_⟩
    all_goals simp

theorem transactionId?_eq_some_iff {transaction : Ident} : transactionId? i = some transaction ↔
    ∃ s, i.merchantReference = some s ∧ Ident.ofText? (Text.trim s) = .ok transaction := by
  unfold transactionId?
  rw [Option.bind_eq_some_iff]
  refine exists_congr fun s => and_congr_right fun _ => ?_
  cases Ident.ofText? (Text.trim s) <;> simp [Except.toOption]

theorem spotTransaction_eq_some_iff :
    spotTransaction attempts c tenant (transactionId? i) = some a ↔ Named attempts c tenant i a := by
  rw [spotTransaction, Option.bind_eq_some_iff]
  constructor
  · rintro ⟨transaction, ht, hs⟩
    obtain ⟨s, named, read⟩ := transactionId?_eq_some_iff.1 ht
    obtain ⟨first, owned, ranked⟩ := select_toList_eq_some_iff.1 hs
    exact ⟨⟨s, transaction, named, read, first⟩, owned, ranked⟩
  · rintro ⟨⟨s, transaction, named, read, first⟩, owned, ranked⟩
    exact ⟨transaction, transactionId?_eq_some_iff.2 ⟨s, named, read⟩,
      select_toList_eq_some_iff.2 ⟨first, owned, ranked⟩⟩

/-- What is spotted is what the item designates, and nothing else. -/
theorem designates_iff {x : Option (Attempt × Source)} :
    Designates attempts c tenant i x ↔ spot attempts i c tenant = x := by
  rw [spot_eq]
  constructor
  · rintro (⟨carried, foremost⟩ | ⟨parent, carried, foremost⟩ | ⟨parent, own, named⟩ | ⟨parent, own, unnamed⟩)
    · rw [carried, spotReference_eq_some_iff.2 foremost]
      rfl
    · rw [spotReference_eq_none_iff.2 parent, carried, spotReference_eq_some_iff.2 foremost]
      rfl
    · rw [spotReference_eq_none_iff.2 parent, spotReference_eq_none_iff.2 own, spotTransaction_eq_some_iff.2 named]
      rfl
    · have none : spotTransaction attempts c tenant (transactionId? i) = none :=
        Option.eq_none_iff_forall_not_mem.2 fun a ha => unnamed a (spotTransaction_eq_some_iff.1 ha)
      rw [spotReference_eq_none_iff.2 parent, spotReference_eq_none_iff.2 own, none]
      rfl
  · rintro rfl
    cases hparent : spotReference attempts c tenant i.parentReference with
    | some a =>
      cases carried : i.parentReference with
      | none => simp [carried, spotReference] at hparent
      | some s => exact .byParent carried (spotReference_eq_some_iff.1 (carried ▸ hparent))
    | none =>
    have parent := spotReference_eq_none_iff.1 hparent
    cases hown : spotReference attempts c tenant i.reference with
    | some a =>
      cases carried : i.reference with
      | none => simp [carried, spotReference] at hown
      | some s => exact .byOwn parent carried (spotReference_eq_some_iff.1 (carried ▸ hown))
    | none =>
    have own := spotReference_eq_none_iff.1 hown
    cases hnamed : spotTransaction attempts c tenant (transactionId? i) with
    | some a => exact .byMerchant parent own (spotTransaction_eq_some_iff.1 hnamed)
    | none =>
      refine .nothing parent own fun a named => ?_
      rw [spotTransaction_eq_some_iff.2 named] at hnamed
      cases hnamed

/-- Where no call fails, the search ends with the attempt that the item designates, or with none if it designates none;
whatever calls fail, it never ends with anything else. -/
theorem find_iff_designates (i : Item) (c : Candidates) (tenant : Option Ident) (w : World) :
    (∀ x, ((find i c tenant).run.run .fair w).ending = .finished (.ok x) ↔
      Designates w.journal.attempts c tenant i x) ∧
    ∀ conditions x, ((find i c tenant).run.run conditions w).ending = .finished (.ok x) →
      Designates w.journal.attempts c tenant i x := by
  constructor
  · intro x
    rw [ending_fair, find_fairly, designates_iff, Ending.finished.injEq, Except.ok.injEq]
  · intro conditions x h
    have reads : Reads conditions w (find i c tenant).run _ := find_reads i
    have gives : x = spot w.journal.attempts i c tenant := reads.result h
    exact designates_iff.2 gives.symm

end Reconciliation.Notification.Matching
