import Reconciliation.Proofs.Decoding
import Reconciliation.Proofs.Members

/-!
# Objects that stand for texts

An object whose first key is `embeddedKey` stands for a text. Such objects are resolved where a value is read, so that
of the values that were read none is an object with that key alone; but it may be the first one of several, since the
order of the text is not kept. Where values are settled once more, such an object is a fault.

* `Value.Everywhere` is a property of all objects within a value, `Value.Plain` that none of them begins with that key.
* `Value.Resolvable` tells by its parts which values can be settled, `exists_settled_iff` says so.
* `Reader.Gives.everywhere`: what was read is in order and has no such object left. `Resolvable` is then `Plain`, and
  what is settled stays the same (`resolvable_iff_plain`, `settledMembers_iff_plain`).
-/

namespace Reconciliation.Json

variable {P Q : Members → Prop} {m : Members} {v w : Value}

/-! ### Objects within a value -/

namespace Value

/-- A property of the members of all objects within a value. -/
inductive Everywhere (P : Members → Prop) : Value → Prop
  | null : Everywhere P .null
  | bool (b : Bool) : Everywhere P (.bool b)
  | number (n : Numeral) : Everywhere P (.number n)
  | string (s : String) : Everywhere P (.string s)
  | array {items : List Value} (all : ∀ v ∈ items, Everywhere P v) : Everywhere P (.array items)
  | object {m : Members} (here : P m) (all : ∀ entry ∈ m, Everywhere P entry.2) : Everywhere P (.object m)

theorem Everywhere.mono (h : ∀ m, P m → Q m) (all : v.Everywhere P) : v.Everywhere Q := by
  induction all with
  | null => exact .null
  | bool b => exact .bool b
  | number n => exact .number n
  | string s => exact .string s
  | array _ ih => exact .array ih
  | object here _ ih => exact .object (h _ here) ih

theorem Everywhere.members (all : (Value.object m).Everywhere P) : P m ∧ ∀ entry ∈ m, entry.2.Everywhere P := by
  cases all with
  | object here all => exact ⟨here, all⟩

theorem Everywhere.of_get? {key : String} (all : v.Everywhere P) (h : v.get? key = some w) : w.Everywhere P := by
  cases v with
  | object m => exact all.members.2 _ (Members.mem_of_get? h)
  | null | bool | number | string | array => cases h

/-- What holds of a list and of an object where it holds of all that is in it holds of all values. -/
@[elab_as_elim]
theorem inductionOn {motive : Value → Prop} (v : Value) (null : motive .null) (bool : ∀ b, motive (.bool b))
    (number : ∀ n, motive (.number n)) (string : ∀ s, motive (.string s))
    (array : ∀ items, (∀ v ∈ items, motive v) → motive (.array items))
    (object : ∀ m : Members, (∀ entry ∈ m, motive entry.2) → motive (.object m)) : motive v :=
  match v with
  | .null => null
  | .bool b => bool b
  | .number n => number n
  | .string s => string s
  | .array items => array items fun v _ => inductionOn v null bool number string array object
  | .object m => object m fun entry _ => inductionOn entry.2 null bool number string array object
termination_by sizeOf v
decreasing_by
  · have := List.sizeOf_lt_of_mem ‹_ ∈ items›
    simp_wf
    omega
  · have := List.sizeOf_lt_of_mem ‹_ ∈ m›
    have : sizeOf entry.2 < sizeOf entry := by
      cases entry
      simp
    simp_wf
    omega

end Value

/-- The members begin with the key of a text. -/
def Members.Marked (m : Members) : Prop := ∃ v rest, m = (embeddedKey, v) :: rest

/-- The members are those of a text and nothing else. -/
def Members.Embeds (m : Members) : Prop := ∃ v, m = [(embeddedKey, v)]

namespace Value

/-- No object begins with the key of a text. -/
def Plain (v : Value) : Prop := v.Everywhere fun m => ¬ m.Marked

/-- No object is that of a text and nothing else. -/
def Unembedded (v : Value) : Prop := v.Everywhere fun m => ¬ m.Embeds

/-- What can be settled: the text of an object that begins with the key of a text is alone in it and can be resolved. -/
inductive Resolvable : Value → Prop
  | null : Resolvable .null
  | bool (b : Bool) : Resolvable (.bool b)
  | number (n : Numeral) : Resolvable (.number n)
  | string (s : String) : Resolvable (.string s)
  | array {items : List Value} (all : ∀ v ∈ items, Resolvable v) : Resolvable (.array items)
  | object {m : Members} (unmarked : ¬ m.Marked) (all : ∀ entry ∈ m, Resolvable entry.2) : Resolvable (.object m)
  | text {s : String} {w : Value} (resolved : resolve s = .ok w) : Resolvable (.object [(embeddedKey, .string s)])

/-! ### Settling -/

theorem settled_object (unmarked : ¬ m.Marked) : (object m).settled = (settledMembers m).map object := by
  cases m with
  | nil => rfl
  | cons entry rest =>
    obtain ⟨key, v⟩ := entry
    have other : key ≠ embeddedKey := fun same => unmarked ⟨v, rest, by rw [same]⟩
    cases v <;> simp only [settled, if_neg other] <;> rfl

theorem settled_text_iff {rest : Members} : (object ((embeddedKey, v) :: rest)).settled = .ok w ↔
    ∃ s, v = .string s ∧ rest = [] ∧ resolve s = .ok w := by
  cases v with
  | string s =>
    simp only [settled, if_pos, string.injEq, exists_eq_left']
    refine Iff.trans bind_eq_ok_iff ?_
    cases rest <;> simp [pure, Except.pure]
  | _ => simp [settled]

end Value

theorem settledItems_eq_ok_iff {items out : List Value} :
    settledItems items = .ok out ↔ List.Forall₂ (fun v w => v.settled = .ok w) items out := by
  induction items generalizing out with
  | nil => simp [settledItems, eq_comm]
  | cons v items ih =>
    rw [settledItems, List.forall₂_cons_left_iff]
    refine bind_eq_ok_iff.trans (exists_congr fun w => ?_)
    constructor
    · rintro ⟨first, h⟩
      obtain ⟨rest, settled, h⟩ := ok_of_bind h
      exact ⟨rest, first, ih.1 settled, (Except.ok.inj h).symm⟩
    · rintro ⟨rest, first, settled, rfl⟩
      exact ⟨first, bind_eq_ok_iff.2 ⟨rest, ih.2 settled, rfl⟩⟩

theorem settledMembers_eq_ok_iff {out : Members} : settledMembers m = .ok out ↔
    List.Forall₂ (fun a b => b.1 = a.1 ∧ a.2.settled = .ok b.2) m out := by
  induction m generalizing out with
  | nil => simp [settledMembers, eq_comm]
  | cons entry m ih =>
    obtain ⟨key, v⟩ := entry
    rw [settledMembers, List.forall₂_cons_left_iff]
    constructor
    · intro h
      obtain ⟨w, first, h⟩ := ok_of_bind h
      obtain ⟨rest, settled, h⟩ := ok_of_bind h
      exact ⟨(key, w), rest, ⟨rfl, first⟩, ih.1 settled, (Except.ok.inj h).symm⟩
    · rintro ⟨⟨_, w⟩, rest, ⟨rfl, first⟩, settled, rfl⟩
      exact bind_eq_ok_iff.2 ⟨w, first, bind_eq_ok_iff.2 ⟨rest, ih.2 settled, rfl⟩⟩

theorem exists_forall₂_iff {α β : Type} {R : α → β → Prop} {l : List α} :
    (∃ out, List.Forall₂ R l out) ↔ ∀ a ∈ l, ∃ b, R a b := by
  induction l with
  | nil => simp
  | cons a l ih => simp [List.forall₂_cons_left_iff, ← ih]

theorem exists_of_mem_right {α β : Type} {R : α → β → Prop} {l : List α} {out : List β} (h : List.Forall₂ R l out)
    {b : β} (mem : b ∈ out) : ∃ a ∈ l, R a b := by
  induction h with
  | nil => cases mem
  | cons first _ ih =>
    rcases List.mem_cons.1 mem with rfl | mem
    · exact ⟨_, List.mem_cons_self, first⟩
    · obtain ⟨a, here, related⟩ := ih mem
      exact ⟨a, List.mem_cons_of_mem _ here, related⟩

theorem exists_settledItems_iff {items : List Value} :
    (∃ out, settledItems items = .ok out) ↔ ∀ v ∈ items, ∃ w, v.settled = .ok w := by
  simp only [settledItems_eq_ok_iff, exists_forall₂_iff]

theorem exists_settledMembers_iff :
    (∃ out, settledMembers m = .ok out) ↔ ∀ entry ∈ m, ∃ w, entry.2.settled = .ok w := by
  simp only [settledMembers_eq_ok_iff, exists_forall₂_iff]
  exact forall₂_congr fun entry _ => ⟨fun ⟨b, _, h⟩ => ⟨b.2, h⟩, fun ⟨w, h⟩ => ⟨(entry.1, w), rfl, h⟩⟩

namespace Value

/-- What can be settled is told by the parts of a value. -/
theorem exists_settled_iff : (∃ w, v.settled = .ok w) ↔ v.Resolvable := by
  induction v using inductionOn with
  | null => exact ⟨fun _ => .null, fun _ => ⟨_, rfl⟩⟩
  | bool b => exact ⟨fun _ => .bool b, fun _ => ⟨_, rfl⟩⟩
  | number n => exact ⟨fun _ => .number n, fun _ => ⟨_, rfl⟩⟩
  | string s => exact ⟨fun _ => .string s, fun _ => ⟨_, rfl⟩⟩
  | array items ih =>
    have all : (∃ w, (array items).settled = .ok w) ↔ ∀ v ∈ items, v.Resolvable := by
      rw [← forall₂_congr ih, ← exists_settledItems_iff]
      exact exists_map_eq_ok_iff (f := array)
    rw [all]
    exact ⟨.array, fun | .array all => all⟩
  | object m ih =>
    by_cases marked : m.Marked
    · obtain ⟨v, rest, rfl⟩ := marked
      simp only [settled_text_iff]
      constructor
      · rintro ⟨w, s, rfl, rfl, resolved⟩
        exact .text resolved
      · rintro (_ | _ | _ | _ | _ | ⟨unmarked, -⟩ | resolved)
        · exact absurd ⟨v, rest, rfl⟩ unmarked
        · exact ⟨_, _, rfl, rfl, resolved⟩
    · rw [settled_object marked, exists_map_eq_ok_iff, exists_settledMembers_iff, forall₂_congr ih]
      refine ⟨.object marked, fun | .object _ all => all | .text _ => absurd ⟨_, _, rfl⟩ marked⟩

/-- Where no object begins with the key of a text, a value stays the same. -/
theorem settled_of_plain (h : v.Plain) : v.settled = .ok v := by
  induction h with
  | null | bool | number | string => rfl
  | array _ ih =>
    have same := settledItems_eq_ok_iff.2 (List.forall₂_same.2 ih)
    exact bind_eq_ok_iff.2 ⟨_, same, rfl⟩
  | object unmarked _ ih =>
    have same := settledMembers_eq_ok_iff.2 (List.forall₂_same.2 fun entry mem => ⟨rfl, ih entry mem⟩)
    rw [settled_object unmarked, same]
    rfl

/-! ### Where no text is left -/

theorem resolvable_iff_plain (h : v.Unembedded) : v.Resolvable ↔ v.Plain := by
  constructor
  · intro resolvable
    induction resolvable with
    | null => exact .null
    | bool b => exact .bool b
    | number n => exact .number n
    | string s => exact .string s
    | array _ ih =>
      cases h with
      | array all => exact .array fun v mem => ih v mem (all v mem)
    | object unmarked _ ih =>
      cases h with
      | object _ all => exact .object unmarked fun entry mem => ih entry mem (all entry mem)
    | text =>
      cases h with
      | object unembedded _ => exact absurd ⟨_, rfl⟩ unembedded
  · exact fun plain => exists_settled_iff.1 ⟨v, settled_of_plain plain⟩

end Value

/-- Where no text is left, members are settled only if they stay the same. -/
theorem settledMembers_iff_plain {out : Members} (h : ∀ entry ∈ m, entry.2.Unembedded) :
    settledMembers m = .ok out ↔ (∀ entry ∈ m, entry.2.Plain) ∧ out = m := by
  have plain : (∃ out, settledMembers m = .ok out) ↔ ∀ entry ∈ m, entry.2.Plain := by
    rw [exists_settledMembers_iff]
    exact forall₂_congr fun entry mem => Value.exists_settled_iff.trans (Value.resolvable_iff_plain (h entry mem))
  have same (all : ∀ entry ∈ m, entry.2.Plain) : settledMembers m = .ok m :=
    settledMembers_eq_ok_iff.2 (List.forall₂_same.2 fun entry mem => ⟨rfl, Value.settled_of_plain (all entry mem)⟩)
  constructor
  · intro settled
    have all := plain.1 ⟨out, settled⟩
    exact ⟨all, Except.ok.inj (settled.symm.trans (same all))⟩
  · rintro ⟨all, rfl⟩
    exact same all

/-! ### Values that were read -/

namespace Reader

variable {α : Type}

theorem not_gives_failNext {c : Cause} {a : α} : ¬ (failNext c : Reader α).Gives a := by
  rintro ⟨_, _, ⟨⟩⟩

/-- What holds of each item holds of all. -/
theorem Gives.items {P : α → Prop} {item : Reader α} (each : ∀ a, item.Gives a → P a) {fuel : Nat} {first : Bool}
    {acc as : List α} (start : ∀ a ∈ acc, P a) (h : (Reader.items item fuel first acc).Gives as) : ∀ a ∈ as, P a := by
  induction fuel generalizing first acc with
  | zero =>
    rw [h.pure]
    exact fun a mem => start a (List.mem_reverse.1 mem)
  | succ fuel ih =>
    obtain ⟨s, rest, h⟩ := h
    rw [Reader.items] at h
    dsimp only at h
    split at h
    · cases h
    · cases h
      exact fun a mem => start a (List.mem_reverse.1 mem)
    · split at h
      · cases h
      · next read => exact ih (List.forall_mem_cons.2 ⟨each _ ⟨_, _, read⟩, start⟩) ⟨_, _, h⟩

theorem Gives.listOf {P : α → Prop} {item : Reader α} (each : ∀ a, item.Gives a → P a) {as : List α}
    (h : (Reader.listOf item).Gives as) : ∀ a ∈ as, P a := by
  obtain ⟨_, -, h⟩ := h.bind
  obtain ⟨_, -, h⟩ := h.bind
  obtain ⟨found, items, h⟩ := h.bind
  obtain ⟨_, -, h⟩ := h.bind
  rw [h.pure]
  exact items.items each fun _ mem => absurd mem List.not_mem_nil

/-- A value is a list or an object that was read as such, or has no objects. -/
theorem Gives.valueOf {list : Reader (List Value)} {object : Reader Value}
    (lists : ∀ items, list.Gives items → ∀ v ∈ items, v.Everywhere P) (objects : ∀ v, object.Gives v → v.Everywhere P)
    (h : (Reader.valueOf list object).Gives v) : v.Everywhere P := by
  obtain ⟨next, -, h⟩ := h.bind
  cases next with
  | none => exact absurd h not_gives_failNext
  | some b =>
    dsimp only at h
    split at h
    · obtain ⟨_, -, h⟩ := h.bind
      obtain ⟨_, -, h⟩ := h.bind
      exact h.pure ▸ .null
    split at h
    · obtain ⟨_, -, h⟩ := h.bind
      obtain ⟨_, -, h⟩ := h.bind
      exact h.pure ▸ .bool true
    split at h
    · obtain ⟨_, -, h⟩ := h.bind
      obtain ⟨_, -, h⟩ := h.bind
      exact h.pure ▸ .bool false
    split at h
    · obtain ⟨n, -, h⟩ := h.bind
      exact h.pure ▸ .number n
    split at h
    · obtain ⟨s, -, h⟩ := h.bind
      exact h.pure ▸ .string s
    split at h
    · obtain ⟨items, read, h⟩ := h.bind
      exact h.pure ▸ .array (lists items read)
    split at h
    · exact objects v h
    · exact absurd h not_gives_failNext

/-- What an object makes of the property of its values, values have. -/
theorem Gives.valueWith {object : Reader Value → Reader Value}
    (step : ∀ item : Reader Value, (∀ v, item.Gives v → v.Everywhere P) → ∀ v, (object item).Gives v → v.Everywhere P)
    {levels : Nat} (h : (Reader.valueWith object levels).Gives v) : v.Everywhere P := by
  induction levels generalizing v with
  | zero => exact h.valueOf (fun _ h => absurd h not_gives_failNext) fun _ h => absurd h not_gives_failNext
  | succ n ih =>
    have each (v : Value) (h : (Reader.valueWith object n).Gives v) : v.Everywhere P := ih h
    exact h.valueOf (fun _ list => list.listOf each) (step _ each)

theorem Gives.addMember {item : Reader Value} {key : String} {m n : Members}
    (h : (Reader.addMember item key m).Gives n) : ∃ v, item.Gives v ∧ n = m.insert key v := by
  obtain ⟨_, -, h⟩ := h.bind
  obtain ⟨v, read, h⟩ := h.bind
  exact ⟨v, read, h.pure⟩

end Reader

/-- What holds of the members of an object that was read. -/
structure Members.Orderly (m : Members) : Prop where
  ascending : m.Ascending
  unembedded : ¬ m.Embeds

theorem Value.Everywhere.unembedded (h : v.Everywhere Members.Orderly) : v.Unembedded :=
  h.mono fun _ orderly => orderly.unembedded

namespace Reader

/-- Members on their way: in order, with a member of the first key, and with orderly values. -/
structure Underway (first : String) (m : Members) : Prop where
  ascending : m.Ascending
  kept : ∃ v, m.get? first = some v
  values : ∀ entry ∈ m, entry.2.Everywhere Members.Orderly

variable {first : String} {item : Reader Value}

theorem Underway.insert (h : Underway first m) (key : String) (value : v.Everywhere Members.Orderly) :
    Underway first (m.insert key v) where
  ascending := Members.ascending_insert h.ascending key v
  kept := by
    rw [Members.get?_insert]
    split
    · exact ⟨v, rfl⟩
    · exact h.kept
  values entry mem := by
    rcases Members.mem_insert mem with rfl | mem
    · exact value
    · exact h.values entry mem

theorem Underway.everywhere (h : Underway first m) (other : first ≠ embeddedKey) :
    (Value.object m).Everywhere Members.Orderly := by
  refine .object ⟨h.ascending, ?_⟩ h.values
  rintro ⟨v, rfl⟩
  obtain ⟨u, kept⟩ := h.kept
  rw [Members.get?_cons, if_neg (Ne.symm other)] at kept
  cases kept

/-- The first key makes the difference: it is that of a text, which is resolved, or remains. -/
theorem Gives.openObject {resolve : String → Except Cause Value}
    (resolved : ∀ s v, resolve s = .ok v → v.Everywhere Members.Orderly)
    (each : ∀ v, item.Gives v → v.Everywhere Members.Orderly) (h : (Reader.openObject resolve item).Gives v) :
    v.Everywhere Members.Orderly := by
  have closing {w : Value} (h : (do Reader.endObject; Pure.pure w : Reader Value).Gives v) : v = w := by
    obtain ⟨_, -, h⟩ := h.bind
    exact h.pure
  obtain ⟨_, -, h⟩ := h.bind
  obtain ⟨goesOn, -, h⟩ := h.bind
  split at h
  · obtain ⟨key, -, h⟩ := h.bind
    dsimp only at h
    split at h
    · obtain ⟨s, -, h⟩ := h.bind
      split at h
      · next w found =>
        obtain ⟨_, read, h⟩ := h.bind
        rw [closing h, read.pure]
        exact resolved s w found
      · obtain ⟨_, refused, -⟩ := h.bind
        exact absurd refused not_gives_refuse
    · next other =>
      obtain ⟨start, taken, h⟩ := h.bind
      obtain ⟨fuel, -, h⟩ := h.bind
      obtain ⟨all, more, h⟩ := h.bind
      obtain ⟨_, read, h⟩ := h.bind
      rw [closing h, read.pure]
      obtain ⟨u, value, rfl⟩ := taken.addMember
      have underway : Underway key [(key, u)] :=
        ⟨List.pairwise_singleton _ _, ⟨u, by rw [Members.get?_cons, if_pos rfl]⟩, by simpa using each u value⟩
      refine Underway.everywhere (more.members (P := Underway key) (fun next m n h taken => ?_) underway) other
      obtain ⟨u, value, rfl⟩ := taken.addMember
      exact h.insert next (each u value)
  · rw [closing h]
    exact .object ⟨.nil, nofun⟩ (fun _ => nofun)

end Reader

/-- Texts within values are resolved to values in order. -/
theorem everywhere_of_resolveUpTo {fuel : Nat} {s : String} (h : resolveUpTo fuel s = .ok v) :
    v.Everywhere Members.Orderly := by
  induction fuel generalizing s v with
  | zero => cases h
  | succ fuel ih =>
    rw [resolveUpTo] at h
    split at h
    · next read =>
      cases h
      refine (Reader.gives_of_run read).valueWith fun item each v given => ?_
      exact given.openObject (fun s v resolved => ih resolved) each
    · cases h

/-- The objects within a value that was read are in order, and none of them stands for a text. -/
theorem Reader.Gives.everywhere {levels : Nat} (h : (Reader.value levels).Gives v) : v.Everywhere Members.Orderly :=
  h.valueWith fun _ each _ given => given.openObject (fun _ _ resolved => everywhere_of_resolveUpTo resolved) each

/-- Once settled, a value has no objects left that stand for a text, whatever it was. -/
theorem Value.unembedded_of_settled (h : v.settled = .ok w) : w.Unembedded := by
  induction v using inductionOn generalizing w with
  | null => cases h; exact .null
  | bool b => cases h; exact .bool b
  | number n => cases h; exact .number n
  | string s => cases h; exact .string s
  | array items ih =>
    obtain ⟨out, settled, h⟩ := ok_of_bind h
    cases h
    refine .array fun w mem => ?_
    obtain ⟨v, mem, settled⟩ := exists_of_mem_right (settledItems_eq_ok_iff.1 settled) mem
    exact ih v mem settled
  | object m ih =>
    by_cases marked : m.Marked
    · obtain ⟨v, rest, rfl⟩ := marked
      obtain ⟨s, -, -, resolved⟩ := settled_text_iff.1 h
      exact (everywhere_of_resolveUpTo resolved).unembedded
    · obtain ⟨out, settled, rfl⟩ := map_eq_ok_iff.1 (settled_object marked ▸ h)
      have same := settledMembers_eq_ok_iff.1 settled
      refine .object ?_ fun entry mem => ?_
      · rintro ⟨v, rfl⟩
        obtain ⟨first, before, ⟨key, -⟩, none, rfl⟩ := List.forall₂_cons_right_iff.1 same
        cases none
        exact marked ⟨first.2, [], congrArg (fun k => [(k, first.2)]) key.symm⟩
      · obtain ⟨before, here, -, settled⟩ := exists_of_mem_right same mem
        exact ih before here settled

theorem unembedded_of_settledMembers {out : Members} (h : settledMembers m = .ok out) :
    ∀ entry ∈ out, entry.2.Unembedded := fun _ mem =>
  have ⟨_, _, _, settled⟩ := exists_of_mem_right (settledMembers_eq_ok_iff.1 h) mem
  Value.unembedded_of_settled settled

end Reconciliation.Json
