import Reconciliation.Failure
import Reconciliation.Map
import Reconciliation.Tenant

/-!
# The registry of tenants

A registry has two maps: one of tenants by their identifiers, and one of merchant accounts, which says by its identifier
which tenant owns an account. No two tenants have the same identifier, and no merchant account belongs to two of them.

* `Registry.ofList` builds a registry or says what stands against it; `Registry.add` adds one tenant, and
  `Registry.claim` gives it one of its accounts.
* `Registry.forAccount?` and `Registry.forTenant?` look tenants up.
-/

namespace Reconciliation

structure Registry where
  tenants : Map Ident Tenant
  owners : Map String Ident
  /-- A tenant has the identifier it is found under. -/
  keyed : ∀ id t, tenants.get? id = some t → t.id = id
  /-- The owner of an account is a tenant of the registry that has it. -/
  owned : ∀ account id,
    owners.get? account = some id ↔ ∃ t, tenants.get? id = some t ∧ account ∈ t.merchantAccounts
  deriving Repr, DecidableEq

namespace Registry

def empty : Registry where
  tenants := .empty
  owners := .empty
  keyed _ _ h := nomatch h
  owned _ _ := ⟨nofun, fun ⟨_, h, _⟩ => nomatch h⟩

instance : Inhabited Registry := ⟨empty⟩

/-- The tenant with an identifier. -/
def forTenant? (r : Registry) (id : Ident) : Option Tenant := r.tenants.get? id

/-- The tenant that owns a merchant account. -/
def forAccount? (r : Registry) (account : String) : Option Tenant := (r.owners.get? account).bind r.forTenant?

@[simp] theorem forAccount?_empty (account : String) : empty.forAccount? account = none := rfl

def size (r : Registry) : Nat := r.tenants.size

/-! ### Accounts of a tenant -/

/-- Gives an account to the tenant with an identifier, unless another one owns it. -/
def claim (id : Ident) (owners : Map String Ident) (account : String) : Except Failure (Map String Ident) :=
  match (owners.get? account).filter (· ≠ id) with
  | some owner =>
    .error (.configuration ("merchant account '" ++ account ++ "' is claimed by tenants " ++ owner.text ++ " and " ++
      id.text))
  | none => .ok (owners.insert account id)

/-- Gives several accounts one by one. -/
def claimAll (id : Ident) (owners : Map String Ident) (accounts : List String) : Except Failure (Map String Ident) :=
  accounts.foldlM (claim id) owners

/-- No account belongs to another than the tenant with the identifier. -/
def Unclaimed (id : Ident) (owners : Map String Ident) (accounts : List String) : Prop :=
  ∀ account ∈ accounts, ∀ owner, owners.get? account = some owner → owner = id

variable {id : Ident} {owners owners' : Map String Ident} {account : String} {accounts : List String}

/-- Steps one after another succeed if the first does and from there the others do. -/
theorem foldlM_cons_eq_ok_iff {α β ε : Type} {step : β → α → Except ε β} {a : α} {rest : List α} {b c : β} :
    (a :: rest).foldlM step b = .ok c ↔ ∃ next, step b a = .ok next ∧ rest.foldlM step next = .ok c := by
  rw [List.foldlM_cons]
  cases step b a with
  | error e => exact ⟨nofun, fun ⟨_, failed, _⟩ => nomatch failed⟩
  | ok next => exact ⟨fun h => ⟨next, rfl, h⟩, fun ⟨_, same, h⟩ => Except.ok.inj same ▸ h⟩

/-- An account can be given if it has no owner or this one. -/
theorem claim_eq_ok_iff : claim id owners account = .ok owners' ↔
    (∀ owner, owners.get? account = some owner → owner = id) ∧ owners' = owners.insert account id := by
  unfold claim
  split
  · next owner found =>
    obtain ⟨owned, other⟩ := Option.filter_eq_some_iff.1 found
    exact ⟨nofun, fun ⟨own, _⟩ => absurd (own owner owned) (of_decide_eq_true other)⟩
  · next unclaimed =>
    rw [Except.ok.injEq, eq_comm]
    refine (and_iff_right fun owner owned => ?_).symm
    simpa using Option.filter_eq_none_iff.1 unclaimed owner owned

/-- The first account of a list can be claimed, and with it the others. -/
theorem unclaimed_cons_iff : Unclaimed id owners (account :: accounts) ↔
    (∀ owner, owners.get? account = some owner → owner = id) ∧ Unclaimed id (owners.insert account id) accounts := by
  unfold Unclaimed
  rw [List.forall_mem_cons]
  refine and_congr_right fun first => forall₂_congr fun other _ => forall_congr' fun owner => ?_
  rw [Map.get?_insert]
  by_cases same : other = account
  · rw [if_pos same, same, Option.some.injEq]
    exact ⟨fun _ h => h.symm, fun _ => first owner⟩
  · rw [if_neg same]

/-- Accounts can be given if none of them belongs to another, and then all of them have this owner, whatever was their
own before; all other accounts keep theirs. -/
theorem claimAll_eq_ok (claimed : claimAll id owners accounts = .ok owners') : Unclaimed id owners accounts ∧
    ∀ account, owners'.get? account = if account ∈ accounts then some id else owners.get? account := by
  unfold claimAll at claimed
  induction accounts generalizing owners with
  | nil =>
    cases claimed
    exact ⟨nofun, fun account => by rw [if_neg List.not_mem_nil]⟩
  | cons first rest ih =>
    obtain ⟨_, given, claimed⟩ := foldlM_cons_eq_ok_iff.1 claimed
    obtain ⟨own, rfl⟩ := claim_eq_ok_iff.1 given
    obtain ⟨unclaimed, owner⟩ := ih claimed
    refine ⟨unclaimed_cons_iff.2 ⟨own, unclaimed⟩, fun account => ?_⟩
    rw [owner, Map.get?_insert]
    by_cases among : account ∈ rest
    · rw [if_pos among, if_pos (List.mem_cons_of_mem _ among)]
    · by_cases same : account = first <;> simp [among, same]

/-! ### Adding tenants -/

variable {r : Registry} {t : Tenant}

theorem keyed_insert (r : Registry) (t : Tenant) (id : Ident) (u : Tenant)
    (found : (r.tenants.insert t.id t).get? id = some u) : u.id = id := by
  rw [Map.get?_insert] at found
  by_cases same : id = t.id
  · rw [if_pos same] at found
    cases found
    exact same.symm
  · rw [if_neg same] at found
    exact r.keyed id u found

/-- Once a tenant has its accounts and is added, the owners of accounts are tenants again. -/
theorem owned_insert (claimed : claimAll t.id r.owners t.merchantAccounts = .ok owners)
    (new : r.tenants.get? t.id = none) (account : String) (id : Ident) : owners.get? account = some id ↔
      ∃ u, (r.tenants.insert t.id t).get? id = some u ∧ account ∈ u.merchantAccounts := by
  obtain ⟨unclaimed, owner⟩ := claimAll_eq_ok claimed
  rw [owner]
  by_cases same : id = t.id
  · -- before, the new identifier owned nothing
    have unowned : r.owners.get? account ≠ some id := by
      rw [Ne, r.owned, same, new]
      rintro ⟨u, found, -⟩
      cases found
    by_cases own : account ∈ t.merchantAccounts <;> simp [Map.get?_insert, own, same, same ▸ unowned]
  · by_cases own : account ∈ t.merchantAccounts
    · -- an account of the new tenant had no other owner
      have unowned : ¬ ∃ u, r.tenants.get? id = some u ∧ account ∈ u.merchantAccounts := fun h =>
        same (unclaimed account own id ((r.owned account id).2 h))
      simpa [Map.get?_insert, own, same, eq_comm] using unowned
    · simp only [Map.get?_insert, if_neg own, if_neg same]
      exact r.owned account id

/-- Adds a tenant: first its accounts are given to it, and then its identifier must be new. -/
def add (r : Registry) (t : Tenant) : Except Failure Registry :=
  match claimed : claimAll t.id r.owners t.merchantAccounts with
  | .error f => .error f
  | .ok owners =>
    match new : r.tenants.get? t.id with
    | some _ => .error (.configuration ("tenant " ++ t.id.text ++ " is configured twice"))
    | none => .ok ⟨r.tenants.insert t.id t, owners, r.keyed_insert t, owned_insert claimed new⟩

/-- The registry of some tenants, added one by one. -/
def ofList (tenants : List Tenant) : Except Failure Registry := tenants.foldlM add empty

end Registry
end Reconciliation
