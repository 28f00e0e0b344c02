import Mathlib.Data.List.Nodup
import Reconciliation.Tenant.Registry

/-!
# What a registry is made of

Tenants are added to a registry one by one. Each time the accounts of the tenant are given to it, which one that belongs
to another tenant prevents, and only then its identifier is looked at; both are compared with the tenants before alone.
That this comes to a condition on the whole list, in which the order has no part, is shown along the accounts of a
tenant and then along the list, with what both maps say of the tenants added so far as the invariant.

* `Registry.Consistent` is the condition: identifiers are distinct, and no account belongs to different tenants.
* `Registry.Represents` says that a registry has the tenants of a list; `Registry.Represents.owner_iff` is what its
  other map then says of accounts.
* `Registry.Represents.exists_add_iff` says when one more tenant may come, and `Registry.Represents.add` that the
  registry then has this one, too.
* `Registry.registry_of_tenants` is the statement about all lists and about what is looked up.
-/

namespace Reconciliation.Registry

variable {r r' : Registry} {t : Tenant} {tenants others : List Tenant} {account : String} {id : Ident}

/-- Identifiers are distinct, and tenants that own the same account have the same identifier. -/
structure Consistent (tenants : List Tenant) : Prop where
  distinct : (tenants.map (·.id)).Nodup
  unshared : ∀ t ∈ tenants, ∀ u ∈ tenants, ∀ account ∈ t.merchantAccounts,
    account ∈ u.merchantAccounts → t.id = u.id

namespace Consistent

theorem nil : Consistent [] := ⟨List.nodup_nil, nofun⟩

/-- The order makes no difference. -/
theorem perm (h : Consistent tenants) (same : tenants.Perm others) : Consistent others := by
  refine ⟨(same.map _).nodup_iff.1 h.distinct, fun t ht u hu => ?_⟩
  exact h.unshared t (same.mem_iff.2 ht) u (same.mem_iff.2 hu)

theorem of_append (h : Consistent (tenants ++ others)) : Consistent tenants := by
  refine ⟨?_, fun t ht u hu => h.unshared t (List.mem_append_left _ ht) u (List.mem_append_left _ hu)⟩
  exact (List.nodup_append.1 (List.map_append ▸ h.distinct)).1

end Consistent

/-- One more tenant may come if its identifier is new and no account of its own has an owner. -/
theorem consistent_concat_iff (h : Consistent tenants) :
    Consistent (tenants ++ [t]) ↔
      (∀ u ∈ tenants, u.id ≠ t.id) ∧ ∀ account ∈ t.merchantAccounts, ∀ u ∈ tenants, account ∉ u.merchantAccounts := by
  have added : t ∈ tenants ++ [t] := List.mem_append_right _ (List.mem_singleton_self t)
  constructor
  · intro whole
    have fresh : ∀ u ∈ tenants, u.id ≠ t.id := by
      intro u hu same
      have distinct := whole.distinct
      rw [List.map_append, List.map_singleton, List.nodup_append] at distinct
      exact distinct.2.2 u.id (List.mem_map_of_mem hu) t.id (List.mem_singleton_self _) same
    refine ⟨fresh, fun account first u hu second => fresh u hu ?_⟩
    exact whole.unshared u (List.mem_append_left _ hu) t added account second first
  · rintro ⟨fresh, unowned⟩
    refine ⟨?_, ?_⟩
    · rw [List.map_append, List.map_singleton, ← List.concat_eq_append]
      refine h.distinct.concat fun among => ?_
      obtain ⟨u, hu, same⟩ := List.mem_map.1 among
      exact fresh u hu same
    · intro u hu v hv account first second
      rcases List.mem_append.1 hu with hu | hu <;> rcases List.mem_append.1 hv with hv | hv
      · exact h.unshared u hu v hv account first second
      · rw [List.mem_singleton.1 hv] at second
        exact absurd first (unowned account second u hu)
      · rw [List.mem_singleton.1 hu] at first
        exact absurd second (unowned account first v hv)
      · rw [List.mem_singleton.1 hu, List.mem_singleton.1 hv]

/-! ### Looking up -/

/-- The account of an owner leads to a tenant that is found by its identifier. -/
theorem forAccount?_eq_some_iff :
    r.forAccount? account = some t ↔ r.forTenant? t.id = some t ∧ account ∈ t.merchantAccounts := by
  unfold forAccount? forTenant?
  rw [Option.bind_eq_some_iff]
  constructor
  · rintro ⟨id, owner, found⟩
    obtain rfl := r.keyed id t found
    obtain ⟨u, same, own⟩ := (r.owned account t.id).1 owner
    rw [found, Option.some.injEq] at same
    exact ⟨found, same ▸ own⟩
  · rintro ⟨found, own⟩
    exact ⟨t.id, (r.owned account t.id).2 ⟨t, found, own⟩, found⟩

theorem forTenant?_of_forAccount? (h : r.forAccount? account = some t) : r.forTenant? t.id = some t :=
  (forAccount?_eq_some_iff.1 h).1

/-! ### What a registry says of a list -/

/-- The registry has exactly the tenants of a list, each under its identifier. -/
structure Represents (r : Registry) (tenants : List Tenant) : Prop where
  consistent : Consistent tenants
  found : ∀ id t, r.forTenant? id = some t ↔ t ∈ tenants ∧ t.id = id
  size : r.size = tenants.length

namespace Represents

theorem empty : Represents .empty [] := ⟨.nil, fun _ _ => ⟨nofun, fun h => nomatch h.1⟩, rfl⟩

theorem forTenant?_eq_none_iff (h : r.Represents tenants) : r.forTenant? id = none ↔ ∀ t ∈ tenants, t.id ≠ id := by
  rw [Option.eq_none_iff_forall_ne_some]
  exact ⟨fun none t ht same => none t ((h.found id t).2 ⟨ht, same⟩),
    fun none t found => none t ((h.found id t).1 found).1 ((h.found id t).1 found).2⟩

theorem forAccount?_eq_some_iff (h : r.Represents tenants) :
    r.forAccount? account = some t ↔ t ∈ tenants ∧ account ∈ t.merchantAccounts := by
  rw [Registry.forAccount?_eq_some_iff, h.found, and_iff_left rfl]

theorem forAccount?_eq_none_iff (h : r.Represents tenants) :
    r.forAccount? account = none ↔ ∀ t ∈ tenants, account ∉ t.merchantAccounts := by
  rw [Option.eq_none_iff_forall_ne_some]
  exact ⟨fun none t ht own => none t (h.forAccount?_eq_some_iff.2 ⟨ht, own⟩),
    fun none t found => none t (h.forAccount?_eq_some_iff.1 found).1 (h.forAccount?_eq_some_iff.1 found).2⟩

/-- The second map says of an account which tenant of the list has it. -/
theorem owner_iff (h : r.Represents tenants) :
    r.owners.get? account = some id ↔ ∃ t ∈ tenants, t.id = id ∧ account ∈ t.merchantAccounts := by
  rw [r.owned]
  exact exists_congr fun t => by rw [← forTenant?, h.found, and_assoc]

end Represents

/-! ### Adding a tenant -/

/-- All accounts of a list can be given if none of them belongs to another. -/
theorem exists_claimAll_iff {id : Ident} {owners : Map String Ident} {accounts : List String} :
    (∃ owners', claimAll id owners accounts = .ok owners') ↔ Unclaimed id owners accounts := by
  refine ⟨fun ⟨_, claimed⟩ => (claimAll_eq_ok claimed).1, fun unclaimed => ?_⟩
  unfold claimAll
  induction accounts generalizing owners with
  | nil => exact ⟨owners, rfl⟩
  | cons first rest ih =>
    obtain ⟨own, others⟩ := unclaimed_cons_iff.1 unclaimed
    obtain ⟨owners', claimed⟩ := ih others
    exact ⟨owners', foldlM_cons_eq_ok_iff.2 ⟨_, claim_eq_ok_iff.2 ⟨own, rfl⟩, claimed⟩⟩

theorem add_eq_ok_iff : r.add t = .ok r' ↔ claimAll t.id r.owners t.merchantAccounts = .ok r'.owners ∧
    r.forTenant? t.id = none ∧ r'.tenants = r.tenants.insert t.id t := by
  unfold add forTenant?
  split
  · next claimed => simp [claimed]
  · next owners claimed =>
    split
    · next new => simp [new]
    · next new =>
      obtain ⟨tenants', owners', _, _⟩ := r'
      simp [claimed, new, and_comm, eq_comm]

/-- A tenant can be added if no account of its own belongs to another one and its identifier is new. -/
theorem exists_add_iff :
    (∃ r', r.add t = .ok r') ↔ Unclaimed t.id r.owners t.merchantAccounts ∧ r.forTenant? t.id = none := by
  rw [← exists_claimAll_iff]
  constructor
  · rintro ⟨r', added⟩
    obtain ⟨claimed, new, -⟩ := add_eq_ok_iff.1 added
    exact ⟨⟨r'.owners, claimed⟩, new⟩
  · rintro ⟨⟨owners, claimed⟩, new⟩
    exact ⟨⟨_, owners, r.keyed_insert t, owned_insert claimed new⟩, add_eq_ok_iff.2 ⟨claimed, new, rfl⟩⟩

namespace Represents

/-- What is looked at when a tenant is added comes to the condition on the list with that tenant. -/
theorem exists_add_iff (h : r.Represents tenants) : (∃ r', r.add t = .ok r') ↔ Consistent (tenants ++ [t]) := by
  rw [Registry.exists_add_iff, consistent_concat_iff h.consistent, h.forTenant?_eq_none_iff, and_comm]
  refine and_congr_right fun new => forall₂_congr fun account own => ⟨fun unclaimed u hu other => ?_, ?_⟩
  · exact new u hu (unclaimed u.id (h.owner_iff.2 ⟨u, hu, rfl, other⟩))
  · intro unowned id owner
    obtain ⟨u, hu, -, other⟩ := h.owner_iff.1 owner
    exact absurd other (unowned u hu)

/-- A registry of the tenants before becomes one of these and the added tenant. -/
theorem add (h : r.Represents tenants) (added : r.add t = .ok r') : r'.Represents (tenants ++ [t]) := by
  obtain ⟨-, new, inserted⟩ := add_eq_ok_iff.1 added
  refine ⟨h.exists_add_iff.1 ⟨r', added⟩, fun id u => ?_, ?_⟩
  · rw [forTenant?, inserted, Map.get?_insert, ← forTenant?]
    by_cases same : id = t.id
    · have others : ∀ u ∈ tenants, u.id ≠ id := same ▸ h.forTenant?_eq_none_iff.1 new
      rw [if_pos same, Option.some.injEq, List.mem_append, List.mem_singleton]
      refine ⟨fun e => e ▸ ⟨.inr rfl, same.symm⟩, fun ⟨among, own⟩ => ?_⟩
      exact (among.resolve_left fun hu => others u hu own).symm
    · rw [if_neg same, h.found, List.mem_append, List.mem_singleton]
      refine and_congr_left fun own => (or_iff_left fun e => same ?_).symm
      rw [← own, e]
  · rw [Registry.size, inserted, Map.size_insert _ _ new, ← Registry.size, h.size, List.length_append,
      List.length_singleton]

/-- Along the list, what was added so far is what the registry represents. -/
theorem foldlM_add (h : r.Represents tenants) (built : others.foldlM Registry.add r = .ok r') :
    r'.Represents (tenants ++ others) := by
  induction others generalizing r tenants with
  | nil =>
    cases built
    rwa [List.append_nil]
  | cons t rest ih =>
    obtain ⟨r₁, added, built⟩ := foldlM_cons_eq_ok_iff.1 built
    rw [List.append_cons]
    exact ih (h.add added) built

/-- All others can be added if the condition holds with all of them. -/
theorem exists_foldlM_add (h : r.Represents tenants) (consistent : Consistent (tenants ++ others)) :
    ∃ r', others.foldlM Registry.add r = .ok r' := by
  induction others generalizing r tenants with
  | nil => exact ⟨r, rfl⟩
  | cons t rest ih =>
    rw [List.append_cons] at consistent
    obtain ⟨r₁, added⟩ := h.exists_add_iff.2 consistent.of_append
    obtain ⟨r', built⟩ := ih (h.add added) consistent
    exact ⟨r', foldlM_cons_eq_ok_iff.2 ⟨r₁, added, built⟩⟩

end Represents

/-- The registry of a list represents it. -/
theorem represents_of_ofList (built : ofList tenants = .ok r) : r.Represents tenants :=
  Represents.empty.foldlM_add built

theorem exists_ofList_iff : (∃ r, ofList tenants = .ok r) ↔ Consistent tenants :=
  ⟨fun ⟨_, built⟩ => (represents_of_ofList built).consistent, Represents.empty.exists_foldlM_add⟩

/-- The registry of one tenant. -/
def single (t : Tenant) : Registry := (ofList [t]).toOption.getD .empty

theorem ofList_single (t : Tenant) : ofList [t] = .ok (single t) := by
  have consistent : Consistent [t] := (consistent_concat_iff .nil).2 ⟨nofun, fun _ _ => nofun⟩
  obtain ⟨r, built⟩ := exists_ofList_iff.2 consistent
  rw [single, built]
  rfl

theorem forAccount?_single (own : account ∈ t.merchantAccounts) : (single t).forAccount? account = some t :=
  (represents_of_ofList (ofList_single t)).forAccount?_eq_some_iff.2 ⟨List.mem_singleton_self t, own⟩

/-- A list of tenants makes a registry exactly if their identifiers are distinct and no account belongs to tenants of
different identifiers, so that the order makes no difference. The registry then finds the one tenant that owns an
account and the one with an identifier, and nothing where there is none. -/
theorem registry_of_tenants (tenants : List Tenant) :
    ((∃ r, ofList tenants = .ok r) ↔
      (tenants.map (·.id)).Nodup ∧ ∀ t ∈ tenants, ∀ u ∈ tenants, ∀ account ∈ t.merchantAccounts,
        account ∈ u.merchantAccounts → t.id = u.id) ∧
    (∀ others, tenants.Perm others → ((∃ r, ofList tenants = .ok r) ↔ ∃ r, ofList others = .ok r)) ∧
    ∀ r, ofList tenants = .ok r →
      (∀ account t, r.forAccount? account = some t ↔ t ∈ tenants ∧ account ∈ t.merchantAccounts) ∧
      (∀ account, r.forAccount? account = none ↔ ∀ t ∈ tenants, account ∉ t.merchantAccounts) ∧
      (∀ id t, r.forTenant? id = some t ↔ t ∈ tenants ∧ t.id = id) ∧
      (∀ id, r.forTenant? id = none ↔ ∀ t ∈ tenants, t.id ≠ id) ∧
      r.size = tenants.length := by
  refine ⟨?_, fun others same => ?_, fun r built => ?_⟩
  · rw [exists_ofList_iff]
    exact ⟨fun h => ⟨h.distinct, h.unshared⟩, fun ⟨distinct, unshared⟩ => ⟨distinct, unshared⟩⟩
  · rw [exists_ofList_iff, exists_ofList_iff]
    exact ⟨fun h => h.perm same, fun h => h.perm same.symm⟩
  · have represents := represents_of_ofList built
    exact ⟨fun _ _ => represents.forAccount?_eq_some_iff, fun _ => represents.forAccount?_eq_none_iff,
      represents.found, fun _ => represents.forTenant?_eq_none_iff, represents.size⟩

/-- A tenant that names an account twice. -/
def northernTenant : Tenant :=
  { Tenant.unconfigured (.given 1) with merchantAccounts := ["ShopEU", "ShopEU", "ShopDE"] }

def westernTenant : Tenant := { Tenant.unconfigured (.given 2) with merchantAccounts := ["ShopUS"] }

/-- A tenant that claims an account of the first. -/
def claimingTenant : Tenant := { Tenant.unconfigured (.given 3) with merchantAccounts := ["ShopDE"] }

/-- Two tenants make a registry in either order and are found in it; with the third there is none. -/
theorem registry_of_tenants_of_two :
    ∃ r, ofList [northernTenant, westernTenant] = .ok r ∧ (∃ r, ofList [westernTenant, northernTenant] = .ok r) ∧
      r.forAccount? "ShopDE" = some northernTenant ∧ r.forAccount? "Unknown" = none ∧
      r.forTenant? (.given 2) = some westernTenant ∧ r.size = 2 ∧
      ¬ ∃ r, ofList [northernTenant, westernTenant, claimingTenant] = .ok r := by
  obtain ⟨succeeds, order, found⟩ := registry_of_tenants [northernTenant, westernTenant]
  obtain ⟨r, built⟩ := succeeds.2 (by decide)
  obtain ⟨account, unowned, tenant, -, size⟩ := found r built
  refine ⟨r, built, (order _ (List.Perm.swap _ _ _)).1 ⟨r, built⟩, ?_, ?_, ?_, size, ?_⟩
  · exact (account _ _).2 (by decide)
  · exact (unowned _).2 (by decide)
  · exact (tenant _ _).2 (by decide)
  · rw [(registry_of_tenants _).1]
    decide

end Reconciliation.Registry
