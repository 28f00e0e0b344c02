import Reconciliation.Gateway.Client
import Reconciliation.Proofs.Operations
import Reconciliation.Proofs.Rounding

/-!
# Requests and their amounts

All requests to the gateway go the same way: a body is built, with the amount in minor units if there is one, and sent
to an endpoint. Where the amount has no number of units, nothing is sent. But there may be no result either: an amount may
be so large that the calculation is aborted before it is seen to be out of range.

* `Exceeds.not_hasUnits`: where the calculation is aborted, the amount is indeed out of range.
* `Request.endpoint`, `Request.amount?` and `Request.body?` are the parts of a request; `perform_performed` says what is
  done with them.
* `request_returns_iff` says which requests come to a result; `greatest_aborts` is one that comes to none.
-/

namespace Reconciliation

open Number MinorUnits

/-! ### Amounts without a number of units -/

namespace Number.Decimal

theorem abs_signed (negative : Bool) (n : Nat) : |(signed negative n : ℚ)| = n := by
  rw [signed_cast]
  split <;> simp

end Number.Decimal

namespace MinorUnits

variable {amount : Decimal} {currency : String}

/-- An amount that exceeds a decimal has no more places than its currency, so that it is a whole number of units. -/
theorem Exceeds.abs_eq (h : Exceeds amount currency) :
    |amount.value * 10 ^ exponent currency| =
      (amount.digits * Nat.pow 10 (exponent currency - amount.scale) : Nat) := by
  have places : amount.scale ≤ exponent currency := by
    by_contra more
    rw [Exceeds, Nat.sub_eq_zero_of_le (not_le.1 more).le] at h
    exact absurd amount.digits_lt (not_lt.2 (h.trans_eq (Nat.mul_one _)))
  have power : (10 : ℚ) ^ exponent currency = 10 ^ (exponent currency - amount.scale) * 10 ^ amount.scale :=
    (pow_sub_mul_pow 10 places).symm
  rw [abs_mul, Decimal.value, abs_div, Decimal.mantissa, Decimal.abs_signed, abs_of_pos (by positivity),
    abs_of_pos (by positivity), power, Nat.cast_mul, Decimal.cast_power]
  field_simp

theorem Exceeds.not_hasUnits (h : Exceeds amount currency) : ¬ HasUnits amount currency := by
  rintro ⟨units, nearest⟩
  have large : ((Decimal.bound : Nat) : ℚ) ≤ |amount.value * 10 ^ exponent currency| := by
    rw [h.abs_eq]
    exact_mod_cast h
  have small : |(units.toInt : ℚ)| ≤ 2 ^ 63 := by
    have := units.le_toInt
    have := units.toInt_lt
    exact_mod_cast abs_le.2 ⟨by omega, by omega⟩
  have apart := abs_sub_abs_le_abs_sub (amount.value * 10 ^ exponent currency) units.toInt
  have near := nearest.near
  rw [show ((Decimal.bound : Nat) : ℚ) = 2 ^ 96 by norm_num [Decimal.bound]] at large
  linarith

theorem converted?_returns_iff : (∃ result, converted? amount currency = some result) ↔ ¬ Exceeds amount currency := by
  have converts := ofAmount_converts amount currency
  unfold converted?
  generalize ofAmount amount currency = result at converts
  cases converts with
  | units enough | outOfRange enough => simp [enough]
  | overflow exceeds => simp [exceeds]

theorem converted?_of_unfit (enough : ¬ Exceeds amount currency) (unfit : ¬ HasUnits amount currency) :
    converted? amount currency = some (.error (outOfRange amount currency)) := by
  have converts := ofAmount_converts amount currency
  unfold converted?
  generalize ofAmount amount currency = result at converts
  cases converts with
  | units _ nearest => exact absurd ⟨_, nearest⟩ unfit
  | outOfRange => rfl
  | overflow exceeds => exact absurd exceeds enough

end MinorUnits

namespace Gateway

open Http Json Client

namespace Request

/-- Where a request is sent, behind the address of the gateway. -/
def endpoint : Request → String
  | .authorize _ => "/payments"
  | .credit _ => "/refundWithData"
  | .capture m => modificationEndpoint m "captures"
  | .refund m => modificationEndpoint m "refunds"
  | .cancel m => modificationEndpoint m "cancels"

/-- The amount of a request with its currency; that of a modification counts only with one. -/
def amount? : Request → Option (Decimal × String)
  | .authorize o | .credit o => some (o.amount, o.currency)
  | .capture m | .refund m | .cancel m => m.amount.bind fun amount => m.currency.map (amount, ·)

/-- The body of a request, given its amount in minor units if there is one. -/
def bodyWith (units : Option (Int64 × String)) : Request → Value
  | .authorize o | .credit o => orderBody o ((units.map (·.1)).getD 0)
  | .capture m | .refund m | .cancel m => modificationBody m units

/-- The body of a request, if its amount has a number of units. -/
def body? (g : Request) : Except Flaw Value :=
  match g.amount? with
  | none => .ok (g.bodyWith none)
  | some (amount, currency) => (ofAmount amount currency).map fun units => g.bodyWith (some (units, currency))

theorem body?_of_none {g : Request} (h : g.amount? = none) : g.body? = .ok (g.bodyWith none) := by
  rw [body?, h]

theorem body?_of_units {g : Request} {amount : Decimal} {currency : String} {units : Int64}
    (h : g.amount? = some (amount, currency)) (converted : ofAmount amount currency = .ok units) :
    g.body? = .ok (g.bodyWith (some (units, currency))) := by
  rw [body?, h]
  exact congrArg (Except.map _) converted

theorem body?_of_flaw {g : Request} {amount : Decimal} {currency : String} {flaw : Flaw}
    (h : g.amount? = some (amount, currency)) (flawed : ofAmount amount currency = .error flaw) :
    g.body? = .error flaw := by
  rw [body?, h]
  exact congrArg (Except.map _) flawed

end Request

namespace Client

variable {config : Config} {g : Request} {replies : List Reply}

/-- What carrying out a request comes to: the body is sent, or there is no body for the amount. -/
inductive Performed (config : Config) (g : Request) (replies : List Reply) : Exchange Ending → Prop where
  | sent {body : Value} (built : g.body? = .ok body) :
      Performed config g replies (send config g.endpoint g.reference body replies)
  | unsent {amount : Decimal} {currency : String} {flaw : Flaw} (has : g.amount? = some (amount, currency))
      (flawed : ofAmount amount currency = .error flaw) :
      Performed config g replies ⟨[], withoutUnits amount currency flaw⟩

theorem perform_performed (config : Config) (g : Request) (replies : List Reply) :
    Performed config g replies (perform config g replies) := by
  cases g with
  | authorize o | credit o =>
    dsimp only [perform, sendOrder]
    cases converted : ofAmount o.amount o.currency with
    | ok units => exact .sent (Request.body?_of_units rfl converted)
    | error flaw => exact .unsent rfl converted
  | capture m | refund m | cancel m =>
    -- an amount without a currency is left out, and so is a currency without an amount
    rcases m with ⟨account, parent, reference, _ | amount, _ | currency⟩
    · exact .sent (Request.body?_of_none rfl)
    · exact .sent (Request.body?_of_none rfl)
    · exact .sent (Request.body?_of_none rfl)
    · dsimp only [perform, sendModification]
      cases converted : ofAmount amount currency with
      | ok units => exact .sent (Request.body?_of_units rfl converted)
      | error flaw => exact .unsent rfl converted

theorem perform_of_body {body : Value} (h : g.body? = .ok body) :
    perform config g replies = send config g.endpoint g.reference body replies := by
  have performed := perform_performed config g replies
  generalize perform config g replies = x at performed
  cases performed with
  | sent built =>
    cases h.symm.trans built
    rfl
  | unsent has flawed => cases h.symm.trans (Request.body?_of_flaw has flawed)

theorem perform_of_flaw {flaw : Flaw} (h : g.body? = .error flaw) : (perform config g replies).sent = [] := by
  have performed := perform_performed config g replies
  generalize perform config g replies = x at performed
  cases performed with
  | sent built => cases h.symm.trans built
  | unsent => rfl

theorem perform_of_none (h : g.amount? = none) : ∃ result, (perform config g replies).result = .returned result := by
  rw [perform_of_body (Request.body?_of_none h)]
  exact ⟨_, rfl⟩

/-- The requests with an amount: there is a result unless the amount exceeds a decimal, and without a number of units
nothing is sent. -/
inductive Ended (amount : Decimal) (currency : String) : Exchange Ending → Prop where
  | units {x : Exchange Ending} {result : Except Failure Answer} (has : HasUnits amount currency)
      (enough : ¬ Exceeds amount currency) (returned : x.result = .returned result) : Ended amount currency x
  | outOfRange (enough : ¬ Exceeds amount currency) :
      Ended amount currency ⟨[], .returned (.error (outOfRange amount currency))⟩
  | overflow (exceeds : Exceeds amount currency) : Ended amount currency ⟨[], .aborted overflowMessage⟩

theorem perform_ended {amount : Decimal} {currency : String} (h : g.amount? = some (amount, currency)) :
    Ended amount currency (perform config g replies) := by
  have performed := perform_performed config g replies
  have converts := ofAmount_converts amount currency
  generalize perform config g replies = x at performed
  generalize converted : ofAmount amount currency = result at converts
  cases performed with
  | sent built =>
    cases converts with
    | units enough nearest => exact .units ⟨_, nearest⟩ enough rfl
    | outOfRange | overflow => cases built.symm.trans (Request.body?_of_flaw h converted)
  | unsent has flawed =>
    cases h.symm.trans has
    cases converted.symm.trans flawed
    cases converts with
    | outOfRange enough => exact .outOfRange enough
    | overflow exceeds => exact .overflow exceeds

/-- The conversion of an amount returns unless the amount exceeds a decimal, and such an amount is out of range; an amount
that is out of range and does not exceed a decimal gives the failure that says so. A request without an amount ends with
a result. A request with an amount ends with a result unless the amount exceeds a decimal; where it is out of range,
nothing is sent, and the result is this failure or the calculation is aborted. -/
theorem request_returns_iff (amount : Decimal) (currency : String) :
    ((∃ result, converted? amount currency = some result) ↔ ¬ Exceeds amount currency) ∧
      (Exceeds amount currency → ¬ HasUnits amount currency) ∧
      (¬ Exceeds amount currency → ¬ HasUnits amount currency →
        converted? amount currency = some (.error (outOfRange amount currency))) ∧
      ∀ (config : Config) (g : Request) (replies : List Reply),
        let x := perform config g replies
        (g.amount? = none → ∃ result, x.result = .returned result) ∧
        (g.amount? = some (amount, currency) →
          ((∃ result, x.result = .returned result) ↔ ¬ Exceeds amount currency) ∧
          (Exceeds amount currency → x.sent = [] ∧ x.result = .aborted overflowMessage) ∧
          (¬ Exceeds amount currency → ¬ HasUnits amount currency →
            x.sent = [] ∧ x.result = .returned (.error (outOfRange amount currency)))) := by
  refine ⟨converted?_returns_iff, Exceeds.not_hasUnits, converted?_of_unfit, fun config g replies =>
    ⟨perform_of_none, fun h => ?_⟩⟩
  have ended : Ended amount currency (perform config g replies) := perform_ended h
  generalize perform config g replies = x at ended
  cases ended with
  | units has enough returned => simp [has, enough, returned]
  | outOfRange enough => simp [enough]
  | overflow exceeds => simp [exceeds]

/-- An order of an amount in euros. -/
def ordered (amount : Decimal) : Request := .authorize ⟨"ShopEU", "R", amount, "EUR", .null, none, false, false⟩

/-- An amount whose number of cents fits a decimal and not 64 bits. -/
def unfit : Decimal := ⟨false, Decimal.bound / 1000, 0, by decide, Nat.zero_le _⟩

/-- An order of it ends with the failure that says that it is out of range. -/
theorem request_returns_iff_of_unfit : ¬ Exceeds unfit "EUR" ∧ ¬ HasUnits unfit "EUR" ∧
    (perform .default (ordered unfit) []).sent = [] ∧
    (perform .default (ordered unfit) []).result = .returned (.error (outOfRange unfit "EUR")) := by
  have enough : ¬ Exceeds unfit "EUR" := by decide +kernel
  have misfit : ¬ HasUnits unfit "EUR" := by
    have converts := ofAmount_converts unfit "EUR"
    rw [show ofAmount unfit "EUR" = .error .outOfRange by decide +kernel] at converts
    cases converts with
    | outOfRange _ misfit => exact misfit
  obtain ⟨-, -, -, requests⟩ := request_returns_iff unfit "EUR"
  obtain ⟨-, -, ends⟩ := (requests .default (ordered unfit) []).2 rfl
  exact ⟨enough, misfit, ends enough misfit⟩

/-- The greatest decimal. -/
def greatest : Decimal := ⟨false, finest.digits, 0, finest.digits_lt, Nat.zero_le _⟩

/-- Its number of cents is out of range, but there is no failure that says so, and an order of it comes to no result. -/
theorem greatest_aborts : ¬ HasUnits greatest "EUR" ∧ converted? greatest "EUR" = none ∧
    ∀ config replies, perform config (ordered greatest) replies = ⟨[], .aborted overflowMessage⟩ := by
  have overflow : ofAmount greatest "EUR" = .error .overflow := by decide +kernel
  refine ⟨Exceeds.not_hasUnits (by decide +kernel), by rw [converted?, overflow], fun config replies => ?_⟩
  rw [ordered, perform, sendOrder, overflow]
  rfl

end Client
end Gateway
end Reconciliation
