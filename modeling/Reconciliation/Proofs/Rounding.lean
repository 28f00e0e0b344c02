import Mathlib.Algebra.Order.Field.Basic
import Mathlib.Algebra.Order.Field.Rat
import Mathlib.Tactic.FieldSimp
import Mathlib.Tactic.Linarith
import Mathlib.Tactic.NormNum
import Mathlib.Tactic.Ring
import Reconciliation.MinorUnits

/-!
# Rounding to minor units

An amount is multiplied by a power of ten and then rounded to an integer. The product may not fit 96 bits, and then it
gives up places, which rounds it a first time. But the places that it gives up are zeros, which the power of ten has
brought in, so that the amount is rounded only once.

* `Nearest` says what it is to round to an integer, halves away from zero; `Nearest.unique` that there is one way only.
* `fit_shifted` says what is left of a product that gives up places, or that the places are not enough.
* `mul?_shifted` says what is left of a product with a power of ten, `ofAmount_converts` what an amount comes to.
* `conversion_exact` is the statement about amounts, there and back.
-/

namespace Reconciliation

namespace Number

/-! ### The nearest integer -/

/-- An integer is nearest to a number; of two that are equally near, it is the one farther from zero. -/
structure Nearest (x : ℚ) (n : ℤ) : Prop where
  near : |x - n| ≤ 1 / 2
  away : |x - n| = 1 / 2 → |x| < |(n : ℚ)|

namespace Nearest

variable {x : ℚ} {n m : ℤ}

theorem intCast (n : ℤ) : Nearest n n where
  near := by simp
  away := by simp

theorem neg (h : Nearest x n) : Nearest (-x) (-n) := by
  have mirrored : |-x - ((-n : ℤ) : ℚ)| = |x - n| := by
    rw [Int.cast_neg, sub_neg_eq_add, neg_add_eq_sub, abs_sub_comm]
  refine ⟨mirrored.trans_le h.near, fun half => ?_⟩
  rw [Int.cast_neg, abs_neg, abs_neg]
  exact h.away (mirrored.symm.trans half)

/-- Two integers are nearest only if the number lies halfway between them, and then just one of them is farther from
zero. -/
theorem not_succ (hn : Nearest x n) (hm : Nearest x (n + 1)) : False := by
  have hx : x = n + 1 / 2 := by
    have := abs_le.1 hn.near
    have := abs_le.1 hm.near
    push_cast at this
    linarith
  have below := hn.away (by rw [hx, add_sub_cancel_left, abs_of_pos (by norm_num)])
  have above := hm.away (by rw [hx]; push_cast; norm_num)
  rw [hx] at below above
  push_cast at above
  rcases le_or_gt 0 n with h | h
  · have : (0 : ℚ) ≤ n := by exact_mod_cast h
    rw [abs_of_nonneg (by linarith), abs_of_nonneg this] at below
    linarith
  · have : (n : ℚ) ≤ -1 := by exact_mod_cast (by omega : n ≤ -1)
    rw [abs_of_nonpos (by linarith), abs_of_nonpos (by linarith)] at above
    linarith

theorem unique (hn : Nearest x n) (hm : Nearest x m) : n = m := by
  have close : |(n : ℚ) - m| ≤ 1 := by
    have := abs_le.1 hn.near
    have := abs_le.1 hm.near
    rw [abs_le]
    constructor <;> linarith
  have close : |n - m| ≤ 1 := by exact_mod_cast close
  obtain ⟨h₁, h₂⟩ := abs_le.1 close
  rcases lt_trichotomy n m with h | h | h
  · obtain rfl : m = n + 1 := by omega
    exact (hn.not_succ hm).elim
  · exact h
  · obtain rfl : n = m + 1 := by omega
    exact (hm.not_succ hn).elim

end Nearest

namespace Decimal

/-! ### The rounded number -/

/-- A number that is not negative is rounded down or up, as its fraction tells. -/
theorem nearest_of_fraction (q : ℕ) {x : ℚ} (h₀ : 0 ≤ x) (h₁ : x < 1) :
    Nearest (q + x) ((if 1 / 2 ≤ x then q + 1 else q : ℕ) : ℤ) := by
  have hq : (0 : ℚ) ≤ q := Nat.cast_nonneg q
  split
  · next up =>
    constructor
    · rw [abs_le]
      push_cast
      constructor <;> linarith
    · intro _
      push_cast
      rw [abs_of_nonneg (by linarith), abs_of_nonneg (by linarith)]
      linarith
  · next down =>
    have distance : |(q : ℚ) + x - ((q : ℤ) : ℚ)| < 1 / 2 := by
      rw [Int.cast_natCast, add_sub_cancel_left, abs_of_nonneg h₀]
      exact not_le.1 down
    exact ⟨distance.le, fun equal => absurd equal distance.ne⟩

theorem roundHalfUp_nearest (n : Nat) {unit : Nat} (h : 0 < unit) :
    Nearest ((n : ℚ) / unit) (roundHalfUp n unit : Nat) := by
  have hunit : (0 : ℚ) < unit := by exact_mod_cast h
  have rest : ((n % unit : Nat) : ℚ) < unit := by exact_mod_cast Nat.mod_lt n h
  have whole : (n : ℚ) / unit = (n / unit : Nat) + ((n % unit : Nat) : ℚ) / unit := by
    rw [div_eq_iff hunit.ne', add_mul, div_mul_cancel₀ _ hunit.ne']
    exact_mod_cast (Nat.div_add_mod' n unit).symm
  have half : 1 / 2 ≤ ((n % unit : Nat) : ℚ) / unit ↔ 2 * (n % unit) ≥ unit := by
    rw [div_le_div_iff₀ two_pos hunit, one_mul, mul_comm]
    exact_mod_cast Iff.rfl
  have nearest := nearest_of_fraction (n / unit) (div_nonneg (Nat.cast_nonneg (n % unit)) hunit.le)
    ((div_lt_one hunit).2 rest)
  rwa [← whole, if_congr half rfl rfl] at nearest

theorem cast_power (e : Nat) : ((Nat.pow 10 e : Nat) : ℚ) = 10 ^ e := Nat.cast_pow 10 e

/-- The number that a decimal stands for. -/
def value (d : Decimal) : ℚ := d.mantissa / 10 ^ d.scale

theorem signed_cast (negative : Bool) (n : Nat) : (signed negative n : ℚ) = if negative then -(n : ℚ) else n := by
  cases negative <;> simp [signed]

theorem rounded_nearest (d : Decimal) : Nearest d.value d.rounded := by
  have unit : 0 < Nat.pow 10 d.scale := Nat.pow_pos (by decide)
  have nearest := roundHalfUp_nearest d.digits unit
  rw [cast_power] at nearest
  unfold value mantissa rounded
  cases d.negative with
  | false => exact nearest
  | true =>
    rw [signed_cast, if_pos rfl, neg_div]
    exact nearest.neg

/-! ### Products with a power of ten -/

/-- Places are dropped exactly where they are among the zeros that the power of ten has brought in. -/
theorem dropPlaces_shifted (digits : Nat) {drop e : Nat} (h : drop ≤ e) :
    digits * Nat.pow 10 e / Nat.pow 10 drop = digits * Nat.pow 10 (e - drop) ∧
      dropPlaces (digits * Nat.pow 10 e) drop = digits * Nat.pow 10 (e - drop) := by
  have positive : 0 < Nat.pow 10 drop := Nat.pow_pos (by decide)
  have zeros : digits * Nat.pow 10 e = digits * Nat.pow 10 (e - drop) * Nat.pow 10 drop := by
    rw [Nat.mul_assoc]
    exact congrArg (digits * ·) (Nat.pow_sub_mul_pow 10 h).symm
  rw [dropPlaces, roundHalfEven, zeros, Nat.mul_div_cancel _ positive, Nat.mul_mod_left]
  refine ⟨rfl, if_neg ?_⟩
  rw [Nat.mul_zero, beq_eq_false_iff_ne.2 positive.ne]
  simp

theorem fit_step (digits : Nat) {e drop scale : Nat} (h : drop ≤ e) (hscale : drop ≤ scale) (fuel : Nat) :
    fit (digits * Nat.pow 10 e) scale (fuel + 1) drop =
      if digits * Nat.pow 10 (e - drop) < bound then some (digits * Nat.pow 10 (e - drop), scale - drop)
      else fit (digits * Nat.pow 10 e) scale fuel (drop + 1) := by
  obtain ⟨quotient, dropped⟩ := dropPlaces_shifted digits h
  rw [fit, if_neg (by omega), quotient, dropped]
  split
  · next fits => exact if_pos fits
  · rfl

/-- Digits that are shifted by a power of ten give up zeros until they fit, or there are not enough places. -/
theorem fit_shifted {digits e : Nat} (h : digits < bound) (room : Nat) {drop : Nat} (hdrop : drop ≤ e) :
    (bound ≤ digits * Nat.pow 10 (e - (drop + room)) ∧
      fit (digits * Nat.pow 10 e) (drop + room) (room + 1) drop = none) ∨
    ∃ zeros, zeros ≤ e ∧ zeros ≤ drop + room ∧ digits * Nat.pow 10 (e - zeros) < bound ∧
      fit (digits * Nat.pow 10 e) (drop + room) (room + 1) drop =
        some (digits * Nat.pow 10 (e - zeros), drop + room - zeros) := by
  induction room generalizing drop with
  | zero =>
    rw [fit_step digits hdrop (Nat.le_add_right _ _)]
    split
    · next fits => exact .inr ⟨drop, hdrop, Nat.le_add_right _ _, fits, rfl⟩
    · next tooLarge => exact .inl ⟨not_lt.1 tooLarge, rfl⟩
  | succ room ih =>
    rw [fit_step digits hdrop (Nat.le_add_right _ _)]
    split
    · next fits => exact .inr ⟨drop, hdrop, Nat.le_add_right _ _, fits, rfl⟩
    · next tooLarge =>
      -- digits that do not fit as they are have zeros left
      have more : drop < e := by
        refine lt_of_le_of_ne hdrop fun equal => tooLarge ?_
        rw [equal, Nat.sub_self]
        exact (Nat.mul_one digits).trans_lt h
      rw [show drop + (room + 1) = drop + 1 + room by omega]
      exact ih more

/-- A product with a power of ten: it is exact, or there is none. -/
inductive Shifted (a : Decimal) (e : Nat) : Option Decimal → Prop where
  | exact {p : Decimal} (fits : a.digits * Nat.pow 10 (e - a.scale) < bound) (value : p.value = a.value * 10 ^ e) :
      Shifted a e (some p)
  | missing (tooLarge : bound ≤ a.digits * Nat.pow 10 (e - a.scale)) : Shifted a e none

/-- Zeros at the end of the digits count for nothing if as many places are given up. -/
theorem value_shifted {a p : Decimal} {e zeros : Nat} (he : zeros ≤ e) (hs : zeros ≤ a.scale)
    (negative : p.negative = a.negative) (digits : p.digits = a.digits * Nat.pow 10 (e - zeros))
    (scale : p.scale = a.scale - zeros) : p.value = a.value * 10 ^ e := by
  have places : (10 : ℚ) ^ a.scale = 10 ^ (a.scale - zeros) * 10 ^ zeros := (pow_sub_mul_pow 10 hs).symm
  have power : (10 : ℚ) ^ e = 10 ^ (e - zeros) * 10 ^ zeros := (pow_sub_mul_pow 10 he).symm
  unfold value mantissa
  rw [negative, digits, scale, places, power, signed_cast, signed_cast, Nat.cast_mul, cast_power]
  split <;> field_simp

theorem mul?_shifted (a : Decimal) {f : Decimal} {e : Nat} (negative : f.negative = false)
    (digits : f.digits = Nat.pow 10 e) (scale : f.scale = 0) : Shifted a e (a.mul? f) := by
  have positive : f.digits ≠ 0 := by
    rw [digits]
    exact (Nat.pow_pos (by decide)).ne'
  unfold mul?
  by_cases zero : a.digits = 0
  · rw [if_pos (by simp [zero])]
    refine .exact (by rw [zero, Nat.zero_mul]; decide) ?_
    simp [value, mantissa, signed, zero]
  · rw [if_neg (by simp [zero, positive])]
    have shifted := fit_shifted (e := e) a.digits_lt a.scale (Nat.zero_le e)
    rw [Nat.zero_add] at shifted
    dsimp only
    rw [digits, scale, negative, Nat.add_zero, Nat.sub_eq_zero_of_le a.scale_le, Bool.bne_false]
    rcases shifted with ⟨tooLarge, none⟩ | ⟨zeros, he, hs, fits, some⟩
    · rw [none]
      exact .missing tooLarge
    · rw [some]
      have enough : a.digits * Nat.pow 10 (e - a.scale) < bound :=
        (Nat.mul_le_mul_left _ (Nat.pow_le_pow_right (by decide) (by omega))).trans_lt fits
      have placed : a.scale - zeros ≤ maxScale := (Nat.sub_le _ _).trans a.scale_le
      dsimp only
      rw [ofParts?, make?, dif_pos ⟨fits, placed⟩]
      exact .exact enough (value_shifted he hs (by simp [zero]) rfl rfl)

end Decimal
end Number

namespace MinorUnits

open Number

/-- What is returned for an amount: the number of its units, or the failure that says that it is out of range. Where the
calculation is aborted, nothing is returned. -/
def converted? (amount : Decimal) (currency : String) : Option (Except Failure Int64) :=
  match ofAmount amount currency with
  | .ok units => some (.ok units)
  | .error .outOfRange => some (.error (outOfRange amount currency))
  | .error .overflow => none

theorem fits_iff {n : ℤ} : fits n = true ↔ -2 ^ 63 ≤ n ∧ n < 2 ^ 63 := by
  unfold fits
  rw [Bool.and_eq_true, decide_eq_true_iff, decide_eq_true_iff, minInt64, maxInt64]
  omega

theorem toInt_ofInt {n : ℤ} (h : fits n = true) : (Int64.ofInt n).toInt = n :=
  Int64.toInt_ofInt_of_le (fits_iff.1 h).1 (fits_iff.1 h).2

theorem fits_toInt (units : Int64) : fits units.toInt = true := fits_iff.2 ⟨units.le_toInt, units.toInt_lt⟩

theorem factor?_eq (currency : String) : ∃ f, factor? currency = some f ∧ f.negative = false ∧
    f.digits = Nat.pow 10 (exponent currency) ∧ f.scale = 0 := by
  have small : Nat.pow 10 (exponent currency) < Decimal.bound :=
    (Nat.pow_le_pow_right (by decide) (exponent_le currency)).trans_lt (by decide)
  refine ⟨⟨false, Nat.pow 10 (exponent currency), 0, small, Nat.zero_le _⟩, ?_, rfl, rfl, rfl⟩
  exact dif_pos ⟨small, Nat.zero_le _⟩

/-- An amount in minor units does not even fit a decimal without places. -/
def Exceeds (amount : Decimal) (currency : String) : Prop :=
  Decimal.bound ≤ amount.digits * Nat.pow 10 (exponent currency - amount.scale)

instance (amount : Decimal) (currency : String) : Decidable (Exceeds amount currency) :=
  inferInstanceAs (Decidable (_ ≤ _))

/-- The amount times the power of ten of its currency, rounded to the nearest integer, fits 64 bits. -/
def HasUnits (amount : Decimal) (currency : String) : Prop :=
  ∃ units : Int64, Nearest (amount.value * 10 ^ exponent currency) units.toInt

/-- What the conversion of an amount comes to. -/
inductive Converts (amount : Decimal) (currency : String) : Except Flaw Int64 → Prop where
  | units {units : Int64} (enough : ¬ Exceeds amount currency)
      (nearest : Nearest (amount.value * 10 ^ exponent currency) units.toInt) : Converts amount currency (.ok units)
  | outOfRange (enough : ¬ Exceeds amount currency) (unfit : ¬ HasUnits amount currency) :
      Converts amount currency (.error .outOfRange)
  | overflow (exceeds : Exceeds amount currency) : Converts amount currency (.error .overflow)

theorem ofAmount_converts (amount : Decimal) (currency : String) :
    Converts amount currency (ofAmount amount currency) := by
  obtain ⟨f, hf, negative, digits, scale⟩ := factor?_eq currency
  have shifted := amount.mul?_shifted negative digits scale
  unfold ofAmount
  rw [hf, Option.bind_some]
  generalize amount.mul? f = product at shifted
  cases shifted with
  | missing tooLarge => exact .overflow tooLarge
  | @exact p enough value =>
    have nearest : Nearest (amount.value * 10 ^ exponent currency) p.rounded := value ▸ p.rounded_nearest
    dsimp only
    split
    · next fit => exact .units (not_le.2 enough) ((toInt_ofInt fit).symm ▸ nearest)
    · next unfit =>
      refine .outOfRange (not_le.2 enough) ?_
      rintro ⟨units, other⟩
      exact unfit (nearest.unique other ▸ fits_toInt units)

theorem value_toAmount (units : Int64) (currency : String) :
    (toAmount units currency).value * 10 ^ exponent currency = units.toInt := by
  have mantissa : (toAmount units currency).mantissa = units.toInt := by
    simp only [Decimal.mantissa, Decimal.signed, toAmount, decide_eq_true_eq]
    split <;> omega
  rw [Decimal.value, mantissa]
  exact div_mul_cancel₀ _ (pow_ne_zero _ (by norm_num))

theorem converted?_toAmount (units : Int64) (currency : String) :
    converted? (toAmount units currency) currency = some (.ok units) := by
  have nearest := Nearest.intCast units.toInt
  rw [← value_toAmount units currency] at nearest
  have converts := ofAmount_converts (toAmount units currency) currency
  unfold converted?
  generalize ofAmount (toAmount units currency) currency = result at converts
  cases converts with
  | units _ other => rw [Int64.toInt_inj.1 (other.unique nearest)]
  | outOfRange _ unfit => exact absurd ⟨units, nearest⟩ unfit
  | overflow exceeds =>
    rw [Exceeds, show exponent currency - (toAmount units currency).scale = 0 from Nat.sub_self _] at exceeds
    exact absurd (toAmount units currency).digits_lt (not_lt.2 (exceeds.trans_eq (Nat.mul_one _)))

/-- Where the conversion returns, it returns a number of units if and only if this is the amount times the power of ten
of its currency, rounded to the nearest integer, halves away from zero; and it returns the failure if and only if that
integer does not fit. A number of units is the same again once it has been an amount. -/
theorem conversion_exact (amount : Decimal) (currency : String) :
    (∀ result, converted? amount currency = some result →
      (∀ n : Int64, result = .ok n ↔ Nearest (amount.value * 10 ^ exponent currency) n.toInt) ∧
      (result = .error (outOfRange amount currency) ↔ ¬ HasUnits amount currency)) ∧
    ∀ units : Int64, converted? (toAmount units currency) currency = some (.ok units) := by
  refine ⟨fun result returns => ?_, fun units => converted?_toAmount units currency⟩
  have converts := ofAmount_converts amount currency
  unfold converted? at returns
  generalize ofAmount amount currency = x at converts returns
  cases converts with
  | @units units _ nearest =>
    cases returns
    refine ⟨fun n => ⟨?_, fun other => ?_⟩, by simpa using ⟨units, nearest⟩⟩
    · rintro ⟨⟩
      exact nearest
    · rw [Int64.toInt_inj.1 (nearest.unique other)]
  | outOfRange _ unfit =>
    cases returns
    exact ⟨fun n => ⟨fun h => (nomatch h), fun other => absurd ⟨n, other⟩ unfit⟩, by simp [unfit]⟩
  | overflow => cases returns

/-- An amount of the most digits and the most places, a little less than eight. -/
def finest : Decimal := ⟨false, Decimal.bound - 1, Decimal.maxScale, by decide, by decide⟩

/-- In thousandths, its product does not fit 96 bits and gives up three places. -/
theorem conversion_exact_of_finest :
    converted? finest "KWD" = some (.ok 7923) ∧
      Nearest (finest.value * 10 ^ exponent "KWD") (7923 : Int64).toInt ∧
      converted? (toAmount 7923 "KWD") "KWD" = some (.ok 7923) := by
  have returns : converted? finest "KWD" = some (.ok 7923) := by decide +kernel
  obtain ⟨exact, back⟩ := conversion_exact finest "KWD"
  exact ⟨returns, ((exact _ returns).1 7923).1 rfl, back 7923⟩

end MinorUnits
end Reconciliation
