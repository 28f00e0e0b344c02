import Reconciliation.Notification.Signature
import Reconciliation.Proofs.Base64

/-!
# Signing and verifying

Signing writes a digest in base 64, verifying reads a signature and compares what it reads with the digest. Both read the
key in the same way, and a digest has only one written form, so that a signature is accepted exactly if it is the one that
would be made.

* `Hex.Pairs` is the form of the texts that are keys, and `Hex.decode?_isSome_iff` says so.
* `verify_iff_sign` says what is accepted, and that all the rest is refused.
-/

namespace Reconciliation

namespace Encoding.Hex

/-- The digits, in either case. -/
def digits : List Char := "0123456789abcdefABCDEF".toList

/-- The form of the texts that stand for bytes. -/
def Pairs (cs : List Char) : Prop := cs.length % 2 = 0 ∧ ∀ c ∈ cs, c ∈ digits

-- named, since there are other ways to decide a statement about characters
instance : DecidablePred Pairs := fun cs =>
  @instDecidableAnd _ _ _ (List.decidableBAll (· ∈ digits) cs)

set_option maxRecDepth 4000 in
theorem digit?_isSome_iff {c : Char} : (digit? c).isSome ↔ c ∈ digits := by
  have ascii : ∀ n < 128, (digit? (Char.ofNat n)).isSome ↔ Char.ofNat n ∈ digits := by decide
  have small : ∀ c ∈ digits, c.toNat < 128 := by
    have all : digits.all (·.toNat < 128) = true := by decide
    simpa only [List.all_eq_true, decide_eq_true_eq] using all
  by_cases h : c.toNat < 128
  · have := ascii c.toNat h
    rwa [Char.ofNat_toNat] at this
  · have none : digit? c = none := by
      unfold digit?
      rw [if_neg (by simp; omega), if_neg (by simp; omega), if_neg (by simp; omega)]
    rw [none]
    exact iff_of_false (by simp) fun among => h (small c among)

theorem decode?_isSome_iff : ∀ cs : List Char, (decode? cs).isSome ↔ Pairs cs
  | [] => by decide
  | [c] => by simp [decode?, Pairs]
  | a :: b :: rest => by
    have read : (decode? (a :: b :: rest)).isSome ↔ (digit? a).isSome ∧ (digit? b).isSome ∧ (decode? rest).isSome := by
      rw [decode?]
      cases digit? a <;> cases digit? b <;> cases decode? rest <;> simp
    rw [read, digit?_isSome_iff, digit?_isSome_iff, decode?_isSome_iff rest, Pairs, Pairs,
      List.forall_mem_cons, List.forall_mem_cons, List.length_cons, List.length_cons, Nat.add_assoc, Nat.add_mod_right]
    exact ⟨fun ⟨ha, hb, even, all⟩ => ⟨even, ha, hb, all⟩, fun ⟨even, ha, hb, all⟩ => ⟨ha, hb, even, all⟩⟩

end Encoding.Hex

namespace Notification.Signature

open Encoding Text

variable {secret payload signature : String}

theorem sign_isSome_iff : (sign secret payload).isSome ↔ Hex.Pairs (trim secret).toList := by
  rw [sign, Option.isSome_map, key?, Hex.decode?_isSome_iff]

/-- What is read as the digest is the text that writes it. -/
theorem verify_eq_true_iff {key : List UInt8} (h : key? secret = some key) :
    verify secret payload signature = true ↔
      trim signature = String.ofList (Base64.encode (digest key payload)) := by
  have read : verify secret payload signature = true ↔
      Base64.decode? (trim signature).toList = some (digest key payload) := by
    rw [verify, h]
    cases Base64.decode? (trim signature).toList with
    | none => simp
    | some given => simp
  rw [read, Base64.decode?_eq_some_iff]
  constructor
  · intro written
    rw [← written, String.ofList_toList]
  · intro written
    rw [written, String.toList_ofList]

theorem verify_of_no_key (h : key? secret = none) : verify secret payload signature = false := by
  rw [verify, h]

/-- The signature that is accepted is the one that is made, blanks around it apart. A key that is not written in pairs of
digits signs nothing, and neither with such a key nor in another form is anything accepted. -/
theorem verify_iff_sign (secret payload signature : String) :
    (verify secret payload signature = true ↔ ∃ s, sign secret payload = some s ∧ trim signature = s) ∧
    ((∃ s, sign secret payload = some s) ↔ Hex.Pairs (trim secret).toList) ∧
    (¬ Hex.Pairs (trim secret).toList → verify secret payload signature = false) ∧
    (¬ Base64.Canonical (trim signature).toList → verify secret payload signature = false) := by
  have same : verify secret payload signature = true ↔ ∃ s, sign secret payload = some s ∧ trim signature = s := by
    cases key : key? secret with
    | none => simp [verify_of_no_key key, sign, key]
    | some k =>
      have signed : sign secret payload = some (String.ofList (Base64.encode (digest k payload))) := by
        rw [sign, key]
        rfl
      rw [verify_eq_true_iff key, signed]
      constructor
      · exact fun written => ⟨_, rfl, written⟩
      · rintro ⟨s, same, written⟩
        exact written.trans (Option.some.inj same).symm
  have signs : (∃ s, sign secret payload = some s) ↔ Hex.Pairs (trim secret).toList := by
    rw [← Option.isSome_iff_exists, sign_isSome_iff]
  refine ⟨same, signs, fun unpaired => ?_, fun other => ?_⟩
  · refine Bool.eq_false_iff.2 fun accepted => unpaired ?_
    obtain ⟨s, signed, -⟩ := same.1 accepted
    exact signs.1 ⟨s, signed⟩
  · refine Bool.eq_false_iff.2 fun accepted => other ?_
    obtain ⟨s, signed, written⟩ := same.1 accepted
    obtain ⟨k, -, rfl⟩ := Option.map_eq_some_iff.1 signed
    rw [written, String.toList_ofList]
    exact Base64.canonical_encode _

/-- A key that can be read. -/
def sampleKey : String := "44782DEF547AAA06C910C43932B1EB0C71FC68D9D0C057550C48EC2ACF6BA056"

/-- What is signed of an authorization. -/
def samplePayload : String :=
  "7914073381342284::TestMerchant:TestPayment-1407325143704:1130:EUR:AUTHORISATION:true"

/-- A signature with blanks around it is accepted; one without its padding, one with bits that stand for no byte, and any with
a key that is no number is not. -/
theorem verify_iff_sign_of_sample :
    verify sampleKey samplePayload " coqCmt/IZ4E3CzPvMY8zTjQVL5hYJUiBRg8UU+iCWo0=\n" = true ∧
    verify sampleKey samplePayload "coqCmt/IZ4E3CzPvMY8zTjQVL5hYJUiBRg8UU+iCWo0" = false ∧
    verify sampleKey samplePayload "coqCmt/IZ4E3CzPvMY8zTjQVL5hYJUiBRg8UU+iCWo1=" = false ∧
    verify "zz-not-hex" samplePayload "coqCmt/IZ4E3CzPvMY8zTjQVL5hYJUiBRg8UU+iCWo0=" = false :=
  ⟨(verify_iff_sign _ _ _).1.2
      ⟨"coqCmt/IZ4E3CzPvMY8zTjQVL5hYJUiBRg8UU+iCWo0=", by decide +kernel, by decide +kernel⟩,
    (verify_iff_sign _ _ _).2.2.2 (by decide +kernel), (verify_iff_sign _ _ _).2.2.2 (by decide +kernel),
    (verify_iff_sign _ _ _).2.2.1 (by decide +kernel)⟩

end Notification.Signature
end Reconciliation
