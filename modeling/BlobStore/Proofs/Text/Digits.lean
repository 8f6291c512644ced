import Mathlib
import BlobStore.Text.Digits

/-!
# Decimal digits

The digits of a number are decimal digits that spell it, and the first one is no zero unless the
number is.
-/

namespace BlobStore.Text

theorem isDecimalDigit_of_mem_digits {n : Nat} {c : Char} (h : c ∈ digits 10 n) :
    isDecimalDigit c = true := by
  have hdigit := Nat.isDigit_of_mem_toDigits (by decide) (by decide) h
  simp only [Char.isDigit, Bool.and_eq_true, decide_eq_true_eq] at hdigit
  simp only [isDecimalDigit, Bool.and_eq_true, decide_eq_true_eq]
  exact hdigit

theorem digitValue?_of_isDecimalDigit {c : Char} (h : isDecimalDigit c = true) :
    digitValue? 10 c = some (c.toNat - '0'.toNat) := by
  simp only [isDecimalDigit, Bool.and_eq_true, decide_eq_true_eq] at h
  have hhigh : c.toNat ≤ 57 := h.2
  have hlow : c.toNat - '0'.toNat < 10 := by
    have : '0'.toNat = 48 := rfl
    omega
  simp only [digitValue?, if_pos h, if_pos hlow]

theorem valueFrom_eq_ofDigitChars {ds : List Char} (h : ∀ c ∈ ds, isDecimalDigit c = true)
    (start : Nat) : valueFrom 10 start ds = Nat.ofDigitChars 10 ds start := by
  induction ds generalizing start with
  | nil => rfl
  | cons c ds ih =>
    obtain ⟨hc, hds⟩ := List.forall_mem_cons.mp h
    have hstep : valueFrom 10 start (c :: ds) =
        valueFrom 10 (start * 10 + (c.toNat - '0'.toNat)) ds := by
      simp only [valueFrom, List.foldl_cons, digitValue?_of_isDecimalDigit hc, Option.getD_some]
    rw [hstep, ih hds, Nat.ofDigitChars_cons, Nat.mul_comm]

theorem decimalValue_digits (n : Nat) : decimalValue (digits 10 n) = n := by
  rw [decimalValue, valueFrom_eq_ofDigitChars fun c hc => isDecimalDigit_of_mem_digits hc]
  exact Nat.ofDigitChars_ten_toDigits

theorem exists_digits_cons (n : Nat) :
    ∃ c ds, digits 10 n = c :: ds ∧ isDecimalDigit c = true := by
  obtain ⟨c, ds, hds⟩ := List.exists_cons_of_ne_nil (Nat.toDigits_ne_nil (b := 10) (n := n))
  refine ⟨c, ds, hds, isDecimalDigit_of_mem_digits (n := n) ?_⟩
  rw [digits, hds]
  exact List.mem_cons_self

theorem exists_digits_of_pos {n : Nat} (h : 0 < n) : ∃ c ds, digits 10 n = c :: ds ∧ c ≠ '0' := by
  induction n using Nat.strongRecOn with
  | ind n ih =>
    have hfirst : ∀ d < 10, 0 < d → Nat.digitChar d ≠ '0' := by decide
    by_cases hn : n < 10
    · exact ⟨n.digitChar, [], Nat.toDigits_of_lt_base hn, hfirst n hn h⟩
    · obtain ⟨c, ds, hds, hc⟩ := ih (n / 10) (by omega) (by omega)
      refine ⟨c, ds ++ [(n % 10).digitChar], ?_, hc⟩
      have hsplit : digits 10 n = digits 10 (n / 10) ++ [(n % 10).digitChar] :=
        Nat.toDigits_of_base_le (by decide) (by omega)
      rw [hsplit, hds, List.cons_append]

end BlobStore.Text
