import Mathlib.Data.Nat.Digits.Lemmas
import RequestSigning.Decimal.Text

/-!
# Decimal digits

The digits that whole numbers are written with are the digits of the number in base ten, the most
significant first.
-/

namespace RequestSigning.Decimal

variable {n : Nat}

theorem digitsOf_eq {fuel : Nat} (h : n < 2 ^ fuel) :
    digitsOf fuel n = (Nat.digits 10 n).reverse := by
  induction fuel generalizing n with
  | zero =>
    obtain rfl : n = 0 := by omega
    rfl
  | succ fuel ih =>
    by_cases hn : n = 0
    · subst hn
      rfl
    · have hdiv : n / 10 < 2 ^ fuel := by omega
      rw [digitsOf, if_neg hn, ih hdiv, Nat.digits_def' (by decide) (Nat.pos_of_ne_zero hn),
        List.reverse_cons]

theorem decimalDigits_eq (n : Nat) : decimalDigits n = (Nat.digits 10 n).reverse :=
  digitsOf_eq Nat.lt_log2_self

theorem toNat_digitChar : ∀ d < 10, (digitChar d).toNat = 48 + d := by decide

theorem isDigit_digitChar : ∀ d < 10, (digitChar d).isDigit = true := by decide

theorem digitChar_eq_zero_iff : ∀ d < 10, digitChar d = '0' ↔ d = 0 := by decide

theorem toList_natText_of_ne_zero (h : n ≠ 0) :
    (natText n).toList = (Nat.digits 10 n).reverse.map digitChar := by
  rw [natText, if_neg h, String.toList_ofList, decimalDigits_eq]

theorem isDigit_of_mem_natText {c : Char} (h : c ∈ (natText n).toList) : c.isDigit = true := by
  by_cases hn : n = 0
  · subst hn
    obtain rfl := List.mem_singleton.1 h
    rfl
  · rw [toList_natText_of_ne_zero hn] at h
    obtain ⟨d, hd, rfl⟩ := List.mem_map.1 h
    exact isDigit_digitChar d (Nat.digits_lt_base (by decide) (List.mem_reverse.1 hd))

theorem natText_ne_nil (n : Nat) : (natText n).toList ≠ [] := by
  by_cases hn : n = 0
  · subst hn
    exact List.cons_ne_nil _ _
  · rw [toList_natText_of_ne_zero hn, ne_eq, List.map_eq_nil_iff, List.reverse_eq_nil_iff]
    exact Nat.digits_ne_nil_iff_ne_zero.2 hn

/-- Only zero itself is written with a leading zero. -/
theorem eq_nil_of_natText {rest : List Char} (h : (natText n).toList = '0' :: rest) :
    rest = [] := by
  by_cases hn : n = 0
  · subst hn
    cases h
    rfl
  · have hne := Nat.digits_ne_nil_iff_ne_zero (b := 10).2 hn
    have hlast := Nat.getLast_digit_ne_zero 10 hn
    rw [toList_natText_of_ne_zero hn, ← List.dropLast_append_getLast hne, List.reverse_append,
      List.reverse_singleton, List.singleton_append, List.map_cons, List.cons.injEq,
      digitChar_eq_zero_iff _ (Nat.digits_lt_base (by decide) (List.getLast_mem hne))] at h
    exact absurd h.1 hlast

theorem length_natText_le_iff {k : Nat} (hk : 0 < k) :
    (natText n).toList.length ≤ k ↔ n < 10 ^ k := by
  by_cases hn : n = 0
  · subst hn
    exact iff_of_true hk (Nat.pow_pos (by decide))
  · rw [toList_natText_of_ne_zero hn, List.length_map, List.length_reverse]
    exact Nat.digits_length_le_iff (by decide) n

end RequestSigning.Decimal
