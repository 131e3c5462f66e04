import EventScript.Proofs.Text.Argument
import EventScript.Text.Digit
import Mathlib.Data.List.Induction

/-! Integers in decimal. What is written of an integer is a literal with its value. -/

namespace EventScript.Text

def decimal (n : Int) : List Char := (toString n).toList

lemma decimal_ofNat (n : Nat) : decimal n = Nat.toDigits 10 n := Nat.toList_repr

lemma decimal_negSucc (n : Nat) : decimal (.negSucc n) = '-' :: Nat.toDigits 10 (n + 1) := by
  change ("-" ++ Nat.repr (n + 1)).toList = _
  rw [String.toList_append, Nat.toList_repr]
  rfl

lemma isAsciiDigit_iff {c : Char} : isAsciiDigit c = true ↔ 0x30 ≤ c.toNat ∧ c.toNat ≤ 0x39 := by
  simp only [isAsciiDigit, Bool.and_eq_true, decide_eq_true_eq, Char.le_def,
    UInt32.le_iff_toNat_le]
  rfl

lemma isWordChar_iff {c : Char} : isWordChar c = true ↔
    (0x41 ≤ c.toNat ∧ c.toNat ≤ 0x5A) ∨ (0x61 ≤ c.toNat ∧ c.toNat ≤ 0x7A) ∨
      isAsciiDigit c = true ∨ c = '_' := by
  simp only [isWordChar, Bool.or_eq_true, Bool.and_eq_true, decide_eq_true_eq, Char.le_def,
    UInt32.le_iff_toNat_le, beq_iff_eq, or_assoc]
  rfl

lemma not_isWordChar_of_isBlank {c : Char} (h : isBlank c = true) : isWordChar c = false := by
  refine Bool.eq_false_iff.mpr fun hw => ?_
  rw [isWordChar_iff, isAsciiDigit_iff, ← Char.toNat_inj] at hw
  have hunderscore : '_'.toNat = 0x5F := rfl
  simp [isBlank] at h
  omega

lemma isAsciiDigit_of_mem {n : Nat} {c : Char} (h : c ∈ Nat.toDigits 10 n) :
    isAsciiDigit c = true := by
  have hd := Nat.isDigit_of_mem_toDigits (by decide) (by decide) h
  rw [isAsciiDigit_iff]
  simpa [Char.isDigit, UInt32.le_iff_toNat_le] using hd

lemma digitValue?_of_isAsciiDigit {c : Char} (h : isAsciiDigit c = true) :
    digitValue? c = some (c.toNat - '0'.toNat) := by
  obtain ⟨hleast, hmost⟩ := isAsciiDigit_iff.mp h
  obtain ⟨rest, hzeros⟩ : ∃ rest, zeroDigits = 0x30 :: rest := ⟨_, rfl⟩
  rw [digitValue?, hzeros, List.find?_cons_of_pos (by simp; omega)]
  rfl

lemma digitsValue_eq_ofDigitChars {cs : List Char} (h : ∀ c ∈ cs, isAsciiDigit c = true) :
    digitsValue cs = Nat.ofDigitChars 10 cs 0 := by
  have hfold (n : Nat) : cs.foldl (fun n c => 10 * n + (digitValue? c).getD 0) n =
      Nat.ofDigitChars 10 cs n := by
    unfold Nat.ofDigitChars
    induction cs generalizing n with
    | nil => rfl
    | cons c cs ih =>
      obtain ⟨hc, hcs⟩ := List.forall_mem_cons.mp h
      simp only [List.foldl_cons, digitValue?_of_isAsciiDigit hc, Option.getD_some]
      exact ih hcs _
  exact hfold 0

lemma digitsValue_toDigits (n : Nat) : digitsValue (Nat.toDigits 10 n) = n := by
  rw [digitsValue_eq_ofDigitChars fun _ => isAsciiDigit_of_mem]
  exact Nat.ofDigitChars_ten_toDigits

lemma digitsValue_lt {cs : List Char} (h : ∀ c ∈ cs, isAsciiDigit c = true) :
    digitsValue cs < pow10 cs.length := by
  induction cs using List.reverseRecOn with
  | nil => exact Nat.zero_lt_one
  | append_singleton cs c ih =>
    have hc : isAsciiDigit c = true := h c (by simp)
    have hcs := ih fun d hd => h d (by simp [hd])
    have hnine : c.toNat - '0'.toNat ≤ 9 := by
      have := isAsciiDigit_iff.mp hc
      have hzero : '0'.toNat = 0x30 := rfl
      omega
    have hlast : digitsValue (cs ++ [c]) = 10 * digitsValue cs + (c.toNat - '0'.toNat) := by
      simp [digitsValue, digitValue?_of_isAsciiDigit hc]
    rw [hlast, List.length_append, List.length_singleton, pow10_succ]
    omega

lemma splitSign_decimal (n : Int) :
    splitSign (decimal n) = (decide (n < 0), Nat.toDigits 10 n.natAbs) := by
  cases n with
  | ofNat n =>
    have hsign (c : Char) (hc : c ∈ Nat.toDigits 10 n) : c ≠ '+' ∧ c ≠ '-' := by
      have hd := isAsciiDigit_of_mem hc
      constructor <;>
        · rintro rfl
          revert hd
          decide
    rw [Int.ofNat_eq_natCast, decimal_ofNat, Int.natAbs_natCast]
    cases hds : Nat.toDigits 10 n with
    | nil => exact absurd hds Nat.toDigits_ne_nil
    | cons c cs =>
      obtain ⟨hplus, hminus⟩ := hsign c (hds ▸ List.mem_cons_self)
      unfold splitSign
      split <;> simp_all
  | negSucc n =>
    rw [decimal_negSucc]
    simp [splitSign, Int.negSucc_lt_zero]

lemma isIntegerLiteral_decimal (n : Int) : isIntegerLiteral (decimal n) = true := by
  simp [isIntegerLiteral, splitSign_decimal, Nat.toDigits_ne_nil]
  exact fun _ => isAsciiDigit_of_mem

lemma literalTooLong_decimal {n : Int} (h : (Nat.toDigits 10 n.natAbs).length ≤ digitLimit) :
    literalTooLong (decimal n) = false := by
  simpa [literalTooLong, splitSign_decimal] using h

lemma literalValue_decimal (n : Int) : literalValue (decimal n) = n := by
  simp only [literalValue, splitSign_decimal, digitsValue_toDigits, decide_eq_true_eq]
  split <;> omega

lemma mem_of_isIntegerLiteral {cs : List Char} (h : isIntegerLiteral cs = true) {c : Char}
    (hc : c ∈ cs) : c = '+' ∨ c = '-' ∨ isAsciiDigit c = true := by
  simp only [isIntegerLiteral, Bool.and_eq_true, List.all_eq_true] at h
  unfold splitSign at h
  split at h
  · exact (List.mem_cons.mp hc).imp_right fun hc => .inr (h.2 c hc)
  · exact .inr ((List.mem_cons.mp hc).imp_right (h.2 c))
  · exact .inr (.inr (h.2 c hc))

lemma pow10_le {j k : Nat} (h : j ≤ k) : pow10 j ≤ pow10 k := Nat.pow_le_pow_right (by decide) h

lemma exceedsDigitLimit_literalValue {cs : List Char} (h : isIntegerLiteral cs = true)
    (hshort : literalTooLong cs = false) : exceedsDigitLimit (literalValue cs) = false := by
  obtain ⟨minus, ds, hsplit⟩ : ∃ minus ds, splitSign cs = (minus, ds) := ⟨_, _, rfl⟩
  simp only [isIntegerLiteral, hsplit, Bool.and_eq_true, List.all_eq_true] at h
  simp only [literalTooLong, hsplit, decide_eq_false_iff_not, Nat.not_lt] at hshort
  have hvalue : (literalValue cs).natAbs = digitsValue ds := by
    rw [literalValue, hsplit]
    cases minus <;> simp
  have hlt : digitsValue ds < pow10 digitLimit :=
    Nat.lt_of_lt_of_le (digitsValue_lt h.2) (pow10_le hshort)
  unfold exceedsDigitLimit
  exact decide_eq_false (hvalue ▸ Nat.not_le_of_lt hlt)

lemma exceedsDigitLimit_between {lo n hi : Int} (hlo : lo ≤ n) (hhi : n ≤ hi)
    (hleast : exceedsDigitLimit lo = false) (hmost : exceedsDigitLimit hi = false) :
    exceedsDigitLimit n = false := by
  unfold exceedsDigitLimit at *
  rw [decide_eq_false_iff_not] at *
  omega

lemma isIntegerLiteral_ne_nil {cs : List Char} (h : isIntegerLiteral cs = true) : cs ≠ [] := by
  rintro rfl
  simp [isIntegerLiteral, splitSign] at h

end EventScript.Text
