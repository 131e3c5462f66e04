import EventScript.Proofs.Command.Condition

/-! What a condition says. Its text is a comparison in exactly one way or in none, and it holds
where the variable is defined and the comparison is true of it. -/

namespace EventScript

/-- What the comparator says of two integers. -/
def Comparator.Relates : Comparator → Int → Int → Prop
  | eq, a, b => a = b
  | gt, a, b => a > b
  | ge, a, b => a ≥ b
  | lt, a, b => a < b
  | le, a, b => a ≤ b
  | ne, a, b => a ≠ b

lemma Comparator.holds_iff {op : Comparator} {a b : Int} :
    op.holds a b = true ↔ op.Relates a b := by
  cases op <;> simp [holds, Relates]

namespace Condition

open Text

/-- The literal has these digits, behind a sign or none, and this value. -/
inductive Denotes (digits : List Char) : List Char → Int → Prop
  | unsigned : Denotes digits digits (Nat.ofDigitChars 10 digits 0)
  | plus : Denotes digits ('+' :: digits) (Nat.ofDigitChars 10 digits 0)
  | minus : Denotes digits ('-' :: digits) (-Nat.ofDigitChars 10 digits 0)

/-- The text compares a variable with an integer that is written with these digits. -/
structure Says (cs x : List Char) (op : Comparator) (digits : List Char) (n : Int) : Prop where
  name : ∃ y, x = '$' :: y ∧ y ≠ [] ∧ ∀ c ∈ y, isWordChar c = true
  digits_ne_nil : digits ≠ []
  ascii : ∀ d ∈ digits, isAsciiDigit d = true
  parts : ∃ literal w₁ w₂ w₃ w₄, Denotes digits literal n ∧ Blank w₁ ∧ Blank w₂ ∧ Blank w₃ ∧
    Blank w₄ ∧ cs = w₁ ++ (x ++ w₂ ++ op.text.toList ++ w₃ ++ literal) ++ w₄

section Says

variable {cs x digits literal : List Char} {op : Comparator} {n : Int}

lemma splitSign_of_ascii (h : ∀ d ∈ digits, isAsciiDigit d = true) :
    splitSign digits = (false, digits) := by
  unfold splitSign
  split
  · exact absurd (h '+' List.mem_cons_self) (by decide)
  · exact absurd (h '-' List.mem_cons_self) (by decide)
  · rfl

lemma Denotes.splitSign_eq (h : Denotes digits literal n)
    (hd : ∀ d ∈ digits, isAsciiDigit d = true) :
    (splitSign literal).2 = digits ∧ literalValue literal = n := by
  have hvalue := digitsValue_eq_ofDigitChars hd
  cases h with
  | unsigned => simp [literalValue, splitSign_of_ascii hd, hvalue]
  | plus => simp [literalValue, splitSign, hvalue]
  | minus => simp [literalValue, splitSign, hvalue]

lemma denotes_of_isIntegerLiteral (hd : ∀ d ∈ (splitSign literal).2, isAsciiDigit d = true) :
    Denotes (splitSign literal).2 literal (literalValue literal) := by
  have hvalue := digitsValue_eq_ofDigitChars hd
  unfold literalValue
  unfold splitSign at hd hvalue ⊢
  split <;> simp_all
  · exact .plus
  · exact .minus
  · exact .unsigned

lemma says_iff : Says cs x op digits n ↔ ∃ literal, Compares cs x op literal ∧
    (splitSign literal).2 = digits ∧ literalValue literal = n := by
  constructor
  · rintro ⟨hx, hne, hd, literal, w₁, w₂, w₃, w₄, hliteral, hparts⟩
    obtain ⟨hdigits, hn⟩ := hliteral.splitSign_eq hd
    refine ⟨literal, ⟨isVariable_iff.mpr hx, ?_, w₁, w₂, w₃, w₄, hparts⟩, hdigits, hn⟩
    simpa [isIntegerLiteral, hdigits, List.isEmpty_eq_false_iff] using ⟨hne, hd⟩
  · rintro ⟨literal, ⟨hx, hliteral, w₁, w₂, w₃, w₄, hparts⟩, rfl, rfl⟩
    obtain ⟨hne, hd⟩ : (splitSign literal).2 ≠ [] ∧
        ∀ d ∈ (splitSign literal).2, isAsciiDigit d = true := by
      simpa [isIntegerLiteral, List.isEmpty_eq_false_iff] using hliteral
    exact ⟨isVariable_iff.mp hx, hne, hd, literal, w₁, w₂, w₃, w₄, denotes_of_isIntegerLiteral hd,
      hparts⟩

lemma Says.unique {y es : List Char} {op' : Comparator} {m : Int} (h : Says cs x op digits n)
    (h' : Says cs y op' es m) : x = y ∧ op = op' ∧ digits = es ∧ n = m := by
  obtain ⟨literal, hcompares, rfl, rfl⟩ := says_iff.mp h
  obtain ⟨literal', hcompares', rfl, rfl⟩ := says_iff.mp h'
  have hcut := hcompares.cut_eq.symm.trans hcompares'.cut_eq
  simp only [Prod.mk.injEq] at hcut
  obtain ⟨rfl, hop, rfl⟩ := hcut
  have hsome := (ofText?_text op).symm.trans
    ((congrArg Comparator.ofText? (String.toList_injective hop)).trans (ofText?_text op'))
  exact ⟨rfl, Option.some.inj hsome, rfl, rfl⟩

lemma Says.parse_eq (h : Says cs x op digits n) : parse cs =
    if digitLimit < digits.length then .error .tooManyDigits
    else .ok (compare (String.ofList x) op n) := by
  obtain ⟨literal, hcompares, rfl, rfl⟩ := says_iff.mp h
  simp [hcompares.parse_eq, literalTooLong]

lemma parse_cases (cs : List Char) :
    (∃ x op digits n, Says cs x op digits n) ∨
      (∀ x op digits n, ¬ Says cs x op digits n) ∧ parse cs = .ok never := by
  by_cases h : ∃ x op digits n, Says cs x op digits n
  · exact .inl h
  · simp only [not_exists] at h
    refine .inr ⟨h, parse_eq_never fun x op literal hcompares => ?_⟩
    exact h x op _ _ (says_iff.mpr ⟨literal, hcompares, rfl, rfl⟩)

lemma parse_eq_compare_iff {v : String} : parse cs = .ok (compare v op n) ↔
    ∃ digits, Says cs v.toList op digits n ∧ digits.length ≤ digitLimit := by
  constructor
  · intro hok
    rcases parse_cases cs with ⟨x, op', digits, m, h⟩ | ⟨-, hnever⟩
    · have hparse := h.parse_eq
      split at hparse
      · cases hok.symm.trans hparse
      · next hshort =>
        obtain ⟨rfl, rfl, rfl⟩ := compare.inj (Except.ok.inj (hok.symm.trans hparse))
        exact ⟨digits, by rwa [String.toList_ofList], Nat.le_of_not_lt hshort⟩
    · cases hok.symm.trans hnever
  · rintro ⟨digits, h, hshort⟩
    rw [h.parse_eq, if_neg (Nat.not_lt.mpr hshort), String.ofList_toList]

lemma parse_eq_never_iff : parse cs = .ok never ↔ ∀ x op digits n, ¬ Says cs x op digits n := by
  rcases parse_cases cs with ⟨x, op, digits, n, h⟩ | ⟨hnot, hnever⟩
  · refine ⟨fun hok => ?_, fun hnot => absurd h (hnot x op digits n)⟩
    have hparse := hok.symm.trans h.parse_eq
    split at hparse <;> cases hparse
  · exact ⟨fun _ => hnot, fun _ => hnever⟩

lemma parse_eq_error_iff {f : Fault} : parse cs = .error f ↔ f = .tooManyDigits ∧
    ∃ x op digits n, Says cs x op digits n ∧ digitLimit < digits.length := by
  constructor
  · intro herror
    rcases parse_cases cs with ⟨x, op, digits, n, h⟩ | ⟨-, hnever⟩
    · have hparse := herror.symm.trans h.parse_eq
      split at hparse
      · next hlong => exact ⟨Except.error.inj hparse, x, op, digits, n, h, hlong⟩
      · cases hparse
    · cases herror.symm.trans hnever
  · rintro ⟨rfl, x, op, digits, n, h, hlong⟩
    rw [h.parse_eq, if_pos hlong]

lemma holds_iff {v : String} {s : Store} : (compare v op n).holds s = true ↔
    ∃ value, Ledger.get? s v = some value ∧ op.Relates value n := by
  cases h : Ledger.get? s v with
  | none => simp [holds, h]
  | some value => simp [holds, h, Comparator.holds_iff]

lemma Says.evaluate_eq (h : Says cs x op digits n) (hshort : digits.length ≤ digitLimit)
    (s : Store) : evaluate cs s = .ok ((compare (String.ofList x) op n).holds s) := by
  rw [evaluate, h.parse_eq, if_neg (Nat.not_lt.mpr hshort)]
  rfl

end Says

/-- A condition is read as a comparison if it has the form of one, and never holds if it has not; a
literal of too many digits alone is refused. -/
theorem parse_says (cs : List Char) :
    (∀ v op n, parse cs = .ok (compare v op n) ↔
      ∃ digits, Says cs v.toList op digits n ∧ digits.length ≤ digitLimit) ∧
    (parse cs = .ok never ↔ ∀ x op digits n, ¬ Says cs x op digits n) ∧
    (∀ f, parse cs = .error f ↔ f = .tooManyDigits ∧
      ∃ x op digits n, Says cs x op digits n ∧ digitLimit < digits.length) ∧
    ∀ s : Store, (∀ x op digits n, Says cs x op digits n → digits.length ≤ digitLimit) →
      ∃ b, evaluate cs s = .ok b ∧ (b = true ↔ ∃ v op digits n value,
        Says cs (String.toList v) op digits n ∧ Ledger.get? s v = some value ∧
          op.Relates value n) := by
  refine ⟨fun v op n => parse_eq_compare_iff, parse_eq_never_iff, fun f => parse_eq_error_iff,
    fun s hshort => ?_⟩
  rcases parse_cases cs with ⟨x, op, digits, n, h⟩ | ⟨hnot, hnever⟩
  · refine ⟨_, h.evaluate_eq (hshort x op digits n h) s, holds_iff.trans ⟨?_, ?_⟩⟩
    · rintro ⟨value, hvalue, hrelates⟩
      exact ⟨_, op, digits, n, value, by rwa [String.toList_ofList], hvalue, hrelates⟩
    · rintro ⟨v, op', es, m, value, h', hvalue, hrelates⟩
      obtain ⟨rfl, rfl, -, rfl⟩ := h.unique h'
      exact ⟨value, by rwa [String.ofList_toList], hrelates⟩
  · exact ⟨false, by rw [evaluate, hnever]; rfl, by simp [hnot]⟩

-- Signs that make no comparator together do not make one with a shorter run.
example : parse "$Gold >>= 5".toList = .ok never := by rfl

end Condition

end EventScript
