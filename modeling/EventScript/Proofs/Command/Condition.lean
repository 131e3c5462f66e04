import EventScript.Condition
import EventScript.Proofs.Text.Integer
import Mathlib.Data.List.Basic

/-! The grammar of conditions: a variable, a comparator and an integer literal, with blanks before,
between and behind them. Of other texts nothing is made but a condition that never holds. -/

namespace EventScript.Condition

open Text

def Compares (cs x : List Char) (op : Comparator) (literal : List Char) : Prop :=
  isVariable x = true ∧ isIntegerLiteral literal = true ∧ ∃ w₁ w₂ w₃ w₄, Blank w₁ ∧ Blank w₂ ∧
    Blank w₃ ∧ Blank w₄ ∧ cs = w₁ ++ (x ++ w₂ ++ op.text.toList ++ w₃ ++ literal) ++ w₄

section Parts

variable {x literal w : List Char} {op : Comparator} {c : Char}

lemma isVariable_iff : isVariable x = true ↔
    ∃ y, x = '$' :: y ∧ y ≠ [] ∧ ∀ c ∈ y, isWordChar c = true := by
  unfold isVariable
  split
  · next cs => simp [List.isEmpty_eq_false_iff]
  · next h =>
    simp only [Bool.false_eq_true, false_iff]
    rintro ⟨y, rfl, -⟩
    exact h y rfl

lemma isComparatorChar_iff : isComparatorChar c = true ↔ c = '<' ∨ c = '>' ∨ c = '=' := by
  simp [isComparatorChar, or_assoc]

lemma isComparatorChar_of_mem_text (hc : c ∈ op.text.toList) : isComparatorChar c = true := by
  rw [isComparatorChar_iff]
  cases op <;>
    · simp only [Comparator.text, String.reduceToList, List.mem_cons, List.not_mem_nil] at hc
      grind

lemma text_ne_nil (op : Comparator) : op.text.toList ≠ [] := by
  cases op <;> simp [Comparator.text]

lemma ofText?_text (op : Comparator) : Comparator.ofText? op.text = some op := by
  cases op <;> rfl

lemma text_of_ofText? {s : String} (h : Comparator.ofText? s = some op) : op.text = s := by
  simpa using List.find?_some h

lemma not_isWordChar_of_isComparatorChar (h : isComparatorChar c = true) :
    isBlank c = false ∧ isWordChar c = false := by
  rcases isComparatorChar_iff.mp h with rfl | rfl | rfl <;> decide

lemma not_isComparatorChar_of_isBlank (h : isBlank c = true) : isComparatorChar c = false := by
  refine Bool.eq_false_iff.mpr fun hc => ?_
  simp [not_isWordChar_of_isComparatorChar hc] at h

lemma not_isComparatorChar_of_isAsciiDigit (h : isAsciiDigit c = true) :
    isBlank c = false ∧ isComparatorChar c = false := by
  have hword : isWordChar c = true := isWordChar_iff.mpr (.inr (.inr (.inl h)))
  constructor <;> refine Bool.eq_false_iff.mpr fun hc => ?_
  · simp [not_isWordChar_of_isBlank hc] at hword
  · simp [not_isWordChar_of_isComparatorChar hc] at hword

lemma not_isComparatorChar_of_mem_literal (h : isIntegerLiteral literal = true)
    (hc : c ∈ literal) : isBlank c = false ∧ isComparatorChar c = false := by
  rcases mem_of_isIntegerLiteral h hc with rfl | rfl | hd
  · decide
  · decide
  · exact not_isComparatorChar_of_isAsciiDigit hd

end Parts

variable {cs x literal : List Char} {op : Comparator}

lemma append_of_cut {op : List Char} (h : cut cs = (x, op, literal)) :
    ∃ w₁ w₂ w₃ w₄, Blank w₁ ∧ Blank w₂ ∧ Blank w₃ ∧ Blank w₄ ∧
      cs = w₁ ++ (x ++ w₂ ++ op ++ w₃ ++ literal) ++ w₄ := by
  obtain ⟨w₁, w₄, h₁, h₄, houter⟩ := exists_trim cs
  simp only [cut, Prod.mk.injEq] at h
  obtain ⟨hx, hop, hliteral⟩ := h
  rw [hx] at hop hliteral
  rw [hop] at hliteral
  have hname : x <+: trim cs := by
    have htake : (trim cs).take 1 ++ ((trim cs).drop 1).takeWhile isWordChar <+:
        (trim cs).take 1 ++ (trim cs).drop 1 :=
      (List.prefix_append_right_inj _).mpr (List.takeWhile_prefix _)
    rwa [List.take_append_drop, hx] at htake
  obtain ⟨w₂, h₂, hrest⟩ := exists_append_blank_append hname
  have hsign : op <+: trimLeft ((trim cs).drop x.length) := hop ▸ List.takeWhile_prefix _
  obtain ⟨w₃, h₃, hvalue⟩ := exists_append_blank_append hsign
  refine ⟨w₁, w₂, w₃, w₄, h₁, h₂, h₃, h₄, ?_⟩
  rw [hliteral] at hvalue
  rw [hvalue] at hrest
  simpa [hrest] using houter

lemma Compares.cut_eq (h : Compares cs x op literal) : cut cs = (x, op.text.toList, literal) := by
  obtain ⟨hx, hliteral, w₁, w₂, w₃, w₄, h₁, h₂, h₃, h₄, rfl⟩ := h
  obtain ⟨y, rfl, hy, hword⟩ := isVariable_iff.mp hx
  obtain ⟨sign, signs, hop⟩ := List.exists_cons_of_ne_nil (text_ne_nil op)
  obtain ⟨c, digits, rfl⟩ := List.exists_cons_of_ne_nil (isIntegerLiteral_ne_nil hliteral)
  have hsign := not_isWordChar_of_isComparatorChar
    (isComparatorChar_of_mem_text (hop ▸ List.mem_cons_self : sign ∈ op.text.toList))
  have hkind (d : Char) (hd : d ∈ c :: digits) := not_isComparatorChar_of_mem_literal hliteral hd
  have htrimmed : Trimmed ('$' :: y ++ w₂ ++ op.text.toList ++ w₃ ++ c :: digits) := by
    constructor
    · simp [isBlank]
    · rw [List.getLast?_append_cons]
      exact fun d hd => (hkind d (List.mem_of_getLast? hd)).1
  have hname : (y ++ (w₂ ++ (op.text.toList ++ (w₃ ++ c :: digits)))).takeWhile isWordChar = y := by
    refine takeWhile_append_of_stop hword ?_
    cases w₂ with
    | nil => simpa [hop] using hsign.2
    | cons b w₂ => simpa using not_isWordChar_of_isBlank (h₂ b List.mem_cons_self)
  have hrest : trimLeft (w₂ ++ (op.text.toList ++ (w₃ ++ c :: digits))) =
      op.text.toList ++ (w₃ ++ c :: digits) := trimLeft_append h₂ (by simpa [hop] using hsign.1)
  have hcomparator : (op.text.toList ++ (w₃ ++ c :: digits)).takeWhile isComparatorChar =
      op.text.toList := by
    refine takeWhile_append_of_stop (fun _ => isComparatorChar_of_mem_text) ?_
    cases w₃ with
    | nil => simpa using (hkind c List.mem_cons_self).2
    | cons b w₃ => simpa using not_isComparatorChar_of_isBlank (h₃ b List.mem_cons_self)
  have hvalue : trimLeft (w₃ ++ c :: digits) = c :: digits :=
    trimLeft_append h₃ (by simpa using (hkind c List.mem_cons_self).1)
  rw [cut, trim_append htrimmed h₁ h₄]
  simp [hname, hrest, hcomparator, hvalue]

lemma Compares.parse_eq (h : Compares cs x op literal) :
    parse cs = if literalTooLong literal then .error .tooManyDigits
      else .ok (compare (String.ofList x) op (literalValue literal)) := by
  simp [parse, h.cut_eq, ofText?_text, h.1, h.2.1]

lemma parse_eq_never (h : ∀ x op literal, ¬ Compares cs x op literal) : parse cs = .ok never := by
  obtain ⟨⟨x, op, literal⟩, hcut⟩ : ∃ parts, cut cs = parts := ⟨_, rfl⟩
  simp only [parse, hcut]
  split
  · rfl
  · next comparator hop =>
    refine if_neg fun hparts => ?_
    obtain ⟨hx, hliteral⟩ := Bool.and_eq_true_iff.mp hparts
    have htext : op = comparator.text.toList := by
      rw [text_of_ofText? hop, String.toList_ofList]
    exact h x comparator literal ⟨hx, hliteral, htext ▸ append_of_cut hcut⟩

end EventScript.Condition
