import EventScript.Proofs.Text.Trim
import Mathlib.Data.List.Basic

/-! The lines of a text. What is written into one line, or between two of them, leaves the others as
they are. -/

namespace EventScript.Text

def Unbroken (cs : List Char) : Prop := ∀ c ∈ cs, isLineBreak c = false

instance (cs : List Char) : Decidable (Unbroken cs) := List.decidableBAll _ cs

/-- A break that ends a line: one character, or a carriage return with the line feed behind it. -/
inductive IsBreak (rest : List Char) : List Char → Prop
  | pair : IsBreak rest ['\r', '\n']
  | single {c : Char} : isLineBreak c = true → ¬ (c = '\r' ∧ rest.head? = some '\n') →
      IsBreak rest [c]

structure IsLineStart (p q : List Char) : Prop where
  last : ∀ c ∈ p.getLast?, isLineBreak c = true
  apart : ¬ (p.getLast? = some '\r' ∧ q.head? = some '\n')

/-- Before the line is one text and behind it another, which begins with its break. The last line
may lack one. -/
structure IsLine (p l rest : List Char) : Prop where
  start : IsLineStart p (l ++ rest)
  unbroken : Unbroken l
  stop : (rest = [] ∧ l ≠ []) ∨ ∃ b q, rest = b ++ q ∧ IsBreak q b

/-- A line is inserted behind the first `k` lines of a text. -/
inductive Inserts (l : List Char) : Nat → List Char → List Char → Prop
  | before {p q b : List Char} : IsLineStart p q → IsLineStart p (l ++ (b ++ q)) → Unbroken l →
      IsBreak q b → Inserts l (lines p).length (p ++ q) (p ++ (l ++ (b ++ q)))
  | last {p : List Char} : IsLineStart p l → Unbroken l → l ≠ [] →
      Inserts l (lines p).length p (p ++ l)
  /-- The last line is given the break that it lacks. -/
  | behind {k : Nat} {p b t : List Char} : p ≠ [] → (∀ c ∈ p.getLast?, isLineBreak c = false) →
      IsBreak [] b → Inserts l k (p ++ b) t → Inserts l k p t

section Lines

variable {b l p q cs : List Char} {c : Char}

lemma unbroken_append (hl : Unbroken l) (hq : Unbroken q) : Unbroken (l ++ q) :=
  List.forall_mem_append.mpr ⟨hl, hq⟩

lemma lines_cons_break (hc : isLineBreak c = true)
    (hpair : ¬ (c = '\r' ∧ cs.head? = some '\n')) : lines (c :: cs) = [] :: lines cs := by
  rw [lines.eq_3, if_pos hc]
  rintro cs rfl rfl
  exact hpair ⟨rfl, rfl⟩

lemma lines_break (h : IsBreak q b) : lines (b ++ q) = [] :: lines q := by
  cases h with
  | pair => rw [List.cons_append, List.cons_append, lines, List.nil_append]
  | single hc hpair => exact lines_cons_break hc hpair

lemma lines_cons (hc : isLineBreak c = false) (cs : List Char) :
    lines (c :: cs) = consHead c (lines cs) := by
  rw [lines.eq_3, if_neg (by simp [hc])]
  rintro cs rfl
  cases hc

lemma lines_line (hl : Unbroken l) (h : IsBreak q b) : lines (l ++ (b ++ q)) = l :: lines q := by
  induction l with
  | nil => exact lines_break h
  | cons c l ih =>
    obtain ⟨hc, hl⟩ := List.forall_mem_cons.mp hl
    rw [List.cons_append, lines_cons hc, ih hl]
    rfl

lemma lines_of_unbroken (hl : Unbroken l) (hne : l ≠ []) : lines l = [l] := by
  induction l with
  | nil => exact absurd rfl hne
  | cons c l ih =>
    obtain ⟨hc, hl⟩ := List.forall_mem_cons.mp hl
    rw [lines_cons hc]
    cases l with
    | nil => rw [lines_nil]; rfl
    | cons d l => rw [ih hl (List.cons_ne_nil d l)]; rfl

lemma lines_ne_nil (hne : cs ≠ []) : lines cs ≠ [] := by
  fun_cases lines cs
  · exact absurd rfl hne
  · simp
  · simp
  · next c cs _ _ => cases hls : lines cs <;> simp [consHead]

lemma consHead_append {ls : List (List Char)} (hne : ls ≠ []) (c : Char) (ls' : List (List Char)) :
    consHead c (ls ++ ls') = consHead c ls ++ ls' := by
  cases ls with
  | nil => exact absurd rfl hne
  | cons l ls => rfl

lemma IsLineStart.tail (h : IsLineStart (c :: p) q) : IsLineStart p q := by
  cases p with
  | nil => exact ⟨by simp, by simp⟩
  | cons d p =>
    obtain ⟨hlast, hapart⟩ := h
    rw [List.getLast?_cons_cons] at hlast hapart
    exact ⟨hlast, hapart⟩

lemma lines_append (h : IsLineStart p q) : lines (p ++ q) = lines p ++ lines q := by
  fun_induction lines p with
  | case1 => rfl
  | case2 p ih =>
    rw [List.cons_append, List.cons_append, lines, ih h.tail.tail]
    rfl
  | case3 c p hpair hc ih =>
    rw [List.cons_append, lines_cons_break hc, ih h.tail]
    · rfl
    · rintro ⟨rfl, hhead⟩
      cases p with
      | nil => exact h.apart ⟨rfl, hhead⟩
      | cons d p =>
        obtain rfl : d = '\n' := by simpa using hhead
        exact hpair p rfl rfl
  | case4 c p hpair hc ih =>
    have hc : isLineBreak c = false := by simpa using hc
    have hne : p ≠ [] := by
      rintro rfl
      cases hc.symm.trans (h.last c rfl)
    rw [List.cons_append, lines_cons hc, ih h.tail, consHead_append (lines_ne_nil hne)]

lemma lines_append_break (hne : p ≠ []) (hp : ∀ c ∈ p.getLast?, isLineBreak c = false)
    (hb : IsBreak [] b) : lines (p ++ b) = lines p := by
  have hnil : lines b = [[]] := by simpa using lines_break hb
  have htail {c : Char} {p : List Char} (hlast : ∀ d ∈ (c :: p).getLast?, isLineBreak d = false)
      (hc : isLineBreak c = true) : p ≠ [] ∧ ∀ d ∈ p.getLast?, isLineBreak d = false := by
    cases p with
    | nil => cases hc.symm.trans (hlast c rfl)
    | cons d p => exact ⟨List.cons_ne_nil d p, by simpa using hlast⟩
  fun_induction lines p with
  | case1 => exact absurd rfl hne
  | case2 p ih =>
    obtain ⟨-, hlast⟩ := htail hp (by decide)
    obtain ⟨hne', hlast⟩ := htail hlast (by decide)
    rw [List.cons_append, List.cons_append, lines, ih hne' hlast]
  | case3 c p hpair hc ih =>
    obtain ⟨hne', hlast⟩ := htail hp hc
    rw [List.cons_append, lines_cons_break hc, ih hne' hlast]
    rintro ⟨rfl, hhead⟩
    obtain ⟨d, p, rfl⟩ := List.exists_cons_of_ne_nil hne'
    obtain rfl : d = '\n' := by simpa using hhead
    exact hpair p rfl rfl
  | case4 c p hpair hc ih =>
    have hc : isLineBreak c = false := by simpa using hc
    rw [List.cons_append, lines_cons hc]
    cases p with
    | nil => rw [List.nil_append, hnil, lines_nil]; rfl
    | cons d p => rw [ih (List.cons_ne_nil d p) (by simpa using hp)]

lemma lines_append_line (h : IsLine p l q) :
    lines (p ++ (l ++ q)) = lines p ++ l :: (lines q).tail := by
  rw [lines_append h.start]
  rcases h.stop with ⟨rfl, hne⟩ | ⟨b, rest, rfl, hb⟩
  · rw [List.append_nil, lines_of_unbroken h.unbroken hne, lines_nil, List.tail_nil]
  · rw [lines_line h.unbroken hb, lines_break hb, List.tail_cons]

/-- A line may be exchanged for another, unless that is empty. -/
lemma IsLine.exchange {l' : List Char} (h : IsLine p l q) (hl : Unbroken l')
    (hne : l' = [] → l = []) : IsLine p l' q := by
  have hstop := h.stop.imp_left fun ⟨hq, hl⟩ => And.intro hq (mt hne hl)
  refine ⟨⟨h.start.last, fun ⟨hlast, hhead⟩ => ?_⟩, hl, hstop⟩
  cases l' with
  | nil =>
    rw [hne rfl] at h
    exact h.start.apart ⟨hlast, hhead⟩
  | cons c l' =>
    obtain rfl : c = '\n' := by simpa using hhead
    cases hl '\n' List.mem_cons_self

lemma Inserts.exists_lines {k : Nat} {t : List Char} (h : Inserts l k cs t) : ∃ before after,
    lines cs = before ++ after ∧ lines t = before ++ l :: after ∧ before.length = k := by
  induction h with
  | @before p q b hstart hstart' hl hb =>
    refine ⟨lines p, lines q, lines_append hstart, ?_, rfl⟩
    rw [lines_append hstart', lines_line hl hb]
  | @last p hstart hl hne =>
    refine ⟨lines p, [], (List.append_nil _).symm, ?_, rfl⟩
    rw [lines_append hstart, lines_of_unbroken hl hne]
  | behind hne hp hb _ ih => rwa [lines_append_break hne hp hb] at ih

end Lines

end EventScript.Text
