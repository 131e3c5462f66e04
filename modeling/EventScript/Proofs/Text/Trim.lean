import EventScript.Text.Blank
import Mathlib.Tactic.Lemma

/-! Cutting texts at their blanks. Blanks around a text are dropped, and a stretch of characters of
one kind is taken up to the first of another. -/

namespace EventScript.Text

section Stretch

variable {α : Type} {p : α → Bool} {xs ys : List α}

lemma takeWhile_append_of_stop (hx : ∀ c ∈ xs, p c = true) (hy : ∀ c ∈ ys.head?, p c = false) :
    (xs ++ ys).takeWhile p = xs := by
  rw [List.takeWhile_append_of_pos hx]
  cases ys with
  | nil => simp
  | cons c ys => simp [hy c rfl]

lemma dropWhile_append_of_stop (hx : ∀ c ∈ xs, p c = true) (hy : ∀ c ∈ ys.head?, p c = false) :
    (xs ++ ys).dropWhile p = ys := by
  rw [List.dropWhile_append_of_pos hx]
  cases ys with
  | nil => rfl
  | cons c ys => simp [hy c rfl]

end Stretch

/-- Nothing but blanks. -/
def Blank (cs : List Char) : Prop := ∀ c ∈ cs, isBlank c = true

instance (cs : List Char) : Decidable (Blank cs) := List.decidableBAll _ cs

structure Trimmed (cs : List Char) : Prop where
  head : ∀ c ∈ cs.head?, isBlank c = false
  last : ∀ c ∈ cs.getLast?, isBlank c = false

variable {cs before after : List Char}

lemma Blank.reverse (h : Blank cs) : Blank cs.reverse := fun c hc => h c (List.mem_reverse.mp hc)

lemma blank_append : Blank (before ++ after) ↔ Blank before ∧ Blank after := by
  simp only [Blank, List.mem_append, or_imp, forall_and]

lemma trimLeft_append (hb : Blank before) (h : ∀ c ∈ cs.head?, isBlank c = false) :
    trimLeft (before ++ cs) = cs :=
  dropWhile_append_of_stop hb h

lemma trimRight_append (ha : Blank after) (h : ∀ c ∈ cs.getLast?, isBlank c = false) :
    trimRight (cs ++ after) = cs := by
  rw [trimRight, List.reverse_append, dropWhile_append_of_stop ha.reverse (by simpa using h),
    List.reverse_reverse]

lemma trimLeft_of_blank (h : Blank cs) : trimLeft cs = [] := by
  have hnone : trimLeft (cs ++ []) = [] := trimLeft_append h (by simp)
  simpa using hnone

lemma trim_of_blank (h : Blank cs) : trim cs = [] := by
  rw [trim, trimLeft_of_blank h]
  rfl

lemma trim_append (h : Trimmed cs) (hb : Blank before) (ha : Blank after) :
    trim (before ++ cs ++ after) = cs := by
  cases cs with
  | nil => exact trim_of_blank (blank_append.mpr ⟨by simpa using hb, ha⟩)
  | cons c cs =>
    rw [trim, List.append_assoc, trimLeft_append hb (by simpa using h.head),
      trimRight_append ha h.last]

lemma Trimmed.trim_eq (h : Trimmed cs) : trim cs = cs := by
  have hnone : Blank [] := by simp [Blank]
  simpa using trim_append h hnone hnone

lemma trimmed_cons_concat {c d : Char} (hc : isBlank c = false) (hd : isBlank d = false)
    (cs : List Char) : Trimmed (c :: (cs ++ [d])) := by
  constructor
  · rintro b ⟨⟩
    exact hc
  · rw [← List.cons_append, List.getLast?_concat]
    rintro b ⟨⟩
    exact hd

lemma exists_blank_append_trimLeft (cs : List Char) : ∃ b, Blank b ∧ cs = b ++ trimLeft cs :=
  ⟨cs.takeWhile isBlank, List.all_eq_true.mp List.all_takeWhile,
    (List.takeWhile_append_dropWhile ..).symm⟩

lemma exists_append_blank_append {t : List Char} (h : cs <+: t) :
    ∃ b, Blank b ∧ t = cs ++ b ++ trimLeft (t.drop cs.length) := by
  obtain ⟨b, hb, hrest⟩ := exists_blank_append_trimLeft (t.drop cs.length)
  refine ⟨b, hb, ?_⟩
  rw [List.append_assoc, ← hrest]
  exact (List.prefix_iff_eq_append.mp h).symm

lemma exists_trimRight_append_blank (cs : List Char) : ∃ a, Blank a ∧ cs = trimRight cs ++ a := by
  obtain ⟨b, hb, h⟩ := exists_blank_append_trimLeft cs.reverse
  refine ⟨b.reverse, hb.reverse, ?_⟩
  have hreverse := congrArg List.reverse h
  rwa [List.reverse_reverse, List.reverse_append] at hreverse

lemma exists_trim (cs : List Char) :
    ∃ b a, Blank b ∧ Blank a ∧ cs = b ++ (trim cs ++ a) := by
  obtain ⟨b, hb, hleft⟩ := exists_blank_append_trimLeft cs
  obtain ⟨a, ha, hright⟩ := exists_trimRight_append_blank (trimLeft cs)
  exact ⟨b, a, hb, ha, hleft.trans (congrArg (b ++ ·) hright)⟩

lemma blank_of_trim_eq_nil (h : trim cs = []) : Blank cs := by
  obtain ⟨b, a, hb, ha, hcs⟩ := exists_trim cs
  rw [hcs, h]
  exact blank_append.mpr ⟨hb, by simpa using ha⟩

lemma not_isBlank_of_mem_head? {c : Char} (h : c ∈ (trimLeft cs).head?) : isBlank c = false := by
  have hnot := List.head?_dropWhile_not isBlank cs
  rw [trimLeft, Option.mem_def] at h
  rwa [h] at hnot

lemma trimmed_trim (cs : List Char) : Trimmed (trim cs) := by
  constructor
  · intro c hc
    obtain ⟨a, -, h⟩ := exists_trimRight_append_blank (trimLeft cs)
    have hhead : c ∈ (trimLeft cs).head? := by
      rw [trim, Option.mem_def] at hc
      rw [h, List.head?_append, hc]
      rfl
    exact not_isBlank_of_mem_head? hhead
  · intro c hc
    rw [trim, trimRight, List.getLast?_reverse] at hc
    exact not_isBlank_of_mem_head? hc

lemma trim_trim (cs : List Char) : trim (trim cs) = trim cs := (trimmed_trim cs).trim_eq

end EventScript.Text
