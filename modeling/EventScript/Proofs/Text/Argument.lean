import EventScript.Proofs.Text.Trim
import EventScript.Text.Argument

/-! Quotes, comments and argument lists. Whatever stands between two quotes hides its commas and
slashes, so that stretches of a line can be looked at one by one. -/

namespace EventScript.Text

variable {s t cs : List Char}

def inQuotes (cs : List Char) : List Char := quoteMark :: (cs ++ [quoteMark])

/-- A character that means nothing to comments and argument lists. -/
def IsPlain (c : Char) : Prop := c ≠ quoteMark ∧ c ≠ ',' ∧ c ≠ '/'

lemma IsPlain.of_blank {c : Char} (h : isBlank c = true) : IsPlain c := by
  refine ⟨?_, ?_, ?_⟩ <;>
    · rintro rfl
      revert h
      decide

def HasNoComment (t : List Char) : Prop :=
  ∀ cs, beforeComment false (t ++ cs) = t ++ beforeComment false cs

namespace HasNoComment

lemma nil : HasNoComment [] := fun _ => rfl

lemma append (hs : HasNoComment s) (ht : HasNoComment t) : HasNoComment (s ++ t) := by
  intro cs
  rw [List.append_assoc, hs, ht, List.append_assoc]

lemma cons {c : Char} (hq : c ≠ quoteMark) (hs : c ≠ '/') (ht : HasNoComment t) :
    HasNoComment (c :: t) := by
  intro cs
  rw [List.cons_append, beforeComment, if_neg (by simp [hs]), if_neg hq, ht, List.cons_append]

lemma of_plain (ht : ∀ c ∈ t, IsPlain c) : HasNoComment t := by
  induction t with
  | nil => exact nil
  | cons c t ih =>
    obtain ⟨hc, ht⟩ := List.forall_mem_cons.mp ht
    exact (ih ht).cons hc.1 hc.2.2

lemma inQuotes (hs : ∀ c ∈ s, c ≠ quoteMark) : HasNoComment (inQuotes s) := by
  intro cs
  have hinside : beforeComment true (s ++ quoteMark :: cs) =
      s ++ quoteMark :: beforeComment false cs := by
    induction s with
    | nil => simp [beforeComment]
    | cons c s ih =>
      obtain ⟨hc, hs⟩ := List.forall_mem_cons.mp hs
      simp [beforeComment, hc, ih hs]
  have hslash : quoteMark ≠ '/' := by decide
  simp [Text.inQuotes, beforeComment, hslash, hinside]

end HasNoComment

lemma stripComment_append (ht : HasNoComment t) (h : cs = [] ∨ ∃ rest, cs = '/' :: '/' :: rest) :
    stripComment (t ++ cs) = t := by
  rw [stripComment, ht]
  rcases h with rfl | ⟨rest, rfl⟩ <;> simp [beforeComment]

lemma head?_of_beforeComment {inside : Bool} {c : Char}
    (h : (beforeComment inside cs).head? = some c) : cs.head? = some c := by
  cases cs with
  | nil => exact h
  | cons d cs =>
    rw [beforeComment] at h
    split at h
    · simp at h
    · exact h

lemma beforeComment_beforeComment (inside : Bool) (cs : List Char) :
    beforeComment inside (beforeComment inside cs) = beforeComment inside cs := by
  induction cs generalizing inside with
  | nil => rfl
  | cons c cs ih =>
    rw [beforeComment]
    split
    · rfl
    · next h =>
      rw [beforeComment, ih, if_neg]
      exact fun ⟨hc, hinside, hhead⟩ => h ⟨hc, hinside, head?_of_beforeComment hhead⟩

lemma beforeComment_of_append {inside : Bool} (h : beforeComment inside (s ++ t) = s ++ t) :
    beforeComment inside s = s := by
  induction s generalizing inside with
  | nil => rfl
  | cons c s ih =>
    rw [List.cons_append, beforeComment] at h
    split at h
    · cases h
    · next hc =>
      rw [beforeComment, ih (List.cons.inj h).2, if_neg]
      rintro ⟨hslash, hinside, hhead⟩
      exact hc ⟨hslash, hinside, by cases s <;> simp_all⟩

lemma stripComment_trim (cs : List Char) :
    stripComment (trim (stripComment cs)) = trim (stripComment cs) := by
  obtain ⟨b, a, hb, -, hcs⟩ := exists_trim (stripComment cs)
  have hwhole : beforeComment false (stripComment cs) = stripComment cs :=
    beforeComment_beforeComment false cs
  rw [hcs, HasNoComment.of_plain fun c hc => .of_blank (hb c hc)] at hwhole
  exact beforeComment_of_append (List.append_cancel_left hwhole)

def HasNoComma (t : List Char) : Prop :=
  ∀ cs, pieces false (t ++ cs) = t.foldr consHead (pieces false cs)

lemma foldr_consHead (t p : List Char) (ps : List (List Char)) :
    t.foldr consHead (p :: ps) = (t ++ p) :: ps := by
  induction t with
  | nil => rfl
  | cons c t ih => simp [ih, consHead]

namespace HasNoComma

lemma nil : HasNoComma [] := fun _ => rfl

lemma append (hs : HasNoComma s) (ht : HasNoComma t) : HasNoComma (s ++ t) := by
  intro cs
  rw [List.append_assoc, hs, ht, List.foldr_append]

lemma of_plain (ht : ∀ c ∈ t, IsPlain c) : HasNoComma t := by
  induction t with
  | nil => exact nil
  | cons c t ih =>
    obtain ⟨hc, ht⟩ := List.forall_mem_cons.mp ht
    intro cs
    rw [List.cons_append, pieces, if_neg (by simp [hc.2.1]), if_neg hc.1, ih ht, List.foldr_cons]

lemma inQuotes (hs : ∀ c ∈ s, c ≠ quoteMark) : HasNoComma (inQuotes s) := by
  intro cs
  have hinside : pieces true (s ++ quoteMark :: cs) =
      s.foldr consHead (consHead quoteMark (pieces false cs)) := by
    induction s with
    | nil => simp [pieces]
    | cons c s ih =>
      obtain ⟨hc, hs⟩ := List.forall_mem_cons.mp hs
      simp [pieces, hc, ih hs]
  have hcomma : quoteMark ≠ ',' := by decide
  simp [Text.inQuotes, pieces, hcomma, hinside]

lemma pieces_eq (ht : HasNoComma t) : pieces false t = [t] := by
  have h := ht []
  rwa [List.append_nil, pieces, foldr_consHead, List.append_nil] at h

lemma pieces_append_comma (ht : HasNoComma t) (cs : List Char) :
    pieces false (t ++ ',' :: cs) = t :: pieces false cs := by
  rw [ht, pieces, if_pos ⟨rfl, rfl⟩, foldr_consHead, List.append_nil]

end HasNoComma

lemma trimmed_inQuotes (cs : List Char) : Trimmed (inQuotes cs) :=
  trimmed_cons_concat (by decide) (by decide) cs

lemma unquote_inQuotes (cs : List Char) : unquote (inQuotes cs) = cs := by
  rw [unquote, (trimmed_inQuotes cs).trim_eq]
  cases cs with
  | nil => rfl
  | cons c cs =>
    change (if quoteMark = quoteMark ∧ ((c :: cs) ++ [quoteMark]).getLast? = some quoteMark then
      ((c :: cs) ++ [quoteMark]).dropLast else _) = _
    rw [if_pos ⟨rfl, List.getLast?_concat⟩, List.dropLast_concat]

lemma unquote_of_head (ht : Trimmed t) (hq : t.head? ≠ some quoteMark) : unquote t = t := by
  rw [unquote, ht.trim_eq]
  split
  · next c d rest =>
    exact if_neg fun h => hq (congrArg some h.1)
  · rfl

end EventScript.Text
