import EventScript.Command.Parser
import EventScript.Proofs.Command.Condition
import Mathlib.Data.List.Forall2

/-! Arguments as they are written. Strings and labels stand in quotes, so that they may hold commas,
comment marks and blanks, and a list of arguments is read back whatever gaps are left in it. -/

namespace EventScript

open Text

namespace Text

def Gap (w : List Char) : Prop := Blank w ∧ '\n' ∉ w

instance (w : List Char) : Decidable (Gap w) := inferInstanceAs (Decidable (_ ∧ _))

/-- One piece of an argument list, whatever stands around it. -/
structure IsToken (t : List Char) : Prop where
  noComment : HasNoComment t
  noComma : HasNoComma t
  noFeed : '\n' ∉ t
  trimmed : Trimmed t
  ne_nil : t ≠ []

def IsSolid (c : Char) : Prop := IsPlain c ∧ isBlank c = false

variable {s t w : List Char}

lemma Gap.isPlain (h : Gap w) : ∀ c ∈ w, IsPlain c := fun c hc => .of_blank (h.1 c hc)

lemma IsToken.inQuotes (h : ∀ c ∈ s, c ≠ quoteMark ∧ c ≠ '\n') : IsToken (inQuotes s) where
  noComment := .inQuotes fun c hc => (h c hc).1
  noComma := .inQuotes fun c hc => (h c hc).1
  noFeed := by
    have hmark : '\n' ≠ quoteMark := by decide
    simp only [Text.inQuotes, List.mem_cons, List.mem_append, hmark, List.not_mem_nil, or_self,
      or_false, false_or]
    exact fun hc => (h _ hc).2 rfl
  trimmed := trimmed_inQuotes s
  ne_nil := by simp [Text.inQuotes]

lemma IsToken.of_solid (h : ∀ c ∈ t, IsSolid c) (hne : t ≠ []) : IsToken t where
  noComment := .of_plain fun c hc => (h c hc).1
  noComma := .of_plain fun c hc => (h c hc).1
  noFeed hc := absurd (h _ hc).2 (by decide)
  trimmed :=
    ⟨fun c hc => (h c (List.mem_of_head? hc)).2, fun c hc => (h c (List.mem_of_getLast? hc)).2⟩
  ne_nil := hne

lemma IsToken.gap (hs : IsToken s) (hw : Gap w) (ht : IsToken t) : IsToken (s ++ w ++ t) where
  noComment := (hs.noComment.append (.of_plain hw.isPlain)).append ht.noComment
  noComma := (hs.noComma.append (.of_plain hw.isPlain)).append ht.noComma
  noFeed := by simp [hs.noFeed, hw.2, ht.noFeed]
  trimmed := by
    constructor
    · rw [List.append_assoc, List.head?_append_of_ne_nil _ hs.ne_nil]
      exact hs.trimmed.head
    · rw [List.getLast?_append_of_ne_nil _ ht.ne_nil]
      exact ht.trimmed.last
  ne_nil := by simp [hs.ne_nil]

lemma isSolid_of_isWordChar {c : Char} (h : isWordChar c = true) : IsSolid c := by
  refine ⟨⟨?_, ?_, ?_⟩, Bool.eq_false_iff.mpr fun hb => ?_⟩
  · rintro rfl
    exact absurd h (by decide)
  · rintro rfl
    exact absurd h (by decide)
  · rintro rfl
    exact absurd h (by decide)
  · simp [not_isWordChar_of_isBlank hb] at h

lemma isSolid_of_mem_decimal {n : Int} {c : Char} (h : c ∈ decimal n) : IsSolid c := by
  rcases mem_of_isIntegerLiteral (isIntegerLiteral_decimal n) h with rfl | rfl | hd
  · exact ⟨⟨by decide, by decide, by decide⟩, by decide⟩
  · exact ⟨⟨by decide, by decide, by decide⟩, by decide⟩
  · exact isSolid_of_isWordChar (isWordChar_iff.mpr (.inr (.inr (.inl hd))))

lemma isToken_decimal (n : Int) : IsToken (decimal n) :=
  .of_solid (fun _ => isSolid_of_mem_decimal) (isIntegerLiteral_ne_nil (isIntegerLiteral_decimal n))

lemma isToken_of_isVariable (h : Condition.isVariable t = true) : IsToken t := by
  obtain ⟨y, rfl, -, hy⟩ := Condition.isVariable_iff.mp h
  refine .of_solid (List.forall_mem_cons.mpr ⟨?_, fun c hc => isSolid_of_isWordChar (hy c hc)⟩)
    (by simp)
  exact ⟨⟨by decide, by decide, by decide⟩, by decide⟩

lemma isToken_text (op : Comparator) : IsToken op.text.toList := by
  refine .of_solid (fun c hc => ?_) (Condition.text_ne_nil op)
  rcases Condition.isComparatorChar_iff.mp (Condition.isComparatorChar_of_mem_text hc) with
    rfl | rfl | rfl <;> exact ⟨⟨by decide, by decide, by decide⟩, by decide⟩

end Text

namespace Arg

/-- What is written for an argument. -/
inductive Writes : Arg → List Char → Prop
  | text {s : String} (h : ∀ c ∈ s.toList, c ≠ quoteMark ∧ c ≠ '\n') :
    Writes (.text s) (inQuotes s.toList)
  | int {n : Int} (h : (Nat.toDigits 10 n.natAbs).length ≤ digitLimit) : Writes (.int n) (decimal n)
  | var {x : String} (h : Condition.isVariable x.toList = true) : Writes (.var x) x.toList
  | label {l : String} (hne : l.toList ≠ []) (hlast : l.toList.getLast? ≠ some ':')
      (h : ∀ c ∈ l.toList, c ≠ quoteMark ∧ c ≠ '\n') :
    Writes (.label l) (inQuotes ('@' :: l.toList))
  | condition {x : String} {op : Comparator} {n : Int} {w₁ w₂ : List Char}
      (hx : Condition.isVariable x.toList = true)
      (hn : (Nat.toDigits 10 n.natAbs).length ≤ digitLimit) (h₁ : Gap w₁) (h₂ : Gap w₂) :
    Writes (.condition (.compare x op n)) (x.toList ++ w₁ ++ op.text.toList ++ w₂ ++ decimal n)

/-- What is written for a list of arguments: gaps around each, and commas between them. -/
inductive WritesAll : List Arg → List Char → Prop
  | none {w : List Char} (h : Gap w) : WritesAll [] w
  | last {a : Arg} {w₁ t w₂ : List Char} (h₁ : Gap w₁) (ht : a.Writes t) (h₂ : Gap w₂) :
    WritesAll [a] (w₁ ++ t ++ w₂)
  | more {a b : Arg} {as : List Arg} {w₁ t w₂ list : List Char} (h₁ : Gap w₁) (ht : a.Writes t)
      (h₂ : Gap w₂) (hlist : WritesAll (b :: as) list) :
    WritesAll (a :: b :: as) (w₁ ++ t ++ w₂ ++ ',' :: list)

section Single

variable {a : Arg} {t : List Char}

lemma Writes.isToken (h : a.Writes t) : IsToken t := by
  cases h with
  | text h => exact .inQuotes h
  | int h => exact isToken_decimal _
  | var h => exact isToken_of_isVariable h
  | label hne hlast h => exact .inQuotes (List.forall_mem_cons.mpr ⟨by decide, h⟩)
  | condition hx hn h₁ h₂ =>
    exact ((isToken_of_isVariable hx).gap h₁ (isToken_text _)).gap h₂ (isToken_decimal _)

lemma head?_of_isVariable {x : List Char} (h : Condition.isVariable x = true) (rest : List Char) :
    (x ++ rest).head? ≠ some quoteMark := by
  obtain ⟨y, rfl, -⟩ := Condition.isVariable_iff.mp h
  simp [quoteMark]

lemma dropWhile_colon {l : List Char} (h : l.getLast? ≠ some ':') :
    (l.reverse.dropWhile (· == ':')).reverse = l := by
  have hstop : ∀ c ∈ l.reverse.head?, (c == ':') = false := by
    rw [List.head?_reverse]
    rintro c hc
    exact beq_eq_false_iff_ne.mpr fun heq => h (heq ▸ hc)
  have hsame : ([] ++ l.reverse).dropWhile (· == ':') = l.reverse :=
    dropWhile_append_of_stop (by simp) hstop
  simpa using congrArg List.reverse hsame

lemma Writes.read_eq (h : a.Writes t) : read a.type t = .ok a := by
  have htrimmed := h.isToken.trimmed
  cases h with
  | text h => simp [read, type, unquote_inQuotes]
  | @int n h =>
    have hunquote : unquote (decimal n) = decimal n := by
      refine unquote_of_head htrimmed fun hq => ?_
      exact (isSolid_of_mem_decimal (List.mem_of_head? hq)).1.1 rfl
    simp [read, type, hunquote, isIntegerLiteral_decimal, literalTooLong_decimal h,
      literalValue_decimal]
  | @var x h =>
    have hunquote : unquote x.toList = x.toList := by
      exact unquote_of_head htrimmed (by simpa using head?_of_isVariable h [])
    simp [read, type, hunquote, h]
  | @label l hne hlast h =>
    obtain ⟨c, cs, hl⟩ := List.exists_cons_of_ne_nil hne
    simp only [read, type, unquote_inQuotes, hl]
    rw [← hl, dropWhile_colon hlast, String.ofList_toList]
  | @condition x op n w₁ w₂ hx hn h₁ h₂ =>
    have hunquote := unquote_of_head htrimmed
      (by simpa using head?_of_isVariable hx (w₁ ++ op.text.toList ++ w₂ ++ decimal n))
    have hcompares : Condition.Compares (x.toList ++ w₁ ++ op.text.toList ++ w₂ ++ decimal n)
        x.toList op (decimal n) :=
      ⟨hx, isIntegerLiteral_decimal n, [], w₁, w₂, [], by simp [Blank], h₁.1, h₂.1,
        by simp [Blank], by simp⟩
    simp only [read, type, hunquote, hcompares.parse_eq]
    simp [literalTooLong_decimal hn, literalValue_decimal]

end Single

section All

variable {args : List Arg} {list : List Char} {tokens : List (List Char)}

lemma Gap.around {t w₁ w₂ : List Char} (h₁ : Gap w₁) (ht : IsToken t) (h₂ : Gap w₂) :
    HasNoComment (w₁ ++ t ++ w₂) ∧ HasNoComma (w₁ ++ t ++ w₂) ∧ '\n' ∉ w₁ ++ t ++ w₂ :=
  ⟨((HasNoComment.of_plain h₁.isPlain).append ht.noComment).append (.of_plain h₂.isPlain),
    ((HasNoComma.of_plain h₁.isPlain).append ht.noComma).append (.of_plain h₂.isPlain),
    by simp [h₁.2, ht.noFeed, h₂.2]⟩

lemma WritesAll.noComment (h : WritesAll args list) : HasNoComment list ∧ '\n' ∉ list := by
  induction h with
  | none h => exact ⟨.of_plain h.isPlain, h.2⟩
  | last h₁ ht h₂ =>
    obtain ⟨hcomment, -, hfeed⟩ := Gap.around h₁ ht.isToken h₂
    exact ⟨hcomment, hfeed⟩
  | more h₁ ht h₂ _ ih =>
    obtain ⟨hcomment, -, hfeed⟩ := Gap.around h₁ ht.isToken h₂
    exact ⟨hcomment.append (ih.1.cons (by decide) (by decide)), by simp_all⟩

lemma WritesAll.trim_ne_nil (h : WritesAll args list) (hne : args ≠ []) : trim list ≠ [] := by
  obtain ⟨t, ht, hmem⟩ : ∃ t, IsToken t ∧ ∀ c ∈ t, c ∈ list := by
    cases h with
    | none => exact absurd rfl hne
    | last h₁ ht h₂ => exact ⟨_, ht.isToken, fun c hc => by simp [hc]⟩
    | more h₁ ht h₂ hlist => exact ⟨_, ht.isToken, fun c hc => by simp [hc]⟩
  obtain ⟨c, cs, rfl⟩ := List.exists_cons_of_ne_nil ht.ne_nil
  intro hnil
  have hblank := blank_of_trim_eq_nil hnil c (hmem c List.mem_cons_self)
  simp [ht.trimmed.head c rfl] at hblank

lemma WritesAll.pieces (h : WritesAll args list) (hne : args ≠ []) :
    List.Forall₂ Writes args ((pieces false list).map trim) := by
  induction h with
  | none => exact absurd rfl hne
  | last h₁ ht h₂ =>
    obtain ⟨-, hcomma, -⟩ := Gap.around h₁ ht.isToken h₂
    rw [hcomma.pieces_eq, List.map_singleton, trim_append ht.isToken.trimmed h₁.1 h₂.1]
    exact .cons ht .nil
  | more h₁ ht h₂ _ ih =>
    obtain ⟨-, hcomma, -⟩ := Gap.around h₁ ht.isToken h₂
    rw [hcomma.pieces_append_comma, List.map_cons, trim_append ht.isToken.trimmed h₁.1 h₂.1]
    exact .cons ht (ih (List.cons_ne_nil _ _))

lemma WritesAll.splitArgs (h : WritesAll args list) :
    List.Forall₂ Writes args (splitArgs list) := by
  rw [Text.splitArgs]
  cases args with
  | nil =>
    cases h with
    | none h => simp [trim_of_blank h.1]
  | cons a as =>
    rw [if_neg (h.trim_ne_nil (List.cons_ne_nil _ _))]
    exact h.pieces (List.cons_ne_nil _ _)

lemma readAll_eq (h : List.Forall₂ Writes args tokens) {types : List ArgType}
    (htypes : args.map Arg.type = types.take args.length) : readAll types tokens = .ok args := by
  induction h generalizing types with
  | nil => cases types <;> rfl
  | @cons a t as ts ht _ ih =>
    cases types with
    | nil => simp at htypes
    | cons type types =>
      simp only [List.map_cons, List.length_cons, List.take_succ_cons, List.cons.injEq] at htypes
      obtain ⟨rfl, htypes⟩ := htypes
      rw [readAll, ht.read_eq, ih htypes]

end All

end Arg

end EventScript
