import EventScript.Proofs.Store.Load
import EventScript.Proofs.Text.Integer
import EventScript.Proofs.Text.Lines
import EventScript.TalkText

/-! Files of talk text. Entries that are written one a line are read back whatever stands between
them, and of several entries for one number the last one counts. -/

namespace EventScript.TalkText

open Text

variable {e : TalkLine} {es fs : List TalkLine} {l cs ds ps body rest : List Char}

def IsDigits (ds : List Char) : Prop := ds ≠ [] ∧ ∀ c ∈ ds, isDigit c = true

def IsShaped (l : List Char) : Prop := ∃ ds ps body, IsDigits ds ∧ IsDigits ps ∧
  trim l = '[' :: (ds ++ ']' :: '[' :: (ps ++ ']' :: body))

structure IsWritable (e : TalkLine) : Prop where
  index_nonneg : 0 ≤ e.index
  index_digits : (Nat.toDigits 10 e.index.natAbs).length ≤ digitLimit
  portrait_nonneg : 0 ≤ e.portrait
  portrait_digits : (Nat.toDigits 10 e.portrait.natAbs).length ≤ digitLimit
  unbroken : Unbroken e.text.toList
  last : ∀ c ∈ e.text.toList.getLast?, isBlank c = false

def written (e : TalkLine) : List Char :=
  '[' :: (decimal e.index ++ ']' :: '[' :: (decimal e.portrait ++ ']' :: e.text.toList))

/-- The entries that stand in a line: one with blanks around it, or none. -/
inductive LineHolds : List TalkLine → List Char → Prop
  | entry {e : TalkLine} {b a : List Char} : IsWritable e → Blank b → Blank a →
      LineHolds [e] (b ++ written e ++ a)
  | other {l : List Char} : ¬ IsShaped l → LineHolds [] l

/-- The entries that stand in a file, from its first line on. The last line may lack a break. -/
inductive FileHolds : List TalkLine → List Char → Prop
  | nil : FileHolds [] []
  | last {es : List TalkLine} {l : List Char} : Unbroken l → l ≠ [] → LineHolds es l →
      FileHolds es l
  | line {es fs : List TalkLine} {l b q : List Char} : Unbroken l → IsBreak q b →
      LineHolds es l → FileHolds fs q → FileHolds (es ++ fs) (l ++ (b ++ q))

lemma bracketed?_digits (hds : IsDigits ds) (rest : List Char) :
    bracketed? ('[' :: (ds ++ ']' :: rest)) = some (ds, rest) := by
  have hbracket : isDigit ']' = false := by decide
  have htake : (ds ++ ']' :: rest).takeWhile isDigit = ds :=
    takeWhile_append_of_stop hds.2 (by simpa using hbracket)
  simp [bracketed?, htake, hds.1]

lemma bracketed?_eq_some_iff :
    bracketed? cs = some (ds, rest) ↔ IsDigits ds ∧ cs = '[' :: (ds ++ ']' :: rest) := by
  constructor
  · intro h
    unfold bracketed? at h
    split at h
    · next cs =>
      dsimp only at h
      split at h
      · next tail htail =>
        split at h
        · cases h
        · next hne =>
          obtain ⟨rfl, rfl⟩ := Prod.mk.inj (Option.some.inj h)
          have hcs := List.prefix_iff_eq_append.mp (List.takeWhile_prefix isDigit (l := cs))
          refine ⟨⟨by simpa using hne, List.all_eq_true.mp List.all_takeWhile⟩, ?_⟩
          rw [← htail, hcs]
      · cases h
    · cases h
  · rintro ⟨hds, rfl⟩
    exact bracketed?_digits hds rest

lemma entry?_eq_some_iff : entry? l = some (ds, ps, body) ↔ IsDigits ds ∧ IsDigits ps ∧
    trim l = '[' :: (ds ++ ']' :: '[' :: (ps ++ ']' :: body)) := by
  simp only [ entry?, Option.bind_eq_bind, Option.bind_eq_some_iff, Prod.exists,
    bracketed?_eq_some_iff]
  constructor
  · rintro ⟨ds', rest, ⟨hds, htrim⟩, ps', body', ⟨hps, rfl⟩, h⟩
    obtain ⟨rfl, rfl, rfl⟩ : ds' = ds ∧ ps' = ps ∧ body' = body := by simpa using h
    exact ⟨hds, hps, htrim⟩
  · rintro ⟨hds, hps, htrim⟩
    exact ⟨ds, _, ⟨hds, htrim⟩, ps, body, ⟨hps, rfl⟩, rfl⟩

lemma entry?_eq_none_iff : entry? l = none ↔ ¬ IsShaped l := by
  rw [Option.eq_none_iff_forall_ne_some]
  constructor
  · rintro hnone ⟨ds, ps, body, hline⟩
    exact hnone (ds, ps, body) (entry?_eq_some_iff.mpr hline)
  · rintro h ⟨ds, ps, body⟩ hentry
    exact h ⟨ds, ps, body, entry?_eq_some_iff.mp hentry⟩

lemma isDigit_of_isAsciiDigit {c : Char} (h : isAsciiDigit c = true) : isDigit c = true := by
  rw [isDigit, digitValue?_of_isAsciiDigit h]
  rfl

lemma decimal_of_nonneg {n : Int} (h : 0 ≤ n) : decimal n = Nat.toDigits 10 n.natAbs := by
  obtain ⟨k, rfl⟩ := Int.eq_ofNat_of_zero_le h
  exact decimal_ofNat k

lemma isDigits_decimal {n : Int} (h : 0 ≤ n) : IsDigits (decimal n) := by
  rw [decimal_of_nonneg h]
  exact ⟨Nat.toDigits_ne_nil, fun c hc => isDigit_of_isAsciiDigit (isAsciiDigit_of_mem hc)⟩

lemma digitsValue_decimal {n : Int} (h : 0 ≤ n) : (digitsValue (decimal n) : Int) = n := by
  rw [decimal_of_nonneg h, digitsValue_toDigits]
  omega

lemma trimmed_written (h : ∀ c ∈ e.text.toList.getLast?, isBlank c = false) :
    Trimmed (written e) := by
  constructor
  · rintro c ⟨⟩
    decide
  · cases htext : e.text.toList with
    | nil =>
      have hconcat : written e =
          ('[' :: (decimal e.index ++ ']' :: '[' :: decimal e.portrait)) ++ [']'] := by
        simp [written, htext]
      rw [hconcat, List.getLast?_concat]
      rintro c ⟨⟩
      decide
    | cons d text =>
      have happend : written e = ('[' :: (decimal e.index ++ ']' :: '[' ::
          (decimal e.portrait ++ [']']))) ++ e.text.toList := by
        simp [written]
      rw [happend, List.getLast?_append_of_ne_nil _ (by simp [htext])]
      exact h

lemma entry?_written {b a : List Char} (he : IsWritable e) (hb : Blank b) (ha : Blank a) :
    entry? (b ++ written e ++ a) = some (decimal e.index, decimal e.portrait, e.text.toList) := by
  rw [entry?_eq_some_iff, trim_append (trimmed_written he.last) hb ha]
  exact ⟨isDigits_decimal he.index_nonneg, isDigits_decimal he.portrait_nonneg, rfl⟩

def addAll (t : TalkText) (es : List TalkLine) : TalkText :=
  es.foldl (fun t e => Ledger.put t e.index e) t

lemma addLine_of_lineHolds (h : LineHolds es l) (t : TalkText) :
    addLine t l = .ok (addAll t es) := by
  cases h with
  | @entry e b a he hb ha =>
    have hindex : (decimal e.index).length ≤ digitLimit := by
      rw [decimal_of_nonneg he.index_nonneg]
      exact he.index_digits
    have hportrait : (decimal e.portrait).length ≤ digitLimit := by
      rw [decimal_of_nonneg he.portrait_nonneg]
      exact he.portrait_digits
    rw [addLine, entry?_written he hb ha]
    dsimp only
    rw [if_neg (by omega), digitsValue_decimal he.index_nonneg,
      digitsValue_decimal he.portrait_nonneg, String.ofList_toList]
    rfl
  | other hl =>
    rw [addLine, entry?_eq_none_iff.mpr hl]
    rfl

lemma addLines_cons (h : LineHolds es l) (t : TalkText) (ls : List (List Char)) :
    addLines t (l :: ls) = addLines (addAll t es) ls := by
  rw [addLines, addLine_of_lineHolds h]

lemma addLines_of_fileHolds (h : FileHolds es cs) (t : TalkText) :
    addLines t (lines cs) = .ok (addAll t es) := by
  induction h generalizing t with
  | nil => rw [lines_nil]; rfl
  | last hl hne hes =>
    rw [lines_of_unbroken hl hne, addLines_cons hes]
    rfl
  | line hl hb hes _ ih =>
    rw [lines_line hl hb, addLines_cons hes, ih, addAll, addAll, addAll, List.foldl_append]

/-- The entries in the order of their numbers' first lines, each number with its last entry. -/
lemma ofText_eq {text : String} (h : FileHolds es text.toList) :
    ofText text = .ok (ofLines es) := by
  rw [ofText, addLines_of_fileHolds h, addAll, ofLines, Ledger.ofPairs, List.foldl_map]

lemma get?_ofLines (es : List TalkLine) (i : Int) :
    Ledger.get? (ofLines es) i = es.reverse.find? fun e => e.index = i := by
  rw [ofLines, Ledger.get?_ofPairs, ← List.map_reverse]
  induction es.reverse with
  | nil => rfl
  | cons e es ih =>
    rw [List.map_cons, List.lookup_cons, List.find?_cons, ih]
    by_cases h : e.index = i
    · simp [h]
    · simp [h, beq_false_of_ne (Ne.symm h)]

/-- Reading a file never fails on what stands between its entries, and finds for each number the
last entry written for it, and none for a number without entry. -/
theorem written_entries_are_read {text : String} (h : FileHolds es text.toList) :
    ∃ t, ofText text = .ok t ∧
      ∀ i, Ledger.get? t i = es.reverse.find? fun e => e.index = i :=
  ⟨ofLines es, ofText_eq h, get?_ofLines es⟩

theorem written_entries_are_read_last :
    FileHolds [⟨1, 3, "Hello"⟩, ⟨1, 0, " [2]x"⟩, ⟨7, 2, ""⟩]
      "\t[1][3]Hello\n\n# note\r\n[1][0] [2]x \n[7][2]".toList ∧
    ∃ t, ofText "\t[1][3]Hello\n\n# note\r\n[1][0] [2]x \n[7][2]" = .ok t ∧
      ∀ i, Ledger.get? t i = [TalkLine.mk 1 3 "Hello", ⟨1, 0, " [2]x"⟩,
        ⟨7, 2, ""⟩].reverse.find? fun e => e.index = i := by
  have hhello : IsWritable ⟨1, 3, "Hello"⟩ :=
    ⟨by decide, by decide, by decide, by decide, by decide, by rintro c ⟨⟩; decide⟩
  have hbracket : IsWritable ⟨1, 0, " [2]x"⟩ :=
    ⟨by decide, by decide, by decide, by decide, by decide, by rintro c ⟨⟩; decide⟩
  have hempty : IsWritable ⟨7, 2, ""⟩ :=
    ⟨by decide, by decide, by decide, by decide, by decide, nofun⟩
  have hfeed (q : List Char) : IsBreak q ['\n'] := .single (by decide) (by simp)
  have hblank : LineHolds [] [] := .other (entry?_eq_none_iff.mp (by decide))
  have hnote : LineHolds [] "# note".toList := .other (entry?_eq_none_iff.mp (by decide))
  have hfirst : LineHolds [⟨1, 3, "Hello"⟩] (['\t'] ++ written ⟨1, 3, "Hello"⟩ ++ []) :=
    .entry hhello (by decide) (by decide)
  have hsecond : LineHolds [⟨1, 0, " [2]x"⟩] ([] ++ written ⟨1, 0, " [2]x"⟩ ++ [' ']) :=
    .entry hbracket (by decide) (by decide)
  have hthird : LineHolds [⟨7, 2, ""⟩] ([] ++ written ⟨7, 2, ""⟩ ++ []) :=
    .entry hempty (by decide) (by decide)
  have htext : "\t[1][3]Hello\n\n# note\r\n[1][0] [2]x \n[7][2]".toList =
      (['\t'] ++ written ⟨1, 3, "Hello"⟩ ++ []) ++ (['\n'] ++ ([] ++ (['\n'] ++
        ("# note".toList ++ (['\r', '\n'] ++ (([] ++ written ⟨1, 0, " [2]x"⟩ ++ [' ']) ++ (['\n'] ++
          ([] ++ written ⟨7, 2, ""⟩ ++ [])))))))) := by
    decide
  have hfile : FileHolds [⟨1, 3, "Hello"⟩, ⟨1, 0, " [2]x"⟩, ⟨7, 2, ""⟩]
      "\t[1][3]Hello\n\n# note\r\n[1][0] [2]x \n[7][2]".toList := by
    rw [htext]
    exact .line (by decide) (hfeed _) hfirst (.line (by decide) (hfeed _) hblank
      (.line (by decide) .pair hnote (.line (by decide) (hfeed _) hsecond
        (.last (by decide) (by decide) hthird))))
  exact ⟨hfile, written_entries_are_read hfile⟩

end EventScript.TalkText
