import EventScript.Proofs.Text.Argument
import Mathlib.Algebra.Ring.Parity

/-! Where an argument list is cut. A comma cuts it if an even number of quotes stands before it in
the text, and no other comma does. This determines the pieces, so that arguments written between
commas are read back. -/

namespace EventScript.Text

variable {before t : List Char} {ps : List (List Char)} {c : Char}

def EndsQuoted (cs : List Char) : Prop := Odd (cs.count quoteMark)

instance (cs : List Char) : Decidable (EndsQuoted cs) :=
  inferInstanceAs (Decidable (Odd (cs.count quoteMark)))

def HidesCommas (before t : List Char) : Prop := ∀ x y, t = x ++ ',' :: y → EndsQuoted (before ++ x)

/-- Behind the text `before` some pieces follow with a comma between any two. Commas between them
are outside quoted stretches, commas in them are inside. -/
inductive IsCut : List Char → List (List Char) → Prop
  | last {before p : List Char} : HidesCommas before p → IsCut before [p]
  | comma {before p : List Char} {ps : List (List Char)} : HidesCommas before p →
      ¬ EndsQuoted (before ++ p) → IsCut (before ++ p ++ [',']) ps → IsCut before (p :: ps)

/-- An argument as it stands in a list: no blanks around it, its quotes closed, no comma outside
them. -/
structure IsEntire (t : List Char) : Prop where
  trimmed : Trimmed t
  closed : Even (t.count quoteMark)
  hides : HidesCommas [] t

/-- The text with blanks around it. -/
def Pads (t p : List Char) : Prop := ∃ b a, Blank b ∧ Blank a ∧ p = b ++ t ++ a

lemma endsQuoted_append : EndsQuoted (before ++ t) ↔ ¬ (EndsQuoted before ↔ EndsQuoted t) := by
  simp only [EndsQuoted, List.count_append, Nat.odd_add, ← Nat.not_odd_iff_even]
  tauto

lemma endsQuoted_concat (before : List Char) (c : Char) :
    decide (EndsQuoted (before ++ [c])) =
      if c = quoteMark then !decide (EndsQuoted before) else decide (EndsQuoted before) := by
  by_cases h : c = quoteMark
  · rw [if_pos h, ← decide_not, decide_eq_decide]
    simp [EndsQuoted, h, Nat.odd_add_one]
  · rw [if_neg h, decide_eq_decide]
    simp [EndsQuoted, h]

lemma HidesCommas.tail (h : HidesCommas before (c :: t)) : HidesCommas (before ++ [c]) t := by
  rintro x y rfl
  have hx := h (c :: x) y rfl
  rwa [← List.append_cons]

lemma hidesCommas_cons (h : HidesCommas (before ++ [c]) t) (hc : c = ',' → EndsQuoted before) :
    HidesCommas before (c :: t) := by
  rintro (_ | ⟨d, x⟩) y hxy
  · rw [List.append_nil]
    exact hc (List.cons.inj hxy).1
  · obtain ⟨rfl, ht⟩ := List.cons.inj hxy
    rw [List.append_cons]
    exact h x y ht

lemma hidesCommas_nil (before : List Char) : HidesCommas before [] := by
  intro x y h
  simp at h

lemma pieces_append (h : HidesCommas before t) (cs : List Char) :
    pieces (decide (EndsQuoted before)) (t ++ cs) =
      t.foldr consHead (pieces (decide (EndsQuoted (before ++ t))) cs) := by
  induction t generalizing before with
  | nil => simp
  | cons c t ih =>
    have hc : ¬ (c = ',' ∧ decide (EndsQuoted before) = false) := by
      rintro ⟨rfl, hopen⟩
      have hquoted := h [] t rfl
      rw [List.append_nil] at hquoted
      exact of_decide_eq_false hopen hquoted
    rw [List.cons_append, pieces, if_neg hc, ← endsQuoted_concat, ih h.tail, List.foldr_cons,
      ← List.append_cons]

lemma pieces_comma (h : ¬ EndsQuoted before) (cs : List Char) :
    pieces (decide (EndsQuoted before)) (',' :: cs) =
      [] :: pieces (decide (EndsQuoted (before ++ [',']))) cs := by
  have hcomma : ',' ≠ quoteMark := by decide
  rw [endsQuoted_concat, if_neg hcomma, decide_eq_false h, pieces, if_pos ⟨rfl, rfl⟩]

lemma intercalate_cons {p : List Char} (hne : ps ≠ []) :
    [','].intercalate (p :: ps) = p ++ ',' :: [','].intercalate ps := by
  obtain ⟨q, qs, rfl⟩ := List.exists_cons_of_ne_nil hne
  simp [List.intercalate]

lemma IsCut.ne_nil (h : IsCut before ps) : ps ≠ [] := by
  cases h <;> simp

lemma IsCut.consHead (h : IsCut (before ++ [c]) ps) (hc : c = ',' → EndsQuoted before) :
    IsCut before (consHead c ps) ∧
      [','].intercalate (Text.consHead c ps) = c :: [','].intercalate ps := by
  cases h with
  | last hp => exact ⟨.last (hidesCommas_cons hp hc), by simp [Text.consHead, List.intercalate]⟩
  | comma hp hquotes hps =>
    refine ⟨.comma (hidesCommas_cons hp hc) ?_ ?_, ?_⟩
    · rwa [List.append_cons before c]
    · rwa [List.append_cons before c]
    · rw [Text.consHead, intercalate_cons hps.ne_nil, intercalate_cons hps.ne_nil, List.cons_append]

lemma isCut_pieces (before cs : List Char) :
    IsCut before (pieces (decide (EndsQuoted before)) cs) ∧
      [','].intercalate (pieces (decide (EndsQuoted before)) cs) = cs := by
  induction cs generalizing before with
  | nil => exact ⟨.last (hidesCommas_nil before), rfl⟩
  | cons c cs ih =>
    obtain ⟨hcut, hjoin⟩ := ih (before ++ [c])
    by_cases hc : c = ',' ∧ ¬ EndsQuoted before
    · obtain ⟨rfl, hquotes⟩ := hc
      rw [pieces_comma hquotes]
      refine ⟨.comma (hidesCommas_nil before) (by rwa [List.append_nil]) ?_, ?_⟩
      · rwa [List.append_nil]
      · rw [intercalate_cons hcut.ne_nil, hjoin, List.nil_append]
    · rw [pieces, if_neg (by simpa using hc), ← endsQuoted_concat]
      have hquoted : c = ',' → EndsQuoted before := by simpa using hc
      obtain ⟨hcut', hjoin'⟩ := hcut.consHead hquoted
      exact ⟨hcut', by rw [hjoin', hjoin]⟩

lemma IsCut.pieces_eq (h : IsCut before ps) :
    pieces (decide (EndsQuoted before)) ([','].intercalate ps) = ps := by
  induction h with
  | @last before p hp =>
    have hcut := pieces_append hp []
    rw [List.append_nil] at hcut
    rw [List.intercalate_singleton, hcut, pieces, foldr_consHead, List.append_nil]
  | comma hp hquotes hps ih =>
    rw [intercalate_cons hps.ne_nil, pieces_append hp, pieces_comma hquotes, ih, foldr_consHead,
      List.append_nil]

lemma isCut_iff {cs : List Char} :
    IsCut [] ps ∧ [','].intercalate ps = cs ↔ ps = pieces false cs := by
  have hnone : decide (EndsQuoted []) = false := by decide
  constructor
  · rintro ⟨hcut, rfl⟩
    rw [← hnone, hcut.pieces_eq]
  · rintro rfl
    rw [← hnone]
    exact isCut_pieces [] cs

lemma Blank.count_quoteMark (h : Blank t) : t.count quoteMark = 0 :=
  List.count_eq_zero.mpr fun hmem => (IsPlain.of_blank (h _ hmem)).1 rfl

lemma Blank.comma_notMem (h : Blank t) : ',' ∉ t :=
  fun hmem => (IsPlain.of_blank (h _ hmem)).2.1 rfl

lemma HidesCommas.append {s : List Char} (hs : HidesCommas before s)
    (ht : HidesCommas (before ++ s) t) : HidesCommas before (s ++ t) := by
  induction s generalizing before with
  | nil => simpa using ht
  | cons c s ih =>
    refine hidesCommas_cons (ih hs.tail ?_) fun hc => ?_
    · rwa [← List.append_cons]
    · simpa using hs [] s (by rw [hc, List.nil_append])

lemma HidesCommas.of_notMem (h : ',' ∉ t) : HidesCommas before t := by
  rintro x y rfl
  simp at h

lemma HidesCommas.behind (h : HidesCommas [] t) (hbefore : ¬ EndsQuoted before) :
    HidesCommas before t := by
  rintro x y hxy
  have hx := h x y hxy
  rw [List.nil_append] at hx
  simp [endsQuoted_append, hbefore, hx]

lemma IsEntire.pads {p : List Char} (ht : IsEntire t) (hp : Pads t p)
    (hbefore : ¬ EndsQuoted before) : HidesCommas before p ∧ ¬ EndsQuoted (before ++ p) := by
  obtain ⟨b, a, hb, ha, rfl⟩ := hp
  have hclosed : ¬ EndsQuoted t := Nat.not_odd_iff_even.mpr ht.closed
  have hblank {w : List Char} (hw : Blank w) : ¬ EndsQuoted w := by
    simp [EndsQuoted, hw.count_quoteMark]
  have hb' : ¬ EndsQuoted (before ++ b) := by simp [endsQuoted_append, hbefore, hblank hb]
  refine ⟨((HidesCommas.of_notMem hb.comma_notMem).append (ht.hides.behind hb')).append
    (.of_notMem ha.comma_notMem), ?_⟩
  simp [endsQuoted_append, hbefore, hclosed, hblank hb, hblank ha]

lemma isEntire_inQuotes (ht : ∀ c ∈ t, c ≠ quoteMark) : IsEntire (inQuotes t) := by
  have hcount {x : List Char} (hx : ∀ c ∈ x, c ≠ quoteMark) : x.count quoteMark = 0 :=
    List.count_eq_zero.mpr fun hmem => hx _ hmem rfl
  have hcomma : ',' ≠ quoteMark := by decide
  refine ⟨trimmed_inQuotes t, by simp [inQuotes, hcount ht], ?_⟩
  refine hidesCommas_cons (.append ?_ (.of_notMem (by simp [hcomma]))) fun h => absurd h.symm hcomma
  rintro x y rfl
  simp [EndsQuoted, hcount fun c hc => ht c (List.mem_append_left _ hc)]

lemma isCut_of_entire {ts : List (List Char)} (hne : ts ≠ []) (hts : ∀ t ∈ ts, IsEntire t)
    (hps : List.Forall₂ Pads ts ps) (hbefore : ¬ EndsQuoted before) : IsCut before ps := by
  induction hps generalizing before with
  | nil => exact absurd rfl hne
  | @cons t p ts ps hp hps ih =>
    obtain ⟨ht, hts⟩ := List.forall_mem_cons.mp hts
    obtain ⟨hhides, hquotes⟩ := ht.pads hp hbefore
    cases hps with
    | nil => exact .last hhides
    | @cons u q us qs hq hqs =>
      have hcomma : ¬ EndsQuoted [','] := by decide
      refine .comma hhides hquotes (ih (List.cons_ne_nil u us) hts ?_)
      rw [endsQuoted_append]
      simp [hquotes, hcomma]

lemma map_trim_of_pads {ts : List (List Char)} (hts : ∀ t ∈ ts, IsEntire t)
    (hps : List.Forall₂ Pads ts ps) : ps.map trim = ts := by
  induction hps with
  | nil => rfl
  | cons hp _ ih =>
    obtain ⟨ht, hts⟩ := List.forall_mem_cons.mp hts
    obtain ⟨b, a, hb, ha, rfl⟩ := hp
    rw [List.map_cons, trim_append ht.trimmed hb ha, ih hts]

lemma Blank.pieces_eq (h : Blank t) : pieces false t = [t] :=
  (isCut_iff.mp ⟨.last (.of_notMem h.comma_notMem), List.intercalate_singleton⟩).symm

/-- A text that is not blank is cut at the commas with an even number of quotes before them and at
no others, in just one way, and its arguments are the trimmed pieces. Arguments that are written
with blanks around them and commas between them are read back, except for an empty one that stands
alone. -/
theorem splitArgs_cuts_outside_quotes :
    (∀ cs, ¬ Blank cs → ∃ ps, (∀ qs, IsCut [] qs ∧ [','].intercalate qs = cs ↔ qs = ps) ∧
      splitArgs cs = ps.map trim) ∧
    ∀ ts ps, ts ≠ [] → ts ≠ [[]] → (∀ t ∈ ts, IsEntire t) → List.Forall₂ Pads ts ps →
      splitArgs ([','].intercalate ps) = ts := by
  have hsplit {cs : List Char} (h : ¬ Blank cs) : splitArgs cs = (pieces false cs).map trim :=
    if_neg (mt blank_of_trim_eq_nil h)
  constructor
  · intro cs hcs
    exact ⟨pieces false cs, fun qs => isCut_iff, hsplit hcs⟩
  · intro ts ps hne hempty hts hps
    have hcut : ps = pieces false ([','].intercalate ps) :=
      isCut_iff.mp ⟨isCut_of_entire hne hts hps (by decide), rfl⟩
    have htrim := map_trim_of_pads hts hps
    by_cases hblank : Blank ([','].intercalate ps)
    · rw [hblank.pieces_eq] at hcut
      rw [hcut, List.map_singleton, trim_of_blank hblank] at htrim
      exact absurd htrim.symm hempty
    · rw [hsplit hblank, ← hcut, htrim]

theorem splitArgs_cuts_outside_quotes_open :
    (¬ Blank "f, \"a, b".toList ∧ ∃ ps,
      (∀ qs, IsCut [] qs ∧ [','].intercalate qs = "f, \"a, b".toList ↔ qs = ps) ∧
        splitArgs "f, \"a, b".toList = ps.map trim) ∧
    (∀ t ∈ [inQuotes ['a', ',', 'b'], [], ['1']], IsEntire t) ∧
    List.Forall₂ Pads [inQuotes ['a', ',', 'b'], [], ['1']]
      [inQuotes ['a', ',', 'b'] ++ [' '], [], ['\n', ' ', '1']] ∧
    splitArgs ([','].intercalate [inQuotes ['a', ',', 'b'] ++ [' '], [], ['\n', ' ', '1']]) =
      [inQuotes ['a', ',', 'b'], [], ['1']] := by
  have hblank : ¬ Blank "f, \"a, b".toList := by decide
  have hdigit : isBlank '1' = false := by decide
  have hquoted : IsEntire (inQuotes ['a', ',', 'b']) := isEntire_inQuotes (by simp [quoteMark])
  have hone : IsEntire ['1'] := ⟨⟨by simpa, by simpa⟩, by decide, .of_notMem (by decide)⟩
  have hnone : IsEntire [] := ⟨⟨nofun, nofun⟩, by decide, hidesCommas_nil []⟩
  have hts : ∀ t ∈ [inQuotes ['a', ',', 'b'], [], ['1']], IsEntire t := by
    simp only [List.forall_mem_cons]
    exact ⟨hquoted, hnone, hone, by simp⟩
  have hps : List.Forall₂ Pads [inQuotes ['a', ',', 'b'], [], ['1']]
      [inQuotes ['a', ',', 'b'] ++ [' '], [], ['\n', ' ', '1']] :=
    .cons ⟨[], [' '], by decide, by decide, by decide⟩
      (.cons ⟨[], [], by decide, by decide, by decide⟩
        (.cons ⟨['\n', ' '], [], by decide, by decide, by decide⟩ .nil))
  exact ⟨⟨hblank, splitArgs_cuts_outside_quotes.1 _ hblank⟩, hts, hps,
    splitArgs_cuts_outside_quotes.2 _ _ (by simp) (by simp) hts hps⟩

end EventScript.Text
