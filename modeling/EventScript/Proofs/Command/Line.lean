import EventScript.Proofs.Command.Argument
import Mathlib

/-! Commands as they are written: a name in any letter case, the arguments in parentheses, and
perhaps a semicolon and a comment. A command written so is read back as it was meant. -/

namespace EventScript

open Text

section LetterCase

variable {c : Char}

lemma isUpper_iff : c.isUpper = true ↔ 0x41 ≤ c.toNat ∧ c.toNat ≤ 0x5A := by
  simp [Char.isUpper, UInt32.le_iff_toNat_le]

lemma isAlpha_iff : c.isAlpha = true ↔
    (0x41 ≤ c.toNat ∧ c.toNat ≤ 0x5A) ∨ (0x61 ≤ c.toNat ∧ c.toNat ≤ 0x7A) := by
  simp [Char.isAlpha, isUpper_iff, Char.isLower, UInt32.le_iff_toNat_le]

lemma lowerChar_eq_toLower (h : c.toNat ≠ 0x212A) : lowerChar c = c.toLower := by
  have hrange : ((decide ('A' ≤ c) && decide (c ≤ 'Z')) = true) ↔ c.isUpper = true := by
    simp only [Bool.and_eq_true, decide_eq_true_eq, Char.le_def, UInt32.le_iff_toNat_le,
      isUpper_iff]
    rfl
  unfold lowerChar
  split
  · next hupper => rw [Char.toLower_eq_of_isUpper (hrange.mp hupper)]
  · next hnot => exact (Char.toLower_eq_of_not_isUpper (hrange.not.mp hnot)).symm

lemma isAlpha_congr {d : Char} (h : c.toLower = d.toLower) : c.isAlpha = d.isAlpha := by
  rw [← Char.isAlpha_toLower_eq_isAlpha, h, Char.isAlpha_toLower_eq_isAlpha]

lemma isWordChar_of_isAlpha (h : c.isAlpha = true) : isWordChar c = true :=
  isWordChar_iff.mpr ((isAlpha_iff.mp h).elim .inl fun h => .inr (.inl h))

lemma isNameStart_of_isAlpha (h : c.isAlpha = true) : isNameStart c = true := by
  have hdigit : isAsciiDigit c = false := by
    refine Bool.eq_false_iff.mpr fun hd => ?_
    rw [isAsciiDigit_iff] at hd
    rw [isAlpha_iff] at h
    omega
  simp [isNameStart, isWordChar_of_isAlpha h, hdigit]

end LetterCase

section Name

variable {name : String} {v : Verb}

/-- The name of a command, in any letter case. -/
def Verb.Spells (v : Verb) (name : String) : Prop :=
  name.toList.map Char.toLower = v.name.toList.map Char.toLower

instance : Decidable (v.Spells name) := inferInstanceAs (Decidable (_ = _))

lemma Verb.mem_all (v : Verb) : v ∈ Verb.all := by
  cases v <;> decide

lemma Verb.name_letters (v : Verb) :
    v.name.toList ≠ [] ∧ ∀ c ∈ v.name.toList, c.isAlpha = true := by
  have hall : ∀ v ∈ Verb.all, v.name.toList ≠ [] ∧ v.name.toList.all Char.isAlpha = true := by
    decide +kernel
  simpa only [List.all_eq_true] using hall v v.mem_all

lemma Verb.ofName?_name (v : Verb) : Verb.ofName? v.name = some v :=
  have hall : ∀ v ∈ Verb.all, Verb.ofName? v.name = some v := by decide +kernel
  hall v v.mem_all

lemma lower_eq (h : ∀ c ∈ name.toList, c.isAlpha = true) :
    (lower name).toList = name.toList.map Char.toLower := by
  rw [lower, String.toList_map]
  refine List.map_congr_left fun c hc => lowerChar_eq_toLower ?_
  have hletter := isAlpha_iff.mp (h c hc)
  omega

lemma Verb.Spells.letters (h : v.Spells name) : ∀ c ∈ name.toList, c.isAlpha = true := by
  intro c hc
  obtain ⟨d, hd, hcd⟩ := List.mem_map.mp (h ▸ List.mem_map_of_mem (f := Char.toLower) hc)
  exact (isAlpha_congr hcd.symm).trans (v.name_letters.2 d hd)

lemma Verb.Spells.ne_nil (h : v.Spells name) : name.toList ≠ [] := by
  intro hnil
  rw [Spells, hnil] at h
  exact v.name_letters.1 (List.map_eq_nil_iff.mp h.symm)

lemma Verb.Spells.ofName?_eq (h : v.Spells name) : Verb.ofName? name = some v := by
  have hlower : lower name = lower v.name := by
    rw [← String.toList_inj, lower_eq h.letters, lower_eq v.name_letters.2]
    exact h
  rw [← v.ofName?_name]
  simp only [Verb.ofName?, hlower]

end Name

namespace Command

def parens (list : List Char) : List Char := '(' :: (list ++ [')'])

def IsEnding (mark : List Char) : Prop := mark = [] ∨ ∃ w, Blank w ∧ mark = w ++ [';']

/-- What is written for a command. -/
def Writes (name : String) (args : List Arg) (line : List Char) : Prop :=
  ∃ before gap list mark after comment, Blank before ∧ Blank gap ∧ Arg.WritesAll args list ∧
    IsEnding mark ∧ Blank after ∧ (comment = [] ∨ ∃ rest, comment = '/' :: '/' :: rest) ∧
    line = before ++ (name.toList ++ gap ++ parens list ++ mark) ++ after ++ comment

section Parts

variable {v : Verb} {name : String} {args : List Arg} {gap list mark : List Char}

lemma getLast?_parens (list : List Char) : (parens list).getLast? = some ')' := by
  rw [parens, ← List.cons_append, List.getLast?_concat]

lemma trimmed_parens (list : List Char) : Trimmed (parens list) :=
  trimmed_cons_concat (by decide) (by decide) list

lemma dropSemicolon_parens (list : List Char) (hmark : IsEnding mark) :
    dropSemicolon (parens list ++ mark) = parens list := by
  rcases hmark with rfl | ⟨w, hw, rfl⟩
  · rw [List.append_nil, dropSemicolon, if_neg (by simp [getLast?_parens])]
  · rw [← List.append_assoc, dropSemicolon, if_pos List.getLast?_concat, List.dropLast_concat,
      trimRight_append hw (trimmed_parens list).last]

lemma argumentText?_parens (hfeed : '\n' ∉ list) : argumentText? (parens list) = some list := by
  simp [parens, argumentText?, hfeed]

lemma splitCommand?_written (hname : v.Spells name) (hgap : Blank gap) (hfeed : '\n' ∉ list)
    (hmark : IsEnding mark) :
    splitCommand? (name.toList ++ gap ++ parens list ++ mark) = some (name.toList, list) := by
  obtain ⟨c, cs, hcs⟩ := List.exists_cons_of_ne_nil hname.ne_nil
  have hletters := hname.letters
  rw [hcs, List.forall_mem_cons] at hletters
  obtain ⟨hc, hletters⟩ := hletters
  have htail : (cs ++ (gap ++ (parens list ++ mark))).takeWhile isWordChar = cs := by
    refine takeWhile_append_of_stop (fun d hd => ?_) ?_
    · exact isWordChar_of_isAlpha (hletters d hd)
    · cases gap with
      | nil =>
        rintro d ⟨⟩
        decide
      | cons b gap => simpa using not_isWordChar_of_isBlank (hgap b List.mem_cons_self)
  have hrest : trimLeft (gap ++ (parens list ++ mark)) = parens list ++ mark := by
    refine trimLeft_append hgap ?_
    rintro d ⟨⟩
    decide
  simp only [hcs, List.append_assoc, List.cons_append, splitCommand?,
    if_pos (isNameStart_of_isAlpha hc), htail, List.drop_left, hrest,
    dropSemicolon_parens list hmark, argumentText?_parens hfeed, Option.map_some]

lemma labelOf?_written (hname : v.Spells name) (rest : List Char) :
    labelOf? (name.toList ++ rest) = none := by
  obtain ⟨c, cs, hcs⟩ := List.exists_cons_of_ne_nil hname.ne_nil
  have hletter : c.isAlpha = true := hname.letters c (by simp [hcs])
  rw [hcs, List.cons_append]
  unfold labelOf?
  split
  · next h =>
    obtain ⟨rfl, -⟩ := List.cons.inj h
    exact absurd hletter (by decide)
  · rfl

lemma IsEnding.noComment (h : IsEnding mark) : HasNoComment mark := by
  rcases h with rfl | ⟨w, hw, rfl⟩
  · exact .nil
  · exact (HasNoComment.of_plain fun c hc => .of_blank (hw c hc)).append
      (HasNoComment.nil.cons (by decide) (by decide))

lemma trimmed_written (hname : v.Spells name) (gap list : List Char) (hmark : IsEnding mark) :
    Trimmed (name.toList ++ gap ++ parens list ++ mark) := by
  constructor
  · obtain ⟨c, cs, hcs⟩ := List.exists_cons_of_ne_nil hname.ne_nil
    simp only [hcs, List.cons_append, List.head?_cons, Option.mem_def, Option.some.injEq]
    rintro _ rfl
    exact (isSolid_of_isWordChar (isWordChar_of_isAlpha (hname.letters c (by simp [hcs])))).2
  · rcases hmark with rfl | ⟨w, hw, rfl⟩
    · rw [List.append_nil, List.getLast?_append, getLast?_parens]
      rintro _ ⟨⟩
      decide
    · rw [← List.append_assoc, List.getLast?_concat]
      rintro _ ⟨⟩
      decide

lemma bare_written (hname : v.Spells name) {before after comment : List Char}
    (hbefore : Blank before) (hgap : Blank gap) (hlist : HasNoComment list) (hmark : IsEnding mark)
    (hafter : Blank after) (hcomment : comment = [] ∨ ∃ rest, comment = '/' :: '/' :: rest) :
    bare (before ++ (name.toList ++ gap ++ parens list ++ mark) ++ after ++ comment) =
      name.toList ++ gap ++ parens list ++ mark := by
  have hblank {w : List Char} (hw : Blank w) : HasNoComment w :=
    .of_plain fun c hc => .of_blank (hw c hc)
  have hletters : HasNoComment name.toList := .of_plain fun c hc =>
    (isSolid_of_isWordChar (isWordChar_of_isAlpha (hname.letters c hc))).1
  have hparens : HasNoComment (parens list) :=
    (hlist.append (HasNoComment.nil.cons (by decide) (by decide))).cons (by decide) (by decide)
  have hbody := ((hletters.append (hblank hgap)).append hparens).append hmark.noComment
  have hall := ((hblank hbefore).append hbody).append (hblank hafter)
  rw [bare, stripComment_append hall hcomment, trim_append (trimmed_written hname gap list hmark)
    hbefore hafter]

lemma check_written (c : Command) (hcount : v.signature.accepts args.length = true)
    (htypes : args.map Arg.type = v.signature.types.take args.length) {tokens : List (List Char)}
    (htokens : List.Forall₂ Arg.Writes args tokens) :
    check v c tokens = .ok { c with args := args } := by
  rw [htokens.length_eq] at hcount
  simp [check, hcount, Arg.readAll_eq htokens htypes]

end Parts

/-- What was written for a command is read as this command. -/
theorem parseLine_written {v : Verb} {name : String} {args : List Arg} {line : List Char}
    (hname : v.Spells name) (hcount : v.signature.accepts args.length = true)
    (htypes : args.map Arg.type = v.signature.types.take args.length)
    (hline : Writes name args line) (number : Int) :
    ∃ params, parseLine line number =
      .ok (some { kind := .builtin v, name, params, args, line := number }) := by
  obtain ⟨before, gap, list, mark, after, comment, hbefore, hgap, hlist, hmark, hafter, hcomment,
    rfl⟩ := hline
  obtain ⟨hnoComment, hfeed⟩ := hlist.noComment
  have hbare := bare_written hname hbefore hgap hnoComment hmark hafter hcomment
  have hsplit := splitCommand?_written hname hgap hfeed hmark
  have htokens := hlist.splitArgs
  have hlabel : labelOf? (name.toList ++ gap ++ parens list ++ mark) = none := by
    simpa using labelOf?_written hname (gap ++ parens list ++ mark)
  have hempty : (name.toList ++ gap ++ parens list ++ mark).isEmpty = false := by
    simp [hname.ne_nil]
  have hkind : CommandKind.ofName name = .builtin v := by
    rw [CommandKind.ofName, hname.ofName?_eq]
  refine ⟨(splitArgs list).map fun t => String.ofList (unquote t), ?_⟩
  simp only [parseLine, hbare, hempty, hlabel, Option.isSome_none, Bool.or_self, ofText, hsplit,
    String.ofList_toList, hkind, check_written _ hcount htypes htokens]
  rfl

/-- Commas, comment marks and parentheses in quotes belong to the strings. -/
theorem parseLine_written_choose :
    Verb.choose.Spells "cHOOSE" ∧ Verb.choose.signature.accepts 4 = true ∧
      Writes "cHOOSE" [.text "a, b //c", .text " (x); ", .text "", .var "$out_1"]
        "\tcHOOSE ( \"a, b //c\",\" (x); \" ,\"\", $out_1) ; // \"why\"".toList ∧
      ∃ params, parseLine
        "\tcHOOSE ( \"a, b //c\",\" (x); \" ,\"\", $out_1) ; // \"why\"".toList 7 =
        .ok (some { kind := .builtin .choose, name := "cHOOSE", params
                    args := [.text "a, b //c", .text " (x); ", .text "", .var "$out_1"]
                    line := 7 }) := by
  have hspace : Gap [' '] := by decide
  have hnone : Gap [] := by decide
  have hlist : Arg.WritesAll [.text "a, b //c", .text " (x); ", .text "", .var "$out_1"]
      " \"a, b //c\",\" (x); \" ,\"\", $out_1".toList :=
    .more hspace (.text (by simp [quoteMark])) hnone (.more hnone (.text (by simp [quoteMark]))
      hspace (.more hnone (.text (by simp)) hnone (.last hspace (.var (by decide)) hnone)))
  have hwrites : Writes "cHOOSE" [.text "a, b //c", .text " (x); ", .text "", .var "$out_1"]
      "\tcHOOSE ( \"a, b //c\",\" (x); \" ,\"\", $out_1) ; // \"why\"".toList :=
    ⟨['\t'], [' '], _, [' ', ';'], [' '], "// \"why\"".toList, by decide, by decide, hlist,
      .inr ⟨[' '], by decide, rfl⟩, by decide, .inr ⟨_, rfl⟩, rfl⟩
  exact ⟨by decide, by decide, hwrites,
    parseLine_written (by decide) (by decide) (by decide) hwrites 7⟩

end Command

end EventScript
