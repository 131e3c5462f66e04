import EventScript.Proofs.Script.Lines
import EventScript.Proofs.Text.Lines
import Mathlib.Algebra.Ring.Parity
import Mathlib.Algebra.Group.Nat.Even

/-! The layout of scripts. A script is its lines, each read by itself; blanks, comments and further
lines that hold nothing else do not change what is read, but for the numbers of the lines. -/

namespace EventScript

open Text

/-! ### Single lines -/

namespace Text

variable {b a l t c : List Char}

lemma trim_around (hb : Blank b) (ha : Blank a) (cs : List Char) :
    trim (b ++ cs ++ a) = trim cs := by
  obtain ⟨b', a', hb', ha', hcs⟩ := exists_trim cs
  have hassoc : b ++ cs ++ a = (b ++ b') ++ trim cs ++ (a' ++ a) := by
    conv_lhs => rw [hcs]
    simp
  rw [hassoc, trim_append (trimmed_trim cs) (blank_append.mpr ⟨hb, hb'⟩)
    (blank_append.mpr ⟨ha', ha⟩)]

/-- A comment begins within a line, or what follows the line is read behind the quotes of the
line. -/
lemma beforeComment_append (ht : t.head? ≠ some '/') (inside : Bool) (l : List Char) :
    beforeComment inside (l ++ t) = beforeComment inside l ∨
      beforeComment inside l = l ∧ ∃ inside', beforeComment inside (l ++ t) =
        l ++ beforeComment inside' t ∧ (inside' = inside ↔ Even (l.count quoteMark)) := by
  induction l generalizing inside with
  | nil => exact .inr ⟨rfl, inside, rfl, by simp⟩
  | cons c l ih =>
    have hhead : (l ++ t).head? = some '/' ↔ l.head? = some '/' := by cases l <;> simp [ht]
    rw [List.cons_append, beforeComment, beforeComment]
    simp only [hhead]
    split
    · exact .inl rfl
    · refine (ih _).imp (congrArg _) ?_
      rintro ⟨hl, inside', hrest, hparity⟩
      refine ⟨congrArg _ hl, inside', congrArg _ hrest, ?_⟩
      by_cases hc : c = quoteMark
      · rw [if_pos hc] at hparity
        rw [hc, List.count_cons_self, Nat.even_add_one, ← hparity]
        cases inside <;> cases inside' <;> decide
      · rw [if_neg hc] at hparity
        rw [List.count_cons_of_ne hc, hparity]

lemma beforeComment_of_blank (ha : Blank a) (inside : Bool) : beforeComment inside a = a := by
  induction a generalizing inside with
  | nil => rfl
  | cons c a ih =>
    obtain ⟨hc, ha⟩ := List.forall_mem_cons.mp ha
    obtain ⟨-, -, hslash⟩ := IsPlain.of_blank hc
    rw [beforeComment, if_neg fun h => hslash h.1, ih ha]

lemma Blank.head?_ne (ha : Blank a) : a.head? ≠ some '/' := by
  intro h
  obtain ⟨-, -, hslash⟩ := IsPlain.of_blank (ha '/' (List.mem_of_mem_head? h))
  exact hslash rfl

end Text

namespace Command

variable {b a l c : List Char}

lemma bare_pad (hb : Blank b) (ha : Blank a) (l : List Char) : bare (b ++ l ++ a) = bare l := by
  have hnone : Blank [] := by simp [Blank]
  rw [bare, bare, stripComment, stripComment, List.append_assoc,
    HasNoComment.of_plain fun d hd => .of_blank (hb d hd)]
  rcases beforeComment_append ha.head?_ne false l with hl | ⟨hl, inside, hrest, -⟩
  · simpa [hl] using trim_around hb hnone (beforeComment false l)
  · rw [hrest, beforeComment_of_blank ha, ← List.append_assoc, trim_around hb ha, hl]

lemma bare_comment (hl : Even (l.count quoteMark)) (c : List Char) :
    bare (l ++ ' ' :: '/' :: '/' :: c) = bare l := by
  rw [bare, bare, stripComment, stripComment]
  rcases beforeComment_append (t := ' ' :: '/' :: '/' :: c) (by simp) false l with
    hin | ⟨hin, inside, hrest, hparity⟩
  · rw [hin]
  · obtain rfl := hparity.mpr hl
    have hblank : beforeComment false (' ' :: '/' :: '/' :: c) = [' '] := by
      simp [beforeComment, quoteMark]
    rw [hrest, hblank, hin]
    simpa using trim_around (b := []) (by simp [Blank]) (a := [' ']) (by decide) l

/-- Nothing but blanks and perhaps a comment. -/
def IsIdle (l : List Char) : Prop :=
  ∃ b c, Blank b ∧ l = b ++ c ∧ (c = [] ∨ ∃ d, c = '/' :: '/' :: d)

lemma IsIdle.bare_eq (h : IsIdle l) : bare l = [] := by
  obtain ⟨b, c, hb, rfl, hc⟩ := h
  rw [bare, stripComment_append (HasNoComment.of_plain fun d hd => .of_blank (hb d hd)) hc,
    trim_of_blank hb]

end Command

/-! ### Numbers of lines -/

namespace Command

def renumber (g : Int → Int) (c : Command) : Command := { c with line := g c.line }

lemma renumber_eq_self {g : Int → Int} {c : Command} (h : g c.line = c.line) :
    c.renumber g = c := by
  rw [renumber, h]

lemma ofText_renumber (g : Int → Int) (line : List Char) (n : Int) :
    ofText line (g n) = (ofText line n).map (renumber g) := by
  unfold ofText
  split
  · rfl
  · dsimp only
    split
    · unfold check
      dsimp only
      split
      · split <;> rfl
      · rfl
    · rfl

lemma parseLine_renumber (g : Int → Int) (source : List Char) (n : Int) :
    parseLine source (g n) = (parseLine source n).map (Option.map (renumber g)) := by
  unfold parseLine
  dsimp only
  split
  · rfl
  · rw [ofText_renumber]
    cases ofText (bare source) n <;> rfl

lemma line_of_parseLine {source : List Char} {n : Int} {c : Command}
    (h : parseLine source n = .ok (some c)) : c.line = n := by
  have hsame : parseLine source n = _ := parseLine_renumber (fun _ => n) source n
  rw [h] at hsame
  exact congrArg line (Option.some.inj (Except.ok.inj hsame))

lemma resolveLabel_renumber (g : Int → Int) (labels : Ledger String Nat) (i : Nat) (c : Command) :
    (c.renumber g).resolveLabel labels i = (c.resolveLabel labels i).renumber g := by
  have hlabel : (c.renumber g).jumpLabel? = c.jumpLabel? := rfl
  unfold resolveLabel
  rw [hlabel]
  split
  · rfl
  · split
    · rfl
    · split <;> rfl

end Command

section Renumber

variable (g : Int → Int)

lemma setTarget_renumber (cs : List Command) (i t : Nat) :
    setTarget (cs.map (·.renumber g)) i t = (setTarget cs i t).map (·.renumber g) := by
  refine List.ext_getElem? fun k => ?_
  simp only [getElem?_setTarget, List.getElem?_map]
  split <;> cases cs[k]? <;> rfl

lemma push_renumber (s : BlockState) (c : Command) :
    BlockState.push ⟨s.commands.map (·.renumber g), s.stack⟩ (c.renumber g) =
      ⟨(s.push c).commands.map (·.renumber g), (s.push c).stack⟩ := by
  have hmark : (c.renumber g).blockMark = c.blockMark := rfl
  unfold BlockState.push
  rw [hmark]
  dsimp only
  split
  · simp
  · simp
  · simp [← setTarget_renumber]
  · simp [Command.renumber]
  · simp [← setTarget_renumber]
  · simp [Command.renumber]

lemma foldl_push_renumber (cs : List Command) (s : BlockState) :
    (cs.map (·.renumber g)).foldl BlockState.push ⟨s.commands.map (·.renumber g), s.stack⟩ =
      ⟨(cs.foldl BlockState.push s).commands.map (·.renumber g),
        (cs.foldl BlockState.push s).stack⟩ := by
  induction cs generalizing s with
  | nil => rfl
  | cons c cs ih =>
    rw [List.map_cons, List.foldl_cons, push_renumber, List.foldl_cons]
    exact ih (s.push c)

lemma setTargets_renumber (js : List Nat) (cs : List Command) (t : Nat) :
    js.foldl (fun ds i => setTarget ds i t) (cs.map (·.renumber g)) =
      (js.foldl (fun ds i => setTarget ds i t) cs).map (·.renumber g) := by
  induction js generalizing cs with
  | nil => rfl
  | cons i js ih => rw [List.foldl_cons, setTarget_renumber, ih, List.foldl_cons]

lemma resolveBlocks_renumber (cs : List Command) :
    resolveBlocks (cs.map (·.renumber g)) = (resolveBlocks cs).map (·.renumber g) := by
  have hfold := foldl_push_renumber g cs {}
  rw [List.map_nil] at hfold
  rw [resolveBlocks, hfold, BlockState.close, List.length_map, setTargets_renumber]
  rfl

lemma resolveLabels_renumber (labels : Ledger String Nat) (cs : List Command) :
    resolveLabels labels (cs.map (·.renumber g)) =
      (resolveLabels labels cs).map (·.renumber g) := by
  refine List.ext_getElem? fun k => ?_
  simp only [resolveLabels, List.getElem?_mapIdx, List.getElem?_map, Option.map_map]
  exact congrArg (fun f => Option.map f cs[k]?)
    (funext fun c => c.resolveLabel_renumber g labels k)

end Renumber

namespace Script

def renumber (g : Int → Int) (s : Script) : Script :=
  { s with commands := s.commands.map (·.renumber g) }

def Draft.renumber (g : Int → Int) (d : Draft) : Draft :=
  { d with commands := d.commands.map (·.renumber g) }

section Draft

variable {g : Int → Int} {n : Int} {ls : List (List Char)} {l : List Char} {d e : Draft}

lemma ofDraft_renumber (name : String) (path : Option String) (d : Draft) :
    ofDraft name path (d.renumber g) = (ofDraft name path d).renumber g := by
  rw [ofDraft, Draft.renumber, resolveBlocks_renumber, resolveLabels_renumber]
  rfl

lemma Draft.addLine_renumber (g : Int → Int) (d : Draft) (l : List Char) (n : Int) :
    (d.renumber g).addLine l (g n) = (d.addLine l n).map (renumber g) := by
  unfold addLine
  split
  · simp [renumber, Except.map]
  · rw [Command.parseLine_renumber]
    cases Command.parseLine (Command.bare l) n with
    | error f => rfl
    | ok c => cases c <;> simp [renumber, Except.map]

lemma Draft.addLines_renumber (hg : ∀ m, n ≤ m → g m = m + 1) (d : Draft)
    (ls : List (List Char)) :
    (d.renumber g).addLines (n + 1) ls = (d.addLines n ls).map (renumber g) := by
  induction ls generalizing d n with
  | nil => rfl
  | cons l ls ih =>
    rw [addLines, addLines, ← hg n (Int.le_refl n), addLine_renumber, hg n (Int.le_refl n)]
    cases d.addLine l n with
    | error f => rfl
    | ok e => exact ih (fun m hm => hg m (by omega)) e

lemma Draft.addLines_append (d : Draft) (n : Int) (ls ls' : List (List Char)) :
    d.addLines n (ls ++ ls') = (d.addLines n ls).bind (·.addLines (n + ls.length) ls') := by
  induction ls generalizing d n with
  | nil => simp [addLines, Except.bind]
  | cons l ls ih =>
    rw [List.cons_append, addLines, addLines]
    cases d.addLine l n with
    | error f => rfl
    | ok e =>
      have hnumber : n + 1 + (ls.length : Int) = n + ((l :: ls).length : Int) := by
        rw [List.length_cons]
        omega
      exact hnumber ▸ ih e (n + 1)

def Draft.Before (d : Draft) (n : Int) : Prop := ∀ c ∈ d.commands, c.line < n

lemma Draft.Before.addLine (h : d.Before n) (hd : d.addLine l n = .ok e) : e.Before (n + 1) := by
  have hold (c : Command) (hc : c ∈ d.commands) : c.line < n + 1 :=
    Int.lt_trans (h c hc) (Int.lt_succ n)
  unfold Draft.addLine at hd
  split at hd
  · obtain rfl := Except.ok.inj hd
    exact hold
  · split at hd
    · cases hd
    · obtain rfl := Except.ok.inj hd
      exact hold
    · next c hc =>
      obtain rfl := Except.ok.inj hd
      refine List.forall_mem_append.mpr ⟨hold, List.forall_mem_singleton.mpr ?_⟩
      exact Command.line_of_parseLine hc ▸ Int.lt_succ n

lemma Draft.Before.addLines (h : d.Before n) (hd : d.addLines n ls = .ok e) :
    e.Before (n + ls.length) := by
  induction ls generalizing d n with
  | nil =>
    obtain rfl := Except.ok.inj hd
    simpa using h
  | cons l ls ih =>
    unfold Draft.addLines at hd
    split at hd
    · cases hd
    · next f hf =>
      have hrest := ih (h.addLine hf) hd
      have hnumber : n + 1 + (ls.length : Int) = n + ((l :: ls).length : Int) := by
        rw [List.length_cons]
        omega
      exact hnumber ▸ hrest

lemma Draft.addLines_congr {ls ls' : List (List Char)}
    (h : List.Forall₂ (fun l l' => Command.bare l = Command.bare l') ls ls') (d : Draft) (n : Int) :
    d.addLines n ls = d.addLines n ls' := by
  induction h generalizing d n with
  | nil => rfl
  | @cons l l' ls ls' hl _ ih =>
    have hline : d.addLine l n = d.addLine l' n := by rw [addLine, addLine, hl]
    rw [addLines, addLines, hline]
    cases d.addLine l' n with
    | error f => rfl
    | ok e => exact ih e (n + 1)

end Draft

/-! ### Whole scripts -/

variable {text text' name : String} {path : Option String}

lemma parse_congr (h : List.Forall₂ (fun l l' => Command.bare l = Command.bare l')
    (Text.lines text.toList) (Text.lines text'.toList)) :
    parse text name path = parse text' name path := by
  rw [parse, parse, Draft.addLines_congr h]

/-- Commands behind the first `k` lines are one line further down. -/
def movedDown (k : Nat) (s : Script) : Script := s.renumber fun n => if n ≤ k then n else n + 1

lemma parse_insert {before after : List (List Char)} {l : List Char}
    (ht : Text.lines text.toList = before ++ after)
    (ht' : Text.lines text'.toList = before ++ l :: after) (hl : Command.bare l = []) :
    parse text' name path = (parse text name path).map (movedDown before.length) := by
  rw [parse, parse, ht, ht', Draft.addLines_append, Draft.addLines_append]
  cases hd : Draft.addLines {} 1 before with
  | error f => rfl
  | ok d =>
    have hbefore : d.Before (1 + before.length) :=
      Draft.Before.addLines (d := {}) (by simp [Draft.Before]) hd
    have hsame : d.renumber (fun n => if n ≤ before.length then n else n + 1) = d := by
      unfold Draft.renumber
      rw [List.map_congr_left (g := id) fun c hc => ?_, List.map_id]
      exact Command.renumber_eq_self (if_pos (by have := hbefore c hc; omega))
    have hskip : d.addLine l (1 + before.length) = .ok d := by
      rw [Draft.addLine, hl]
      rfl
    have hmove := Draft.addLines_renumber (n := 1 + before.length)
      (g := fun n => if n ≤ before.length then n else n + 1) (fun m hm => if_neg (by omega)) d after
    rw [hsame] at hmove
    change (d.addLines _ (l :: after)).map _ = ((d.addLines _ after).map _).map _
    rw [Draft.addLines, hskip]
    dsimp only
    rw [hmove]
    cases d.addLines (1 + before.length) after with
    | error f => rfl
    | ok e => exact congrArg Except.ok (ofDraft_renumber name path e)

lemma Draft.addLine_reads {d e : Draft} {n : Int} {l : List Char} (h : d.addLine l n = .ok e) :
    ∃ r, Command.parseLine l n = .ok r ∧ e.commands = d.commands ++ r.toList := by
  rw [← Command.parseLine_bare]
  unfold addLine at h
  split at h
  · next label hlabel =>
    obtain rfl := Except.ok.inj h
    refine ⟨none, ?_, (List.append_nil _).symm⟩
    simp [Command.parseLine, Command.bare_bare, hlabel]
  · split at h
    · cases h
    · next hr =>
      obtain rfl := Except.ok.inj h
      exact ⟨none, hr, (List.append_nil _).symm⟩
    · next c hr =>
      obtain rfl := Except.ok.inj h
      exact ⟨some c, hr, rfl⟩

lemma Draft.addLines_reads {d e : Draft} {n : Nat} {ls : List (List Char)}
    (h : d.addLines n ls = .ok e) : ∃ rs : List (Option Command),
      List.Forall₂ (fun p r => Command.parseLine p.1 p.2 = .ok r) (ls.zipIdx n) rs ∧
        e.commands = d.commands ++ rs.reduceOption := by
  induction ls generalizing d n with
  | nil =>
    obtain rfl := Except.ok.inj h
    exact ⟨[], .nil, (List.append_nil _).symm⟩
  | cons l ls ih =>
    rw [addLines] at h
    split at h
    · cases h
    next f hf =>
    obtain ⟨r, hr, hcommands⟩ := addLine_reads hf
    obtain ⟨rs, hreads, he⟩ := ih (n := n + 1) h
    refine ⟨r :: rs, .cons hr hreads, ?_⟩
    rw [he, hcommands, List.append_assoc]
    cases r <;> rfl

/-- Blanks are added at either end of a line, or behind it a comment, which no quote hides. -/
inductive Relaid : List Char → List Char → Prop
  | pad {p l q b a : List Char} : IsLine p l q → Blank b → Blank a → Unbroken b → Unbroken a →
      Relaid (p ++ (l ++ q)) (p ++ ((b ++ l ++ a) ++ q))
  | comment {p l q c : List Char} : IsLine p l q → Even (l.count quoteMark) → Unbroken c →
      Relaid (p ++ (l ++ q)) (p ++ ((l ++ ' ' :: '/' :: '/' :: c) ++ q))

lemma Relaid.forall₂_bare {t t' : List Char} (h : Relaid t t') :
    List.Forall₂ (fun l l' => Command.bare l = Command.bare l') (Text.lines t') (Text.lines t) := by
  have hexchange {p l l' q : List Char} (hl : IsLine p l q) (hl' : IsLine p l' q)
      (hbare : Command.bare l' = Command.bare l) :
      List.Forall₂ (fun l l' => Command.bare l = Command.bare l') (Text.lines (p ++ (l' ++ q)))
        (Text.lines (p ++ (l ++ q))) := by
    rw [lines_append_line hl, lines_append_line hl']
    exact List.rel_append (List.forall₂_refl _) (.cons hbare (List.forall₂_refl _))
  cases h with
  | @pad p l q b a hl hb ha hb' ha' =>
    have hwhole : Unbroken (b ++ l ++ a) := unbroken_append (unbroken_append hb' hl.unbroken) ha'
    exact hexchange hl (hl.exchange hwhole (by simp +contextual)) (Command.bare_pad hb ha l)
  | @comment p l q c hl heven hc =>
    have hcomment : Unbroken (' ' :: '/' :: '/' :: c) :=
      unbroken_append (l := [' ', '/', '/']) (by simp [Unbroken, isLineBreak]) hc
    have hwhole := unbroken_append hl.unbroken hcomment
    exact hexchange hl (hl.exchange hwhole (by simp)) (Command.bare_comment heven c)

/-- A script is compiled line by line. A line that holds nothing but blanks and a comment moves the
lines behind it, and blanks around a line and a comment behind it change nothing. -/
theorem parse_line_by_line (text name : String) (path : Option String) :
    (∀ s, parse text name path = .ok s → ∃ rs : List (Option Command),
      List.Forall₂ (fun p r => Command.parseLine p.1 p.2 = .ok r)
        ((Text.lines text.toList).zipIdx 1) rs ∧
      List.Forall₂ Command.ResolvesTo rs.reduceOption s.commands) ∧
    (∀ text' k l, Command.IsIdle l → Inserts l k text.toList text'.toList →
      parse text' name path = (parse text name path).map (movedDown k)) ∧
    ∀ text', Relaid text.toList text'.toList → parse text' name path = parse text name path := by
  refine ⟨fun s hs => ?_, fun text' k l hl h => ?_, fun text' h => parse_congr h.forall₂_bare⟩
  · obtain ⟨d, hd, rfl⟩ := parse_eq_ok hs
    obtain ⟨rs, hreads, hcommands⟩ := Draft.addLines_reads (n := 1) hd
    refine ⟨rs, hreads, ?_⟩
    have hsame : d.commands = rs.reduceOption := hcommands
    exact hsame ▸ forall₂_resolveLabels (forall₂_resolveBlocks d.commands) d.labels
  · obtain ⟨before, after, ht, ht', rfl⟩ := h.exists_lines
    exact parse_insert ht ht' hl.bare_eq

end Script

end EventScript
