import EventScript.Proofs.Script.Layout
import EventScript.Proofs.Script.Matching

/-! Jumps to labels. A label is kept as the number of commands before it, and the last of several
with one name counts; to compare that number with the place of a jump among the commands is to
compare the lines of the source. -/

namespace EventScript

namespace Command

variable {c : Command} {l : String}

/-- A `Goto`, or an `If` in the form with a label, that was accepted where its line was read. -/
def IsLabelJump (c : Command) : Prop :=
  c.isValid = true ∧ (c.kind = .builtin .goto ∨ c.kind = .builtin .ifThen ∧ c.args.length = 2)

lemma IsLabelJump.exists_label (h : c.IsLabelJump) (hc : c.IsTyped) :
    ∃ l, c.jumpLabel? = some l := by
  obtain ⟨hv, hk | ⟨hk, hlength⟩⟩ := h
  · obtain ⟨l, ha⟩ := hc.goto hk hv
    exact ⟨l, by simp [jumpLabel?, hv, hk, ha]⟩
  · obtain ⟨x, -, ha | ⟨l, ha⟩⟩ := hc.ifThen hk hv
    · simp [ha] at hlength
    · exact ⟨l, by simp [jumpLabel?, hv, hk, ha]⟩

lemma isValid_of_jumpLabel? (h : c.jumpLabel? = some l) : c.isValid = true := by
  unfold jumpLabel? at h
  split at h
  · assumption
  · cases h

lemma blockMark_of_jumpLabel? (h : c.jumpLabel? = some l) : c.blockMark = .none := by
  unfold jumpLabel? at h
  split at h
  · split at h
    · next hk _ => simp [blockMark, hk]
    · next hk ha => simp [blockMark, hk, ha]
    · cases h
  · cases h

end Command

/-- How many of the commands are from lines before line `n`. -/
def commandsBefore (cs : List Command) (n : Int) : Nat := cs.countP (·.line < n)

section Before

variable {cs ds : List Command} {c : Command} {i : Nat} {n : Int}

lemma commandsBefore_append (cs ds : List Command) (n : Int) :
    commandsBefore (cs ++ ds) n = commandsBefore cs n + commandsBefore ds n :=
  List.countP_append

lemma commandsBefore_cons (c : Command) (cs : List Command) (n : Int) :
    commandsBefore (c :: cs) n = commandsBefore cs n + if c.line < n then 1 else 0 := by
  simp [commandsBefore, List.countP_cons]

lemma commandsBefore_eq_zero (h : ∀ c ∈ cs, n ≤ c.line) : commandsBefore cs n = 0 :=
  List.countP_eq_zero.mpr fun c hc => by simpa using h c hc

lemma commandsBefore_eq_length (h : ∀ c ∈ cs, c.line < n) : commandsBefore cs n = cs.length :=
  List.countP_eq_length.mpr fun c hc => by simpa using h c hc

lemma commandsBefore_congr (h : ds.map Command.line = cs.map Command.line) (n : Int) :
    commandsBefore ds n = commandsBefore cs n := by
  have hmap (es : List Command) :
      commandsBefore es n = (es.map Command.line).countP (· < n) := by
    rw [List.countP_map]
    rfl
  rw [hmap, hmap, h]

/-- Where each command is from a later line than the one before it, more than `i` commands are from
lines before line `n` exactly if the one at index `i` is. -/
lemma lt_commandsBefore (hs : cs.Pairwise (·.line < ·.line)) (hc : cs[i]? = some c) :
    i < commandsBefore cs n ↔ c.line < n := by
  induction cs generalizing i with
  | nil => simp at hc
  | cons d cs ih =>
    obtain ⟨hd, hs⟩ := List.pairwise_cons.mp hs
    have hnone (h : ¬ d.line < n) : commandsBefore cs n = 0 :=
      commandsBefore_eq_zero fun e he => (Int.not_lt.mp h).trans (hd e he).le
    rw [commandsBefore_cons]
    cases i with
    | zero =>
      obtain rfl : d = c := by simpa using hc
      by_cases h : d.line < n
      · simp [h]
      · simp [h, hnone h]
    | succ i =>
      have hc : cs[i]? = some c := hc
      by_cases h : d.line < n
      · rw [if_pos h, Nat.add_lt_add_iff_right, ih hs hc]
      · have hlt := hd c (List.mem_of_getElem? hc)
        rw [if_neg h, hnone h]
        omega

end Before

lemma Command.lines_eq {cs ds : List Command} (h : List.Forall₂ Command.ResolvesTo cs ds) :
    ds.map Command.line = cs.map Command.line := by
  induction h with
  | nil => rfl
  | cons hc _ ih =>
    rw [List.map_cons, List.map_cons, ih, hc.same]

/-- Line `j` of the source, counted from one, defines the label. -/
def DefinedAt (ls : List (List Char)) (l : String) (j : Nat) : Prop :=
  ∃ line, (line, j) ∈ ls.zipIdx 1 ∧ (labelOf? (Command.bare line)).map String.ofList = some l

def LastDefinedAt (ls : List (List Char)) (l : String) (j : Nat) : Prop :=
  DefinedAt ls l j ∧ ∀ k, DefinedAt ls l k → k ≤ j

section Defined

variable {ls : List (List Char)} {line : List Char} {l : String} {j : Nat}

lemma definedAt_concat : DefinedAt (ls ++ [line]) l j ↔ DefinedAt ls l j ∨
    j = ls.length + 1 ∧ (labelOf? (Command.bare line)).map String.ofList = some l := by
  simp only [DefinedAt, List.zipIdx_append, List.zipIdx_singleton, List.mem_append,
    List.mem_singleton, Prod.mk.injEq, or_and_right, exists_or, Nat.add_comm 1]
  refine or_congr_right ⟨?_, ?_⟩
  · rintro ⟨_, ⟨rfl, rfl⟩, h⟩
    exact ⟨rfl, h⟩
  · rintro ⟨rfl, h⟩
    exact ⟨line, ⟨rfl, rfl⟩, h⟩

lemma DefinedAt.le (h : DefinedAt ls l j) : j ≤ ls.length := by
  obtain ⟨line, hj, -⟩ := h
  have := List.snd_lt_of_mem_zipIdx hj
  omega

lemma LastDefinedAt.concat (h : LastDefinedAt ls l j)
    (hline : (labelOf? (Command.bare line)).map String.ofList ≠ some l) :
    LastDefinedAt (ls ++ [line]) l j := by
  refine ⟨definedAt_concat.mpr (.inl h.1), fun k hk => ?_⟩
  rcases definedAt_concat.mp hk with hk | ⟨-, hk⟩
  · exact h.2 k hk
  · exact absurd hk hline

end Defined

namespace Script

/-- What is kept of the lines read so far: commands in the order of their lines, and for each label
the number of commands before its last definition. -/
structure Draft.Follows (d : Draft) (ls : List (List Char)) : Prop where
  before : d.Before (ls.length + 1)
  sorted : d.commands.Pairwise (·.line < ·.line)
  unknown : ∀ l, d.labels.get? l = none → ∀ j, ¬ DefinedAt ls l j
  known : ∀ l t, d.labels.get? l = some t →
    ∃ j, LastDefinedAt ls l j ∧ t = commandsBefore d.commands j

namespace Draft.Follows

variable {d e : Draft} {ls : List (List Char)} {line : List Char}

lemma label (h : d.Follows ls) {l : String}
    (hl : (labelOf? (Command.bare line)).map String.ofList = some l) :
    Follows { d with labels := d.labels.put l d.commands.length } (ls ++ [line]) := by
  refine ⟨fun c hc => ?_, h.sorted, fun k hk => ?_, fun k t hk => ?_⟩
  · have := h.before c hc
    rw [List.length_append, List.length_singleton]
    omega
  all_goals
    dsimp only at hk
    rw [Ledger.get?_put] at hk
    split at hk
  · cases hk
  · next hne =>
    intro j hj
    rcases definedAt_concat.mp hj with hj | ⟨-, hj⟩
    · exact h.unknown k hk j hj
    · exact hne (Option.some.inj (hl.symm.trans hj))
  · next heq =>
    subst heq
    refine ⟨ls.length + 1, ⟨definedAt_concat.mpr (.inr ⟨rfl, hl⟩), fun j hj => ?_⟩, ?_⟩
    · simpa using hj.le
    · exact (Option.some.inj hk).symm.trans (commandsBefore_eq_length h.before).symm
  · next hne =>
    obtain ⟨j, hj, ht⟩ := h.known k t hk
    exact ⟨j, hj.concat fun hk => hne (Option.some.inj (hl.symm.trans hk)), ht⟩

lemma command (h : d.Follows ls) (hl : labelOf? (Command.bare line) = none) {r : Option Command}
    (hr : ∀ c ∈ r, c.line = ls.length + 1) :
    Follows { d with commands := d.commands ++ r.toList } (ls ++ [line]) := by
  have hr (c : Command) (hc : c ∈ r.toList) : c.line = ls.length + 1 :=
    hr c (Option.mem_toList.mp hc)
  refine ⟨fun c hc => ?_, ?_, fun l hn j hj => ?_, fun l t ht => ?_⟩
  · rw [List.length_append, List.length_singleton]
    rcases List.mem_append.mp hc with hc | hc
    · have := h.before c hc
      omega
    · have := hr c hc
      omega
  · refine List.pairwise_append.mpr ⟨h.sorted, ?_, fun c hc c' hc' => ?_⟩
    · cases r <;> simp
    · exact hr c' hc' ▸ h.before c hc
  · rcases definedAt_concat.mp hj with hj | ⟨-, hj⟩
    · exact h.unknown l hn j hj
    · simp [hl] at hj
  · obtain ⟨j, hj, ht⟩ := h.known l t ht
    refine ⟨j, hj.concat (by simp [hl]), ?_⟩
    have hnone : commandsBefore r.toList j = 0 := commandsBefore_eq_zero fun c hc => by
      have := hj.1.le
      have := hr c hc
      omega
    rw [commandsBefore_append, hnone, Nat.add_zero, ht]

lemma addLine (h : d.Follows ls) (he : d.addLine line (1 + ls.length) = .ok e) :
    e.Follows (ls ++ [line]) := by
  unfold Draft.addLine at he
  split at he
  · next l hl =>
    obtain rfl := Except.ok.inj he
    exact h.label (by rw [hl, Option.map_some])
  · next hl =>
    split at he
    · cases he
    · obtain rfl := Except.ok.inj he
      have hnone := h.command hl (r := none) fun c hc => absurd hc (Option.not_mem_none c)
      rwa [Option.toList_none, List.append_nil] at hnone
    · next c hc =>
      obtain rfl := Except.ok.inj he
      refine h.command hl (r := some c) fun c' hc' => ?_
      obtain rfl := Option.some.inj hc'
      rw [Command.line_of_parseLine hc, Int.add_comm]

end Draft.Follows

lemma Draft.follows {d : Draft} {ls : List (List Char)} (h : Draft.addLines {} 1 ls = .ok d) :
    d.Follows ls := by
  induction ls using List.reverseRecOn generalizing d with
  | nil =>
    obtain rfl := Except.ok.inj h
    exact ⟨by simp [Before], .nil, by simp [DefinedAt], by simp⟩
  | append_singleton ls line ih =>
    rw [addLines_append] at h
    cases hd : Draft.addLines {} 1 ls with
    | error f => simp [hd, Except.bind] at h
    | ok d' =>
      rw [hd] at h
      refine (ih hd).addLine ?_
      change d'.addLines (1 + ls.length) [line] = .ok d at h
      unfold addLines at h
      split at h
      · cases h
      · next e he => exact he.trans h

variable {text name : String} {path : Option String} {s : Script} {d : Draft}
  {p : List Char × Nat} {c : Command} {l : String}

lemma mem_of_readsAs (h : Draft.addLines {} 1 (Text.lines text.toList) = .ok d)
    (hp : p ∈ commandLines text) (hc : ReadsAs p c) : c ∈ d.commands := by
  rcases Draft.addLines_cases {} 1 (Text.lines text.toList) with
    ⟨-, herror⟩ | ⟨-, e, cs, he, hcs, hreads⟩
  · cases herror.symm.trans h
  · obtain rfl := Except.ok.inj (he.symm.trans h)
    obtain ⟨k, hk, rfl⟩ := List.mem_iff_getElem.mp hp
    have hk' : k < cs.length := hreads.length_eq ▸ hk
    have hread := (hreads.get hk hk').2
    obtain rfl : c = cs[k] := Option.some.inj (Except.ok.inj (hc.2.symm.trans hread))
    rw [hcs]
    exact List.mem_append_right _ (List.getElem_mem hk')

lemma Draft.Follows.resolveLabel {ls : List (List Char)} (h : d.Follows ls) {i : Nat}
    (hc : d.commands[i]? = some c) {n : Nat} (hn : c.line = n) (hl : c.jumpLabel? = some l) :
    ((c.resolveLabel d.labels i).isValid = true ↔ ∃ j, n < j ∧ DefinedAt ls l j) ∧
      ((c.resolveLabel d.labels i).isValid = true → ∃ j, LastDefinedAt ls l j ∧
        (c.resolveLabel d.labels i).target = some (commandsBefore d.commands j)) := by
  have hvalid : c.isValid = true := Command.isValid_of_jumpLabel? hl
  have hplace (j : Nat) : i < commandsBefore d.commands j ↔ n < j := by
    rw [lt_commandsBefore h.sorted hc, hn, Int.ofNat_lt]
  simp only [Command.resolveLabel, hl]
  cases ht : d.labels.get? l with
  | none =>
    have hnone : ¬ ∃ j, n < j ∧ DefinedAt ls l j := by
      rintro ⟨j, -, hj⟩
      exact h.unknown l ht j hj
    simp [Command.isValid, hnone]
  | some t =>
    obtain ⟨j, hj, rfl⟩ := h.known l t ht
    have hlater : n < j ↔ ∃ k, n < k ∧ DefinedAt ls l k := by
      refine ⟨fun hlt => ⟨j, hlt, hj.1⟩, ?_⟩
      rintro ⟨k, hlt, hk⟩
      exact hlt.trans_le (hj.2 k hk)
    simp only [← hlater, ← hplace j]
    split
    · next hle => simp [Command.isValid, Nat.not_lt.mpr hle]
    · next hlt => exact ⟨iff_of_true hvalid (Nat.lt_of_not_le hlt), fun _ => ⟨j, hj, rfl⟩⟩

/-- A jump to a label is valid exactly if a later line of the source defines the label, and then it
leads behind the commands before the last definition. -/
theorem parse_resolves_jumps (hs : parse text name path = .ok s) (hp : p ∈ commandLines text)
    (hc : ReadsAs p c) (hjump : c.IsLabelJump) :
    ∃ l d, c.jumpLabel? = some l ∧ c.ResolvesTo d ∧
      (∀ e, e ∈ s.commands ∧ e.line = p.2 ↔ e = d) ∧
      (d.isValid = true ↔ ∃ j, p.2 < j ∧ DefinedAt (Text.lines text.toList) l j) ∧
      (d.isValid = true → ∃ j, LastDefinedAt (Text.lines text.toList) l j ∧
        d.target = some (commandsBefore s.commands j)) := by
  obtain ⟨d, hd, rfl⟩ := parse_eq_ok hs
  obtain ⟨l, hl⟩ := hjump.exists_label (Command.isTyped_of_parseLine hc.2)
  obtain ⟨i, hi⟩ := List.mem_iff_getElem?.mp (mem_of_readsAs hd hp hc)
  have hline : c.line = p.2 := Command.line_of_parseLine hc.2
  have hfollows := Draft.follows hd
  have hlines : (ofDraft name path d).commands.map Command.line = d.commands.map Command.line :=
    Command.lines_eq (forall₂_resolveLabels (forall₂_resolveBlocks d.commands) d.labels)
  have hkept : (readBlocks (d.commands.take i)).kept c = c := by
    simp [BlockState.kept, Command.blockMark_of_jumpLabel? hl]
  have hblocks : (resolveBlocks d.commands)[i]? = some c :=
    getElem?_resolveBlocks_of_not_jump hi hkept
      (by simp [Command.isBlockJump, Command.blockMark_of_jumpLabel? hl])
  have hplace : (ofDraft name path d).commands[i]? = some (c.resolveLabel d.labels i) := by
    simp [ofDraft, resolveLabels, hblocks]
  have hresolves : c.ResolvesTo (c.resolveLabel d.labels i) :=
    (Command.ResolvesTo.refl c).resolveLabel d.labels i
  have hown : (c.resolveLabel d.labels i).line = p.2 := by rw [hresolves.same, hline]
  have hnodup : ((ofDraft name path d).commands.map Command.line).Nodup := by
    rw [hlines]
    exact (List.pairwise_map.mpr hfollows.sorted).imp Int.ne_of_lt
  obtain ⟨hvalid, htarget⟩ := hfollows.resolveLabel hi hline hl
  refine ⟨l, _, hl, hresolves, fun e => ⟨?_, ?_⟩, hvalid, fun h => ?_⟩
  · rintro ⟨he, hn⟩
    exact List.inj_on_of_nodup_map hnodup he (List.mem_of_getElem? hplace) (hn.trans hown.symm)
  · rintro rfl
    exact ⟨List.mem_of_getElem? hplace, hown⟩
  · obtain ⟨j, hj, ht⟩ := htarget h
    exact ⟨j, hj, by rw [ht, commandsBefore_congr hlines]⟩

/-- A label that is defined on both sides of a jump, and twice behind it. -/
theorem parse_resolves_jumps_repeated :
    let text := "@a:\nGoto(@a)\n@a:\nStopMusic\n@a"
    ∃ s c, parse text "repeated" none = .ok s ∧ ("Goto(@a)".toList, 2) ∈ commandLines text ∧
      ReadsAs ("Goto(@a)".toList, 2) c ∧ c.IsLabelJump ∧ ∃ d, (d ∈ s.commands ∧ d.line = 2) ∧
        d.isValid = true ∧ ∃ j, LastDefinedAt (Text.lines text.toList) "a" j ∧
          d.target = some (commandsBefore s.commands j) := by
  intro text
  let c : Command := {
    kind := .builtin .goto, name := "Goto", params := ["@a"], args := [.label "a"], line := 2 }
  let s : Script := {
    name := "repeated", labels := [("a", 2)]
    commands := [{ c with target := some 2 },
      { kind := .builtin .stopMusic, name := "StopMusic", line := 4 }] }
  have hs : parse text "repeated" none = .ok s := by cbv
  have hp : (commandLines text)[0]? = some ("Goto(@a)".toList, 2) := by cbv
  have hp := List.mem_of_getElem? hp
  have hc : ReadsAs ("Goto(@a)".toList, 2) c := by cbv
  have hjump : c.IsLabelJump := ⟨rfl, .inl rfl⟩
  have hline : ((Text.lines text.toList).zipIdx 1)[2]? = some ("@a:".toList, 3) := by cbv
  have hlater : DefinedAt (Text.lines text.toList) "a" 3 :=
    ⟨"@a:".toList, List.mem_of_getElem? hline, by cbv⟩
  obtain ⟨l, d, hl, -, honly, hvalid, htarget⟩ := parse_resolves_jumps hs hp hc hjump
  obtain rfl : "a" = l := Option.some.inj hl
  have hd : d.isValid = true := hvalid.mpr ⟨3, by decide, hlater⟩
  exact ⟨s, c, hs, hp, hc, hjump, d, (honly d).mpr rfl, hd, htarget hd⟩

end Script

end EventScript
