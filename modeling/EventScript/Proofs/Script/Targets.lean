import EventScript.Proofs.Script.Arguments

/-! Jumps of scripts go forward. Blocks and labels together give every valid jump a target behind
it, at the latest the end of the script. -/

namespace EventScript

def Command.AimsWithin (c : Command) (i n : Nat) : Prop := ∃ t, c.target = some t ∧ i < t ∧ t ≤ n

lemma Command.AimsWithin.mono {c : Command} {i m n : Nat} (h : c.AimsWithin i m) (hmn : m ≤ n) :
    c.AimsWithin i n := by
  obtain ⟨t, ht, hi, hm⟩ := h
  exact ⟨t, ht, hi, Nat.le_trans hm hmn⟩

section SetTarget

variable {cs : List Command} {i t : Nat}

@[simp] lemma length_setTarget (cs : List Command) (i t : Nat) :
    (setTarget cs i t).length = cs.length :=
  List.length_modify ..

lemma getElem?_setTarget (cs : List Command) (i t k : Nat) :
    (setTarget cs i t)[k]? =
      if i = k then cs[k]?.map ({ · with target := some t }) else cs[k]? := by
  unfold setTarget
  rw [List.getElem?_modify]
  split <;> simp_all

lemma mem_setTarget {c : Command} (hc : c ∈ setTarget cs i t) :
    ∃ d ∈ cs, c = d ∨ c = { d with target := some t } := by
  obtain ⟨k, hk⟩ := List.mem_iff_getElem?.mp hc
  rw [getElem?_setTarget] at hk
  split at hk
  · obtain ⟨d, hd, rfl⟩ := Option.map_eq_some_iff.mp hk
    exact ⟨d, List.mem_of_getElem? hd, .inr rfl⟩
  · exact ⟨c, List.mem_of_getElem? hk, .inl rfl⟩

end SetTarget

def Command.isBlockJump (c : Command) : Bool := c.blockMark = .opening || c.blockMark = .middle

def Aimed (cs : List Command) (pending : List Nat) : Prop :=
  ∀ i c, cs[i]? = some c → c.isBlockJump = true → c.AimsWithin i cs.length ∨ i ∈ pending

namespace Aimed

variable {cs : List Command} {pending pending' : List Nat} {c : Command}

lemma weaken (h : Aimed cs pending) (hsub : pending ⊆ pending') : Aimed cs pending' :=
  fun i c hc hj => (h i c hc hj).imp_right fun hi => hsub hi

lemma append (h : Aimed cs pending) (hc : c.isBlockJump = true → cs.length ∈ pending) :
    Aimed (cs ++ [c]) pending := by
  intro i d hd hj
  rcases Nat.lt_trichotomy i cs.length with hi | rfl | hi
  · rw [List.getElem?_append_left hi] at hd
    exact (h i d hd hj).imp_left fun hd => hd.mono (by simp)
  · obtain rfl : c = d := by simpa using hd
    exact .inr (hc hj)
  · have hnone : (cs ++ [c])[i]? = none := List.getElem?_eq_none (by simp; omega)
    simp [hnone] at hd

lemma setTarget {i t : Nat} (h : Aimed cs (i :: pending)) (hi : i < t) (ht : t ≤ cs.length) :
    Aimed (setTarget cs i t) pending := by
  intro k d hd hj
  rw [length_setTarget]
  rw [getElem?_setTarget] at hd
  split at hd
  · next hk =>
    obtain ⟨e, -, rfl⟩ := Option.map_eq_some_iff.mp hd
    exact .inl ⟨t, rfl, hk ▸ hi, ht⟩
  · next hk =>
    refine (h k d hd hj).imp_right fun hmem => ?_
    exact (List.mem_cons.mp hmem).resolve_left (Ne.symm hk)

lemma setTargets {n : Nat} (h : Aimed cs pending) (hn : cs.length = n)
    (hp : ∀ i ∈ pending, i < n) :
    Aimed (pending.foldl (fun ds i => EventScript.setTarget ds i n) cs) [] := by
  induction pending generalizing cs with
  | nil => exact h
  | cons i pending ih =>
    obtain ⟨hi, hp⟩ := List.forall_mem_cons.mp hp
    exact ih (h.setTarget hi (Nat.le_of_eq hn.symm)) (by simpa using hn) hp

end Aimed

/-- What makes commands of a parsed script: typed arguments, kept through all that happens to their
targets. -/
def AllTyped (cs : List Command) : Prop := ∀ c ∈ cs, c.IsTyped

namespace AllTyped

variable {cs : List Command} {c : Command}

lemma append (h : AllTyped cs) (hc : c.IsTyped) : AllTyped (cs ++ [c]) := by
  intro d hd
  rcases List.mem_append.mp hd with hd | hd
  · exact h d hd
  · exact List.mem_singleton.mp hd ▸ hc

lemma setTarget (h : AllTyped cs) (i t : Nat) : AllTyped (setTarget cs i t) := by
  intro c hc
  obtain ⟨d, hd, rfl | rfl⟩ := mem_setTarget hc
  · exact h _ hd
  · exact (h d hd).of_same rfl rfl id

lemma setTargets (h : AllTyped cs) (js : List Nat) (t : Nat) :
    AllTyped (js.foldl (fun ds i => EventScript.setTarget ds i t) cs) := by
  induction js generalizing cs with
  | nil => exact h
  | cons i js ih => exact ih (h.setTarget i t)

end AllTyped

lemma length_setTargets (cs : List Command) (js : List Nat) (t : Nat) :
    (js.foldl (fun ds i => setTarget ds i t) cs).length = cs.length := by
  induction js generalizing cs with
  | nil => rfl
  | cons i js ih => exact (ih _).trans (length_setTarget ..)

def Block.latest (b : Block) : Nat := b.elseIndex.getD b.ifIndex

lemma Block.latest_mem (b : Block) : b.latest ∈ b.indices := by
  cases h : b.elseIndex <;> simp [latest, indices, h]

namespace BlockState

/-- What holds of the commands read so far: all they still need are targets for the latest commands
of the open blocks. -/
structure Sound (s : BlockState) : Prop where
  typed : AllTyped s.commands
  aimed : Aimed s.commands (s.stack.map Block.latest)
  within : ∀ b ∈ s.stack, ∀ i ∈ b.indices, i < s.commands.length

variable {s : BlockState} {c : Command}

lemma length_push (s : BlockState) (c : Command) :
    (s.push c).commands.length = s.commands.length + 1 := by
  unfold push
  dsimp only
  split <;> simp

lemma Sound.append (hs : s.Sound) (hc : c.IsTyped) (hj : c.isBlockJump = false) :
    Sound { s with commands := s.commands ++ [c] } :=
  ⟨hs.typed.append hc, hs.aimed.append (by simp [hj]),
    fun b hb i hi => Nat.lt_of_lt_of_le (hs.within b hb i hi) (by simp)⟩

lemma Sound.append_error (hs : s.Sound) (e : LineError) :
    Sound { s with commands := s.commands ++ [{ c with error := some e }] } :=
  hs.append (Command.isTyped_of_error rfl) rfl

lemma Sound.push (hs : s.Sound) (hc : c.IsTyped) : (s.push c).Sound := by
  have hwithin (b : Block) (hb : b ∈ s.stack) (i : Nat) (hi : i ∈ b.indices) :
      i < s.commands.length + 1 :=
    Nat.lt_succ_of_lt (hs.within b hb i hi)
  unfold BlockState.push
  dsimp only
  split
  · next hm => exact hs.append hc (by simp [Command.isBlockJump, hm])
  · refine ⟨hs.typed.append hc, (hs.aimed.weaken ?_).append ?_, ?_⟩
    · exact List.subset_cons_self ..
    · exact fun _ => List.mem_cons_self ..
    · simp only [List.length_append, List.length_singleton, List.mem_cons, forall_eq_or_imp]
      exact ⟨by simp [Block.indices], hwithin⟩
  · next i outer hm hstack =>
    have haimed : Aimed (s.commands ++ [c]) (i :: s.commands.length :: outer.map Block.latest) :=
      (hs.aimed.weaken (by simp [hstack, Block.latest])).append (by simp)
    have hi : i < s.commands.length + 1 :=
      hwithin _ (hstack ▸ List.mem_cons_self ..) i (by simp [Block.indices])
    refine ⟨(hs.typed.append hc).setTarget _ _, haimed.setTarget hi (by simp), ?_⟩
    simp only [length_setTarget, List.length_append, List.length_singleton, List.mem_cons,
      forall_eq_or_imp]
    refine ⟨by simpa [Block.indices] using hi, fun b hb => hwithin b ?_⟩
    exact hstack ▸ List.mem_cons_of_mem _ hb
  · exact hs.append_error _
  · next b outer hm hstack =>
    have haimed : Aimed (s.commands ++ [c]) (b.latest :: outer.map Block.latest) :=
      (hs.aimed.weaken (by simp [hstack])).append (by simp [Command.isBlockJump, hm])
    have hb : b.latest < s.commands.length + 1 :=
      hwithin b (hstack ▸ List.mem_cons_self ..) _ b.latest_mem
    refine ⟨(hs.typed.append hc).setTarget _ _, haimed.setTarget hb (by simp), ?_⟩
    intro d hd j hj
    simpa using hwithin d (hstack ▸ List.mem_cons_of_mem _ hd) j hj
  · exact hs.append_error _

lemma Sound.close (hs : s.Sound) : Aimed s.close [] ∧ AllTyped s.close := by
  refine ⟨?_, hs.typed.setTargets _ _⟩
  refine (hs.aimed.weaken ?_).setTargets rfl ?_
  · intro i hi
    obtain ⟨b, hb, rfl⟩ := List.mem_map.mp hi
    exact List.mem_flatMap.mpr ⟨b, hb, b.latest_mem⟩
  · intro i hi
    obtain ⟨b, hb, hi⟩ := List.mem_flatMap.mp hi
    exact hs.within b hb i hi

lemma sound_foldl (cs : List Command) (hcs : AllTyped cs) (hs : s.Sound) :
    (cs.foldl BlockState.push s).Sound ∧
      (cs.foldl BlockState.push s).commands.length = s.commands.length + cs.length := by
  induction cs generalizing s with
  | nil => exact ⟨hs, rfl⟩
  | cons c cs ih =>
    obtain ⟨hc, hcs⟩ := List.forall_mem_cons.mp hcs
    obtain ⟨hsound, hlength⟩ := ih hcs (hs.push hc)
    refine ⟨hsound, ?_⟩
    rw [List.foldl_cons, hlength, length_push, List.length_cons]
    omega

end BlockState

lemma resolveBlocks_sound {cs : List Command} (hcs : AllTyped cs) :
    Aimed (resolveBlocks cs) [] ∧ AllTyped (resolveBlocks cs) ∧
      (resolveBlocks cs).length = cs.length := by
  have hstart : BlockState.Sound {} := ⟨by simp [AllTyped], by simp [Aimed], by simp⟩
  obtain ⟨hs, hlength⟩ := BlockState.sound_foldl cs hcs hstart
  refine ⟨hs.close.1, hs.close.2, ?_⟩
  rw [resolveBlocks, BlockState.close, length_setTargets, hlength]
  simp

def LabelsWithin (labels : Ledger String Nat) (n : Nat) : Prop :=
  ∀ l t, labels.get? l = some t → t ≤ n

lemma Command.isBlockJump_of_no_label {c : Command} (hc : c.IsTyped) (hl : c.jumpLabel? = none)
    (hj : c.isJump = true) : c.isBlockJump = true := by
  obtain ⟨hv, hk⟩ : c.isValid = true ∧ (c.kind = .builtin .ifThen ∨ c.kind = .builtin .ifElse ∨
      c.kind = .builtin .goto) := by
    simpa [isJump, or_assoc] using hj
  rcases hk with hk | hk | hk
  · obtain ⟨x, -, ha | ⟨l, ha⟩⟩ := hc.ifThen hk hv
    · simp [isBlockJump, blockMark, hv, hk, ha]
    · simp [jumpLabel?, hv, hk, ha] at hl
  · simp [isBlockJump, blockMark, hv, hk]
  · obtain ⟨l, ha⟩ := hc.goto hk hv
    simp [jumpLabel?, hv, hk, ha] at hl

lemma Command.resolveLabel_aims {labels : Ledger String Nat} {n i : Nat} {c : Command}
    (hl : LabelsWithin labels n) (hc : c.IsTyped)
    (haim : c.isBlockJump = true → c.AimsWithin i n)
    (hj : (c.resolveLabel labels i).isJump = true) : (c.resolveLabel labels i).AimsWithin i n := by
  unfold resolveLabel at hj ⊢
  cases hlabel : c.jumpLabel? with
  | none =>
    simp only [hlabel] at hj
    exact haim (isBlockJump_of_no_label hc hlabel hj)
  | some l =>
    cases ht : labels.get? l with
    | none => simp [hlabel, ht, isJump, isValid] at hj
    | some t =>
      by_cases hle : t ≤ i
      · simp [hlabel, ht, hle, isJump, isValid] at hj
      · simp only [ht, if_neg hle]
        exact ⟨t, rfl, Nat.lt_of_not_le hle, hl l t ht⟩

lemma Command.IsTyped.resolveLabel {labels : Ledger String Nat} {i : Nat} {c : Command}
    (hc : c.IsTyped) : (c.resolveLabel labels i).IsTyped := by
  unfold Command.resolveLabel
  split
  · exact hc
  · split
    · exact Command.isTyped_of_error rfl
    · split
      · exact Command.isTyped_of_error rfl
      · exact hc.of_same rfl rfl id

def Script.JumpsForward (s : Script) : Prop :=
  ∀ (i : Nat) (c : Command), s.commands[i]? = some c → c.isJump = true → c.AimsWithin i s.size

namespace Script

lemma ofDraft_sound {d : Draft} (name : String) (path : Option String) (hd : AllTyped d.commands)
    (hl : LabelsWithin d.labels d.commands.length) :
    (ofDraft name path d).JumpsForward ∧ AllTyped (ofDraft name path d).commands := by
  obtain ⟨haimed, htyped, hlength⟩ := resolveBlocks_sound hd
  have hsize : (ofDraft name path d).size = d.commands.length := by
    simp [ofDraft, size, resolveLabels, hlength]
  constructor
  · intro i c hc hj
    obtain ⟨e, he, rfl⟩ : ∃ e, (resolveBlocks d.commands)[i]? = some e ∧
        e.resolveLabel d.labels i = c := by
      simpa [ofDraft, resolveLabels, List.getElem?_mapIdx] using hc
    rw [hsize]
    refine Command.resolveLabel_aims hl (htyped e (List.mem_of_getElem? he)) ?_ hj
    intro hjump
    exact hlength ▸ (haimed i e he hjump).resolve_right (by simp)
  · intro c hc
    obtain ⟨i, hi⟩ := List.mem_iff_getElem?.mp hc
    obtain ⟨e, he, rfl⟩ : ∃ e, (resolveBlocks d.commands)[i]? = some e ∧
        e.resolveLabel d.labels i = c := by
      simpa [ofDraft, resolveLabels, List.getElem?_mapIdx] using hi
    exact (htyped e (List.mem_of_getElem? he)).resolveLabel

structure Draft.Sound (d : Draft) : Prop where
  typed : AllTyped d.commands
  labels : LabelsWithin d.labels d.commands.length

lemma Draft.Sound.addLine {d e : Draft} {source : List Char} {number : Int} (hd : d.Sound)
    (h : d.addLine source number = .ok e) : e.Sound := by
  unfold Draft.addLine at h
  split at h
  · next l hl =>
    obtain rfl := Except.ok.inj h
    refine ⟨hd.typed, fun k t hk => ?_⟩
    by_cases he : String.ofList l = k
    · subst he
      rw [Ledger.get?_put_self] at hk
      exact Nat.le_of_eq (Option.some.inj hk).symm
    · rw [Ledger.get?_put_of_ne _ _ he] at hk
      exact hd.labels k t hk
  · split at h
    · cases h
    · obtain rfl := Except.ok.inj h
      exact hd
    · next c hc =>
      obtain rfl := Except.ok.inj h
      refine ⟨hd.typed.append (Command.isTyped_of_parseLine hc), fun k t hk => ?_⟩
      exact Nat.le_trans (hd.labels k t hk) (by simp)

lemma Draft.Sound.addLines {d e : Draft} {number : Int} {lines : List (List Char)} (hd : d.Sound)
    (h : d.addLines number lines = .ok e) : e.Sound := by
  induction lines generalizing d number with
  | nil => exact Except.ok.inj h ▸ hd
  | cons l ls ih =>
    unfold Draft.addLines at h
    split at h
    · cases h
    · next f hf => exact ih (hd.addLine hf) h

lemma parse_eq_ok {text name : String} {path : Option String} {s : Script}
    (h : parse text name path = .ok s) :
    ∃ d, Draft.addLines {} 1 (Text.lines text.toList) = .ok d ∧ ofDraft name path d = s := by
  unfold parse at h
  cases hd : Draft.addLines {} 1 (Text.lines text.toList) with
  | error f => simp [hd, Except.map] at h
  | ok d => exact ⟨d, rfl, by simpa [hd, Except.map] using h⟩

lemma parse_sound {text name : String} {path : Option String} {s : Script}
    (h : parse text name path = .ok s) : s.JumpsForward ∧ AllTyped s.commands := by
  obtain ⟨d, hd, rfl⟩ := parse_eq_ok h
  have hstart : Draft.Sound {} := ⟨by simp [AllTyped], by simp [LabelsWithin]⟩
  have hsound := hstart.addLines hd
  exact ofDraft_sound name path hsound.typed hsound.labels

end Script

end EventScript
