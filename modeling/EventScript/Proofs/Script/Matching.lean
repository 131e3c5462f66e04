import EventScript.Proofs.Script.Brackets

/-! Matching the blocks of a script is matching brackets. The stack of open blocks is what counting
says of the commands as they were read; an `Else` or `EndIf` is spoiled where nothing can take it,
and the targets follow the brackets. -/

namespace EventScript

/-! ### The first `Else` of a block -/

instance (ms : List BlockMark) (i j : Nat) : Decidable (IsElseIn ms i j) :=
  inferInstanceAs (Decidable (_ ∧ _ ∧ _))

def elseOf? (ms : List BlockMark) (i : Nat) : Option Nat :=
  (List.range ms.length).find? fun j => IsElseIn ms i j

section Append

variable {ms : List BlockMark} {m : BlockMark} {i j k d : Nat}

lemma elseOf?_eq_none : elseOf? ms i = none ↔ ∀ j, ¬ IsElseIn ms i j := by
  simp only [elseOf?, List.find?_eq_none, List.mem_range, decide_eq_true_eq]
  exact ⟨fun h j hj => h j (List.getElem?_eq_some_iff.mp hj.1).1 hj, fun h j _ => h j⟩

lemma elseOf?_append (hi : i < ms.length) : elseOf? (ms ++ [m]) i = (elseOf? ms i).or
    (if m = .middle ∧ depthIn? ms i = some 0 then some ms.length else none) := by
  unfold elseOf?
  rw [List.length_append, List.length_singleton, List.range_succ, List.find?_append]
  have hbound {j : Nat} (h : IsElseIn ms i j) : j < ms.length :=
    (List.getElem?_eq_some_iff.mp h.1).1
  congr 1
  · refine List.find?_congr fun j hj => ?_
    have hj : j ≠ ms.length := Nat.ne_of_lt (List.mem_range.mp hj)
    simp [isElseIn_append hi, hj]
  · have hnot : ¬ IsElseIn ms i ms.length := fun h => Nat.lt_irrefl _ (hbound h)
    simp only [List.find?_singleton, isElseIn_append hi, hnot, false_or, true_and,
      decide_eq_true_eq]

lemma opens_append : ((ms ++ [m])[i]? = some .opening ∧ depthIn? (ms ++ [m]) i = some d) ↔
    (∃ d', (ms[i]? = some .opening ∧ depthIn? ms i = some d') ∧ m.nest? d' = some d) ∨
      i = ms.length ∧ m = .opening ∧ d = 0 := by
  rcases Nat.lt_trichotomy i ms.length with hi | rfl | hi
  · simp [List.getElem?_append_left hi, depthIn?_append hi, Option.bind_eq_some_iff,
      Nat.ne_of_lt hi, and_assoc]
  · simp [depthIn?_length ms m, eq_comm]
  · have hnone : (ms ++ [m])[i]? = none := List.getElem?_eq_none (by simp; omega)
    have hnone' : ms[i]? = none := List.getElem?_eq_none (Nat.le_of_lt hi)
    simp [hnone, hnone', Nat.ne_of_gt hi]

end Append

namespace BlockState

/-- What is kept of a command: an `Else` that no open block can take, and an `EndIf` with none to
close, are spoiled. -/
def kept (s : BlockState) (c : Command) : Command :=
  match c.blockMark, s.stack with
  | .middle, { elseIndex := none, .. } :: _ => c
  | .middle, _ => { c with error := some .elseAlone }
  | .closing, [] => { c with error := some .endIfAlone }
  | _, _ => c

def untargeted (c : Command) : Command := { c with target := none }

lemma untargeted_setTarget (cs : List Command) (i t : Nat) :
    (setTarget cs i t).map untargeted = cs.map untargeted := by
  refine List.ext_getElem? fun k => ?_
  simp only [List.getElem?_map, getElem?_setTarget]
  split <;> cases cs[k]? <;> rfl

lemma untargeted_push (s : BlockState) (c : Command) :
    (s.push c).commands.map untargeted = (s.commands ++ [s.kept c]).map untargeted := by
  unfold push kept
  dsimp only
  split <;> simp_all [untargeted_setTarget]

lemma push_settled {s : BlockState} {k : Nat} (hk : k < s.commands.length)
    (hout : k ∉ s.stack.flatMap Block.indices) (c : Command) :
    (s.push c).commands[k]? = s.commands[k]? ∧ k ∉ (s.push c).stack.flatMap Block.indices := by
  have hkeep (d : Command) : (s.commands ++ [d])[k]? = s.commands[k]? :=
    List.getElem?_append_left hk
  have hne : k ≠ s.commands.length := Nat.ne_of_lt hk
  unfold push
  dsimp only
  split
  · exact ⟨hkeep c, hout⟩
  · refine ⟨hkeep c, ?_⟩
    simpa [Block.indices, hne] using hout
  · next i outer _ hstack =>
    simp only [hstack, List.flatMap_cons, Block.indices, Option.toList_none, List.singleton_append,
      List.mem_cons, not_or] at hout
    rw [getElem?_setTarget, if_neg (Ne.symm hout.1)]
    refine ⟨hkeep c, ?_⟩
    simpa [Block.indices, hne] using hout
  · exact ⟨hkeep _, hout⟩
  · next b outer _ hstack =>
    simp only [hstack, List.flatMap_cons, List.mem_append, not_or] at hout
    have haim : b.latest ≠ k := ne_of_mem_of_not_mem b.latest_mem hout.1
    exact ⟨(getElem?_setTarget ..).trans ((if_neg haim).trans (hkeep c)), hout.2⟩
  · exact ⟨hkeep _, hout⟩

lemma push_last {s : BlockState} (hs : s.Nested) (c : Command)
    (hjump : (s.kept c).isBlockJump = false) :
    (s.push c).commands[s.commands.length]? = some (s.kept c) ∧
      s.commands.length ∉ (s.push c).stack.flatMap Block.indices := by
  have hout : s.commands.length ∉ s.stack.flatMap Block.indices := fun h =>
    Nat.lt_irrefl _ (hs.within _ h)
  unfold kept at hjump ⊢
  unfold push
  dsimp only
  split
  · next hm => simp [hm, hout]
  · next hm => simp [hm, Command.isBlockJump] at hjump
  · next hm hstack => simp [hm, hstack, Command.isBlockJump] at hjump
  · next hm hstray =>
    rw [hm]
    split
    · next hstack => exact absurd hstack (hstray _ _)
    all_goals first | contradiction | exact ⟨List.getElem?_concat_length .., hout⟩
  · next b outer hm hstack =>
    simp only [hstack, List.flatMap_cons, List.mem_append, not_or] at hout
    have haim : b.latest ≠ s.commands.length := ne_of_mem_of_not_mem b.latest_mem hout.1
    rw [hm, hstack]
    refine ⟨(getElem?_setTarget ..).trans ((if_neg haim).trans ?_), hout.2⟩
    exact List.getElem?_concat_length ..
  · next hm hstack => simp [hm, hstack]

lemma push_of_closing {s : BlockState} {b : Block} {outer : List Block} {c : Command}
    (hc : c.blockMark = .closing) (hstack : s.stack = b :: outer) :
    s.push c = ⟨setTarget (s.commands ++ [c]) b.latest (s.commands.length + 1), outer⟩ := by
  unfold push
  rw [hc]
  simp only [hstack]
  rfl

end BlockState

def readBlocks (cs : List Command) : BlockState := cs.foldl BlockState.push {}

section Read

open BlockState

variable {cs : List Command} {c : Command} {k : Nat}

lemma resolveBlocks_eq_close (hk : cs[k]? = some c) : resolveBlocks cs =
    ((cs.drop (k + 1)).foldl push ((readBlocks (cs.take k)).push c)).close := by
  obtain ⟨hlt, rfl⟩ := List.getElem?_eq_some_iff.mp hk
  have hsplit : cs = cs.take k ++ cs[k] :: cs.drop (k + 1) := by
    rw [← List.drop_eq_getElem_cons hlt, List.take_append_drop]
  conv_lhs => rw [hsplit]
  rw [resolveBlocks, List.foldl_append]
  rfl

lemma length_foldl_push (s : BlockState) (cs : List Command) :
    (cs.foldl push s).commands.length = s.commands.length + cs.length := by
  induction cs generalizing s with
  | nil => rfl
  | cons c cs ih =>
    rw [List.foldl_cons, ih, length_push, List.length_cons]
    omega

lemma length_readBlocks (cs : List Command) : (readBlocks cs).commands.length = cs.length := by
  simpa [readBlocks] using length_foldl_push {} cs

lemma length_resolveBlocks (cs : List Command) : (resolveBlocks cs).length = cs.length := by
  rw [resolveBlocks, close, length_setTargets]
  exact length_readBlocks cs

lemma untargeted_setTargets (cs : List Command) (js : List Nat) (t : Nat) :
    (js.foldl (fun ds i => setTarget ds i t) cs).map untargeted = cs.map untargeted := by
  induction js generalizing cs with
  | nil => rfl
  | cons i js ih => exact (ih _).trans (untargeted_setTarget ..)

lemma getElem?_setTargets_of_notMem {js : List Nat} (h : k ∉ js) (cs : List Command) (t : Nat) :
    (js.foldl (fun ds i => setTarget ds i t) cs)[k]? = cs[k]? := by
  induction js generalizing cs with
  | nil => rfl
  | cons i js ih =>
    obtain ⟨hi, hjs⟩ := not_or.mp (List.mem_cons.not.mp h)
    rw [List.foldl_cons, ih hjs, getElem?_setTarget, if_neg (Ne.symm hi)]

lemma settled {s : BlockState} (hk : k < s.commands.length)
    (hout : k ∉ s.stack.flatMap Block.indices) (cs : List Command) :
    (cs.foldl push s).close[k]? = s.commands[k]? := by
  induction cs generalizing s with
  | nil => exact getElem?_setTargets_of_notMem hout _ _
  | cons c cs ih =>
    obtain ⟨hsame, hstill⟩ := push_settled hk hout c
    exact (ih (length_push s c ▸ Nat.lt_succ_of_lt hk) hstill).trans hsame

lemma untargeted_foldl {s : BlockState} (hk : k < s.commands.length) (cs : List Command) :
    (cs.foldl push s).close[k]?.map untargeted = s.commands[k]?.map untargeted := by
  induction cs generalizing s with
  | nil =>
    simp only [← List.getElem?_map]
    exact congrArg (·[k]?) (untargeted_setTargets ..)
  | cons c cs ih =>
    refine (ih (length_push s c ▸ Nat.lt_succ_of_lt hk)).trans ?_
    rw [← List.getElem?_map, untargeted_push, List.getElem?_map, List.getElem?_append_left hk]

lemma untargeted_last (s : BlockState) (c : Command) (cs : List Command) :
    (cs.foldl push (s.push c)).close[s.commands.length]?.map untargeted =
      some (untargeted (s.kept c)) := by
  rw [untargeted_foldl (by rw [length_push]; exact Nat.lt_succ_self _), ← List.getElem?_map,
    untargeted_push, List.getElem?_map, List.getElem?_concat_length]
  rfl

lemma nested_readBlocks (cs : List Command) : (readBlocks cs).Nested :=
  Nested.foldl ⟨by simp, by simp, by simp, by simp, by simp [blockMarks]⟩ cs

lemma length_readBlocks_take (hk : cs[k]? = some c) :
    (readBlocks (cs.take k)).commands.length = k := by
  rw [length_readBlocks, List.length_take_of_le (Nat.le_of_lt (List.getElem?_eq_some_iff.mp hk).1)]

lemma getElem?_resolveBlocks (hk : cs[k]? = some c) :
    ∃ t, (resolveBlocks cs)[k]? = some { (readBlocks (cs.take k)).kept c with target := t } := by
  have hlen := length_readBlocks_take hk
  have hlater := untargeted_last (readBlocks (cs.take k)) c (cs.drop (k + 1))
  rw [hlen, ← resolveBlocks_eq_close hk] at hlater
  obtain ⟨d, hd, heq⟩ := Option.map_eq_some_iff.mp hlater
  refine ⟨d.target, hd.trans (congrArg some ?_)⟩
  exact congrArg ({ · with target := d.target }) heq

lemma getElem?_resolveBlocks_of_not_jump (hk : cs[k]? = some c) {d : Command}
    (hkept : (readBlocks (cs.take k)).kept c = d) (hjump : d.isBlockJump = false) :
    (resolveBlocks cs)[k]? = some d := by
  subst hkept
  have hlen := length_readBlocks_take hk
  obtain ⟨hlast, hout⟩ := push_last (nested_readBlocks (cs.take k)) c hjump
  rw [hlen] at hlast hout
  rw [resolveBlocks_eq_close hk, settled (by rw [length_push, hlen]; exact Nat.lt_succ_self k) hout,
    hlast]

end Read

/-! ### The stack of open blocks -/

namespace BlockState

/-- The stack tells the open blocks of the commands that were read, from the inside, and of each
its `Else`. -/
structure Tracks (ms : List BlockMark) (s : BlockState) : Prop where
  opens : ∀ d i, (s.stack.map Block.ifIndex)[d]? = some i ↔
    ms[i]? = some .opening ∧ depthIn? ms i = some d
  middle : ∀ b ∈ s.stack, b.elseIndex = elseOf? ms b.ifIndex
  length : s.commands.length = ms.length

namespace Tracks

variable {ms : List BlockMark} {s : BlockState} {b : Block} {outer : List Block} {c : Command}

lemma isOpen (h : Tracks ms s) {d : Nat} (hb : s.stack[d]? = some b) :
    ms[b.ifIndex]? = some .opening ∧ depthIn? ms b.ifIndex = some d :=
  (h.opens d b.ifIndex).mp (by simp [hb])

lemma elseOf?_append (h : Tracks ms s) {d : Nat} (hb : s.stack[d]? = some b) (m : BlockMark) :
    elseOf? (ms ++ [m]) b.ifIndex =
      b.elseIndex.or (if m = .middle ∧ d = 0 then some ms.length else none) := by
  obtain ⟨hopen, hdepth⟩ := h.isOpen hb
  rw [EventScript.elseOf?_append (List.getElem?_eq_some_iff.mp hopen).1, hdepth,
    h.middle b (List.mem_of_getElem? hb)]
  simp

lemma step (h : Tracks ms s) {t : BlockState} (m : BlockMark)
    (hopens : ∀ d i, (t.stack.map Block.ifIndex)[d]? = some i ↔
      (∃ d', (s.stack.map Block.ifIndex)[d']? = some i ∧ m.nest? d' = some d) ∨
        i = ms.length ∧ m = .opening ∧ d = 0)
    (hmiddle : ∀ b ∈ t.stack, b.elseIndex = elseOf? (ms ++ [m]) b.ifIndex)
    (hlength : t.commands.length = s.commands.length + 1) : Tracks (ms ++ [m]) t where
  opens d i := by rw [hopens, opens_append]; simp only [h.opens]
  middle := hmiddle
  length := by rw [hlength, h.length, List.length_append, List.length_singleton]

lemma push (h : Tracks ms s) (c : Command) : Tracks (ms ++ [c.blockMark]) (s.push c) := by
  -- An `Else` concerns the innermost block, and every other mark none of them.
  have hsame {b : Block} {d : Nat} (hb : s.stack[d]? = some b)
      (hm : c.blockMark ≠ .middle ∨ d ≠ 0) :
      b.elseIndex = elseOf? (ms ++ [c.blockMark]) b.ifIndex := by
    rw [h.elseOf?_append hb, if_neg (by tauto), Option.or_none]
  have hkeep (hm : c.blockMark ≠ .middle) (b : Block) (hb : b ∈ s.stack) :
      b.elseIndex = elseOf? (ms ++ [c.blockMark]) b.ifIndex := by
    obtain ⟨d, hd⟩ := List.mem_iff_getElem?.mp hb
    exact hsame hd (.inl hm)
  have hlength := length_push s c
  unfold BlockState.push at hlength ⊢
  dsimp only at hlength ⊢
  split at hlength
  · next hm =>
    refine h.step _ (fun d i => ?_) (hkeep (by simp [hm])) hlength
    simp [hm, BlockMark.nest?]
  · next hm =>
    have hrest := hkeep (by simp [hm])
    refine h.step _ (fun d i => ?_) (List.forall_mem_cons.mpr ⟨?_, hrest⟩) hlength
    · cases d <;> simp [hm, BlockMark.nest?, h.length, eq_comm]
    · refine (elseOf?_eq_none.mpr fun j hj => ?_).symm
      have hlt := (List.getElem?_eq_some_iff.mp hj.1).1
      have hin := hj.2.1
      simp only [h.length, List.length_append, List.length_singleton] at hlt hin
      omega
  · next i outer hm hstack =>
    have htop : s.stack[0]? = some ⟨i, none⟩ := by rw [hstack]; rfl
    refine h.step _ (fun d i => ?_) (List.forall_mem_cons.mpr ⟨?_, fun b hb => ?_⟩) hlength
    · simp [hm, hstack, BlockMark.nest?]
    · rw [h.elseOf?_append htop, if_pos ⟨hm, rfl⟩, h.length]
      rfl
    · obtain ⟨d, hd⟩ := List.mem_iff_getElem?.mp hb
      exact hsame (d := d + 1) (by rw [hstack]; exact hd) (.inr (Nat.succ_ne_zero d))
  · next hm hstray =>
    refine h.step _ (fun d i => ?_) (fun b hb => ?_) hlength
    · simp [hm, BlockMark.nest?]
    · obtain ⟨d, hd⟩ := List.mem_iff_getElem?.mp hb
      cases d with
      | succ d => exact hsame hd (.inr (Nat.succ_ne_zero d))
      | zero =>
        obtain ⟨outer, hstack⟩ : ∃ outer, s.stack = b :: outer := by
          cases hs : s.stack <;> simp_all
        obtain ⟨j, hj⟩ : ∃ j, b.elseIndex = some j := Option.ne_none_iff_exists'.mp fun hnone =>
          hstray b.ifIndex outer (by rw [hstack, ← hnone])
        rw [h.elseOf?_append hd, hj, Option.some_or]
  · next b outer hm hstack =>
    refine h.step _ (fun d i => ?_) (fun b hb => ?_) hlength
    · rw [hstack]
      refine ⟨fun hi => .inl ⟨d + 1, hi, by simp [hm, BlockMark.nest?]⟩, ?_⟩
      rintro (⟨d', hi, hd⟩ | ⟨-, hopen, -⟩)
      · cases d' with
        | zero => simp [hm, BlockMark.nest?] at hd
        | succ d' =>
          obtain rfl : d' = d := by simpa [hm, BlockMark.nest?] using hd
          exact hi
      · cases hm.symm.trans hopen
    · exact hkeep (by simp [hm]) b (hstack ▸ List.mem_cons_of_mem _ hb)
  · next hm hstack =>
    refine h.step _ (fun d i => ?_) (by simp [hstack]) hlength
    simp [hm, hstack]

end Tracks

end BlockState

section Stack

variable {cs : List Command} {ms : List BlockMark} {i j k : Nat}

lemma tracks_readBlocks (cs : List Command) : (readBlocks cs).Tracks (blockMarks cs) := by
  induction cs using List.reverseRecOn with
  | nil => exact ⟨by simp [readBlocks, blockMarks], by simp [readBlocks], rfl⟩
  | append_singleton cs c ih =>
    rw [readBlocks, List.foldl_append, blockMarks_append]
    exact ih.push c

lemma isElseIn_take : IsElseIn (ms.take k) i j ↔ j < k ∧ IsElseIn ms i j := by
  by_cases hj : j < k
  · simp [IsElseIn, LiesIn, hj, List.take_take, Nat.min_eq_left (Nat.le_of_lt hj)]
  · simp [IsElseIn, hj]

lemma elseOf?_take_eq_some (hi : ms[i]? = some .opening) :
    elseOf? (ms.take k) i = some j ↔ j < k ∧ IsElseOf ms i j := by
  have hlt (h : IsElseIn ms i j) : j < ms.length := (List.getElem?_eq_some_iff.mp h.1).1
  rw [elseOf?, List.find?_range_eq_some, isElseOf_iff]
  simp only [decide_eq_true_eq, isElseIn_take, hi, List.mem_range, List.length_take]
  grind

lemma tracks_take (cs : List Command) (k : Nat) :
    (readBlocks (cs.take k)).Tracks ((blockMarks cs).take k) := by
  simpa [blockMarks, List.map_take] using tracks_readBlocks (cs.take k)

lemma getElem?_stack {d : Nat} :
    ((readBlocks (cs.take k)).stack.map Block.ifIndex)[d]? = some i ↔ i < k ∧
      (blockMarks cs)[i]? = some .opening ∧ depthIn? ((blockMarks cs).take k) i = some d := by
  rw [(tracks_take cs k).opens, List.getElem?_take]
  split <;> simp_all

lemma head?_stack : ((readBlocks (cs.take k)).stack.map Block.ifIndex)[0]? = some i ↔
    IsInnermostAt (blockMarks cs) i k := by
  rw [getElem?_stack, isInnermostAt_iff, LiesIn]
  tauto

lemma stack_eq_nil :
    (readBlocks (cs.take k)).stack = [] ↔ ∀ i, ¬ IsOpenAt (blockMarks cs) i k := by
  constructor
  · intro hnil i hopen
    obtain ⟨hi, hmark, d, hd⟩ := isOpenAt_iff.mp hopen
    have := getElem?_stack.mpr ⟨hi, hmark, hd⟩
    simp [hnil] at this
  · intro hnone
    cases hstack : (readBlocks (cs.take k)).stack with
    | nil => rfl
    | cons b outer => exact absurd (head?_stack.mp (by rw [hstack]; rfl)).1 (hnone b.ifIndex)

/-- The innermost open block, and the `Else` it has so far. -/
lemma stack_eq_cons {b : Block} {outer : List Block}
    (hstack : (readBlocks (cs.take k)).stack = b :: outer) :
    IsInnermostAt (blockMarks cs) b.ifIndex k ∧
      ∀ j, b.elseIndex = some j ↔ j < k ∧ IsElseOf (blockMarks cs) b.ifIndex j := by
  have hhead : IsInnermostAt (blockMarks cs) b.ifIndex k := head?_stack.mp (by rw [hstack]; rfl)
  refine ⟨hhead, fun j => ?_⟩
  rw [(tracks_take cs k).middle b (hstack ▸ List.mem_cons_self)]
  exact elseOf?_take_eq_some hhead.1.2.1

end Stack

/-! ### What becomes of the commands -/

def Closes (cs : List Command) (i e : Nat) : Prop :=
  (blockMarks cs)[e]? = some .closing ∧ ∃ b : Block, b.ifIndex = i ∧
    (readBlocks (cs.take e)).stack = b :: (readBlocks (cs.take (e + 1))).stack

def IsStray (ms : List BlockMark) (j : Nat) : Prop :=
  (∀ i, ¬ IsOpenAt ms i j) ∨ ∃ i j', IsInnermostAt ms i j ∧ IsElseOf ms i j' ∧ j' < j

section Kept

open BlockState

variable {cs : List Command} {c : Command} {i k e : Nat}

lemma IsInnermostAt.unique {ms : List BlockMark} {i' : Nat} (h : IsInnermostAt ms i k)
    (h' : IsInnermostAt ms i' k) : i = i' :=
  Nat.le_antisymm (h'.2 i h.1) (h.2 i' h'.1)

lemma isBlock_iff_innermost {ms : List BlockMark} (he : ms[e]? = some .closing) :
    IsBlock ms i e ↔ IsInnermostAt ms i e := by
  rw [isBlock_iff, isInnermostAt_iff, IsEndIn]
  simp [he]

lemma readBlocks_succ (hk : cs[k]? = some c) :
    readBlocks (cs.take (k + 1)) = (readBlocks (cs.take k)).push c := by
  rw [List.take_add_one, hk, readBlocks, List.foldl_append]
  rfl

lemma kept_middle (cs : List Command) (k : Nat) (hc : c.blockMark = .middle) :
    (IsStray (blockMarks cs) k →
      (readBlocks (cs.take k)).kept c = { c with error := some .elseAlone }) ∧
    (¬ IsStray (blockMarks cs) k → (readBlocks (cs.take k)).kept c = c) := by
  unfold BlockState.kept
  rw [hc]
  cases hstack : (readBlocks (cs.take k)).stack with
  | nil =>
    have hstray : IsStray (blockMarks cs) k := .inl (stack_eq_nil.mp hstack)
    exact ⟨fun _ => rfl, fun h => absurd hstray h⟩
  | cons b outer =>
    obtain ⟨hinner, helse⟩ := stack_eq_cons hstack
    obtain ⟨i, x⟩ := b
    cases x with
    | none =>
      refine ⟨?_, fun _ => rfl⟩
      rintro (hnone | ⟨i', j, hinner', hj, hlt⟩)
      · exact absurd hinner.1 (hnone i)
      · obtain rfl := hinner.unique hinner'
        cases (helse j).mpr ⟨hlt, hj⟩
    | some j =>
      obtain ⟨hlt, hj⟩ := (helse j).mp rfl
      exact ⟨fun _ => rfl, fun h => absurd (.inr ⟨i, j, hinner, hj, hlt⟩) h⟩

lemma kept_closing (hk : cs[k]? = some c) (hc : c.blockMark = .closing) :
    ((∀ i, ¬ IsBlock (blockMarks cs) i k) →
      (readBlocks (cs.take k)).kept c = { c with error := some .endIfAlone }) ∧
    ∀ i, IsBlock (blockMarks cs) i k → (readBlocks (cs.take k)).kept c = c := by
  have hmark : (blockMarks cs)[k]? = some .closing := by simp [blockMarks, hk, hc]
  simp only [isBlock_iff_innermost hmark]
  unfold BlockState.kept
  rw [hc]
  cases hstack : (readBlocks (cs.take k)).stack with
  | nil => exact ⟨fun _ => rfl, fun i hi => absurd hi.1 (stack_eq_nil.mp hstack i)⟩
  | cons b outer => exact ⟨fun h => absurd (stack_eq_cons hstack).1 (h _), fun _ _ => rfl⟩

lemma closes_iff : Closes cs i e ↔ IsBlock (blockMarks cs) i e := by
  constructor
  · rintro ⟨hmark, b, rfl, hstack⟩
    exact (isBlock_iff_innermost hmark).mpr (stack_eq_cons hstack).1
  · intro hblock
    have hmark := hblock.2.2.1
    obtain ⟨c, hc, hclosing⟩ : ∃ c, cs[e]? = some c ∧ c.blockMark = .closing := by
      simpa [blockMarks] using hmark
    have hinner := (isBlock_iff_innermost hmark).mp hblock
    refine ⟨hmark, ?_⟩
    cases hstack : (readBlocks (cs.take e)).stack with
    | nil => exact absurd hinner.1 (stack_eq_nil.mp hstack i)
    | cons b outer =>
      refine ⟨b, (stack_eq_cons hstack).1.unique hinner, ?_⟩
      rw [readBlocks_succ hc, BlockState.push_of_closing hclosing hstack]

lemma IsElseOf.lt_end {ms : List BlockMark} {j : Nat} (hj : IsElseOf ms i j) (he : IsBlock ms i e) :
    j < e := by
  refine Nat.lt_of_le_of_ne (Nat.le_of_not_lt fun hlt => hj.2.1.1.2.2 e hlt he) ?_
  rintro rfl
  cases hj.1.symm.trans he.2.2.1

lemma IsBlock.aims (h : IsBlock (blockMarks cs) i e) :
    ∃ b : Block, b.ifIndex = i ∧ (∀ j, b.elseIndex = some j ↔ IsElseOf (blockMarks cs) i j) ∧
      targetAt? (resolveBlocks cs) b.latest = some (e + 1) ∧
      ∀ j, b.elseIndex = some j → targetAt? (resolveBlocks cs) i = some (j + 1) := by
  obtain ⟨hmark, b, rfl, hstack⟩ := closes_iff.mpr h
  obtain ⟨c, hc, hclosing⟩ : ∃ c, cs[e]? = some c ∧ c.blockMark = .closing := by
    simpa [blockMarks] using hmark
  have hclosed := (nested_readBlocks (cs.take e)).closes_top hstack hclosing
  rw [← push_of_closing hclosing hstack, length_readBlocks_take hc] at hclosed
  have hfinal {x : Nat} (hx : x ∈ b.indices) : targetAt? (resolveBlocks cs) x =
      targetAt? ((readBlocks (cs.take e)).push c).commands x := by
    rw [resolveBlocks_eq_close hc, targetAt?, settled (hclosed.within x hx) (hclosed.gone x hx)]
    rfl
  refine ⟨b, rfl, fun j => ?_, (hfinal b.latest_mem).trans hclosed.aimed, fun j hj => ?_⟩
  · rw [(stack_eq_cons hstack).2]
    exact and_iff_right_of_imp fun hj => hj.lt_end h
  · exact (hfinal b.ifIndex_mem).trans (hclosed.fits.aimed j hj)

end Kept

/-! ### Whole lists of commands -/

/-- How the blocks of a list of commands match, and what becomes of each of its commands. -/
structure BlocksMatch (cs ds : List Command) : Prop where
  length : ds.length = cs.length
  /-- An `EndIf` takes the block from the stack between which and itself all is balanced. -/
  closes : ∀ i e, Closes cs i e ↔ IsBlock (blockMarks cs) i e
  endIf : ∀ (e : Nat) (c : Command), cs[e]? = some c → c.blockMark = .closing →
    ((∃ i, IsBlock (blockMarks cs) i e) → ds[e]? = some c) ∧
    ((∀ i, ¬ IsBlock (blockMarks cs) i e) → ds[e]? = some { c with error := some .endIfAlone })
  ifElse : ∀ (j : Nat) (c : Command), cs[j]? = some c → c.blockMark = .middle →
    (IsStray (blockMarks cs) j → ds[j]? = some { c with error := some .elseAlone }) ∧
    (¬ IsStray (blockMarks cs) j → ∃ t, ds[j]? = some { c with target := t })
  ifThen : ∀ (i : Nat) (c : Command), cs[i]? = some c → c.blockMark = .opening →
    ∃ t, ds[i]? = some { c with target := t }
  /-- A false `If` goes past its `Else`, or past its `EndIf`, and an `Else` past the `EndIf`. -/
  aims : ∀ i e, IsBlock (blockMarks cs) i e →
    (∀ j, IsElseOf (blockMarks cs) i j →
      targetAt? ds i = some (j + 1) ∧ targetAt? ds j = some (e + 1)) ∧
    ((∀ j, ¬ IsElseOf (blockMarks cs) i j) → targetAt? ds i = some (e + 1))
  /-- Two blocks are one, lie beside each other, or one lies in a branch of the other. -/
  nested : ∀ i e i' e', IsBlock (blockMarks cs) i e → IsBlock (blockMarks cs) i' e' →
    (i = i' ∧ e = e') ∨ e < i' ∨ e' < i ∨ LiesInBranch (blockMarks cs) i' e' i e ∨
      LiesInBranch (blockMarks cs) i e i' e'
  /-- What is neither the `If` of a block nor an `Else` or `EndIf` stays as it is. -/
  others : ∀ (k : Nat) (c : Command), cs[k]? = some c → c.blockMark = .none → ds[k]? = some c

lemma IsBlock.nested {ms : List BlockMark} {i i' e e' : Nat} (h : IsBlock ms i e)
    (h' : IsBlock ms i' e') :
    (i = i' ∧ e = e') ∨ e < i' ∨ e' < i ∨
      LiesInBranch ms i' e' i e ∨ LiesInBranch ms i e i' e' := by
  rcases Nat.lt_trichotomy i i' with hi | rfl | hi
  · have := h.beside_or_within h' hi
    tauto
  · exact .inl ⟨rfl, (isBlock_iff.mp h).2.unique (isBlock_iff.mp h').2⟩
  · have := h'.beside_or_within h hi
    tauto

/-- Matching blocks with a stack is matching brackets, however the commands are nested. -/
theorem resolveBlocks_matches (cs : List Command) : BlocksMatch cs (resolveBlocks cs) where
  length := length_resolveBlocks cs
  closes _ _ := closes_iff
  endIf e c hk hc := by
    obtain ⟨halone, hclosed⟩ := kept_closing hk hc
    refine ⟨fun ⟨i, hi⟩ => ?_, fun hnone => ?_⟩
    · exact getElem?_resolveBlocks_of_not_jump hk (hclosed i hi)
        (by simp [Command.isBlockJump, hc])
    · exact getElem?_resolveBlocks_of_not_jump hk (halone hnone) rfl
  ifElse j c hk hc := by
    obtain ⟨hstray, htaken⟩ := kept_middle cs j hc
    refine ⟨fun h => getElem?_resolveBlocks_of_not_jump hk (hstray h) rfl, fun h => ?_⟩
    simpa only [htaken h] using getElem?_resolveBlocks hk
  ifThen i c hk hc := by
    have hkept : (readBlocks (cs.take i)).kept c = c := by simp [BlockState.kept, hc]
    simpa only [hkept] using getElem?_resolveBlocks hk
  aims i e h := by
    obtain ⟨b, rfl, helse, hlatest, hif⟩ := h.aims
    refine ⟨fun j hj => ?_, fun hnone => ?_⟩
    · have hb := (helse j).mpr hj
      exact ⟨hif j hb, by simpa [Block.latest, hb] using hlatest⟩
    · have hb : b.elseIndex = none := Option.eq_none_iff_forall_ne_some.mpr fun j hj =>
        hnone j ((helse j).mp hj)
      simpa [Block.latest, hb] using hlatest
  nested _ _ _ _ h h' := h.nested h'
  others k c hk hc := by
    have hkept : (readBlocks (cs.take k)).kept c = c := by simp [BlockState.kept, hc]
    exact getElem?_resolveBlocks_of_not_jump hk hkept (by simp [Command.isBlockJump, hc])

end EventScript
