import EventScript.Proofs.Script.Targets
import Mathlib

/-! Blocks within blocks. How deep a command lies is counted from the commands before it alone;
matching the blocks finds the same `Else` and the same `EndIf` for each `If`, and aims at them. -/

namespace EventScript

/-! ### Depth -/

/-- How deep the next command lies, counted in blocks. An `EndIf` with nothing to close leads out of
what is looked at. -/
def BlockMark.nest? (m : BlockMark) (d : Nat) : Option Nat :=
  match m with
  | .opening => some (d + 1)
  | .closing => if d = 0 then .none else some (d - 1)
  | .middle | .none => some d

def depth? (ms : List BlockMark) : Option Nat := ms.foldlM (fun d m => m.nest? d) 0

def depthIn? (ms : List BlockMark) (i : Nat) : Option Nat := depth? (ms.drop (i + 1))

/-- The place `j` is inside the block that begins at `i`, and in no block further inside. -/
def LiesIn (ms : List BlockMark) (i j : Nat) : Prop := i < j ∧ depthIn? (ms.take j) i = some 0

/-- At `j` is an `Else` of the block that begins at `i`. -/
def IsElseIn (ms : List BlockMark) (i j : Nat) : Prop := ms[j]? = some .middle ∧ LiesIn ms i j

/-- At `k` is the `EndIf` of the block that begins at `i`. -/
def IsEndIn (ms : List BlockMark) (i k : Nat) : Prop := ms[k]? = some .closing ∧ LiesIn ms i k

section Depth

variable {ms : List BlockMark} {m : BlockMark} {i j : Nat}

lemma depthIn?_append (hi : i < ms.length) :
    depthIn? (ms ++ [m]) i = (depthIn? ms i).bind m.nest? := by
  unfold depthIn?
  rw [List.drop_append_of_le_length hi]
  simp only [depth?, List.foldlM_append, List.foldlM_cons, List.foldlM_nil, bind_pure]
  rfl

lemma depthIn?_length (ms : List BlockMark) (m : BlockMark) :
    depthIn? (ms ++ [m]) ms.length = some 0 := by
  simp [depthIn?, depth?]

lemma liesIn_append (hj : j ≤ ms.length) : LiesIn (ms ++ [m]) i j ↔ LiesIn ms i j := by
  simp only [LiesIn, List.take_append_of_le_length hj]

lemma liesIn_length (hi : i < ms.length) :
    LiesIn (ms ++ [m]) i ms.length ↔ depthIn? ms i = some 0 := by
  simp [LiesIn, hi]

lemma LiesIn.of_append (h : LiesIn ms i j) (hj : j ≤ ms.length) : LiesIn (ms ++ [m]) i j :=
  (liesIn_append hj).mpr h

lemma isElseIn_append (hi : i < ms.length) : IsElseIn (ms ++ [m]) i j ↔
    IsElseIn ms i j ∨ (j = ms.length ∧ m = .middle ∧ depthIn? ms i = some 0) := by
  rcases Nat.lt_trichotomy j ms.length with hj | rfl | hj
  · simp [IsElseIn, List.getElem?_append_left hj, liesIn_append (Nat.le_of_lt hj),
      Nat.ne_of_lt hj]
  · simp [IsElseIn, liesIn_length hi]
  · have hnone : (ms ++ [m])[j]? = none := List.getElem?_eq_none (by simp; omega)
    have hnone' : ms[j]? = none := List.getElem?_eq_none (Nat.le_of_lt hj)
    simp [IsElseIn, hnone, hnone', Nat.ne_of_gt hj]

lemma IsEndIn.append (h : IsEndIn ms i j) (m : BlockMark) : IsEndIn (ms ++ [m]) i j := by
  have hj : j < ms.length := (List.getElem?_eq_some_iff.mp h.1).1
  exact ⟨(List.getElem?_append_left hj).trans h.1, h.2.of_append (Nat.le_of_lt hj)⟩

lemma IsEndIn.depthIn?_eq_none (h : IsEndIn ms i j) : depthIn? ms i = none := by
  obtain ⟨hmark, hij, hdepth⟩ := h
  obtain ⟨hj, hget⟩ := List.getElem?_eq_some_iff.mp hmark
  have hsplit : ms = ms.take j ++ .closing :: ms.drop (j + 1) := by
    rw [← hget, ← List.drop_eq_getElem_cons hj, List.take_append_drop]
  have hlen : i + 1 ≤ (ms.take j).length := by simp; omega
  unfold depthIn? depth? at hdepth ⊢
  rw [hsplit, List.drop_append_of_le_length hlen, List.foldlM_append, hdepth]
  rfl

end Depth

/-! ### Targets -/

def blockMarks (cs : List Command) : List BlockMark := cs.map Command.blockMark

def targetAt? (cs : List Command) (i : Nat) : Option Nat := cs[i]?.bind (·.target)

section Commands

variable {cs : List Command} {c : Command} {i k t : Nat}

@[simp] lemma length_blockMarks (cs : List Command) : (blockMarks cs).length = cs.length :=
  List.length_map ..

@[simp] lemma blockMarks_append (cs : List Command) (c : Command) :
    blockMarks (cs ++ [c]) = blockMarks cs ++ [c.blockMark] := by
  simp [blockMarks]

@[simp] lemma blockMarks_setTarget (cs : List Command) (i t : Nat) :
    blockMarks (setTarget cs i t) = blockMarks cs := by
  refine List.ext_getElem? fun k => ?_
  simp only [blockMarks, List.getElem?_map, getElem?_setTarget]
  split <;> cases cs[k]? <;> rfl

lemma getElem?_blockMarks_append {m : BlockMark} :
    (blockMarks (cs ++ [c]))[i]? = some m ↔
      (blockMarks cs)[i]? = some m ∨ i = cs.length ∧ c.blockMark = m := by
  rw [blockMarks_append]
  rcases Nat.lt_trichotomy i cs.length with hi | rfl | hi
  · simp [List.getElem?_append_left (length_blockMarks cs ▸ hi), Nat.ne_of_lt hi]
  · simp
  · have hnone : (blockMarks cs ++ [c.blockMark])[i]? = none :=
      List.getElem?_eq_none (by simp; omega)
    have hnone' : (blockMarks cs)[i]? = none := List.getElem?_eq_none (by simp; omega)
    simp [hnone, hnone', Nat.ne_of_gt hi]

lemma targetAt?_append (hk : k < cs.length) : targetAt? (cs ++ [c]) k = targetAt? cs k := by
  simp [targetAt?, List.getElem?_append_left hk]

lemma targetAt?_setTarget_of_ne (h : i ≠ k) : targetAt? (setTarget cs i t) k = targetAt? cs k := by
  simp [targetAt?, getElem?_setTarget, h]

lemma targetAt?_setTarget_self (hi : i < cs.length) : targetAt? (setTarget cs i t) i = some t := by
  simp [targetAt?, getElem?_setTarget, List.getElem?_eq_getElem hi]

end Commands

/-! ### Matching -/

/-- A block knows its `Else`, and its `If` is aimed behind it. -/
structure Block.Fits (b : Block) (cs : List Command) : Prop where
  middle : ∀ j, IsElseIn (blockMarks cs) b.ifIndex j ↔ b.elseIndex = some j
  aimed : ∀ j, b.elseIndex = some j → targetAt? cs b.ifIndex = some (j + 1)

namespace Block.Fits

variable {b : Block} {cs : List Command} {c : Command} {i t : Nat}

lemma append (h : b.Fits cs) (hi : b.ifIndex < cs.length)
    (hc : c.blockMark = .middle → depthIn? (blockMarks cs) b.ifIndex ≠ some 0) :
    b.Fits (cs ++ [c]) where
  middle j := by
    rw [blockMarks_append, isElseIn_append (by simpa using hi), h.middle]
    exact or_iff_left fun hj => hc hj.2.1 hj.2.2
  aimed j hj := (targetAt?_append hi).trans (h.aimed j hj)

lemma setTarget (h : b.Fits cs) (hi : i = b.ifIndex → b.elseIndex = none) :
    b.Fits (setTarget cs i t) where
  middle j := by rw [blockMarks_setTarget, h.middle]
  aimed j hj := by
    have hne : i ≠ b.ifIndex := fun he => by simp [hi he] at hj
    exact (targetAt?_setTarget_of_ne hne).trans (h.aimed j hj)

lemma meet (h : Block.Fits ⟨i, none⟩ cs) (hi : i < cs.length) (hc : c.blockMark = .middle)
    (hdepth : depthIn? (blockMarks cs) i = some 0) :
    Block.Fits ⟨i, some cs.length⟩ (EventScript.setTarget (cs ++ [c]) i (cs.length + 1)) where
  middle j := by
    have hnone := h.middle j
    simp only [reduceCtorEq, iff_false] at hnone
    rw [blockMarks_setTarget, blockMarks_append, isElseIn_append (by simpa using hi)]
    simp [hnone, hc, hdepth, eq_comm]
  aimed := by
    rintro j ⟨⟩
    exact targetAt?_setTarget_self (by simpa using Nat.lt_succ_of_lt hi)

end Block.Fits

/-- A block that was closed at `k`: what was still without a target is aimed behind its `EndIf`. -/
structure Block.ClosesAt (b : Block) (k : Nat) (s : BlockState) : Prop where
  fits : b.Fits s.commands
  isEnd : IsEndIn (blockMarks s.commands) b.ifIndex k
  aimed : targetAt? s.commands b.latest = some (k + 1)
  within : ∀ x ∈ b.indices, x < s.commands.length
  gone : ∀ x ∈ b.indices, x ∉ s.stack.flatMap Block.indices

lemma Block.ifIndex_mem (b : Block) : b.ifIndex ∈ b.indices := List.mem_cons_self

namespace Block.ClosesAt

variable {b : Block} {k : Nat} {s : BlockState} {c : Command}

lemma append (h : b.ClosesAt k s) (c : Command) {stack : List Block}
    (hstack : ∀ x ∈ stack.flatMap indices, x ∈ s.stack.flatMap indices ∨ x = s.commands.length) :
    b.ClosesAt k ⟨s.commands ++ [c], stack⟩ where
  fits := h.fits.append (h.within _ b.ifIndex_mem) fun _ => by simp [h.isEnd.depthIn?_eq_none]
  isEnd := by simpa using h.isEnd.append c.blockMark
  aimed := (targetAt?_append (h.within _ b.latest_mem)).trans h.aimed
  within x hx := by simpa using Nat.lt_succ_of_lt (h.within x hx)
  gone x hx hmem := (hstack x hmem).elim (h.gone x hx) (Nat.ne_of_lt (h.within x hx))

lemma setTarget (h : b.ClosesAt k s) {i : Nat} (hi : i ∉ b.indices) (t : Nat) :
    b.ClosesAt k { s with commands := EventScript.setTarget s.commands i t } where
  fits := h.fits.setTarget fun he => absurd (he ▸ b.ifIndex_mem) hi
  isEnd := by simpa using h.isEnd
  aimed := by
    rw [targetAt?_setTarget_of_ne (ne_of_mem_of_not_mem b.latest_mem hi).symm]
    exact h.aimed
  within x hx := by simpa using h.within x hx
  gone := h.gone

end Block.ClosesAt

namespace BlockState

/-- The stack holds the open blocks, each at the depth at which the next command lies in it. -/
structure Nested (s : BlockState) : Prop where
  nodup : (s.stack.flatMap Block.indices).Nodup
  within : ∀ x ∈ s.stack.flatMap Block.indices, x < s.commands.length
  fits : ∀ b ∈ s.stack, b.Fits s.commands
  depth : ∀ d b, s.stack[d]? = some b → depthIn? (blockMarks s.commands) b.ifIndex = some d
  matched : ∀ i, (blockMarks s.commands)[i]? = some .opening →
    ∃ b : Block, b.ifIndex = i ∧ (b ∈ s.stack ∨ ∃ k, b.ClosesAt k s)

namespace Nested

variable {s : BlockState} {c : Command} {top : Block} {outer : List Block}

lemma within_of_mem (hs : s.Nested) {b : Block} (hb : b ∈ s.stack) {x : Nat} (hx : x ∈ b.indices) :
    x < s.commands.length :=
  hs.within x (List.mem_flatMap.mpr ⟨b, hb, hx⟩)

lemma depth_ne_zero (hs : s.Nested) (hstack : s.stack = top :: outer) {b : Block} (hb : b ∈ outer) :
    depthIn? (blockMarks s.commands) b.ifIndex ≠ some 0 := by
  obtain ⟨d, hd⟩ := List.mem_iff_getElem?.mp hb
  rw [hs.depth (d + 1) b (by simpa [hstack] using hd)]
  simp

lemma depthIn?_append (hs : s.Nested) {d : Nat} {b : Block} (hb : s.stack[d]? = some b)
    (c : Command) :
    depthIn? (blockMarks (s.commands ++ [c])) b.ifIndex = c.blockMark.nest? d := by
  have hi := hs.within_of_mem (List.mem_of_getElem? hb) b.ifIndex_mem
  rw [blockMarks_append, EventScript.depthIn?_append (by simpa using hi), hs.depth d b hb]
  rfl

lemma matched_of_stack (hs : s.Nested) {t : BlockState}
    (hopen : ∀ b ∈ s.stack, ∃ b' : Block, b'.ifIndex = b.ifIndex ∧
      (b' ∈ t.stack ∨ ∃ k, b'.ClosesAt k t))
    (hclosed : ∀ (b : Block) k, b.ClosesAt k s → b.ClosesAt k t) {i : Nat}
    (hi : (blockMarks s.commands)[i]? = some .opening) :
    ∃ b : Block, b.ifIndex = i ∧ (b ∈ t.stack ∨ ∃ k, b.ClosesAt k t) := by
  obtain ⟨b, rfl, hb | ⟨k, hk⟩⟩ := hs.matched i hi
  · exact hopen b hb
  · exact ⟨b, rfl, .inr ⟨k, hclosed b k hk⟩⟩

lemma getElem?_opening (hc : c.blockMark ≠ .opening) {cs : List Command} {i : Nat}
    (hi : (blockMarks (cs ++ [c]))[i]? = some .opening) : (blockMarks cs)[i]? = some .opening :=
  (getElem?_blockMarks_append.mp hi).resolve_right fun h => hc h.2

lemma append (hs : s.Nested) (hc : c.blockMark = .none) :
    Nested { s with commands := s.commands ++ [c] } where
  nodup := hs.nodup
  within x hx := by simpa using Nat.lt_succ_of_lt (hs.within x hx)
  fits b hb := (hs.fits b hb).append (hs.within_of_mem hb b.ifIndex_mem) (by simp [hc])
  depth d b hb := by rw [hs.depthIn?_append hb, hc]; rfl
  matched i hi := by
    refine hs.matched_of_stack (t := { s with commands := s.commands ++ [c] })
      (fun b hb => ⟨b, rfl, .inl hb⟩) (fun b k hk => ?_) (getElem?_opening (by simp [hc]) hi)
    exact hk.append c fun x hx => .inl hx

lemma opening (hs : s.Nested) (hc : c.blockMark = .opening) :
    Nested ⟨s.commands ++ [c], { ifIndex := s.commands.length } :: s.stack⟩ where
  nodup := by
    refine List.nodup_cons.mpr ⟨fun hmem => ?_, hs.nodup⟩
    exact Nat.lt_irrefl _ (hs.within _ hmem)
  within := by
    refine List.forall_mem_cons.mpr ⟨by simp, fun x hx => ?_⟩
    simpa using Nat.lt_succ_of_lt (hs.within x hx)
  fits := by
    refine List.forall_mem_cons.mpr ⟨⟨fun j => ?_, by simp⟩, fun b hb => ?_⟩
    · simp only [reduceCtorEq, iff_false]
      rintro ⟨hj, hlt, -⟩
      have hlast := (List.getElem?_eq_some_iff.mp hj).1
      simp at hlast
      omega
    · exact (hs.fits b hb).append (hs.within_of_mem hb b.ifIndex_mem) (by simp [hc])
  depth d b hb := by
    cases d with
    | zero =>
      obtain rfl := Option.some.inj hb
      simpa using depthIn?_length (blockMarks s.commands) c.blockMark
    | succ d =>
      rw [hs.depthIn?_append hb, hc]
      rfl
  matched i hi := by
    rcases getElem?_blockMarks_append.mp hi with hi | ⟨rfl, -⟩
    · refine hs.matched_of_stack (fun b hb => ⟨b, rfl, .inl (List.mem_cons_of_mem _ hb)⟩)
        (fun b k hk => hk.append c fun x hx => ?_) hi
      exact (List.mem_cons.mp hx).symm
    · exact ⟨_, rfl, .inl List.mem_cons_self⟩

section Innermost

variable (hs : s.Nested) (hstack : s.stack = top :: outer)

include hs hstack

lemma apart : top.indices.Nodup ∧ (outer.flatMap Block.indices).Nodup ∧
    ∀ x ∈ top.indices, x ∉ outer.flatMap Block.indices := by
  have hnodup := hs.nodup
  rw [hstack, List.flatMap_cons] at hnodup
  obtain ⟨hown, hrest, hne⟩ := List.nodup_append.mp hnodup
  exact ⟨hown, hrest, fun x hx hmem => hne x hx x hmem rfl⟩

lemma fits_outer {b : Block} (hb : b ∈ outer) {x : Nat} (hx : x ∈ top.indices) (c : Command)
    (t : Nat) : b.Fits (setTarget (s.commands ++ [c]) x t) := by
  have hmem : b ∈ s.stack := hstack ▸ List.mem_cons_of_mem _ hb
  have hi := hs.within_of_mem hmem b.ifIndex_mem
  refine ((hs.fits b hmem).append hi fun _ => hs.depth_ne_zero hstack hb).setTarget ?_
  rintro rfl
  exact absurd (List.mem_flatMap.mpr ⟨b, hb, b.ifIndex_mem⟩) ((hs.apart hstack).2.2 _ hx)

omit hs in
lemma closesAt_setTarget {b : Block} {k : Nat} (hk : b.ClosesAt k s) {x : Nat}
    (hx : x ∈ top.indices) (c : Command) (t : Nat) {stack : List Block}
    (hsub : ∀ y ∈ stack.flatMap Block.indices,
      y ∈ s.stack.flatMap Block.indices ∨ y = s.commands.length) :
    b.ClosesAt k ⟨setTarget (s.commands ++ [c]) x t, stack⟩ := by
  have hmem : x ∈ s.stack.flatMap Block.indices :=
    List.mem_flatMap.mpr ⟨top, hstack ▸ List.mem_cons_self, hx⟩
  exact (hk.append c hsub).setTarget (fun hb => hk.gone x hb hmem) t

lemma closes_top (hc : c.blockMark = .closing) : top.ClosesAt s.commands.length
    ⟨setTarget (s.commands ++ [c]) top.latest (s.commands.length + 1), outer⟩ := by
  have htop : top ∈ s.stack := hstack ▸ List.mem_cons_self
  have hi := hs.within_of_mem htop top.ifIndex_mem
  refine ⟨?_, ?_, ?_, fun x hx => ?_, (hs.apart hstack).2.2⟩
  · refine ((hs.fits top htop).append hi (by simp [hc])).setTarget fun he => ?_
    have hown := (hs.apart hstack).1
    cases helse : top.elseIndex with
    | none => rfl
    | some j => simp_all [Block.latest, Block.indices]
  · have hdepth := hs.depth 0 top (by rw [hstack]; rfl)
    have hlies := (liesIn_length (m := c.blockMark) (by simpa using hi)).mpr hdepth
    rw [length_blockMarks] at hlies
    rw [blockMarks_setTarget, blockMarks_append]
    exact ⟨by simp [hc], hlies⟩
  · have hlatest := hs.within_of_mem htop top.latest_mem
    exact targetAt?_setTarget_self (by simpa using Nat.lt_succ_of_lt hlatest)
  · simpa using Nat.lt_succ_of_lt (hs.within_of_mem htop hx)

end Innermost

lemma middle {i : Nat} (hs : s.Nested) (hc : c.blockMark = .middle)
    (hstack : s.stack = { ifIndex := i, elseIndex := none } :: outer) :
    Nested ⟨setTarget (s.commands ++ [c]) i (s.commands.length + 1),
      { ifIndex := i, elseIndex := some s.commands.length } :: outer⟩ := by
  have htop : ({ ifIndex := i, elseIndex := none } : Block) ∈ s.stack := hstack ▸ List.mem_cons_self
  have hfirst : s.stack[0]? = some { ifIndex := i, elseIndex := none } := by rw [hstack]; rfl
  have hi : i < s.commands.length := hs.within_of_mem htop List.mem_cons_self
  have hindices : s.stack.flatMap Block.indices = i :: outer.flatMap Block.indices := by
    simp [hstack, Block.indices]
  have hindices' : (⟨i, some s.commands.length⟩ :: outer).flatMap Block.indices =
      i :: s.commands.length :: outer.flatMap Block.indices := by
    simp [Block.indices]
  obtain ⟨-, hnodup, hapart⟩ := hs.apart hstack
  have hwithin {x : Nat} (hx : x ∈ outer.flatMap Block.indices) : x < s.commands.length :=
    hs.within x (hindices ▸ List.mem_cons_of_mem _ hx)
  -- The new index is behind all others, so that the blocks still share none.
  refine ⟨?_, ?_, ?_, fun d b hb => ?_, fun j hj => ?_⟩
  · have hlast : s.commands.length ∉ outer.flatMap Block.indices := fun hx =>
      Nat.lt_irrefl _ (hwithin hx)
    rw [hindices', List.nodup_cons, List.nodup_cons, List.mem_cons, not_or]
    exact ⟨⟨Nat.ne_of_lt hi, hapart i List.mem_cons_self⟩, hlast, hnodup⟩
  · rw [hindices']
    simp only [length_setTarget, List.length_append, List.length_singleton, List.mem_cons,
      forall_eq_or_imp]
    exact ⟨Nat.lt_succ_of_lt hi, Nat.lt_succ_self _, fun x hx => Nat.lt_succ_of_lt (hwithin hx)⟩
  · have hmeet := (hs.fits _ htop).meet hi hc (hs.depth 0 _ hfirst)
    exact List.forall_mem_cons.mpr ⟨hmeet, fun b hb => hs.fits_outer hstack hb List.mem_cons_self c _⟩
  · rw [blockMarks_setTarget]
    cases d with
    | zero =>
      obtain rfl := Option.some.inj hb
      exact (hs.depthIn?_append hfirst c).trans (by rw [hc]; rfl)
    | succ d =>
      exact (hs.depthIn?_append (d := d + 1) (by rw [hstack]; exact hb) c).trans (by rw [hc]; rfl)
  · rw [blockMarks_setTarget] at hj
    refine hs.matched_of_stack (fun b hb => ?_) (fun b k hk => ?_)
      (getElem?_opening (by simp [hc]) hj)
    · rcases List.mem_cons.mp (hstack ▸ hb) with rfl | hb
      · exact ⟨⟨i, some s.commands.length⟩, rfl, .inl List.mem_cons_self⟩
      · exact ⟨b, rfl, .inl (List.mem_cons_of_mem _ hb)⟩
    · refine closesAt_setTarget hstack hk List.mem_cons_self c _ fun x hx => ?_
      rw [hindices'] at hx
      rw [hindices]
      grind

lemma closing (hs : s.Nested) (hc : c.blockMark = .closing) (hstack : s.stack = top :: outer) :
    Nested ⟨setTarget (s.commands ++ [c]) top.latest (s.commands.length + 1), outer⟩ := by
  have houter (x : Nat) (hx : x ∈ outer.flatMap Block.indices) :
      x ∈ s.stack.flatMap Block.indices := by
    rw [hstack]
    exact List.mem_append_right _ hx
  refine ⟨(hs.apart hstack).2.1, fun x hx => ?_, fun b hb => ?_, fun d b hb => ?_, fun i hi => ?_⟩
  · simpa using Nat.lt_succ_of_lt (hs.within x (houter x hx))
  · exact hs.fits_outer hstack hb top.latest_mem c _
  · rw [blockMarks_setTarget]
    refine (hs.depthIn?_append (d := d + 1) (by rw [hstack]; exact hb) c).trans ?_
    rw [hc]
    rfl
  · rw [blockMarks_setTarget] at hi
    refine hs.matched_of_stack (fun b hb => ?_) (fun b k hk => ?_)
      (getElem?_opening (by simp [hc]) hi)
    · rcases List.mem_cons.mp (hstack ▸ hb) with rfl | hb
      · exact ⟨_, rfl, .inr ⟨_, hs.closes_top hstack hc⟩⟩
      · exact ⟨b, rfl, .inl hb⟩
    · exact closesAt_setTarget hstack hk top.latest_mem c _ fun x hx => .inl (houter x hx)

lemma push (hs : s.Nested) (c : Command) : (s.push c).Nested := by
  unfold BlockState.push
  dsimp only
  split
  · next hc => exact hs.append hc
  · next hc => exact hs.opening hc
  · next hc hstack => exact hs.middle hc hstack
  · exact hs.append rfl
  · next hc hstack => exact hs.closing hc hstack
  · exact hs.append rfl

lemma foldl (hs : s.Nested) (cs : List Command) : (cs.foldl BlockState.push s).Nested := by
  induction cs generalizing s with
  | nil => exact hs
  | cons c cs ih => exact ih (hs.push c)

end Nested

end BlockState

/-! ### Whole scripts -/

section SetTargets

variable (cs : List Command) (js : List Nat) (t : Nat)

@[simp] lemma blockMarks_setTargets :
    blockMarks (js.foldl (fun ds i => setTarget ds i t) cs) = blockMarks cs := by
  induction js generalizing cs with
  | nil => rfl
  | cons i js ih => exact (ih _).trans (blockMarks_setTarget ..)

variable {cs js t} {k : Nat}

lemma targetAt?_setTargets_of_notMem (h : k ∉ js) :
    targetAt? (js.foldl (fun ds i => setTarget ds i t) cs) k = targetAt? cs k := by
  induction js generalizing cs with
  | nil => rfl
  | cons i js ih =>
    obtain ⟨hi, hjs⟩ := not_or.mp (List.mem_cons.not.mp h)
    exact (ih hjs).trans (targetAt?_setTarget_of_ne (Ne.symm hi))

lemma targetAt?_setTargets_of_mem (h : k ∈ js) (hk : k < cs.length) :
    targetAt? (js.foldl (fun ds i => setTarget ds i t) cs) k = some t := by
  induction js generalizing cs with
  | nil => cases h
  | cons i js ih =>
    by_cases hjs : k ∈ js
    · exact ih hjs (by simpa using hk)
    · obtain rfl := (List.mem_cons.mp h).resolve_right hjs
      exact (targetAt?_setTargets_of_notMem hjs).trans (targetAt?_setTarget_self hk)

end SetTargets

/-- The block that begins at `i` has this `Else`, or none, and its jumps are aimed accordingly. -/
structure Block.Aims (b : Block) (cs : List Command) : Prop where
  middle : ∀ j, IsElseIn (blockMarks cs) b.ifIndex j ↔ b.elseIndex = some j
  closed : ∀ k, IsEndIn (blockMarks cs) b.ifIndex k → targetAt? cs b.latest = some (k + 1) ∧
    ∀ j, b.elseIndex = some j → targetAt? cs b.ifIndex = some (j + 1)
  unclosed : (∀ k, ¬ IsEndIn (blockMarks cs) b.ifIndex k) →
    ∀ x ∈ b.indices, targetAt? cs x = some cs.length

lemma IsEndIn.unique {ms : List BlockMark} {i j k : Nat} (hj : IsEndIn ms i j)
    (hk : IsEndIn ms i k) : j = k := by
  -- If one came after the other, it would not lie in the block any more.
  have hle {j k : Nat} (hj : IsEndIn ms i j) (hk : IsEndIn ms i k) : k ≤ j := by
    refine Nat.le_of_not_lt fun hlt => ?_
    have hbefore : IsEndIn (ms.take k) i j := by
      refine ⟨(List.getElem?_take_of_lt hlt).trans hj.1, hj.2.1, ?_⟩
      rw [List.take_take, Nat.min_eq_left (Nat.le_of_lt hlt)]
      exact hj.2.2
    have hnone := hbefore.depthIn?_eq_none
    rw [hk.2.2] at hnone
    cases hnone
  exact Nat.le_antisymm (hle hk hj) (hle hj hk)

lemma resolveBlocks_aims (cs : List Command) {i : Nat}
    (hi : (blockMarks (resolveBlocks cs))[i]? = some .opening) :
    ∃ b : Block, b.ifIndex = i ∧ b.Aims (resolveBlocks cs) := by
  have hstart : BlockState.Nested {} := ⟨by simp, by simp, by simp, by simp, by simp [blockMarks]⟩
  have hs := hstart.foldl cs
  unfold resolveBlocks BlockState.close at hi ⊢
  generalize cs.foldl BlockState.push {} = s at hs hi ⊢
  rw [blockMarks_setTargets] at hi
  obtain ⟨b, rfl, hb | ⟨k, hk⟩⟩ := hs.matched i hi
  · refine ⟨b, rfl, ?_, fun k hk => ?_, fun _ x hx => ?_⟩
    · simpa using (hs.fits b hb).middle
    · obtain ⟨d, hd⟩ := List.mem_iff_getElem?.mp hb
      rw [blockMarks_setTargets] at hk
      have hnone := hs.depth d b hd
      rw [hk.depthIn?_eq_none] at hnone
      cases hnone
    · rw [length_setTargets]
      exact targetAt?_setTargets_of_mem (List.mem_flatMap.mpr ⟨b, hb, hx⟩)
        (hs.within_of_mem hb hx)
  · have hsame {x : Nat} (hx : x ∈ b.indices) :
        targetAt? ((s.stack.flatMap Block.indices).foldl
          (fun ds i => setTarget ds i s.commands.length) s.commands) x = targetAt? s.commands x :=
      targetAt?_setTargets_of_notMem (hk.gone x hx)
    refine ⟨b, rfl, ?_, fun k' hk' => ?_, fun hnone => ?_⟩
    · simpa using hk.fits.middle
    · rw [blockMarks_setTargets] at hk'
      obtain rfl := hk.isEnd.unique hk'
      refine ⟨(hsame b.latest_mem).trans hk.aimed, fun j hj => ?_⟩
      exact (hsame b.ifIndex_mem).trans (hk.fits.aimed j hj)
    · exact absurd (by simpa using hk.isEnd) (hnone k)

namespace Command

variable {c : Command} (labels : Ledger String Nat) (i : Nat)

lemma jumpLabel?_of_blockMark (h : c.blockMark ≠ .none) : c.jumpLabel? = none := by
  unfold blockMark at h
  unfold jumpLabel?
  split
  · next hv =>
    rw [if_pos hv] at h
    split <;> simp_all
  · rfl

lemma blockMark_resolveLabel (c : Command) : (c.resolveLabel labels i).blockMark = c.blockMark := by
  by_cases h : c.blockMark = .none
  · unfold resolveLabel
    split
    · rfl
    · rw [h]
      split
      · rfl
      · split
        · rfl
        · exact h
  · rw [resolveLabel, jumpLabel?_of_blockMark h]

lemma target_resolveLabel (h : c.blockMark ≠ .none) :
    (c.resolveLabel labels i).target = c.target := by
  rw [resolveLabel, jumpLabel?_of_blockMark h]

end Command

lemma blockMarks_resolveLabels (labels : Ledger String Nat) (cs : List Command) :
    blockMarks (resolveLabels labels cs) = blockMarks cs := by
  refine List.ext_getElem? fun k => ?_
  simp [blockMarks, resolveLabels, Function.comp_def, Command.blockMark_resolveLabel]

lemma targetAt?_resolveLabels (labels : Ledger String Nat) {cs : List Command} {k : Nat}
    {m : BlockMark} (h : (blockMarks cs)[k]? = some m) (hm : m ≠ .none) :
    targetAt? (resolveLabels labels cs) k = targetAt? cs k := by
  obtain ⟨c, hc, rfl⟩ : ∃ c, cs[k]? = some c ∧ c.blockMark = m := by
    simpa [blockMarks] using h
  simp [targetAt?, resolveLabels, hc, Command.target_resolveLabel labels k hm]

lemma Block.Aims.resolveLabels {b : Block} {cs : List Command} (h : b.Aims cs)
    (hopen : (blockMarks cs)[b.ifIndex]? = some .opening) (labels : Ledger String Nat) :
    b.Aims (resolveLabels labels cs) := by
  have hsame {x : Nat} (hx : x ∈ b.indices) :
      targetAt? (EventScript.resolveLabels labels cs) x = targetAt? cs x := by
    rcases List.mem_cons.mp hx with rfl | hx
    · exact targetAt?_resolveLabels labels hopen (by simp)
    · obtain ⟨hmark, -⟩ := (h.middle x).mpr (Option.mem_toList.mp hx)
      exact targetAt?_resolveLabels labels hmark (by simp)
  refine ⟨?_, ?_, ?_⟩ <;> rw [blockMarks_resolveLabels]
  · exact h.middle
  · intro k hk
    rw [hsame b.latest_mem, hsame b.ifIndex_mem]
    exact h.closed k hk
  · intro hnone x hx
    rw [hsame hx, h.unclosed hnone x hx]
    simp [EventScript.resolveLabels]

/-- An `If` whose block is closed goes to its `Else`, but one whose block is open at the end of the
script goes to the end, whether or not it has an `Else`. -/
theorem block_with_else_targets {text name : String} {path : Option String} {s : Script}
    (h : Script.parse text name path = .ok s) {i j : Nat} {c e : Command}
    (hc : s.commands[i]? = some c) (hopen : c.blockMark = .opening)
    (he : s.commands[j]? = some e) (hj : IsElseIn (blockMarks s.commands) i j) :
    (∀ k, IsElseIn (blockMarks s.commands) i k → k = j) ∧
      (∀ k, IsEndIn (blockMarks s.commands) i k →
        c.target = some (j + 1) ∧ e.target = some (k + 1)) ∧
      ((∀ k, ¬ IsEndIn (blockMarks s.commands) i k) →
        c.target = some s.size ∧ e.target = some s.size) := by
  obtain ⟨d, -, rfl⟩ := Script.parse_eq_ok h
  have hmark : (blockMarks (Script.ofDraft name path d).commands)[i]? = some .opening := by
    simp [blockMarks, hc, hopen]
  have htarget : targetAt? (Script.ofDraft name path d).commands i = c.target ∧
      targetAt? (Script.ofDraft name path d).commands j = e.target := by
    simp [targetAt?, hc, he]
  simp only [Script.ofDraft, blockMarks_resolveLabels] at hmark
  obtain ⟨b, rfl, hb⟩ := resolveBlocks_aims d.commands hmark
  have haims := hb.resolveLabels hmark d.labels
  have helse : b.elseIndex = some j := (haims.middle j).mp hj
  have hlatest : b.latest = j := by simp [Block.latest, helse]
  rw [← htarget.1, ← htarget.2]
  refine ⟨fun k hk => ?_, fun k hk => ?_, fun hnone => ?_⟩
  · exact (Option.some.inj (helse.symm.trans ((haims.middle k).mp hk))).symm
  · obtain ⟨haimed, hmiddle⟩ := haims.closed k hk
    exact ⟨hmiddle j helse, hlatest ▸ haimed⟩
  · have hall := haims.unclosed hnone
    exact ⟨hall _ b.ifIndex_mem, hall _ (by simp [Block.indices, helse])⟩

/-- A block that is left open around one that is closed, each with an `Else`. -/
theorem block_with_else_targets_nested : ∃ script : Script,
    Script.parse "If($a == 1)\nIf($b == 1)\nElse\nEndIf\nElse\nFadeIn" "open" none = .ok script ∧
      ∃ c e c' e' : Command, script.commands[0]? = some c ∧ c.blockMark = .opening ∧
        script.commands[4]? = some e ∧ IsElseIn (blockMarks script.commands) 0 4 ∧
        (∀ k, ¬ IsEndIn (blockMarks script.commands) 0 k) ∧
        script.commands[1]? = some c' ∧ c'.blockMark = .opening ∧
        script.commands[2]? = some e' ∧ IsElseIn (blockMarks script.commands) 1 2 ∧
        IsEndIn (blockMarks script.commands) 1 3 ∧
        (c.target = some 6 ∧ e.target = some 6) ∧ c'.target = some 3 ∧ e'.target = some 4 := by
  let outer : Command :=
    { kind := .builtin .ifThen, name := "If", params := ["$a == 1"]
      args := [.condition (.compare "$a" .eq 1)], line := 1, target := some 6 }
  let inner : Command :=
    { kind := .builtin .ifThen, name := "If", params := ["$b == 1"]
      args := [.condition (.compare "$b" .eq 1)], line := 2, target := some 3 }
  let innerElse : Command :=
    { kind := .builtin .ifElse, name := "Else", line := 3, target := some 4 }
  let outerElse : Command :=
    { kind := .builtin .ifElse, name := "Else", line := 5, target := some 6 }
  let script : Script := {
    name := "open"
    commands := [outer, inner, innerElse, { kind := .builtin .endIf, name := "EndIf", line := 4 },
      outerElse, { kind := .builtin .fadeIn, name := "FadeIn", line := 6 }] }
  have hparse : Script.parse "If($a == 1)\nIf($b == 1)\nElse\nEndIf\nElse\nFadeIn" "open" none =
      .ok script := by
    cbv
  have hfour : IsElseIn (blockMarks script.commands) 0 4 := ⟨rfl, by decide, rfl⟩
  have htwo : IsElseIn (blockMarks script.commands) 1 2 := ⟨rfl, by decide, rfl⟩
  have hend : IsEndIn (blockMarks script.commands) 1 3 := ⟨rfl, by decide, rfl⟩
  have hnone (k : Nat) : ¬ IsEndIn (blockMarks script.commands) 0 k := fun hk => by
    have hdepth : depthIn? (blockMarks script.commands) 0 = some 0 := rfl
    simp [hk.depthIn?_eq_none] at hdepth
  have hopen := block_with_else_targets hparse (rfl : script.commands[0]? = some outer) rfl
    (rfl : script.commands[4]? = some outerElse) hfour
  have hclosed := block_with_else_targets hparse (rfl : script.commands[1]? = some inner) rfl
    (rfl : script.commands[2]? = some innerElse) htwo
  exact ⟨script, hparse, outer, outerElse, inner, innerElse, rfl, rfl, rfl, hfour, hnone, rfl, rfl,
    rfl, htwo, hend, hopen.2.2 hnone, hclosed.2.1 3 hend⟩

end EventScript
