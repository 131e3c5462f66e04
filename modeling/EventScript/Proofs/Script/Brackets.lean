import EventScript.Proofs.Script.Nesting

/-! Blocks as brackets: an `EndIf` belongs to the `If` up to which everything is balanced. How deep
commands lie is counted one by one, and tells which blocks are open and which of them is the
innermost. -/

namespace EventScript

/-- Every block that begins in the sequence ends in it, and nothing else ends in it. -/
inductive Balanced : List BlockMark → Prop
  | nil : Balanced []
  | skip {m : BlockMark} {ms : List BlockMark} : m ≠ .opening → m ≠ .closing → Balanced ms →
      Balanced (m :: ms)
  | block {ms ns : List BlockMark} : Balanced ms → Balanced ns →
      Balanced (.opening :: (ms ++ .closing :: ns))

def IsBlock (ms : List BlockMark) (i e : Nat) : Prop :=
  i < e ∧ ms[i]? = some .opening ∧ ms[e]? = some .closing ∧ Balanced ((ms.take e).drop (i + 1))

def IsOpenAt (ms : List BlockMark) (i k : Nat) : Prop :=
  i < k ∧ ms[i]? = some .opening ∧ ∀ e < k, ¬ IsBlock ms i e

def IsInnermostAt (ms : List BlockMark) (i k : Nat) : Prop :=
  IsOpenAt ms i k ∧ ∀ i', IsOpenAt ms i' k → i' ≤ i

def IsElseOf (ms : List BlockMark) (i j : Nat) : Prop :=
  ms[j]? = some .middle ∧ IsInnermostAt ms i j ∧
    ∀ j' < j, ms[j']? = some .middle → ¬ IsInnermostAt ms i j'

def depthFrom? (d : Nat) (ms : List BlockMark) : Option Nat := ms.foldlM (fun d m => m.nest? d) d

section Count

variable {ms ns : List BlockMark} {m : BlockMark} {c d e : Nat}

lemma depthFrom?_cons : depthFrom? d (m :: ms) = (m.nest? d).bind (depthFrom? · ms) := rfl

lemma depthFrom?_append :
    depthFrom? d (ms ++ ns) = (depthFrom? d ms).bind (depthFrom? · ns) := by
  simp only [depthFrom?, List.foldlM_append]
  rfl

lemma nest?_add (h : m.nest? c = some e) (d : Nat) : m.nest? (c + d) = some (e + d) := by
  cases m <;> grind [BlockMark.nest?]

lemma depthFrom?_add (h : depthFrom? c ms = some e) (d : Nat) :
    depthFrom? (c + d) ms = some (e + d) := by
  induction ms generalizing c with
  | nil =>
    obtain rfl := Option.some.inj h
    rfl
  | cons m ms ih =>
    rw [depthFrom?_cons] at h ⊢
    obtain ⟨x, hx, hrest⟩ := Option.bind_eq_some_iff.mp h
    rw [nest?_add hx d]
    exact ih hrest

lemma Balanced.depthFrom?_eq (h : Balanced ms) (d : Nat) : depthFrom? d ms = some d := by
  induction h generalizing d with
  | nil => rfl
  | @skip m _ hopen hclose _ ih =>
    rw [depthFrom?_cons]
    cases m <;> first | contradiction | exact ih d
  | block _ _ ih ih' =>
    rw [depthFrom?_cons, BlockMark.nest?, Option.bind_some, depthFrom?_append, ih,
      Option.bind_some, depthFrom?_cons]
    exact ih' d

/-- A sequence that ends as deep as it began is balanced, and one that ends less deep goes on behind
an `EndIf` up to which it is. -/
lemma balanced_of_depthFrom? (h : depthFrom? d ms = some 0) :
    (d = 0 → Balanced ms) ∧ ∀ c, d = c + 1 →
      ∃ as bs, Balanced as ∧ ms = as ++ .closing :: bs ∧ depthFrom? c bs = some 0 := by
  obtain ⟨n, hn⟩ : ∃ n, ms.length ≤ n := ⟨_, le_rfl⟩
  induction n generalizing d ms with
  | zero =>
    obtain rfl := List.length_eq_zero_iff.mp (Nat.le_zero.mp hn)
    obtain rfl := Option.some.inj h
    exact ⟨fun _ => .nil, nofun⟩
  | succ n ih =>
    cases ms with
    | nil =>
      obtain rfl := Option.some.inj h
      exact ⟨fun _ => .nil, nofun⟩
    | cons m ms =>
      have hms : ms.length ≤ n := by simpa using hn
      rw [depthFrom?_cons] at h
      cases hm : m with
      | opening =>
        subst hm
        obtain ⟨as, bs, has, rfl, hbs⟩ := (ih h hms).2 d rfl
        obtain ⟨hzero, hsucc⟩ := ih hbs (by simp at hms; omega)
        refine ⟨fun hd => .block has (hzero hd), fun c hc => ?_⟩
        obtain ⟨as', bs', has', rfl, hbs'⟩ := hsucc c hc
        exact ⟨.opening :: (as ++ .closing :: as'), bs', .block has has', by simp, hbs'⟩
      | closing =>
        subst hm
        cases d with
        | zero => cases h
        | succ d => exact ⟨nofun, fun c hc => ⟨[], ms, .nil, rfl, Nat.succ.inj hc ▸ h⟩⟩
      | middle | none =>
        subst hm
        obtain ⟨hzero, hsucc⟩ := ih h hms
        refine ⟨fun hd => .skip (by simp) (by simp) (hzero hd), fun c hc => ?_⟩
        obtain ⟨as, bs, has, rfl, hbs⟩ := hsucc c hc
        exact ⟨_ :: as, bs, .skip (by simp) (by simp) has, rfl, hbs⟩

lemma balanced_iff : Balanced ms ↔ depth? ms = some 0 :=
  ⟨fun h => h.depthFrom?_eq 0, fun h => (balanced_of_depthFrom? (d := 0) h).1 rfl⟩

end Count

section Depth

variable {ms : List BlockMark} {m : BlockMark} {i j k d : Nat}

lemma isBlock_iff : IsBlock ms i k ↔ ms[i]? = some .opening ∧ IsEndIn ms i k := by
  rw [IsBlock, balanced_iff]
  exact ⟨fun ⟨hlt, hi, hk, hdepth⟩ => ⟨hi, hk, hlt, hdepth⟩,
    fun ⟨hi, hk, hlt, hdepth⟩ => ⟨hlt, hi, hk, hdepth⟩⟩

lemma depthIn?_take_self (ms : List BlockMark) (i : Nat) :
    depthIn? (ms.take (i + 1)) i = some 0 := by
  unfold depthIn?
  rw [List.drop_eq_nil_of_le (by simp)]
  rfl

lemma depthIn?_take_succ (hi : i < k) (hk : ms[k]? = some m) :
    depthIn? (ms.take (k + 1)) i = (depthIn? (ms.take k) i).bind m.nest? := by
  have hlt : k < ms.length := (List.getElem?_eq_some_iff.mp hk).1
  rw [List.take_add_one, hk]
  exact depthIn?_append (by simp; omega)

lemma depthIn?_take_eq_none (hi : i < k) :
    depthIn? (ms.take k) i = none ↔ ∃ e < k, IsEndIn ms i e := by
  induction k with
  | zero => omega
  | succ k ih =>
    simp only [Nat.lt_succ_iff_lt_or_eq, or_and_right, exists_or, exists_eq_left]
    rcases Nat.lt_succ_iff_lt_or_eq.mp hi with hi | rfl
    · rw [← ih hi]
      cases hk : ms[k]? with
      | none => simp [List.take_add_one, hk, IsEndIn]
      | some m =>
        have hend : IsEndIn ms i k ↔ m = .closing ∧ depthIn? (ms.take k) i = some 0 := by
          simp [IsEndIn, LiesIn, hk, hi]
        rw [depthIn?_take_succ hi hk, hend]
        cases depthIn? (ms.take k) i <;> cases m <;> simp [BlockMark.nest?]
    · have hstart : ¬ ∃ e < i, IsEndIn ms i e := by
        rintro ⟨e, he, -, hie, -⟩
        omega
      have hself : ¬ IsEndIn ms i i := fun h => Nat.lt_irrefl i h.2.1
      simp [depthIn?_take_self, hstart, hself]

lemma isOpenAt_iff : IsOpenAt ms i k ↔
    i < k ∧ ms[i]? = some .opening ∧ ∃ d, depthIn? (ms.take k) i = some d := by
  refine and_congr_right fun hi => and_congr_right fun hopen => ?_
  rw [← Option.ne_none_iff_exists', ne_eq, depthIn?_take_eq_none hi]
  simp [isBlock_iff, hopen]

lemma depthIn?_lt (hi : i < j) (hj : ms[j]? = some .opening) (hk : j < k) {d' : Nat}
    (hd : depthIn? (ms.take k) i = some d) (hd' : depthIn? (ms.take k) j = some d') : d' < d := by
  have hjms : j < ms.length := (List.getElem?_eq_some_iff.mp hj).1
  have hlt : j < (ms.take k).length := by simp; omega
  have hget : (ms.take k)[j] = .opening := by
    rw [List.getElem_take]
    exact (List.getElem?_eq_some_iff.mp hj).2
  have hsplit : (ms.take k).drop (i + 1) =
      ((ms.take k).take j).drop (i + 1) ++ .opening :: (ms.take k).drop (j + 1) := by
    rw [← hget, ← List.drop_eq_getElem_cons hlt, ← List.drop_append_of_le_length (by simp; omega),
      List.take_append_drop]
  unfold depthIn? at hd hd'
  change depthFrom? 0 _ = _ at hd hd'
  rw [hsplit, depthFrom?_append] at hd
  obtain ⟨x, -, hrest⟩ := Option.bind_eq_some_iff.mp hd
  have hdeep := depthFrom?_add hd' (x + 1)
  rw [depthFrom?_cons, BlockMark.nest?, Option.bind_some, ← Nat.zero_add (x + 1), hdeep] at hrest
  have := Option.some.inj hrest
  omega

lemma exists_inner (hi : i < k) (hd : depthIn? (ms.take k) i = some (d + 1)) :
    ∃ j, i < j ∧ j < k ∧ ms[j]? = some .opening ∧ depthIn? (ms.take k) j = some d := by
  induction k generalizing d with
  | zero => omega
  | succ k ih =>
    rcases Nat.lt_succ_iff_lt_or_eq.mp hi with hi | rfl
    · cases hk : ms[k]? with
      | none =>
        rw [List.take_add_one, hk, Option.toList_none, List.append_nil] at hd ⊢
        obtain ⟨j, hij, hjk, hj, hdj⟩ := ih hi hd
        exact ⟨j, hij, by omega, hj, hdj⟩
      | some m =>
        have hinner {e : Nat} (he : depthIn? (ms.take k) i = some (e + 1))
            (hm : m.nest? e = some d) : ∃ j, i < j ∧ j < k + 1 ∧ ms[j]? = some .opening ∧
              depthIn? (ms.take (k + 1)) j = some d := by
          obtain ⟨j, hij, hjk, hj, hdj⟩ := ih hi he
          refine ⟨j, hij, by omega, hj, ?_⟩
          rw [depthIn?_take_succ hjk hk, hdj]
          exact hm
        rw [depthIn?_take_succ hi hk] at hd
        obtain ⟨e, he, hm⟩ := Option.bind_eq_some_iff.mp hd
        cases m with
        | opening =>
          obtain rfl : e = d := by simpa [BlockMark.nest?] using hm
          cases e with
          | zero => exact ⟨k, hi, Nat.lt_succ_self k, hk, depthIn?_take_self ms k⟩
          | succ e => exact hinner he rfl
        | closing =>
          obtain ⟨-, rfl⟩ : e ≠ 0 ∧ e = d + 2 := by
            cases e with
            | zero => cases hm
            | succ e => simpa [BlockMark.nest?] using hm
          exact hinner he rfl
        | middle | none =>
          obtain rfl : e = d + 1 := by simpa [BlockMark.nest?] using hm
          exact hinner he rfl
    · simp [depthIn?_take_self] at hd

lemma isInnermostAt_iff : IsInnermostAt ms i k ↔ ms[i]? = some .opening ∧ LiesIn ms i k := by
  constructor
  · rintro ⟨hopen, hlast⟩
    obtain ⟨hi, hmark, d, hd⟩ := isOpenAt_iff.mp hopen
    refine ⟨hmark, hi, ?_⟩
    cases d with
    | zero => exact hd
    | succ d =>
      obtain ⟨j, hij, hjk, hj, hdj⟩ := exists_inner hi hd
      have := hlast j (isOpenAt_iff.mpr ⟨hjk, hj, d, hdj⟩)
      omega
  · rintro ⟨hmark, hi, hd⟩
    refine ⟨isOpenAt_iff.mpr ⟨hi, hmark, 0, hd⟩, fun j hj => Nat.le_of_not_lt fun hij => ?_⟩
    obtain ⟨hjk, hjmark, d', hd'⟩ := isOpenAt_iff.mp hj
    exact Nat.not_lt_zero d' (depthIn?_lt hij hjmark hjk hd hd')

lemma isElseOf_iff : IsElseOf ms i j ↔
    ms[i]? = some .opening ∧ IsElseIn ms i j ∧ ∀ j' < j, ¬ IsElseIn ms i j' := by
  simp only [IsElseOf, isInnermostAt_iff, IsElseIn]
  grind

end Depth

section Nested

variable {ms : List BlockMark} {i i' j k e e' : Nat}

lemma IsBlock.isOpenAt (h : IsBlock ms i e) (hi : i < k) (hk : k ≤ e) : IsOpenAt ms i k := by
  refine ⟨hi, h.2.1, fun e' he' h' => ?_⟩
  have := (isBlock_iff.mp h).2.unique (isBlock_iff.mp h').2
  omega

/-- A block lies inside one branch of another: inside it, and not around its `Else`. -/
def LiesInBranch (ms : List BlockMark) (i' e' i e : Nat) : Prop :=
  i < i' ∧ e' < e ∧ ∀ j, IsElseOf ms i j → e' < j ∨ j < i'

lemma IsBlock.beside_or_within (h : IsBlock ms i e) (h' : IsBlock ms i' e') (hi : i < i') :
    e < i' ∨ LiesInBranch ms i' e' i e := by
  rcases Nat.lt_trichotomy e i' with he | rfl | he
  · exact .inl he
  · cases h.2.2.1.symm.trans h'.2.1
  · refine .inr ⟨hi, Nat.lt_of_not_le fun hle => ?_, fun j hj => ?_⟩
    · obtain ⟨-, -, d, hd⟩ := isOpenAt_iff.mp (h'.isOpenAt he hle)
      exact Nat.not_lt_zero d (depthIn?_lt hi h'.2.1 he (isBlock_iff.mp h).2.2.2 hd)
    · by_contra! hin
      have hne : i' ≠ j := by
        rintro rfl
        cases hj.1.symm.trans h'.2.1
      have hlast := hj.2.1.2 i' (h'.isOpenAt (by omega) hin.1)
      omega

end Nested

end EventScript
