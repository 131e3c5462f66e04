import EventScript.Files
import Mathlib.Data.List.Infix

/-! A file that has been written reads back as it was written, and no other file changes. -/

namespace EventScript

lemma except_bind_eq_ok {ε α β : Type} {x : Except ε α} {f : α → Except ε β} {b : β} :
    (x >>= f) = .ok b ↔ ∃ a, x = .ok a ∧ f a = .ok b := by
  cases x with
  | error e => exact ⟨nofun, fun ⟨_, h, _⟩ => nomatch h⟩
  | ok a => exact ⟨fun h => ⟨a, rfl, h⟩, fun ⟨_, h, hf⟩ => Except.ok.inj h ▸ hf⟩

namespace Ledger

variable {κ α : Type} [DecidableEq κ] {l : Ledger κ α} {k : κ} {v : α} {p : κ × α}

lemma mem_of_get? (h : get? l k = some v) : (k, v) ∈ l := by
  induction l with
  | nil => cases h
  | cons q l ih =>
    by_cases hq : q.1 = k
    · rw [get?, if_pos hq] at h
      obtain rfl := Option.some.inj h
      exact hq ▸ List.mem_cons_self
    · rw [get?, if_neg hq] at h
      exact List.mem_cons_of_mem _ (ih h)

lemma eq_or_mem_of_mem_put (h : p ∈ put l k v) : p = (k, v) ∨ p ∈ l := by
  induction l with
  | nil => exact .inl (List.mem_singleton.mp h)
  | cons q l ih =>
    by_cases hq : q.1 = k
    · rw [put, if_pos hq, hq] at h
      exact (List.mem_cons.mp h).imp_right (List.mem_cons_of_mem _)
    · rw [put, if_neg hq] at h
      rcases List.mem_cons.mp h with rfl | h
      · exact .inr List.mem_cons_self
      · exact (ih h).imp_right (List.mem_cons_of_mem _)

lemma mem_put_of_ne (hp : p ∈ l) (hne : p.1 ≠ k) : p ∈ put l k v := by
  induction l with
  | nil => cases hp
  | cons q l ih =>
    by_cases hq : q.1 = k
    · rw [put, if_pos hq]
      rcases List.mem_cons.mp hp with rfl | hp
      · exact absurd hq hne
      · exact List.mem_cons_of_mem _ hp
    · rw [put, if_neg hq]
      rcases List.mem_cons.mp hp with rfl | hp
      · exact List.mem_cons_self
      · exact List.mem_cons_of_mem _ (ih hp)

end Ledger

namespace Files

open Route

variable {fs : Files} {place q : List String} {bs cs : List UInt8} {path : String}

lemma isDirectory_iff : fs.isDirectory q = true ↔
    isAbove q = true ∨ (q, .directory) ∈ fs ∨ ∃ p ∈ fs, q <+: p.1 ∧ q ≠ p.1 := by
  have hextends (p : List String) :
      (q.length < p.length ∧ p.take q.length = q) ↔ q <+: p ∧ q ≠ p := by
    rw [List.prefix_iff_eq_take]
    constructor
    · rintro ⟨hlt, htake⟩
      exact ⟨htake.symm, fun h => hlt.ne (congrArg List.length h)⟩
    · rintro ⟨htake, hne⟩
      refine ⟨lt_of_not_ge fun hle => hne ?_, htake.symm⟩
      rwa [List.take_of_length_le hle] at htake
  simp only [isDirectory, Bool.or_eq_true, List.any_eq_true, Bool.and_eq_true, beq_iff_eq,
    decide_eq_true_eq, hextends]
  refine or_congr_right ⟨?_, ?_⟩
  · rintro ⟨⟨p, n⟩, hp, ⟨rfl, hn⟩ | hlonger⟩
    · cases n with
      | directory => exact .inl hp
      | file bs => cases hn
    · exact .inr ⟨_, hp, hlonger⟩
  · rintro (hp | ⟨p, hp, hlonger⟩)
    · exact ⟨_, hp, .inl ⟨rfl, rfl⟩⟩
    · exact ⟨p, hp, .inr hlonger⟩

lemma isAbove_of_isPrefix {p : List String} (h : q <+: p) (hp : isAbove p = true) :
    isAbove q = true :=
  List.all_eq_true.mpr fun x hx => List.all_eq_true.mp hp x (h.subset hx)

lemma isDirectory_of_isPrefix {p : List String} (h : q <+: p) (hp : fs.isDirectory p = true) :
    fs.isDirectory q = true := by
  by_cases heq : q = p
  · exact heq ▸ hp
  rcases isDirectory_iff.mp hp with habove | hmem | ⟨e, he, hpe, -⟩
  · exact isDirectory_iff.mpr (.inl (isAbove_of_isPrefix h habove))
  · exact isDirectory_iff.mpr (.inr (.inr ⟨_, hmem, h, heq⟩))
  · refine isDirectory_iff.mpr (.inr (.inr ⟨e, he, h.trans hpe, ?_⟩))
    rintro rfl
    exact heq (h.eq_of_length_le hpe.length_le)

lemma node?_eq_directory : fs.node? q = some .directory ↔ fs.isDirectory q = true := by
  unfold node?
  split
  · simp [*]
  · rename_i hnot
    refine iff_of_false (fun h => hnot ?_) hnot
    exact isDirectory_iff.mpr (.inr (.inl (Ledger.mem_of_get? h)))

lemma node?_eq_file : fs.node? q = some (.file bs) ↔
    ¬ fs.isDirectory q = true ∧ Ledger.get? fs q = some (.file bs) := by
  unfold node?
  split <;> simp [*]

def HasParents (fs : Files) (place : List String) : Prop :=
  ∀ a, a <+: place → a ≠ place → fs.isDirectory a = true

lemma isDirectory_put (hplace : ¬ fs.isDirectory place = true) (hparents : fs.HasParents place) :
    isDirectory (Ledger.put fs place (.file bs)) q = fs.isDirectory q := by
  rw [Bool.eq_iff_iff, isDirectory_iff]
  constructor
  · rintro (habove | hmem | ⟨p, hp, hlonger⟩)
    · exact isDirectory_iff.mpr (.inl habove)
    · rcases Ledger.eq_or_mem_of_mem_put hmem with h | h
      · cases h
      · exact isDirectory_iff.mpr (.inr (.inl h))
    · rcases Ledger.eq_or_mem_of_mem_put hp with rfl | h
      · exact hparents q hlonger.1 hlonger.2
      · exact isDirectory_iff.mpr (.inr (.inr ⟨p, h, hlonger⟩))
  · intro h
    have hne : q ≠ place := fun heq => hplace (heq ▸ h)
    rcases isDirectory_iff.mp h with habove | hmem | ⟨p, hp, hlonger⟩
    · exact .inl habove
    · exact .inr (.inl (Ledger.mem_put_of_ne hmem hne))
    · by_cases heq : p.1 = place
      · have hself := Ledger.mem_of_get? (Ledger.get?_put_self fs place (.file bs))
        exact .inr (.inr ⟨_, hself, heq ▸ hlonger⟩)
      · exact .inr (.inr ⟨p, Ledger.mem_put_of_ne hp heq, hlonger⟩)

lemma enter_eq_ok {part : String} {p : List String} : fs.enter q part = .ok p ↔
    fs.isDirectory q = true ∧ part.utf8ByteSize ≤ partLimit ∧ next q part = p := by
  rw [enter, ← node?_eq_directory]
  rcases fs.node? q with - | bs | -
  · simp
  · simp
  · by_cases hlimit : partLimit < part.utf8ByteSize
    · simp [hlimit, not_le.mpr hlimit]
    · simp [hlimit, not_lt.mp hlimit]

lemma hasParents_of_enter {part : String} {p : List String} (h : fs.enter q part = .ok p) :
    fs.HasParents p := by
  obtain ⟨hq, -, rfl⟩ := enter_eq_ok.mp h
  intro a ha hne
  unfold next at ha hne
  split at ha
  · exact isDirectory_of_isPrefix ha hq
  · split at ha
    · exact isDirectory_of_isPrefix (ha.trans (List.dropLast_prefix q)) hq
    · rcases List.prefix_concat_iff.mp ha with rfl | ha
      · simp_all
      · exact isDirectory_of_isPrefix ha hq

lemma hasParents_of_isDirectory (h : fs.isDirectory q = true) : fs.HasParents q :=
  fun _ ha _ => isDirectory_of_isPrefix ha h

lemma hasParents_of_walk {isAbsolute : Bool} {parts : List String}
    (h : fs.walk isAbsolute parts = .ok place) : fs.HasParents place := by
  have hfold (parts : List String) (start : List String) (hstart : fs.HasParents start)
      (h : parts.foldlM (enter fs) start = .ok place) : fs.HasParents place := by
    induction parts generalizing start with
    | nil =>
      obtain rfl := Except.ok.inj h
      exact hstart
    | cons part parts ih =>
      obtain ⟨p, hp, h⟩ := except_bind_eq_ok.mp (by simpa using h)
      exact ih p (hasParents_of_enter hp) h
  have habove {q : List String} (hq : isAbove q = true) : fs.HasParents q :=
    hasParents_of_isDirectory (isDirectory_iff.mpr (.inl hq))
  unfold walk at h
  split at h
  · exact hfold parts [] (habove rfl) h
  · split at h
    · obtain rfl := Except.ok.inj h
      exact habove (by decide)
    · cases h

lemma walk_congr {fs' : Files} (hdirectories : ∀ q, fs'.isDirectory q = fs.isDirectory q)
    {isAbsolute : Bool} {parts : List String} (h : fs.walk isAbsolute parts = .ok place) :
    fs'.walk isAbsolute parts = .ok place := by
  have hfold (parts : List String) (start : List String)
      (h : parts.foldlM (enter fs) start = .ok place) :
      parts.foldlM (enter fs') start = .ok place := by
    induction parts generalizing start with
    | nil => exact h
    | cons part parts ih =>
      obtain ⟨p, hp, h⟩ := except_bind_eq_ok.mp (by simpa using h)
      have hp' : fs'.enter start part = .ok p := by
        rwa [enter_eq_ok, hdirectories, ← enter_eq_ok]
      rw [List.foldlM_cons]
      exact except_bind_eq_ok.mpr ⟨p, hp', ih p h⟩
  unfold walk at h ⊢
  split at h
  · rename_i hrelative
    rw [if_pos hrelative]
    exact hfold parts [] h
  · rename_i habsolute
    rwa [if_neg habsolute]

/-- The place that a path opens for writing. -/
def opened (fs : Files) (path : String) : Except Fault (List String) := do
  let r ← ofPath path
  if r.slashed then
    let _ ← fs.enter (← fs.walk r.isAbsolute r.parts.dropLast) "."
    throw .isDirectory
  else
    let place ← fs.walk r.isAbsolute r.parts
    if fs.isDirectory place then throw .isDirectory else return place

lemma write_eq_map : fs.write path bs =
    (fs.opened path).map fun place => Ledger.put fs place (.file bs) := by
  unfold write opened
  cases ofPath path with
  | error e => rfl
  | ok r =>
    simp only [bind, Except.bind]
    by_cases hslashed : r.slashed = true
    · rw [if_pos hslashed, if_pos hslashed]
      cases fs.walk r.isAbsolute r.parts.dropLast with
      | error e => rfl
      | ok p =>
        dsimp only
        cases fs.enter p "." <;> rfl
    · rw [if_neg hslashed, if_neg hslashed]
      cases fs.walk r.isAbsolute r.parts with
      | error e => rfl
      | ok p =>
        dsimp only
        by_cases hp : fs.isDirectory p = true
        · rw [if_pos hp, node?_eq_directory.mpr hp]
          rfl
        · rw [if_neg hp]
          have hnode := mt node?_eq_directory.mp hp
          split
          · contradiction
          · rfl

lemma opened_eq_ok : fs.opened path = .ok place ↔ ∃ r, ofPath path = .ok r ∧ r.slashed = false ∧
    fs.walk r.isAbsolute r.parts = .ok place ∧ ¬ fs.isDirectory place = true := by
  constructor
  · intro h
    obtain ⟨r, hr, h⟩ := except_bind_eq_ok.mp h
    cases hslashed : r.slashed with
    | true =>
      rw [if_pos hslashed] at h
      obtain ⟨p, -, h⟩ := except_bind_eq_ok.mp h
      obtain ⟨_, -, h⟩ := except_bind_eq_ok.mp h
      cases h
    | false =>
      rw [hslashed, if_neg Bool.false_ne_true] at h
      obtain ⟨p, hp, h⟩ := except_bind_eq_ok.mp h
      by_cases hdirectory : fs.isDirectory p = true
      · rw [if_pos hdirectory] at h
        cases h
      · rw [if_neg hdirectory] at h
        obtain rfl := Except.ok.inj h
        exact ⟨r, hr, hslashed, hp, hdirectory⟩
  · rintro ⟨r, hr, hslashed, hp, hplace⟩
    refine except_bind_eq_ok.mpr ⟨r, hr, ?_⟩
    rw [hslashed, if_neg Bool.false_ne_true]
    refine except_bind_eq_ok.mpr ⟨place, hp, ?_⟩
    rw [if_neg hplace]
    rfl

lemma read_eq_ok : fs.read path = .ok bs ↔ ∃ r place, ofPath path = .ok r ∧ r.slashed = false ∧
    fs.walk r.isAbsolute r.parts = .ok place ∧ fs.node? place = some (.file bs) := by
  constructor
  · intro h
    obtain ⟨r, hr, h⟩ := except_bind_eq_ok.mp h
    obtain ⟨place, hplace, h⟩ := except_bind_eq_ok.mp h
    refine ⟨r, place, hr, ?_⟩
    split at h
    · cases hslashed : r.slashed with
      | true =>
        rw [if_pos hslashed] at h
        cases h
      | false =>
        rw [hslashed, if_neg Bool.false_ne_true] at h
        obtain rfl := Except.ok.inj h
        exact ⟨rfl, hplace, by assumption⟩
    · cases h
    · cases h
  · rintro ⟨r, place, hr, hslashed, hplace, hnode⟩
    refine except_bind_eq_ok.mpr ⟨r, hr, except_bind_eq_ok.mpr ⟨place, hplace, ?_⟩⟩
    simp only [hnode, hslashed, Bool.false_eq_true, if_false]

lemma isDirectory_of_opened (h : fs.opened path = .ok place) (q : List String) :
    isDirectory (Ledger.put fs place (.file bs)) q = fs.isDirectory q := by
  obtain ⟨r, -, -, hwalk, hplace⟩ := opened_eq_ok.mp h
  exact isDirectory_put hplace (hasParents_of_walk hwalk)

theorem read_of_opened (h : fs.opened path = .ok place) (bs : List UInt8) :
    read (Ledger.put fs place (.file bs)) path = .ok bs := by
  obtain ⟨r, hr, hslashed, hwalk, hplace⟩ := opened_eq_ok.mp h
  refine read_eq_ok.mpr ⟨r, place, hr, hslashed, walk_congr (isDirectory_of_opened h) hwalk, ?_⟩
  rw [node?_eq_file, isDirectory_of_opened h]
  exact ⟨hplace, Ledger.get?_put_self fs place _⟩

/-- A path to another file leads to what it led to before. -/
theorem read_other_of_opened {other : String} (h : fs.opened path = .ok place) (bs : List UInt8)
    (hother : fs.read other = .ok cs) :
    fs.opened other = .ok place ∨ read (Ledger.put fs place (.file bs)) other = .ok cs := by
  obtain ⟨r, q, hr, hslashed, hwalk, hq⟩ := read_eq_ok.mp hother
  obtain ⟨hfile, hget⟩ := node?_eq_file.mp hq
  by_cases heq : place = q
  · subst heq
    exact .inl (opened_eq_ok.mpr ⟨r, hr, hslashed, hwalk, hfile⟩)
  · refine .inr (read_eq_ok.mpr ⟨r, q, hr, hslashed, walk_congr (isDirectory_of_opened h) hwalk, ?_⟩)
    rw [node?_eq_file, isDirectory_of_opened h, Ledger.get?_put_of_ne _ _ heq]
    exact ⟨hfile, hget⟩

end Files

end EventScript
