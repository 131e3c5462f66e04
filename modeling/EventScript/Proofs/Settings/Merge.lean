import EventScript.Settings.Basic
import Mathlib.Tactic.Lemma

/-!
Merging one tree into another. Two trees clash at a path that both have and at which they hold
values of different kinds. Merging stops at the first path, depth first, at which they do, and has
then merged what comes before that path; trees that clash nowhere are merged whole.
-/

namespace EventScript

namespace Datum

mutual

def IsTree : Datum → Prop
  | table es => AreEntries es
  | _ => True

def AreEntries : List (String × Datum) → Prop
  | [] => True
  | (k, d) :: es => Ledger.get? es k = none ∧ IsTree d ∧ AreEntries es

end

mutual

/-- The paths of all entries, depth first: an entry comes before the entries in it. -/
def paths : Datum → List (List String)
  | table es => entryPaths es
  | _ => []

def entryPaths : List (String × Datum) → List (List String)
  | [] => []
  | (k, d) :: es => [k] :: (paths d).map (k :: ·) ++ entryPaths es

end

mutual

/-- What of a value comes before a path in it, depth first. The tables on the way to the path hold
what they have before it. -/
def before : Datum → List String → Datum
  | table es, p => table (entriesBefore es p)
  | d, _ => d

def entriesBefore : List (String × Datum) → List String → List (String × Datum)
  | [], _ => []
  | _ :: _, [] => []
  | (k, d) :: es, j :: p =>
    if k ≠ j then (k, d) :: entriesBefore es (j :: p)
    else if p = [] then [] else [(k, before d p)]

end

/-- Two values have a path in common, through tables on both sides, and are of different kinds
there. -/
def ClashAt (c d : Datum) (p : List String) : Prop :=
  ∃ v w, c.at? p = some v ∧ d.at? p = some w ∧ v.kind ≠ w.kind

/-- What becomes of a key, from its old value if it has one and its value in the other tree. -/
inductive Joins (old : Option Datum) (v : Datum) : Datum → Prop where
  | new : old = none → Joins old v v
  | tables {as bs m : List (String × Datum)} : old = some (table as) → v = table bs →
      mergeInto [] as bs = (m, none) → Joins old v (table m)
  | replaced {w : Datum} : old = some w → (∀ as bs, w = table as → v ≠ table bs) →
      w.kind = v.kind → Joins old v v

section Clash

variable {a b : List (String × Datum)} {c d : Datum} {k : String} {p q : List String}

lemma at?_table_cons : (table a).at? (k :: q) = (Ledger.get? a k).bind (at? · q) := by
  rw [at?]

lemma not_clashAt_nil : ¬ ClashAt (table a) (table b) [] := by
  rintro ⟨v, w, hv, hw, hvw⟩
  simp only [at?, Option.some.injEq] at hv hw
  subst hv hw
  exact hvw rfl

lemma clashAt_cons : ClashAt (table a) (table b) (k :: q) ↔
    ∃ v w, Ledger.get? a k = some v ∧ Ledger.get? b k = some w ∧ ClashAt v w q := by
  simp only [ClashAt, at?_table_cons, Option.bind_eq_some_iff]
  constructor
  · rintro ⟨x, y, ⟨v, hv, hx⟩, ⟨w, hw, hy⟩, hxy⟩
    exact ⟨v, w, hv, hw, x, y, hx, hy, hxy⟩
  · rintro ⟨v, w, hv, hw, x, y, hx, hy, hxy⟩
    exact ⟨x, y, ⟨v, hv, hx⟩, ⟨w, hw, hy⟩, hxy⟩

lemma clashAt_iff_kind (h : ∀ as bs, c = table as → d ≠ table bs) :
    ClashAt c d p ↔ p = [] ∧ c.kind ≠ d.kind := by
  cases p with
  | nil => simp [ClashAt, at?]
  | cons k q =>
    have : ¬ ClashAt c d (k :: q) := by
      rintro ⟨v, w, hv, hw, -⟩
      cases c <;> cases d <;> simp_all [at?]
    simp [this]

end Clash

section Step

variable {a as bs m rest : List (String × Datum)} {k : String} {v w x : Datum} {q : List String}

lemma mergeInto_append (front path : List String) (a b : List (String × Datum)) :
    mergeInto (front ++ path) a b =
      ((mergeInto path a b).1, (mergeInto path a b).2.map (front ++ ·)) := by
  fun_induction mergeInto path a b <;> simp_all [mergeInto]

lemma mergeInto_path (path : List String) (a b : List (String × Datum)) : mergeInto path a b =
    ((mergeInto [] a b).1, (mergeInto [] a b).2.map (path ++ ·)) := by
  simpa using mergeInto_append path [] a b

lemma mergeInto_of_joins (h : Joins (Ledger.get? a k) v x) :
    mergeInto [] a ((k, v) :: rest) = mergeInto [] (Ledger.put a k x) rest := by
  cases h with
  | new h => simp [mergeInto, h]
  | tables h hv hm => subst hv; simp [mergeInto, h, mergeInto_path [k], hm]
  | replaced h hw hk =>
    rename_i w
    cases w <;> cases v <;> simp_all [mergeInto, kind]

lemma mergeInto_of_inside (h : Ledger.get? a k = some (table as))
    (hm : mergeInto [] as bs = (m, some q)) :
    mergeInto [] a ((k, table bs) :: rest) = (Ledger.put a k (table m), some (k :: q)) := by
  simp [mergeInto, h, mergeInto_path [k], hm]

lemma mergeInto_of_kind_ne (h : Ledger.get? a k = some w) (hk : w.kind ≠ v.kind) :
    mergeInto [] a ((k, v) :: rest) = (a, some [k]) := by
  cases w <;> cases v <;> simp_all [mergeInto, kind]

/-- Merging goes on past an entry that joins, and stops at one that has a conflict in it or is
one. -/
lemma mergeInto_induction
    {P : List (String × Datum) → List (String × Datum) →
      List (String × Datum) × Option (List String) → Prop}
    (nil : ∀ a, P a [] (a, none))
    (joins : ∀ a k v x rest, Joins (Ledger.get? a k) v x →
      (∀ as bs, Ledger.get? a k = some (table as) → v = table bs → P as bs (mergeInto [] as bs)) →
      P (Ledger.put a k x) rest (mergeInto [] (Ledger.put a k x) rest) →
      P a ((k, v) :: rest) (mergeInto [] (Ledger.put a k x) rest))
    (inside : ∀ a k as bs m q rest, Ledger.get? a k = some (table as) →
      mergeInto [] as bs = (m, some q) → P as bs (m, some q) →
      P a ((k, table bs) :: rest) (Ledger.put a k (table m), some (k :: q)))
    (differs : ∀ a k v w rest, Ledger.get? a k = some w → w.kind ≠ v.kind →
      P a ((k, v) :: rest) (a, some [k]))
    (a b : List (String × Datum)) : P a b (mergeInto [] a b) := by
  -- The recursion carries the path so far, which nothing depends on.
  suffices h : ∀ path : List String, P a b (mergeInto [] a b) from h []
  intro path
  fun_induction mergeInto path a b with
  | case1 => rw [mergeInto]; exact nil _
  | case2 path a k rest v hk ih =>
    have h : Joins (Ledger.get? a k) v v := .new hk
    rw [mergeInto_of_joins h]
    exact joins _ _ _ _ _ h (fun _ _ hw => by simp [hk] at hw) ih
  | case3 path a k rest as bs hk m conflict hm ih =>
    rw [mergeInto_path, Prod.mk.injEq, Option.map_eq_some_iff] at hm
    obtain ⟨rfl, q, hq, -⟩ := hm
    have h : mergeInto [] as bs = ((mergeInto [] as bs).1, some q) := by rw [← hq]
    rw [mergeInto_of_inside hk h]
    exact inside _ _ _ _ _ _ _ hk h (h ▸ ih)
  | case4 path a k rest as bs hk m hm ihs ih =>
    rw [mergeInto_path, Prod.mk.injEq, Option.map_eq_none_iff] at hm
    obtain ⟨rfl, hq⟩ := hm
    have h : Joins (Ledger.get? a k) (table bs) (table (mergeInto [] as bs).1) :=
      .tables hk rfl (by rw [← hq])
    rw [mergeInto_of_joins h]
    refine joins _ _ _ _ _ h (fun as' bs' ha hb => ?_) ih
    obtain rfl : as = as' := by simpa [hk] using ha
    obtain rfl : bs = bs' := by simpa using hb
    exact ihs
  | case5 path a k rest w v hk hvw hkind ih =>
    have h : Joins (Ledger.get? a k) v v := .replaced hvw (fun _ _ hw hv => hk _ _ hv hw) hkind
    rw [mergeInto_of_joins h]
    refine joins _ _ _ _ _ h (fun as bs ha hb => ?_) ih
    rw [hvw, Option.some.injEq] at ha
    exact (hk as bs hb ha).elim
  | case6 path a k rest w v hk hvw hkind =>
    rw [mergeInto_of_kind_ne hvw hkind]
    exact differs _ _ _ _ _ hvw hkind

end Step

section Outcome

variable {a as bs b m rest : List (String × Datum)} {j k : String} {v w x : Datum}
  {old : Option Datum} {p q : List String}

lemma Joins.not_clashAt (h : Joins old v x) (hw : old = some w)
    (ih : ∀ as bs, old = some (table as) → v = table bs → (mergeInto [] as bs).2 = none →
      ∀ q, ¬ ClashAt (table as) (table bs) q) : ¬ ClashAt w v q := by
  cases h with
  | new h => simp [h] at hw
  | tables h hv hm =>
    obtain rfl : table _ = w := by simpa [h] using hw
    subst hv
    exact ih _ _ h rfl (by rw [hm]) q
  | replaced h hne hk =>
    obtain rfl : _ = w := by simpa [h] using hw
    rw [clashAt_iff_kind hne]
    exact fun hq => hq.2 hk

lemma ClashAt.exists_key (h : ClashAt (table a) (table b) p) :
    ∃ k q, p = k :: q ∧ Ledger.get? b k ≠ none := by
  cases p with
  | nil => exact (not_clashAt_nil h).elim
  | cons k q =>
    obtain ⟨v, w, -, hw, -⟩ := clashAt_cons.mp h
    exact ⟨k, q, rfl, by simp [hw]⟩

lemma clashAt_skip (hk : Ledger.get? rest k = none)
    (h : ∀ w, Ledger.get? a k = some w → ∀ q, ¬ ClashAt w v q) :
    ClashAt (table a) (table ((k, v) :: rest)) p ↔
      ClashAt (table (Ledger.put a k x)) (table rest) p := by
  cases p with
  | nil => simp [not_clashAt_nil]
  | cons j q =>
    rw [clashAt_cons, clashAt_cons, Ledger.get?_put, Ledger.get?]
    by_cases hj : k = j
    · subst hj
      simp only [if_pos, hk]
      constructor
      · rintro ⟨w, _, hw, hv, hq⟩
        exact (h w hw q (Option.some.inj hv ▸ hq)).elim
      · rintro ⟨_, _, -, hn, -⟩
        simp at hn
    · simp only [if_neg hj]

lemma not_clashAt_of_none (a b : List (String × Datum)) (hb : AreEntries b)
    (h : (mergeInto [] a b).2 = none) (p : List String) : ¬ ClashAt (table a) (table b) p := by
  induction a, b using mergeInto_induction generalizing p with
  | nil a =>
    intro hp
    obtain ⟨k, q, -, hk⟩ := hp.exists_key
    exact hk rfl
  | joins a k v x rest hjoins ihs ih =>
    obtain ⟨hk, hv, hrest⟩ := hb
    rw [clashAt_skip hk fun w hw q => hjoins.not_clashAt hw fun as bs ha hbs hn q => ?_]
    · exact ih hrest h p
    · subst hbs
      exact ihs as bs ha rfl hv hn q
  | inside => simp at h
  | differs => simp at h

/-- Trees clash at a path and, depth first, at none before it. -/
structure IsFirstClash (a b : List (String × Datum)) (p : List String) : Prop where
  clash : ClashAt (table a) (table b) p
  ordered : ∃ later, entryPaths b = entryPaths (entriesBefore b p) ++ p :: later
  not_before : ∀ q ∈ entryPaths (entriesBefore b p), ¬ ClashAt (table a) (table b) q

lemma entriesBefore_skip (h : Ledger.get? rest k = none)
    (hp : ClashAt (table a) (table rest) p) :
    entriesBefore ((k, v) :: rest) p = (k, v) :: entriesBefore rest p := by
  obtain ⟨j, q, rfl, hj⟩ := hp.exists_key
  rw [entriesBefore, if_pos]
  rintro rfl
  exact hj h

lemma IsFirstClash.skip (h : IsFirstClash (Ledger.put a k x) rest p)
    (hk : Ledger.get? rest k = none)
    (hv : ∀ w, Ledger.get? a k = some w → ∀ q, ¬ ClashAt w v q) :
    IsFirstClash a ((k, v) :: rest) p := by
  have hskip (q) := clashAt_skip (x := x) (p := q) hk hv
  obtain ⟨later, hlater⟩ := h.ordered
  refine ⟨(hskip p).mpr h.clash, ⟨later, ?_⟩, fun q hq hclash => ?_⟩
  · simp only [entriesBefore_skip hk h.clash, entryPaths, hlater, List.cons_append,
      List.append_assoc]
  · rw [hskip] at hclash
    obtain ⟨j, i, rfl, hj⟩ := hclash.exists_key
    have hne : j ≠ k := fun hjk => hj (hjk ▸ hk)
    rw [entriesBefore_skip hk h.clash, entryPaths, List.mem_append] at hq
    refine h.not_before _ (hq.resolve_left fun hin => ?_) hclash
    simp [hne, hne.symm] at hin

lemma entriesBefore_inside (hq : q ≠ []) :
    entriesBefore ((k, table bs) :: rest) (k :: q) = [(k, table (entriesBefore bs q))] := by
  simp [entriesBefore, before, hq]

lemma ClashAt.ne_nil (h : ClashAt (table a) (table b) p) : p ≠ [] := by
  rintro rfl
  exact not_clashAt_nil h

lemma IsFirstClash.inside (h : IsFirstClash as bs q) (hk : Ledger.get? a k = some (table as)) :
    IsFirstClash a ((k, table bs) :: rest) (k :: q) := by
  have hclash (q') : ClashAt (table a) (table ((k, table bs) :: rest)) (k :: q') ↔
      ClashAt (table as) (table bs) q' := by
    simp [clashAt_cons, hk, Ledger.get?]
  obtain ⟨later, hlater⟩ := h.ordered
  refine ⟨(hclash q).mpr h.clash, ⟨later.map (k :: ·) ++ entryPaths rest, ?_⟩, fun q' hq' => ?_⟩
  · simp [entriesBefore_inside h.clash.ne_nil, entryPaths, paths, hlater]
  · rw [entriesBefore_inside h.clash.ne_nil] at hq'
    simp only [entryPaths, paths, List.append_nil, List.mem_cons, List.mem_map] at hq'
    obtain rfl | ⟨i, hi, rfl⟩ := hq'
    · rw [hclash]
      exact not_clashAt_nil
    · rw [hclash]
      exact h.not_before i hi

lemma IsFirstClash.here (hk : Ledger.get? a k = some w) (hkind : w.kind ≠ v.kind) :
    IsFirstClash a ((k, v) :: rest) [k] where
  clash := clashAt_cons.mpr ⟨w, v, hk, by simp [Ledger.get?], w, v, rfl, rfl, hkind⟩
  ordered := ⟨(paths v).map (k :: ·) ++ entryPaths rest, by simp [entriesBefore, entryPaths]⟩
  not_before := by simp [entriesBefore, entryPaths]

lemma isFirstClash_of_some (a b : List (String × Datum)) (hb : AreEntries b)
    (h : (mergeInto [] a b).2 = some p) : IsFirstClash a b p := by
  induction a, b using mergeInto_induction generalizing p with
  | nil => simp at h
  | joins a k v x rest hjoins ihs ih =>
    obtain ⟨hk, hv, hrest⟩ := hb
    refine (ih hrest h).skip hk fun w hw q => hjoins.not_clashAt hw fun as bs _ hbs => ?_
    subst hbs
    exact not_clashAt_of_none as bs hv
  | inside a k as bs m q rest ha hm ih =>
    obtain rfl : k :: q = p := by simpa using h
    exact (ih hb.2.1 rfl).inside ha
  | differs a k v w rest ha hkind =>
    obtain rfl : [k] = p := by simpa using h
    exact .here ha hkind

lemma mergeInto_entriesBefore (a b : List (String × Datum)) (hb : AreEntries b)
    (h : (mergeInto [] a b).2 = some p) :
    mergeInto [] a (entriesBefore b p) = ((mergeInto [] a b).1, none) := by
  induction a, b using mergeInto_induction generalizing p with
  | nil => simp at h
  | joins a k v x rest hjoins ihs ih =>
    obtain ⟨hk, hv, hrest⟩ := hb
    rw [entriesBefore_skip hk (isFirstClash_of_some _ _ hrest h).clash, mergeInto_of_joins hjoins]
    exact ih hrest h
  | inside a k as bs m q rest ha hm ih =>
    obtain rfl : k :: q = p := by simpa using h
    have hq : q ≠ [] := (isFirstClash_of_some as bs hb.2.1 (by rw [hm])).clash.ne_nil
    rw [entriesBefore_inside hq, mergeInto_of_joins (.tables ha rfl (ih hb.2.1 rfl)), mergeInto]
  | differs a k v w rest ha hkind =>
    obtain rfl : [k] = p := by simpa using h
    simp [entriesBefore, mergeInto]

end Outcome

end Datum

namespace Settings

open Datum

variable {a b m rest : Ledger String Datum} {k : String} {v x : Datum}

/-- What merging `b` into `a` gives: the old keys and then the new ones, with the tables that both
have merged and every other value of `b` in its place. -/
structure Merged (a b m : Ledger String Datum) : Prop where
  keys : m.keys = a.keys ++ b.keys.filter (!a.has ·)
  tables : ∀ k as bs, a.get? k = some (.table as) → b.get? k = some (.table bs) →
    ∃ n, merge as bs = .ok n ∧ m.get? k = some (.table n)
  replaced : ∀ k w, b.get? k = some w → (∀ as bs, a.get? k = some (.table as) → w ≠ .table bs) →
    m.get? k = some w
  kept : ∀ k, b.get? k = none → m.get? k = a.get? k

lemma merge_eq_ok_iff : merge a b = .ok m ↔ mergeInto [] a b = (m, none) := by
  unfold merge
  split <;> simp_all

lemma merge_eq_error_iff {f : Fault} : merge a b = .error f ↔
    ∃ p, (mergeInto [] a b).2 = some p ∧ f = .mergeConflict p := by
  unfold merge
  split <;> next h => simp [h, eq_comm]

lemma has_put_of_ne {j : String} (h : k ≠ j) : (a.put k x).has j = a.has j := by
  rw [Ledger.has, Ledger.get?_put_of_ne _ _ h, Ledger.has]

lemma filter_has_put (hk : rest.get? k = none) :
    rest.keys.filter (!(a.put k x).has ·) = rest.keys.filter (!a.has ·) := by
  refine List.filter_congr fun j hj => ?_
  rw [has_put_of_ne]
  rintro rfl
  rw [← Ledger.has_iff_mem_keys, Ledger.has, hk] at hj
  simp at hj

lemma get?_cons_of_ne {j : String} (h : k ≠ j) : Ledger.get? ((k, v) :: rest) j = rest.get? j := by
  simp [Ledger.get?, h]

/-- An entry that joins leaves the value that merging gives it, and a new key comes before the new
keys of the rest. -/
lemma Merged.skip (h : Merged (a.put k x) rest m) (hk : rest.get? k = none)
    (hjoins : Joins (a.get? k) v x) : Merged a ((k, v) :: rest) m := by
  have hm : m.get? k = some x := by rw [h.kept k hk, Ledger.get?_put_self]
  have hput {j : String} (hj : k ≠ j) : (a.put k x).get? j = a.get? j :=
    Ledger.get?_put_of_ne a x hj
  constructor
  case keys =>
    rw [h.keys, filter_has_put hk, Ledger.keys_put]
    by_cases ha : a.has k <;> simp [Ledger.keys, ha]
  case tables =>
    intro j as bs ha hb
    by_cases hj : k = j
    · subst hj
      obtain rfl : v = .table bs := by simpa [Ledger.get?] using hb
      cases hjoins with
      | new hnone => simp [ha] at hnone
      | tables has hbs hn =>
        obtain rfl : as = _ := by simpa [ha] using has
        obtain rfl : bs = _ := by simpa using hbs
        exact ⟨_, merge_eq_ok_iff.mpr hn, hm⟩
      | replaced hw hne =>
        obtain rfl : Datum.table as = _ := by simpa [ha] using hw
        exact (hne as bs rfl rfl).elim
    · rw [get?_cons_of_ne hj] at hb
      exact h.tables j as bs ((hput hj).trans ha) hb
  case replaced =>
    intro j w hb hne
    by_cases hj : k = j
    · subst hj
      obtain rfl : v = w := by simpa [Ledger.get?] using hb
      cases hjoins with
      | new => exact hm
      | tables ha hv => exact (hne _ _ ha hv).elim
      | replaced => exact hm
    · rw [get?_cons_of_ne hj] at hb
      exact h.replaced j w hb fun as bs ha => hne as bs ((hput hj).symm.trans ha)
  case kept =>
    intro j hb
    have hj : k ≠ j := by
      rintro rfl
      simp [Ledger.get?] at hb
    rw [get?_cons_of_ne hj] at hb
    rw [h.kept j hb, hput hj]

lemma merged_of_none (a b : Ledger String Datum) (hb : AreEntries b)
    (h : (mergeInto [] a b).2 = none) : Merged a b (mergeInto [] a b).1 := by
  induction a, b using mergeInto_induction with
  | nil => exact ⟨by simp [Ledger.keys], by simp, by simp, by simp⟩
  | joins a k v x rest hjoins ihs ih =>
    obtain ⟨hk, -, hrest⟩ := hb
    exact (ih hrest h).skip hk hjoins
  | inside => simp at h
  | differs => simp at h

/-- Merging fails just where the trees clash. It then names the first clash and has merged what
comes before that; else it gives the merged tree. -/
theorem merge_stops_at_first_clash (hb : AreEntries b) :
    ((∃ f, merge a b = .error f) ↔ ∃ p, ClashAt (table a) (table b) p) ∧
    (∀ f, merge a b = .error f → ∃ p, IsFirstClash a b p ∧ f = .mergeConflict p ∧
      f.message = "Conflict at " ++ ".".intercalate p ∧
      merge a (entriesBefore b p) = .ok (mergeInto [] a b).1) ∧
    ∀ m, merge a b = .ok m → Merged a b m ∧ (mergeInto [] a b).1 = m := by
  refine ⟨⟨?_, ?_⟩, ?_, ?_⟩
  · rintro ⟨f, hf⟩
    obtain ⟨p, hp, -⟩ := merge_eq_error_iff.mp hf
    exact ⟨p, (isFirstClash_of_some a b hb hp).clash⟩
  · rintro ⟨p, hp⟩
    cases h : (mergeInto [] a b).2 with
    | none => exact (not_clashAt_of_none a b hb h p hp).elim
    | some q => exact ⟨_, merge_eq_error_iff.mpr ⟨q, h, rfl⟩⟩
  · intro f hf
    obtain ⟨p, hp, rfl⟩ := merge_eq_error_iff.mp hf
    exact ⟨p, isFirstClash_of_some a b hb hp, rfl, rfl,
      merge_eq_ok_iff.mpr (mergeInto_entriesBefore a b hb hp)⟩
  · intro m hm
    rw [merge_eq_ok_iff] at hm
    refine ⟨?_, by rw [hm]⟩
    have h := merged_of_none a b hb (by rw [hm])
    rwa [hm] at h

/-- A clash inside a table, behind an entry that is new. -/
theorem merge_stops_at_first_clash_nested :
    ∃ f, merge [("x", .int 1), ("in", .table [("y", .text "a"), ("z", .real 2)])]
      [("w", .bool true), ("in", .table [("u", .null), ("y", .int 3)])] = .error f :=
  (merge_stops_at_first_clash (by simp [AreEntries, IsTree, Ledger.get?])).1.mpr
    ⟨["in", "y"], .text "a", .int 3, by rfl, by rfl, by decide⟩

end Settings

end EventScript
