import EventScript.Proofs.Schedule.Turns

/-! A round, in which each instance of a list takes its turns: as many as the step budget allows,
one right after the other, for as long as it is told to go on. -/

namespace EventScript

variable {H : Host} {w : Wiring H} {elapsed : Option Float} {id k : InstanceId} {n : Nat}
  {s t u : Session H} {us vs : List (Turn H)}

/-- The turns that an instance takes in a row, at most so many. -/
inductive Stint (w : Wiring H) (elapsed : Option Float) (id : InstanceId) :
    Nat → Session H → List (Turn H) → Session H → Prop
  | spent (s : Session H) : Stint w elapsed id 0 s [] s
  | last {n : Nat} {s t : Session H} {r : StepResult} :
      Engine.takeTurn w id elapsed s = .ok r t → r ≠ .proceed →
      Stint w elapsed id (n + 1) s [⟨s, id⟩] t
  | more {n : Nat} {s t u : Session H} {us : List (Turn H)} :
      Engine.takeTurn w id elapsed s = .ok .proceed t → Stint w elapsed id n t us u →
      Stint w elapsed id (n + 1) s (⟨s, id⟩ :: us) u

def Session.takesPart (s : Session H) (k : InstanceId) : Bool :=
  (s.instance? k).any fun i => i.isActive && !(s.paused && i.pausable)

/-- The instances of a list take their turns, with a budget for each. -/
inductive Round (w : Wiring H) (elapsed : Option Float) (n : Nat) :
    List InstanceId → Session H → List (Turn H) → Session H → Prop
  | done (s : Session H) : Round w elapsed n [] s [] s
  | pass {id : InstanceId} {ids : List InstanceId} {s t : Session H} {us : List (Turn H)} :
      s.takesPart id = false → Round w elapsed n ids s us t → Round w elapsed n (id :: ids) s us t
  | stint {id : InstanceId} {ids : List InstanceId} {s t u : Session H} {us vs : List (Turn H)} :
      s.takesPart id = true → Stint w elapsed id n s us t → Round w elapsed n ids t vs u →
      Round w elapsed n (id :: ids) s (us ++ vs) u

def turnsOf (k : InstanceId) (us : List (Turn H)) : Nat := us.countP (·.id = k)

lemma turnsOf_append : turnsOf k (us ++ vs) = turnsOf k us + turnsOf k vs := List.countP_append

lemma turnsOf_cons_self {v : Turn H} : turnsOf v.id (v :: us) = turnsOf v.id us + 1 :=
  List.countP_cons_of_pos (by simp)

lemma turnsOf_of_own (h : ∀ v ∈ us, v.id = k) : turnsOf k us = us.length :=
  List.countP_eq_length.mpr fun v hv => by simp [h v hv]

lemma turnsOf_of_others (h : ∀ v ∈ us, v.id ≠ k) : turnsOf k us = 0 :=
  List.countP_eq_zero.mpr fun v hv => by simp [h v hv]

lemma Session.isActive_of_takesPart (h : s.takesPart k = true) : s.isActive k = true := by
  unfold takesPart at h
  unfold isActive
  cases hi : s.instance? k with
  | none => simp [hi] at h
  | some i =>
    simp only [hi, Option.any_some, Bool.and_eq_true] at h
    exact h.1

namespace Stint

lemma ids (h : Stint w elapsed id n s us t) : ∀ v ∈ us, v.id = id := by
  induction h with
  | spent => simp
  | last => simp
  | more _ _ ih => exact List.forall_mem_cons.mpr ⟨rfl, ih⟩

lemma length_le (h : Stint w elapsed id n s us t) : us.length ≤ n := by
  induction h with
  | spent => exact le_rfl
  | last => simp
  | more _ _ ih => exact Nat.succ_le_succ ih

lemma stepUpTo (h : Stint w elapsed id n s us t) :
    Engine.stepUpTo w id elapsed n s = .ok () t := by
  induction h with
  | spent => rfl
  | last hturn hr =>
    rw [Engine.stepUpTo_succ, bind_of_ok hturn, if_neg hr]
    rfl
  | more hturn _ ih => rw [Engine.stepUpTo_succ, bind_of_ok hturn, if_pos rfl, ih]

lemma exists_cons (h : Stint w elapsed id (n + 1) s us t) : ∃ vs, us = ⟨s, id⟩ :: vs := by
  cases h with
  | last => exact ⟨[], rfl⟩
  | more => exact ⟨_, rfl⟩

lemma preserves {I : Session H → Prop} (h : Stint w elapsed id n s us t)
    (hI : Preserves I (Engine.takeTurn w id elapsed)) (hs : I s) : I t := by
  induction h with
  | spent => exact hs
  | last hturn _ =>
    have ht := hI.endState hs
    rwa [endState_of_ok hturn] at ht
  | more hturn _ ih =>
    have ht := hI.endState hs
    rw [endState_of_ok hturn] at ht
    exact ih ht

lemma goes_on (h : Stint w elapsed id n s us t) {as bs : List (Turn H)} {v : Turn H}
    (hus : us = as ++ v :: bs) {x : Session H}
    (hturn : Engine.takeTurn w v.id elapsed v.before = .ok .proceed x) (hn : as.length + 1 < n) :
    ∃ bs', bs = ⟨x, id⟩ :: bs' := by
  induction h generalizing as with
  | spent => simp at hus
  | last hlast hr =>
    rcases List.singleton_eq_append_iff.mp hus with ⟨rfl, hv⟩ | ⟨rfl, hv⟩
    · obtain ⟨rfl, rfl⟩ := List.cons.inj hv
      obtain ⟨hr', -⟩ := EStateM.Result.ok.inj (hturn.symm.trans hlast)
      exact absurd hr'.symm hr
    · cases hv
  | @more n s t u us hfirst hrest ih =>
    cases as with
    | nil =>
      obtain ⟨rfl, rfl⟩ := List.cons.inj hus
      obtain ⟨-, rfl⟩ := EStateM.Result.ok.inj (hturn.symm.trans hfirst)
      obtain ⟨m, rfl⟩ : ∃ m, n = m + 1 := Nat.exists_eq_succ_of_ne_zero (by simp at hn; omega)
      exact hrest.exists_cons
    | cons a as =>
      obtain ⟨rfl, rfl⟩ := List.cons.inj hus
      exact ih rfl (by simpa using hn)

lemma rests (h : Stint w elapsed id n s us t) {as bs : List (Turn H)} {v : Turn H}
    (hus : us = as ++ v :: bs) {r : StepResult} {x : Session H}
    (hturn : Engine.takeTurn w v.id elapsed v.before = .ok r x) (hr : r ≠ .proceed) : bs = [] := by
  induction h generalizing as with
  | spent => simp at hus
  | last =>
    rcases List.singleton_eq_append_iff.mp hus with ⟨rfl, hv⟩ | ⟨rfl, hv⟩
    · exact (List.cons.inj hv).2
    · cases hv
  | more hfirst _ ih =>
    cases as with
    | nil =>
      obtain ⟨rfl, -⟩ := List.cons.inj hus
      obtain ⟨rfl, -⟩ := EStateM.Result.ok.inj (hfirst.symm.trans hturn)
      exact absurd rfl hr
    | cons a as => exact ih (List.cons.inj hus).2

end Stint

namespace Round

variable {ids : List InstanceId}

lemma mem_ids (h : Round w elapsed n ids s us t) : ∀ v ∈ us, v.id ∈ ids := by
  induction h with
  | done => simp
  | pass _ _ ih => exact fun v hv => List.mem_cons_of_mem _ (ih v hv)
  | stint _ hstint _ ih =>
    intro v hv
    rcases List.mem_append.mp hv with hv | hv
    · exact hstint.ids v hv ▸ List.mem_cons_self
    · exact List.mem_cons_of_mem _ (ih v hv)

lemma exists_cons (hid : s.takesPart id = true)
    (h : Round w elapsed (n + 1) (id :: ids) s us t) : ∃ vs, us = ⟨s, id⟩ :: vs := by
  cases h with
  | pass hno => simp [hid] at hno
  | stint _ hstint _ =>
    obtain ⟨vs, rfl⟩ := hstint.exists_cons
    exact ⟨_, rfl⟩

lemma preserves {I : Session H → Prop} (h : Round w elapsed n ids s us t)
    (hI : ∀ id ∈ ids, Preserves I (Engine.takeTurn w id elapsed)) (hs : I s) : I t := by
  induction h with
  | done => exact hs
  | pass _ _ ih => exact ih (fun id hid => hI id (List.mem_cons_of_mem _ hid)) hs
  | stint _ hstint _ ih =>
    exact ih (fun id hid => hI id (List.mem_cons_of_mem _ hid))
      (hstint.preserves (hI _ List.mem_cons_self) hs)

/-- A round, cut where it comes to one of its instances. -/
lemma split {l m : List InstanceId} (h : Round w elapsed n (l ++ k :: m) s us t) :
    ∃ as ks bs u v, us = as ++ (ks ++ bs) ∧ Round w elapsed n l s as u ∧
      Round w elapsed n m v bs t ∧ (u.takesPart k = false ∧ ks = [] ∧ v = u ∨
        u.takesPart k = true ∧ Stint w elapsed k n u ks v) := by
  induction l generalizing s us with
  | nil =>
    cases h with
    | pass hno hrest => exact ⟨[], [], us, s, s, rfl, .done s, hrest, .inl ⟨hno, rfl, rfl⟩⟩
    | stint hpart hstint hrest =>
      exact ⟨[], _, _, s, _, rfl, .done s, hrest, .inr ⟨hpart, hstint⟩⟩
  | cons id l ih =>
    cases h with
    | pass hno hrest =>
      obtain ⟨as, ks, bs, u, v, rfl, hbefore, hafter, hk⟩ := ih hrest
      exact ⟨as, ks, bs, u, v, rfl, .pass hno hbefore, hafter, hk⟩
    | @stint _ _ _ _ _ us _ hpart hstint hrest =>
      obtain ⟨as, ks, bs, u, v, rfl, hbefore, hafter, hk⟩ := ih hrest
      exact ⟨us ++ as, ks, bs, u, v, by simp, .stint hpart hstint hbefore, hafter, hk⟩

lemma pairwise (h : Round w elapsed n ids s us t) (hids : ids.Pairwise (· < ·)) :
    us.Pairwise fun u v => u.id ≤ v.id := by
  induction h with
  | done => exact .nil
  | pass _ _ ih => exact ih hids.of_cons
  | stint _ hstint hrest ih =>
    have hfirst := hstint.ids
    refine List.pairwise_append.mpr ⟨?_, ih hids.of_cons, fun v hv x hx => ?_⟩
    · exact List.pairwise_of_forall_mem_list fun v hv x hx => by rw [hfirst v hv, hfirst x hx]
    · rw [hfirst v hv]
      exact ((List.pairwise_cons.mp hids).1 _ (hrest.mem_ids x hx)).le

lemma turnsOf_le (h : Round w elapsed n ids s us t) (hids : ids.Nodup) (k : InstanceId) :
    turnsOf k us ≤ n := by
  induction h with
  | done => exact Nat.zero_le n
  | pass _ _ ih => exact ih hids.of_cons
  | @stint id ids _ _ _ us vs _ hstint hrest ih =>
    rw [turnsOf_append]
    by_cases hk : id = k
    · have hothers : turnsOf k vs = 0 := by
        refine turnsOf_of_others fun v hv he => ?_
        exact (List.nodup_cons.mp hids).1 (hk ▸ he ▸ hrest.mem_ids v hv)
      rw [hothers, turnsOf_of_own fun v hv => (hstint.ids v hv).trans hk]
      exact hstint.length_le
    · rw [turnsOf_of_others fun v hv => (hstint.ids v hv).trans_ne hk, Nat.zero_add]
      exact ih hids.of_cons

lemma goes_on (h : Round w elapsed n ids s us t) (hids : ids.Nodup) {as bs : List (Turn H)}
    {v : Turn H} (hus : us = as ++ v :: bs) {x : Session H}
    (hturn : Engine.takeTurn w v.id elapsed v.before = .ok .proceed x)
    (hn : turnsOf v.id as + 1 < n) : ∃ bs', bs = ⟨x, v.id⟩ :: bs' := by
  induction h generalizing as with
  | done => simp at hus
  | pass _ _ ih => exact ih hids.of_cons hus hn
  | @stint id ids _ _ _ us vs _ hstint hrest ih =>
    rcases List.append_eq_append_iff.mp hus with ⟨cs, rfl, hvs⟩ | ⟨cs, rfl, hcs⟩
    · -- The turn comes after those of the first instance.
      have hv : v.id ∈ ids := hrest.mem_ids v (by simp [hvs])
      have hzero : turnsOf v.id us = 0 := by
        refine turnsOf_of_others fun a ha he => (List.nodup_cons.mp hids).1 ?_
        rwa [← hstint.ids a ha, he]
      rw [turnsOf_append, hzero, Nat.zero_add] at hn
      exact ih hids.of_cons hvs hn
    · cases cs with
      | nil =>
        have hvs : vs = [] ++ v :: bs := hcs.symm
        refine ih hids.of_cons hvs ?_
        exact (Nat.succ_le_succ (Nat.zero_le _)).trans_lt hn
      | cons c cs =>
        obtain ⟨rfl, rfl⟩ := List.cons.inj hcs
        have hv : v.id = id := hstint.ids v (by simp)
        have hown : ∀ a ∈ as, a.id = v.id := fun a ha =>
          (hstint.ids a (by simp [ha])).trans hv.symm
        rw [turnsOf_of_own hown] at hn
        obtain ⟨bs', rfl⟩ := hstint.goes_on rfl hturn hn
        exact ⟨bs' ++ vs, by rw [hv]; rfl⟩

lemma rests (h : Round w elapsed n ids s us t) (hids : ids.Nodup) {as bs : List (Turn H)}
    {v : Turn H} (hus : us = as ++ v :: bs) {r : StepResult} {x : Session H}
    (hturn : Engine.takeTurn w v.id elapsed v.before = .ok r x) (hr : r ≠ .proceed) :
    ∀ b ∈ bs, b.id ≠ v.id := by
  induction h generalizing as with
  | done => simp at hus
  | pass _ _ ih => exact ih hids.of_cons hus
  | @stint id ids _ _ _ us vs _ hstint hrest ih =>
    rcases List.append_eq_append_iff.mp hus with ⟨cs, -, hvs⟩ | ⟨cs, rfl, hcs⟩
    · exact ih hids.of_cons hvs
    · cases cs with
      | nil =>
        have hvs : vs = [] ++ v :: bs := hcs.symm
        exact ih hids.of_cons hvs
      | cons c cs =>
        obtain ⟨rfl, rfl⟩ := List.cons.inj hcs
        obtain rfl := hstint.rests rfl hturn hr
        have hv : v.id = id := hstint.ids v (by simp)
        exact fun b hb he => (List.nodup_cons.mp hids).1 (hv ▸ he ▸ hrest.mem_ids b hb)

end Round

lemma setup_dependsOnStatus (x : Setup) :
    DependsOnStatus fun s : Session H => s.setup = x where
  ignores _ _ _ _ hc hs := by cases hc <;> exact hs
  moves _ _ _ _ _ _ _ hs := hs

lemma Engine.takeTurn_isHostless (hs : s.IsHostless) {r : StepResult}
    (h : takeTurn w id elapsed s = .ok r t) : t.IsHostless := by
  have ht := ((isHostless_dependsOnStatus.turnKeeps w id).takeTurn (fun _ h => h) elapsed).endState hs
  rwa [endState_of_ok h] at ht

section Rounds

variable (hS : w.services.Settles)

include hS

lemma exists_stint (elapsed : Option Float) (n : Nat) (hs : s.IsHostless)
    (hid : s.isActive id = true) :
    ∃ us t, Stint w elapsed id n s us t ∧ Turns w elapsed s us t := by
  induction n generalizing s with
  | zero => exact ⟨[], s, .spent s, .done s⟩
  | succ n ih =>
    have hpresent : s.status? id ≠ none := by
      intro h
      simp [s.isActive_eq, h] at hid
    obtain ⟨r, _, _, -, hturn, hproceed⟩ := Engine.takeTurn_returns hS elapsed hs hpresent
    by_cases hr : r = .proceed
    · subst hr
      obtain ⟨us, u, hstint, hus⟩ := ih (Engine.takeTurn_isHostless hs hturn) (hproceed rfl)
      exact ⟨_, u, .more hturn hstint, .turn hid hturn hus⟩
    · exact ⟨_, _, .last hturn hr, .turn hid hturn (.done _)⟩

lemma exists_round (elapsed : Option Float) (ids : List InstanceId) (hs : s.IsHostless)
    (hids : ∀ k ∈ ids, s.status? k ≠ none) : ∃ us t,
      Round w elapsed s.setup.maxSteps ids s us t ∧ Turns w elapsed s us t ∧
        Engine.stepEach w elapsed ids s = .ok () t := by
  induction ids generalizing s with
  | nil => exact ⟨[], s, .done s, .done s, rfl⟩
  | cons id ids ih =>
    obtain ⟨hid, hrest⟩ := List.forall_mem_cons.mp hids
    obtain ⟨i, hi⟩ := Option.ne_none_iff_exists'.mp (Session.instance?_ne_none.mpr hid)
    have hpart : s.takesPart id = (i.isActive && !(s.paused && i.pausable)) := by
      simp [Session.takesPart, hi]
    unfold Engine.stepEach
    rw [bind_of_ok (Engine.theInstance_of_some hi), bind_of_ok (get_apply s), ← hpart]
    by_cases h : s.takesPart id = true
    · obtain ⟨us, t, hstint, hus⟩ :=
        exists_stint hS elapsed s.setup.maxSteps hs (Session.isActive_of_takesPart h)
      have hkeep {I : Session H → Prop} (hI : DependsOnStatus I) (h : I s) : t.IsHostless ∧ I t := by
        have hI := isHostless_dependsOnStatus.and hI
        exact (hus.keeps (fun v _ => hI.turnKeeps w v.id) (fun _ h => h.1) ⟨hs, h⟩).2
      obtain ⟨ht, hsetup⟩ := hkeep (setup_dependsOnStatus s.setup) rfl
      obtain ⟨vs, u, hround, hvs, heach⟩ := ih ht fun k hk =>
        (hkeep (present_dependsOnStatus k) (hrest k hk)).2
      rw [hsetup] at hround
      refine ⟨us ++ vs, u, .stint h hstint hround, hus.trans hvs, ?_⟩
      rw [if_pos h, bind_of_ok (get_apply s), bind_of_ok hstint.stepUpTo]
      exact heach
    · obtain ⟨us, t, hround, hus, heach⟩ := ih hs hrest
      refine ⟨us, t, .pass (Bool.not_eq_true _ ▸ h) hround, hus, ?_⟩
      rw [if_neg h]
      exact heach

end Rounds

end EventScript
