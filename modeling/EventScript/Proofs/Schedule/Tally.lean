import EventScript.Proofs.Ensemble.Step
import EventScript.Proofs.Schedule.Tick

/-! The books of a schedule: the lists of those who run and of those who are to begin, the status of
every instance, and the counters of how instances end. They agree after every deed of an
instance. -/

namespace EventScript

variable {H : Host} {s t : Session H} {id : InstanceId} {i j : Instance H.Predicate}

/-! ### Counting instances -/

section Array

variable {α : Type}

lemma countP_modify {xs : Array α} {k : Nat} {a : α} (ha : xs[k]? = some a) (b : α) (p : α → Bool) :
    (xs.modify k fun _ => b).countP p + (p a).toNat = xs.countP p + (p b).toNat := by
  obtain ⟨hk, rfl⟩ := Array.getElem?_eq_some_iff.mp ha
  have hset : (xs.modify k fun _ => b) = xs.set k b := by
    apply Array.ext_getElem?
    intro n
    rw [Array.getElem?_modify, Array.getElem?_set]
    split
    · next h => simp [← h, hk]
    · rfl
  have hone : p xs[k] = true → 0 < xs.countP p := fun h =>
    Array.countP_pos_iff.mpr ⟨xs[k], Array.getElem_mem hk, h⟩
  rw [hset, Array.countP_set hk]
  cases hp : p xs[k] <;> cases p b <;> simp
  · have := hone hp
    omega
  · have := hone hp
    omega

end Array

def Session.numberIn (s : Session H) (p : Phase) : Nat := s.roster.countP (·.status.phase = p)

lemma Status.isActive_iff {π : Type} {x : Status π} :
    x.isActive = true ↔ x.phase ≠ .completed ∧ x.phase ≠ .canceled := by
  cases x <;> simp [isActive, phase]

def Session.standing (s : Session H) : Array (Status H.Predicate × Bool × Option EntityId) :=
  s.roster.map fun i => (i.status, i.counted, i.owner)

lemma Session.getElem?_standing (s : Session H) (k : InstanceId) :
    s.standing[k]? = (s.instance? k).map fun i => (i.status, i.counted, i.owner) :=
  Array.getElem?_map

lemma Session.standing_modifyInstance (s : Session H) (id : InstanceId)
    {f : Instance H.Predicate → Instance H.Predicate}
    (hf : ∀ i, (f i).status = i.status ∧ (f i).counted = i.counted ∧ (f i).owner = i.owner) :
    (s.modifyInstance id f).standing = s.standing := by
  apply Array.ext_getElem?
  intro k
  rw [getElem?_standing, getElem?_standing, instance?_modifyInstance]
  split
  · cases s.instance? k <;> simp [hf]
  · rfl

lemma Session.isActive_congr (h : t.standing = s.standing) (k : InstanceId) :
    t.isActive k = s.isActive k := by
  have hk := getElem?_standing t k
  rw [h, getElem?_standing] at hk
  unfold isActive
  cases hs : s.instance? k <;> cases ht : t.instance? k <;> simp [hs, ht] at hk ⊢
  simp [Instance.isActive, hk.1]

lemma Session.numberIn_congr (h : t.standing = s.standing) (p : Phase) :
    t.numberIn p = s.numberIn p := by
  have hcount := congrArg (Array.countP fun x => decide (x.1.phase = p)) h
  unfold numberIn
  simpa [standing, Array.countP_map, Function.comp_def] using hcount

def Counters.books (c : Counters) : Nat × Nat × Nat := (c.started, c.completed, c.canceled)

lemma Counters.books_of_lives {c d : Counters} (h : c.lives = d.lives) : c.books = d.books := by
  simp only [lives, books, Prod.mk.injEq] at h ⊢
  exact ⟨h.1, h.2.1, h.2.2.1⟩

def Session.IsUndisturbed (s : Session H) : Prop := ∀ o name, s.fails o name = false

lemma Session.IsUndisturbed.alike (hs : s.IsUndisturbed) (h : WatchersAlike s.watchers t.watchers) :
    t.IsUndisturbed :=
  fun o name => (h.fails o name).trans (hs o name)

lemma Session.IsUndisturbed.calm (hs : s.IsUndisturbed) (o : Occasion) (ws : List String) :
    ws.any (s.fails o) = false := by
  simp [hs o]

/-- One instance goes from `i` to `j`. If that is its end the counters tell of it once, or not at all
when a watcher fails, and nobody comes back from an end. -/
structure Session.Passes (s : Session H) (id : InstanceId) (i j : Instance H.Predicate)
    (t : Session H) : Prop where
  before : s.instance? id = some i
  after : t.roster = s.roster.modify id fun _ => j
  active : t.active = s.active
  pending : t.pending = s.pending
  ui : t.ui = s.ui
  scene : s.scene.Alike t.scene
  watchers : WatchersAlike s.watchers t.watchers
  stays : j.isActive = true → i.isActive = true ∧ j.counted = i.counted
  started : t.counters.started = s.counters.started
  orphaned : t.counters.orphaned = s.counters.orphaned
  completed : t.counters.completed + (decide (i.status.phase = .completed)).toNat ≤
    s.counters.completed + (decide (j.status.phase = .completed)).toNat
  canceled : t.counters.canceled + (decide (i.status.phase = .canceled)).toNat ≤
    s.counters.canceled + (decide (j.status.phase = .canceled)).toNat
  told : s.IsUndisturbed →
    t.counters.completed + (decide (i.status.phase = .completed)).toNat =
      s.counters.completed + (decide (j.status.phase = .completed)).toNat ∧
    t.counters.canceled + (decide (i.status.phase = .canceled)).toNat =
      s.counters.canceled + (decide (j.status.phase = .canceled)).toNat

namespace Session.Passes

lemma instance? (h : s.Passes id i j t) (k : InstanceId) :
    t.instance? k = if id = k then some j else s.instance? k := by
  unfold Session.instance?
  rw [h.after, Array.getElem?_modify]
  split
  · next hk =>
    have hi : s.roster[k]? = some i := hk ▸ h.before
    rw [hi]
    rfl
  · rfl

lemma isActive_of_ne (h : s.Passes id i j t) {k : InstanceId} (hk : k ≠ id) :
    t.isActive k = s.isActive k := by
  unfold Session.isActive
  rw [h.instance?, if_neg (Ne.symm hk)]

lemma isActive_self (h : s.Passes id i j t) : t.isActive id = j.isActive := by
  simp [Session.isActive, h.instance?]

end Session.Passes

lemma Session.passes_setStatus (hi : s.instance? id = some i) (hactive : i.isActive = true)
    {x : Status H.Predicate} (hx : x.isActive = true) :
    s.Passes id i { i with status := x } (s.modifyInstance id ({ · with status := x })) := by
  have hbefore := Status.isActive_iff.mp hactive
  have hafter := Status.isActive_iff.mp hx
  refine ⟨hi, modify_eq_of_getElem? hi ({ · with status := x }), rfl, rfl, rfl, ⟨rfl, rfl⟩, .refl _,
    fun _ => ⟨hactive, rfl⟩, rfl, rfl, ?_, ?_, fun _ => ⟨?_, ?_⟩⟩
  all_goals simp [hbefore, hafter, modifyInstance]

def Instance.ended {π : Type} (i : Instance π) (x : Status π) : Instance π :=
  { i with status := x, counted := false, watchers := [] }

namespace Engine

inductive IsEnd : Status H.Predicate → Occasion → Prop
  | completed : IsEnd .completed .complete
  | canceled : IsEnd .canceled .cancel

lemma closed_passes (hi : s.instance? id = some i) (hactive : i.isActive = true)
    (hcounted : i.counted = true) {x : Status H.Predicate} {o : Occasion} (hx : IsEnd x o)
    {a : Aftermath H} (ha : a.Follows s i o) : s.Passes id i
      { i with status := x, counted := a.counted, watchers := a.told } (s.closed id x a) := by
  have hphase := Status.isActive_iff.mp hactive
  have hended : x.isActive = false := by cases hx <;> rfl
  have hcounters : (s.closed id x a).counters = a.counters := rfl
  have htally : (i.tally o s.counters).started = s.counters.started ∧
      (i.tally o s.counters).orphaned = s.counters.orphaned ∧
      (i.tally o s.counters).completed =
        s.counters.completed + (decide (x.phase = .completed)).toNat ∧
      (i.tally o s.counters).canceled =
        s.counters.canceled + (decide (x.phase = .canceled)).toNat := by
    unfold Instance.tally
    rw [hcounted]
    cases hx <;> exact ⟨rfl, rfl, rfl, rfl⟩
  have hroster := modify_eq_of_getElem? hi
    ({ · with status := x, counted := a.counted, watchers := a.told })
  refine ⟨hi, hroster, rfl, rfl, rfl, ha.scene, ha.watchers,
    fun h => absurd (h.symm.trans hended) (by simp), ?_, ?_, ?_, ?_, fun hcalm => ?_⟩
  · rw [hcounters]
    rcases ha.counters with h | h <;> simp [h, htally]
  · rw [hcounters]
    rcases ha.counters with h | h <;> simp [h, htally]
  · rw [hcounters]
    rcases ha.counters with h | h <;> simp [h, htally, hphase]
  · rw [hcounters]
    rcases ha.counters with h | h <;> simp [h, htally, hphase]
  · rw [hcounters, (ha.calm (hcalm.calm o _)).1]
    simp [htally, hphase]

lemma terminate_cases (x : Status H.Predicate) {o : Occasion} (hx : IsEnd x o)
    (text : Instance H.Predicate → String)
    (hcounted : ∀ i, s.instance? id = some i → i.isActive = true → i.counted = true) :
    terminate id x text o s = .error .missingKey s ∨
      terminate id x text o s = .ok () s ∧ s.isActive id = false ∨
      ∃ i j t, s.Passes id i j t ∧ j.isActive = false ∧ (terminate id x text o s = .ok () t ∨
        terminate id x text o s = .error .watcherFailed t ∧ ¬ s.IsUndisturbed) := by
  cases hi : s.instance? id with
  | none =>
    refine .inl ?_
    unfold terminate
    rw [bind_of_error (theInstance_of_none hi)]
  | some i =>
    by_cases hactive : i.isActive = true
    · obtain ⟨a, ha, hend⟩ := terminate_of_active hi hactive x text o
      have hended : x.isActive = false := by cases hx <;> rfl
      refine .inr (.inr ⟨i, _, _, closed_passes hi hactive (hcounted i hi hactive) hx ha, hended, ?_⟩)
      cases hfails : i.watchers.any (s.fails o) with
      | false => exact .inl (hend.trans (if_neg (by simp [hfails])))
      | true =>
        refine .inr ⟨hend.trans (if_pos hfails), fun hcalm => ?_⟩
        exact absurd (hfails.symm.trans (hcalm.calm o _)) (by simp)
    · refine .inr (.inl ⟨?_, by simpa [Session.isActive, hi] using hactive⟩)
      unfold terminate
      rw [bind_of_ok (theInstance_of_some hi), if_neg hactive]
      rfl

end Engine

structure Session.Grows (s : Session H) (i : Instance H.Predicate) (t : Session H) : Prop where
  roster : t.roster = s.roster.push i
  active : t.active = s.active
  pending : t.pending = s.pending ++ [s.roster.size]
  counters : t.counters = s.counters.countStart
  watchers : t.watchers = s.watchers
  running : i.status = .running
  counted : i.counted = true

namespace Session.Grows

lemma instance? (h : s.Grows i t) (k : InstanceId) :
    t.instance? k = if k = s.roster.size then some i else s.instance? k := by
  unfold Session.instance?
  rw [h.roster, Array.getElem?_push]

lemma isActive_of_ne (h : s.Grows i t) {k : InstanceId} (hk : k ≠ s.roster.size) :
    t.isActive k = s.isActive k := by
  unfold Session.isActive
  rw [h.instance?, if_neg hk]

lemma isActive_new (h : s.Grows i t) : t.isActive s.roster.size = true := by
  simp [Session.isActive, h.instance?, Instance.isActive_of_running h.running]

end Session.Grows

lemma Engine.start_grows (script : Script) (owner : Option EntityId) (pausable : Bool)
    (watcher : Option String) (s : Session H) :
    ∃ i t, start script owner pausable watcher s = .ok s.roster.size t ∧ s.Grows i t :=
  ⟨_, _, start_apply script owner pausable watcher s, rfl, rfl, rfl, rfl, rfl, rfl, rfl⟩

/-- What is known of the time before: whether no watcher has failed, how many were canceled that were
not counted, and who has left the lists. -/
structure Past where
  calm : Prop
  missed : Nat
  gone : Set InstanceId

def Past.calmly : Past := ⟨True, 0, ∅⟩

def Past.unknown : Past := ⟨False, 0, ∅⟩

/-- The lists, the status of the instances and the counters agree. Only if a watcher has failed may
live instances have dropped out of the lists, and ends gone uncounted. -/
structure Session.Tally (past : Past) (s : Session H) : Prop where
  sorted : s.instances.Pairwise (· < ·)
  bound : ∀ k ∈ s.instances, k < s.roster.size
  apart : ∀ k ∈ past.gone, k < s.roster.size ∧ k ∉ s.instances
  counted : ∀ k i, s.instance? k = some i → i.isActive = true → i.counted = true
  started : s.counters.started = s.roster.size
  canceled : s.counters.canceled + past.missed ≤ s.numberIn .canceled
  listed : past.calm → ∀ k, s.isActive k = true → k ∈ s.instances
  told : past.calm → s.counters.completed = s.numberIn .completed ∧
    s.counters.canceled = s.numberIn .canceled
  undisturbed : past.calm → s.IsUndisturbed

namespace Session.Tally

variable {past : Past}

lemma present (hs : s.Tally past) {k : InstanceId} (hk : k ∈ s.instances) : s.instance? k ≠ none := by
  have hi : s.instance? k = some _ := Array.getElem?_eq_getElem (hs.bound k hk)
  rw [hi]
  exact Option.some_ne_none _

lemma passes (hs : s.Tally past) (h : s.Passes id i j t) : t.Tally past := by
  have hlists : t.instances = s.instances := by
    unfold instances
    rw [h.active, h.pending]
  have hsize : t.roster.size = s.roster.size := by rw [h.after, Array.size_modify]
  have hcount (p : Phase) : t.numberIn p + (decide (i.status.phase = p)).toNat =
      s.numberIn p + (decide (j.status.phase = p)).toNat := by
    unfold numberIn
    rw [h.after]
    exact countP_modify h.before j fun i => decide (i.status.phase = p)
  refine ⟨hlists ▸ hs.sorted, fun k hk => ?_, fun k hk => ?_, fun k x hx hactive => ?_, ?_, ?_,
    fun hcalm k hk => ?_, fun hcalm => ?_, fun hcalm => (hs.undisturbed hcalm).alike h.watchers⟩
  · rw [hsize]
    exact hs.bound k (hlists ▸ hk)
  · rw [hsize, hlists]
    exact hs.apart k hk
  · rw [h.instance?] at hx
    split at hx
    · obtain rfl := Option.some.inj hx
      obtain ⟨hi, hcounted⟩ := h.stays hactive
      exact hcounted.trans (hs.counted id i h.before hi)
    · exact hs.counted k x hx hactive
  · rw [h.started, hs.started, hsize]
  · have hnow := hcount .canceled
    have hcanceled := hs.canceled
    have hpass := h.canceled
    omega
  · rw [hlists]
    by_cases he : k = id
    · subst he
      rw [h.isActive_self] at hk
      exact hs.listed hcalm k (by simpa [isActive, h.before] using (h.stays hk).1)
    · exact hs.listed hcalm k (h.isActive_of_ne he ▸ hk)
  · obtain ⟨hcompleted, hcanceled⟩ := hs.told hcalm
    obtain ⟨hends, haborts⟩ := h.told (hs.undisturbed hcalm)
    have hnow := hcount .completed
    have hnow' := hcount .canceled
    omega

lemma same (hs : s.Tally past) (hstanding : t.standing = s.standing)
    (hlists : t.instances = s.instances) (hbooks : t.counters.books = s.counters.books)
    (hwatchers : WatchersAlike s.watchers t.watchers) : t.Tally past := by
  simp only [Counters.books, Prod.mk.injEq] at hbooks
  obtain ⟨hstarted, hcompleted, hcanceled⟩ := hbooks
  have hsize : t.roster.size = s.roster.size := by
    simpa [standing] using congrArg Array.size hstanding
  have hactive := isActive_congr hstanding
  refine ⟨hlists ▸ hs.sorted, ?_, ?_, fun k i hi hrunning => ?_, ?_, ?_, fun hcalm k hk => ?_,
    fun hcalm => ?_, fun hcalm => (hs.undisturbed hcalm).alike hwatchers⟩
  · rw [hlists, hsize]
    exact hs.bound
  · rw [hlists, hsize]
    exact hs.apart
  · have hk := getElem?_standing t k
    rw [hstanding, getElem?_standing, hi] at hk
    obtain ⟨j, hj, he⟩ := Option.map_eq_some_iff.mp hk
    simp only [Prod.mk.injEq] at he
    have hstatus : j.isActive = true := by
      unfold Instance.isActive
      rw [he.1]
      exact hrunning
    rw [← he.2.1]
    exact hs.counted k j hj hstatus
  · rw [hstarted, hsize, hs.started]
  · rw [hcanceled, numberIn_congr hstanding]
    exact hs.canceled
  · rw [hlists]
    exact hs.listed hcalm k (hactive k ▸ hk)
  · rw [hcompleted, hcanceled, numberIn_congr hstanding, numberIn_congr hstanding]
    exact hs.told hcalm

lemma grows (hs : s.Tally past) (h : s.Grows i t) : t.Tally past := by
  have hlists : t.instances = s.instances ++ [s.roster.size] := by
    unfold instances
    rw [h.active, h.pending, List.append_assoc]
  have hsize : t.roster.size = s.roster.size + 1 := by rw [h.roster, Array.size_push]
  have hphase : i.status.phase = .running := by rw [h.running, Status.phase]
  have hcount {p : Phase} (hp : p ≠ .running) : t.numberIn p = s.numberIn p := by
    unfold numberIn
    rw [h.roster, Array.countP_push, hphase]
    simp [Ne.symm hp]
  refine ⟨?_, fun k hk => ?_, fun k hk => ?_, fun k j hj hactive => ?_, ?_, ?_,
    fun hcalm k hk => ?_, fun hcalm => ?_,
    fun hcalm => (hs.undisturbed hcalm).alike (h.watchers ▸ .refl _)⟩
  · rw [hlists]
    refine List.pairwise_append.mpr ⟨hs.sorted, List.pairwise_singleton _ _, fun k hk n hn => ?_⟩
    rw [List.mem_singleton.mp hn]
    exact hs.bound k hk
  · rw [hlists, List.mem_append, List.mem_singleton] at hk
    rw [hsize]
    rcases hk with hk | rfl
    · exact Nat.lt_succ_of_lt (hs.bound k hk)
    · exact Nat.lt_succ_self _
  · obtain ⟨hlt, hout⟩ := hs.apart k hk
    rw [hlists, hsize, List.mem_append, List.mem_singleton]
    exact ⟨Nat.lt_succ_of_lt hlt, fun h => h.elim hout hlt.ne⟩
  · rw [h.instance?] at hj
    split at hj
    · rw [← Option.some.inj hj, h.counted]
    · exact hs.counted k j hj hactive
  · rw [h.counters, hsize, ← hs.started]
    rfl
  · rw [h.counters, hcount (by simp)]
    exact hs.canceled
  · rw [hlists, List.mem_append, List.mem_singleton]
    by_cases he : k = s.roster.size
    · exact .inr he
    · exact .inl (hs.listed hcalm k (h.isActive_of_ne he ▸ hk))
  · rw [h.counters, hcount (by simp), hcount (by simp)]
    exact hs.told hcalm

lemma unlists (hs : s.Tally past) {active pending : List InstanceId}
    (hsub : (active ++ pending).Sublist s.instances)
    (hrest : past.calm → ∀ k ∈ s.instances, s.isActive k = true → k ∈ active ++ pending) :
    Session.Tally past { s with active := active, pending := pending } where
  sorted := hs.sorted.sublist hsub
  bound k hk := hs.bound k (hsub.subset hk)
  apart k hk := (hs.apart k hk).imp_right fun h hk => h (hsub.subset hk)
  counted := hs.counted
  started := hs.started
  canceled := hs.canceled
  listed hcalm k hk := hrest hcalm k (hs.listed hcalm k hk) hk
  told := hs.told
  undisturbed := hs.undisturbed

end Session.Tally

/-! ### While instances take their turns -/

/-- The books agree, those in `l` run, those who are to begin have not ended, and so many were
orphans. -/
structure Session.MidTick (past : Past) (l : List InstanceId) (n : Nat) (s : Session H) :
    Prop extends s.Tally past where
  active : s.active = l
  ready : ∀ k ∈ s.pending, s.isActive k = true
  orphaned : s.counters.orphaned = n

namespace Session.MidTick

variable {past : Past} {l : List InstanceId} {n : Nat}

lemma passes (hs : s.MidTick past l n) (hid : id ∈ l) (h : s.Passes id i j t) :
    t.MidTick past l n := by
  refine ⟨hs.toTally.passes h, h.active.trans hs.active, fun k hk => ?_,
    h.orphaned.trans hs.orphaned⟩
  rw [h.pending] at hk
  have hlt : ∀ a ∈ s.active, ∀ b ∈ s.pending, a < b := (List.pairwise_append.mp hs.sorted).2.2
  have hne : k ≠ id := (hlt id (hs.active ▸ hid) k hk).ne'
  rw [h.isActive_of_ne hne]
  exact hs.ready k hk

lemma grows (hs : s.MidTick past l n) (h : s.Grows i t) : t.MidTick past l n := by
  have horphaned : t.counters.orphaned = n := by
    rw [h.counters]
    exact hs.orphaned
  refine ⟨hs.toTally.grows h, h.active.trans hs.active, fun k hk => ?_, horphaned⟩
  rw [h.pending, List.mem_append, List.mem_singleton] at hk
  rcases hk with hk | rfl
  · have hlt := hs.bound k (List.mem_append_right _ hk)
    rw [h.isActive_of_ne hlt.ne]
    exact hs.ready k hk
  · exact h.isActive_new

lemma same (hs : s.MidTick past l n) (hstanding : t.standing = s.standing)
    (hactive : t.active = s.active) (hpending : t.pending = s.pending)
    (hlives : t.counters.lives = s.counters.lives)
    (hwatchers : WatchersAlike s.watchers t.watchers) : t.MidTick past l n := by
  have hlists : t.instances = s.instances := by
    unfold instances
    rw [hactive, hpending]
  have horphaned := congrArg (fun c => c.2.2.2) hlives
  refine ⟨hs.toTally.same hstanding hlists (Counters.books_of_lives hlives) hwatchers,
    hactive.trans hs.active, fun k hk => ?_, Eq.trans horphaned hs.orphaned⟩
  rw [isActive_congr hstanding]
  exact hs.ready k (hpending ▸ hk)

@[simp] def unbooked : Set Aspect :=
  {.scene, .fade, .talk, .chooser, .movie, .asleep, .store, .cache, .files, .paused, .ticks}

lemma ignores {a : Aspect} (ha : a ∈ unbooked) : Ignores (H := H) (MidTick past l n) a := by
  intro s t hc hs
  cases hc with
  | counters | active | pending | roster | cursor | status | marks | watchers => simp at ha
  | _ => exact hs.same rfl rfl rfl rfl (.refl _)

lemma within {α : Type} {p : Engine H α} (hp : Within unbooked p) : Preserves (MidTick past l n) p :=
  hp.preserves fun _ ha => ignores ha

lemma terminate (hid : id ∈ l) {x : Status H.Predicate} {o : Occasion} (hx : Engine.IsEnd x o)
    (text : Instance H.Predicate → String) :
    Preserves (MidTick past l n) (Engine.terminate id x text o) := by
  intro s hs
  rcases Engine.terminate_cases x hx text (hs.counted id) with
    h | ⟨h, -⟩ | ⟨i, j, t, hpasses, -, h | ⟨h, -⟩⟩
  · rw [h]
    exact .error hs
  · rw [h]
    exact .ok hs
  · rw [h]
    exact .ok (hs.passes hid hpasses)
  · rw [h]
    exact .error (hs.passes hid hpasses)

lemma deedKeeps (w : Wiring H) (hid : id ∈ l) : w.DeedKeeps id (MidTick past l n) where
  asks _ := within (Engine.play_within (by simp) _)
  free a ha := by
    rcases ha with rfl | rfl | rfl | rfl
    case inr.inr.inr =>
      intro s t hc hs
      cases hc
      exact hs.same (s.standing_modifyInstance id fun i => ⟨rfl, rfl, rfl⟩) rfl rfl rfl (.refl _)
    all_goals exact ignores (by simp)
  stopMovie := within (Engine.stopMovie_within (by simp) (by simp) _)
  playMovie file color := within (Engine.playMovie_within (by simp) (by simp) _ file color)
  movieEnded := within (Engine.movieEnded_within (by simp) _)
  count f hf := Leads.modify fun s hs => hs.same rfl rfl rfl (hf s.counters) (.refl _)
  suspend x _ := by
    refine Engine.theInstance_bind (fun i => ?_) fun _ hs _ => hs
    split
    · next hr =>
      have hactive := Instance.isActive_of_running hr
      exact Leads.modify fun s hs => hs.1.passes hid (s.passes_setStatus hs.2 hactive rfl)
    · exact Leads.throw fun _ hs => hs.1
  resume := by
    refine Engine.theInstance_bind (fun i => ?_) fun _ hs _ => hs
    split
    · next x hx =>
      have hactive : i.isActive = true := by simp [Instance.isActive, Status.isActive, hx]
      exact Leads.modify fun s hs => hs.1.passes hid (s.passes_setStatus hs.2 hactive rfl)
    · exact Leads.throw fun _ hs => hs.1
  doze x y s hx hs := by
    obtain ⟨i, hi, hsleep⟩ := Option.map_eq_some_iff.mp hx
    have hactive : i.isActive = true := by simp [Instance.isActive, Status.isActive, hsleep]
    exact hs.passes hid (s.passes_setStatus hi hactive rfl)
  complete := terminate hid .completed _
  cancel := terminate hid .canceled _
  spawn script owner := by
    intro s hs
    obtain ⟨i, t, h, hgrows⟩ := Engine.start_grows script owner true none s
    rw [h]
    exact .ok (hs.grows hgrows)

lemma turnKeeps (w : Wiring H) (hid : id ∈ l) : w.TurnKeeps id (MidTick past l n) :=
  (deedKeeps w hid).turnKeeps fun a ha => ignores (by rcases ha with rfl | rfl <;> simp)

end Session.MidTick

end EventScript
