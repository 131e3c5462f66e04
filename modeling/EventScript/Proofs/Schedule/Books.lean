import EventScript.Cli.Run
import EventScript.Proofs.Schedule.Opening
import EventScript.Proofs.Schedule.Round

/-! The books of the schedule from tick to tick. Nobody is lost from the lists or counted twice, and
the instances of a tick take their turns in the order in which they were started. -/

namespace EventScript

variable {H : Host} {w : Wiring H} {s t : Session H} {past : Past}

namespace Engine

lemma dropOrphansOf_lists (S : Services H.Game) (l ids : List InstanceId) :
    Preserves (fun s : Session H => s.pending = [] ∧ s.active ⊆ l) (dropOrphansOf S ids) := by
  have hquiet {α : Type} {A : Set Aspect} {p : Engine H α} (hp : Within A p)
      (hA : .active ∉ A ∧ .pending ∉ A) :
      Preserves (fun s : Session H => s.pending = [] ∧ s.active ⊆ l) p := by
    refine hp.preserves fun a ha s t hc hs => ?_
    cases hc with
    | active => exact absurd ha hA.1
    | pending => exact absurd ha hA.2
    | _ => exact hs
  have hdrop (id : InstanceId) :
      Preserves (fun s : Session H => s.pending = [] ∧ s.active ⊆ l) (drop S id) := by
    refine (hquiet (abort_within subset_rfl S) (by simp)).bind fun _ => Leads.modify ?_
    rintro s ⟨hpending, hactive⟩
    exact ⟨by simp [hpending], fun k hk => hactive (List.mem_of_mem_erase hk)⟩
  exact (Modular.preserves _).dropOrphansOf hdrop
    (fun _ => hquiet (log_within (A := {.scene}) rfl _ _) (by simp))
    (hquiet (count_within (A := {.counters}) rfl _) (by simp)) ids

end Engine

/-- A watcher fails when a pending instance begins, or when one is canceled that is now. -/
def Session.IsDisturbed (s t : Session H) : Prop :=
  (∃ k ∈ s.pending, ¬ s.BeginsCalmly k) ∨
    ∃ k ∈ s.instances, t.status? k = some .canceled ∧ ¬ s.CancelsCalmly k

lemma Session.IsUndisturbed.not_isDisturbed (hs : s.IsUndisturbed) : ¬ s.IsDisturbed t := by
  rintro (⟨k, -, hnot⟩ | ⟨k, -, -, hnot⟩)
  · exact hnot (hs.beginsCalmly k)
  · exact hnot (hs.cancelsCalmly k)

namespace Engine

/-- Unless a watcher fails, the opening leaves only instances that were there before. -/
lemma opening_cases (hS : w.services.Settles) (hs : s.Booked past) :
    (∃ t, opening w.services s = .ok () t ∧ t.Booked past ∧ t.pending = [] ∧
      t.active ⊆ s.instances) ∨
    ∃ t, opening w.services s = .error .watcherFailed t ∧ t.Booked past ∧ s.IsDisturbed t := by
  have hpresent : ∀ k ∈ s.pending, s.status? k ≠ none := fun k hk =>
    hs.present (List.mem_append_right _ hk)
  let s' : Session H := { s with ticks := s.ticks + 1 }
  obtain ⟨t, ⟨hok, ht⟩ | ⟨herror, ht, hnot⟩⟩ := promote_cases (s := s') hpresent
  · have hlists : t.active = s.instances := ht.active
    have htb : t.Booked past := by
      refine hs.same ht.standing ?_ (congrArg Counters.books ht.counters) ht.watchers
      change t.active ++ t.pending = _
      rw [hlists, ht.pending, List.append_nil]
    have hopen : opening w.services s =
        (dropOrphansOf w.services t.active >>= fun _ => updateScreen w.services) t := by
      unfold opening
      rw [bind_of_ok (modify_apply _ s), bind_of_ok hok]
      rfl
    have hu := (Session.Booked.dropOrphansOf hS t.active).endState htb
    have hlast := (dropOrphansOf_lists w.services s.instances t.active).endState
      ⟨ht.pending, fun k hk => hlists ▸ hk⟩
    obtain ⟨u, hdrop | ⟨hdrop, k, hk, hcanceled, hnot⟩⟩ := dropOrphansOf_cases hS (fun _ h => h)
      t.active (List.Subset.refl _) fun k hk => htb.present (List.mem_append_left _ hk)
    · left
      rw [endState_of_ok hdrop] at hu hlast
      obtain ⟨_, x, hscreen⟩ := stage_returns (Stage.update_returns hS u.holders) u
      refine ⟨{ u with screen := x }, ?_, hu.same rfl rfl rfl (.refl _), hlast⟩
      rw [hopen, bind_of_ok hdrop]
      exact hscreen
    · right
      rw [endState_of_error hdrop] at hu
      refine ⟨u, hopen.trans (bind_of_error hdrop), hu, .inr ⟨k, hlists ▸ hk, hcanceled, ?_⟩⟩
      exact fun hcalm => hnot (ht.cancels k hcalm)
  · right
    have hwild (hcalm : past.calm) : False :=
      (hs.undisturbed hcalm).not_isDisturbed (t := t) (.inl hnot)
    refine ⟨t, ?_, ?_, .inl hnot⟩
    · unfold opening
      rw [bind_of_ok (modify_apply _ s), bind_of_error herror]
    · have hsub : (s.active ++ []).Sublist s.instances := by simp [Session.instances]
      have hs' : s'.Tally past := hs.toTally.same rfl rfl rfl (.refl _)
      have hrest : Session.Booked past { s' with pending := [] } :=
        ⟨hs'.unlists hsub fun hcalm => (hwild hcalm).elim, fun hcalm => (hwild hcalm).elim⟩
      refine hrest.same ht.standing ?_ (congrArg Counters.books ht.counters) ht.watchers
      unfold Session.instances
      rw [ht.active, ht.pending]

lemma opening_booked (hS : w.services.Settles) (hs : s.Booked past)
    (h : opening w.services s = .ok () t) : t.Booked past ∧ t.pending = [] := by
  rcases opening_cases hS hs with ⟨u, hok, hu, hpending, -⟩ | ⟨u, herror, -⟩
  · obtain ⟨-, rfl⟩ := EStateM.Result.ok.inj (hok.symm.trans h)
    exact ⟨hu, hpending⟩
  · cases herror.symm.trans h

lemma tick_round (hS : w.services.Settles) {s₁ : Session H}
    (hopen : opening w.services s = .ok () s₁) (h₁ : s₁.Booked past) (hpending : s₁.pending = [])
    (hless : s₁.IsHostless) (elapsed : Option Float) : ∃ us s₂,
      Round w elapsed s₁.setup.maxSteps s₁.active s₁ us s₂ ∧ Turns w elapsed s₁ us s₂ ∧
      tick w elapsed s = .ok () s₂.retire ∧ s₂.MidTick past s₁.active s₁.counters.orphaned := by
  obtain ⟨us, s₂, hround, hus, heach⟩ := exists_round hS elapsed s₁.active hless
    fun k hk => h₁.present (List.mem_append_left _ hk)
  have hmid : s₁.MidTick past s₁.active s₁.counters.orphaned :=
    ⟨h₁.toTally, rfl, by simp [hpending], rfl⟩
  have hkeep : ∀ u ∈ us, w.TurnKeeps u.id fun s =>
      s.MidTick past s₁.active s₁.counters.orphaned ∧ s.IsHostless :=
    fun u hu => (Session.MidTick.turnKeeps w (hround.mem_ids u hu)).and
      (isHostless_dependsOnStatus.turnKeeps w u.id)
  have h₂ := (hus.keeps hkeep (fun _ h => h.2) ⟨hmid, hless⟩).2
  refine ⟨us, s₂, hround, hus, ?_, h₂.1⟩
  rw [tick_eq, bind_of_ok hopen]
  change (stepEach w elapsed s₁.active >>= fun _ => modify Session.retire) s₁ = _
  rw [bind_of_ok heach]
  rfl

lemma tick_turns (hS : w.services.Settles) {s₁ : Session H}
    (hopen : opening w.services s = .ok () s₁) (h₁ : s₁.Booked past) (hpending : s₁.pending = [])
    (hless : s₁.IsHostless) (elapsed : Option Float) : ∃ us s₂, Turns w elapsed s₁ us s₂ ∧
      tick w elapsed s = .ok () s₂.retire ∧ s₂.MidTick past s₁.active s₁.counters.orphaned ∧
      (∀ u ∈ us, u.id ∈ s₁.active) ∧ us.Pairwise fun u v => u.id ≤ v.id := by
  obtain ⟨us, s₂, hround, hus, htick, hmid⟩ := tick_round hS hopen h₁ hpending hless elapsed
  exact ⟨us, s₂, hus, htick, hmid, hround.mem_ids,
    hround.pairwise (h₁.sorted.sublist (List.sublist_append_left _ _))⟩

end Engine

lemma Session.MidTick.retire {l : List InstanceId} {n : Nat} (hs : s.MidTick past l n) :
    s.retire.Booked past := by
  have hsub : (s.active.filter s.isActive ++ s.pending).Sublist s.instances :=
    List.filter_sublist.append_right _
  have htally := hs.toTally.unlists hsub fun _ k hk hactive => List.mem_append.mpr
    ((List.mem_append.mp hk).imp_left fun h => List.mem_filter.mpr ⟨h, hactive⟩)
  refine ⟨htally.same rfl rfl rfl (.refl _), fun _ k hk => ?_⟩
  rcases List.mem_append.mp hk with hk | hk
  · exact (List.mem_filter.mp hk).2
  · exact hs.ready k hk

lemma Request.booked (hS : w.services.Settles) (r : Request H)
    (hr : past.calm → ∀ name failsOn early, r = .watch name failsOn early → failsOn = []) :
    Leads (fun s => s.Booked past ∧ s.IsHostless) (r.run w) (Session.Booked past) := by
  have hstart (script : Script) (owner : Option EntityId) (pausable : Bool)
      (watcher : Option String) : Preserves (Session.Booked past)
        (Engine.start script owner pausable watcher : Engine H InstanceId) := by
    intro s hs
    obtain ⟨i, t, h, hgrows⟩ := Engine.start_grows script owner pausable watcher s
    rw [h]
    exact .ok (hs.grows hgrows)
  have hkeep {p : Engine H Unit} (hp : Preserves (Session.Booked past) p) :
      Leads (fun s => s.Booked past ∧ s.IsHostless) p (Session.Booked past) :=
    hp.weaken (fun _ h => h.1) fun _ h => h
  have hwithin {α : Type} {p : Engine H α} (hp : Within Session.MidTick.unbooked p) :
      Preserves (Session.Booked past) p :=
    Session.Booked.within hp
  cases r with
  | start script owner pausable watcher => exact hkeep ((hstart _ _ _ _).bind fun _ => .pure _)
  | startFile file owner pausable watcher =>
    have hload : Within Session.MidTick.unbooked (Engine.loadHere w.services file : Engine H Script) :=
      Engine.loadHere_within (by rintro a (rfl | rfl) <;> simp) _ _
    exact hkeep ((hwithin hload).bind fun _ => (hstart _ _ _ _).bind fun _ => .pure _)
  | startText text name owner =>
    exact hkeep (Preserves.bind ((hwithin (.ofExcept _)).bind fun _ => hstart _ _ _ _) fun _ =>
      .pure _)
  | tick elapsed =>
    rintro s ⟨hs, hless⟩
    -- A tick either opens and then runs to its end, or is cut short by a watcher.
    rcases Engine.opening_cases hS hs with ⟨t, hopen, ht, hpending, -⟩ | ⟨t, hopen, ht, -⟩
    · have htless := (isHostless_dependsOnStatus.tickKeeps w).opening.endState hless
      rw [endState_of_ok hopen] at htless
      obtain ⟨us, u, -, htick, hmid, -⟩ := Engine.tick_turns hS hopen ht hpending htless elapsed
      exact .of_ok htick hmid.retire
    · change Ends _ _ (Engine.tick w elapsed s)
      rw [Engine.tick_eq, bind_of_error hopen]
      exact .error ht
  | cancel id => exact hkeep (Session.Booked.drop hS id)
  | cancelOwned owner =>
    exact hkeep (Preserves.get.bind fun _ => Session.Booked.dropOwned hS owner _)
  | cancelAll => exact hkeep (Preserves.get.bind fun _ => Session.Booked.dropEach hS _)
  | setPaused paused =>
    exact hkeep (hwithin (.modify fun s => (Change.paused s paused).changes (by simp)))
  | newGame =>
    refine hkeep ((hwithin (Engine.log_within (by simp) _ _)).bind fun _ => ?_)
    refine Preserves.bind (Preserves.get.bind fun _ => Session.Booked.dropEach hS _) fun _ => ?_
    have hreset := Engine.reset_within (H := H) (A := Session.MidTick.unbooked) (by simp) (by simp)
      (by simp) (by simp) (by simp) (by simp) w.services
    exact hwithin (hreset.bind fun _ => .modify fun s => (Change.store s []).changes (by simp))
  | save path => exact hkeep (hwithin ((Engine.save_within (by simp) path).bind fun _ => .pure _))
  | load path => exact hkeep (hwithin (Engine.load_within (by simp) path))
  | setVariable name value => exact hkeep (hwithin (Engine.setVariable_within (by simp) _ _))
  | watch name failsOn early =>
    refine hkeep (Leads.modify fun s hs => ?_)
    split
    · exact hs
    · refine ⟨{ hs with undisturbed := fun hcalm o other => ?_ }, hs.live⟩
      unfold Session.fails
      rw [Ledger.get?_put]
      split
      · simp [hr hcalm name failsOn early rfl]
      · exact hs.undisturbed hcalm o other
  | meanwhile f =>
    exact hkeep (hwithin (.modify fun s => (Change.scene s _).changes (by simp)))
  | changeFiles f =>
    exact hkeep (hwithin (.modify fun s => (Change.files s _).changes (by simp)))

lemma Session.Booked.after (hS : w.services.Settles) (hs : s.Booked past) (hless : s.IsHostless)
    (rs : List (Request H)) (hrs : past.calm → ∀ r ∈ rs, ∀ name failsOn early,
      r = .watch name failsOn early → failsOn = []) :
    (s.after w rs).Booked past ∧ (s.after w rs).IsHostless := by
  have hkeep : ∀ r ∈ rs, Preserves (fun s => s.Booked past ∧ s.IsHostless) (r.run w) := fun r hr =>
    Leads.of_endState fun t ht =>
      ⟨(Request.booked hS r fun hcalm => hrs hcalm r hr).endState ht,
        (isHostless_dependsOnStatus.request (fun _ h => h) w r).endState ht.2⟩
  exact s.after_keeps w hkeep ⟨hs, hless⟩

lemma Session.roster_size (s : Session H) : s.roster.size =
    s.numberIn .completed + s.numberIn .canceled + s.roster.countP (·.isActive) := by
  unfold numberIn
  generalize s.roster = xs
  obtain ⟨l⟩ := xs
  induction l with
  | nil => rfl
  | cons i l ih =>
    have hone : 1 = (if decide (i.status.phase = .completed) then 1 else 0) +
        (if decide (i.status.phase = .canceled) then 1 else 0) + if i.isActive then 1 else 0 := by
      unfold Instance.isActive
      cases i.status <;> rfl
    simp only [List.size_toArray, List.length_cons, List.countP_toArray, List.countP_cons] at ih ⊢
    omega

lemma countP_range {α : Type} (xs : Array α) (p : α → Bool) :
    (List.range xs.size).countP (fun k => (xs[k]?).any p) = xs.countP p := by
  obtain ⟨l⟩ := xs
  induction l with
  | nil => rfl
  | cons a l ih =>
    simp only [List.size_toArray, List.countP_toArray] at ih ⊢
    rw [List.length_cons, List.range_succ_eq_map, List.countP_cons, List.countP_map,
      List.countP_cons, ← ih]
    simp [Function.comp_def]

/-- Unless a watcher has failed, the lists hold the live instances and nobody else. -/
lemma Session.Booked.length_instances (hs : s.Booked past) (hcalm : past.calm) :
    s.instances.length = s.roster.countP (·.isActive) := by
  have hmem (k : InstanceId) :
      k ∈ s.instances ↔ k ∈ (List.range s.roster.size).filter s.isActive := by
    rw [List.mem_filter, List.mem_range]
    constructor
    · exact fun hk => ⟨hs.bound k hk, hs.live hcalm k hk⟩
    · exact fun hk => hs.listed hcalm k hk.2
  have hperm := (List.perm_ext_iff_of_nodup hs.nodup (List.nodup_range.filter _)).mpr hmem
  rw [hperm.length_eq, ← List.countP_eq_length_filter, ← countP_range]
  congr 1
  funext k
  unfold isActive instance?
  cases s.roster[k]? <;> rfl

lemma Session.IsAtStart.booked (h : s.IsAtStart) (calm : Prop) : s.Booked ⟨calm, 0, ∅⟩ := by
  obtain ⟨setup, scene, fade, files, rfl⟩ := h.eq_mk
  refine ⟨⟨.nil, by simp [instances], by simp, by simp [instance?], rfl, Nat.le_refl 0,
    by simp [isActive, instance?], fun _ => ⟨rfl, rfl⟩, fun _ _ _ => rfl⟩, by simp [instances]⟩

lemma Session.running_or_suspended (s : Session H) {k : InstanceId} (hk : s.isActive k = true) :
    s.status? k = some .running ∨ ∃ x, s.status? k = some (.suspended x) := by
  rw [s.isActive_eq] at hk
  cases hx : s.status? k with
  | none => simp [hx] at hk
  | some x =>
    cases x with
    | running => exact .inl rfl
    | suspended y => exact .inr ⟨y, rfl⟩
    | completed | canceled => simp [hx, Status.isActive] at hk

lemma active_turnKeeps (w : Wiring H) (id : InstanceId) (l : List InstanceId) :
    w.TurnKeeps id fun s : Session H => s.active = l := by
  have hquiet {a : Aspect} (ha : a ≠ .active) : Ignores (fun s : Session H => s.active = l) a := by
    intro s t hc hs
    cases hc with
    | active => exact absurd rfl ha
    | _ => exact hs
  refine (Wiring.DeedKeeps.of_ignores fun a ha => hquiet ?_).turnKeeps fun a ha => hquiet ?_ <;>
    rintro rfl <;> simp at ha

lemma Session.IsAtStart.tick_after (h : s.IsAtStart) (hS : w.services.Settles)
    (rs : List (Request H)) (hopen : Engine.opening w.services (s.after w rs) = .ok () t)
    (elapsed : Option Float) : ∃ us u,
      Round w elapsed (s.after w rs).setup.maxSteps t.active t us u ∧ Turns w elapsed t us u ∧
      Engine.tick w elapsed (s.after w rs) = .ok () u.retire ∧ u.retire.Booked .unknown ∧
      t.active.Nodup ∧ ∀ v ∈ us, v.before.IsHostless ∧ v.before.withdrawn = [] ∧
        v.before.active = t.active := by
  have hI := (isHostless_dependsOnStatus (H := H)).and (withdrawn_dependsOnStatus [])
  have hquiet := s.after_induction w (fun r => hI.request (fun _ h => h.1) w r)
    ⟨h.isHostless, h.withdrawn⟩ rs
  obtain ⟨hs, -⟩ := (h.booked False).after hS h.isHostless rs False.elim
  obtain ⟨ht, hpending⟩ := Engine.opening_booked hS hs hopen
  have hsetup := hI.and (setup_dependsOnStatus (s.after w rs).setup)
  have hquiet' := (hsetup.tickKeeps w).opening.endState ⟨hquiet, rfl⟩
  rw [endState_of_ok hopen] at hquiet'
  obtain ⟨us, u, hround, hus, htick, hmid⟩ :=
    Engine.tick_round hS hopen ht hpending hquiet'.1.1 elapsed
  rw [hquiet'.2] at hround
  have hkeeps (k : InstanceId) := (hI.turnKeeps w k).and (active_turnKeeps w k t.active)
  obtain ⟨hbefore, -⟩ := hus.keeps (fun v _ => hkeeps v.id) (fun _ h => h.1.1) ⟨hquiet'.1, rfl⟩
  refine ⟨us, u, hround, hus, htick, hmid.retire,
    ht.nodup.sublist (List.sublist_append_left _ _), fun v hv => ?_⟩
  obtain ⟨⟨hless, hpresent⟩, hactive⟩ := hbefore v hv
  exact ⟨hless, hpresent, hactive⟩

theorem schedule_keeps_books (w : Wiring H) (hS : w.services.Settles) {s₀ : Session H}
    (h₀ : s₀.IsAtStart) (rs : List (Request H)) (hrs : ∀ r ∈ rs, ∀ name failsOn early,
      r = .watch name failsOn early → failsOn = []) :
    let s := s₀.after w rs
    s.instances.Pairwise (· < ·) ∧
      (∀ k ∈ s.instances, s.status? k = some .running ∨ ∃ x, s.status? k = some (.suspended x)) ∧
      (∀ k < s.roster.size, k ∉ s.instances → ∃ x, (x = .completed ∨ x = .canceled) ∧
        s.status? k = some x ∧ ∀ rs', (s.after w rs').status? k = some x) ∧
      s.counters.started = s.roster.size ∧
      s.counters.started = s.counters.completed + s.counters.canceled + s.instances.length ∧
      ∀ elapsed, ∃ s₁ us s₂, Engine.opening w.services s = .ok () s₁ ∧ Turns w elapsed s₁ us s₂ ∧
        Engine.tick w elapsed s = .ok () s₂.retire ∧ (us.Pairwise fun u v => u.id ≤ v.id) ∧
        ∀ u ∈ us, u.id ∈ s.instances ∧ u.id < s.roster.size := by
  intro s
  obtain ⟨hs, hless⟩ : s.Booked .calmly ∧ s.IsHostless :=
    (h₀.booked True).after hS h₀.isHostless rs fun _ => hrs
  have hcalm : Past.calmly.calm := trivial
  obtain ⟨hcompleted, hcanceled⟩ := hs.told hcalm
  refine ⟨hs.sorted, fun k hk => s.running_or_suspended (hs.live hcalm k hk), fun k hk hout => ?_,
    hs.started, ?_, fun elapsed => ?_⟩
  · have hended : s.isActive k = false := by
      rw [Bool.eq_false_iff]
      exact fun hactive => hout (hs.listed hcalm k hactive)
    obtain ⟨i, hi⟩ : ∃ i, s.instance? k = some i := ⟨_, Array.getElem?_eq_getElem hk⟩
    have hx : s.HasEnded k i.status :=
      ⟨by simp [Session.status?, hi], by simpa [Session.isActive, hi, Instance.isActive] using hended⟩
    refine ⟨i.status, ?_, hx.1, fun rs' => (hx.after hless w rs').1⟩
    have hend := hx.2
    cases h : i.status <;> simp [h, Status.isActive] at hend ⊢
  · rw [hs.started, hcompleted, hcanceled, hs.length_instances hcalm]
    exact s.roster_size
  · rcases Engine.opening_cases hS hs with ⟨s₁, hopen, h₁, hpending, hsub⟩ | ⟨t, -, -, hnot⟩
    · have hless₁ := (isHostless_dependsOnStatus.tickKeeps w).opening.endState hless
      rw [endState_of_ok hopen] at hless₁
      obtain ⟨us, s₂, hus, htick, -, hmem, hle⟩ :=
        Engine.tick_turns hS hopen h₁ hpending hless₁ elapsed
      refine ⟨s₁, us, s₂, hopen, hus, htick, hle, fun u hu => ?_⟩
      have hin := hsub (hmem u hu)
      exact ⟨hin, hs.bound _ hin⟩
    · exact absurd hnot (hs.undisturbed hcalm).not_isDisturbed

lemma Returns.within {σ τ α : Type} {p : Play σ α} (hp : Returns p) (part : τ → σ)
    (put : τ → σ → τ) : Returns (p.within part put) := by
  intro s
  obtain ⟨a, t, h⟩ := hp { game := part s.game, entities := s.entities, log := s.log }
  unfold Play.within
  rw [h]
  exact ⟨a, _, rfl⟩

lemma Headless.lookAt_returns (v : VideoId) : Returns (lookAt v) := by
  refine Returns.bind (Returns.get.bind fun _ => .pure _) fun h => ?_
  split
  · exact .pure _
  · exact (Returns.modify _).bind fun _ => .pure _

lemma Cli.services_settles : services.Settles where
  closeDialog _ := ⟨_, _, rfl⟩
  closeSelection _ := ⟨_, _, rfl⟩
  videoStopped v := (Headless.lookAt_returns v).within Game.headless ({ · with headless := · })

/-- A script that starts another, one that is canceled and a new game, in the game of the command
line. -/
theorem schedule_keeps_books_cli : Cli.wiring.services.Settles ∧
    ∃ s₀ : Session Cli.host, s₀.IsAtStart ∧
      let s := s₀.after Cli.wiring [
        .startText "Choose(a, b, c, $x)\nRunScript(next.txt)" "first" none,
        .startText "Sleep(100)" "second" none, .tick (some 16), .setPaused true, .tick (some 16),
        .cancel 1, .setPaused false, .newGame, .startText "Talk(1, 2)" "third" none, .tick (some 16)]
      s.instances.Pairwise (· < ·) ∧
        s.counters.started = s.counters.completed + s.counters.canceled + s.instances.length := by
  let next : Files := [(["script", "next.txt"], .file [])]
  have h₀ : (Session.sample 3 { game := Cli.Game.mk {} 0 } next : Session Cli.host).IsAtStart :=
    Session.sample_isAtStart
  refine ⟨Cli.services_settles, _, h₀, ?_⟩
  have h := schedule_keeps_books Cli.wiring Cli.services_settles h₀
  refine And.imp_right (fun h => h.2.2.2.1) (h _ fun r hr name failsOn early => ?_)
  simp only [List.mem_cons, List.not_mem_nil, or_false] at hr
  rcases hr with rfl | rfl | rfl | rfl | rfl | rfl | rfl | rfl | rfl | rfl <;> simp

end EventScript
