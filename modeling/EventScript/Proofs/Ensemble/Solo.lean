import EventScript.Proofs.Ensemble.Schedule

/-! A plain script that runs alone. In every tick its instance comes further, until it has
completed. -/

namespace EventScript

variable {H : Host} {script : Script} {n : Nat} {s t : Session H}

namespace Session

def HasCompleted (s : Session H) (k : InstanceId) : Prop :=
  ∃ i, s.instance? k = some i ∧ i.status = .completed

lemma hasCompleted_iff {k : InstanceId} :
    s.HasCompleted k ↔ s.ensemble.copies[k]?.map Copy.phase = some .completed := by
  rw [getElem?_ensemble, Option.map_map, Option.map_eq_some_iff]
  exact exists_congr fun i => and_congr_right fun _ => Status.phase_eq_completed.symm

instance (s : Session H) (k : InstanceId) : Decidable (s.HasCompleted k) :=
  decidable_of_iff _ hasCompleted_iff.symm

/-- Nothing can stop the first instance: no pause, no owner to lose, nothing on screen. -/
structure Unhindered (s : Session H) : Prop where
  present : s.withdrawn = []
  unpaused : s.paused = false
  talk : s.screen.ui.talk = none
  chooser : s.screen.ui.chooser = none
  movie : s.screen.ui.movie.showing = none
  ownerless : ∀ i, s.instance? 0 = some i → i.owner = none

/-- One instance of a script runs, and there are no others. -/
structure Alone (script : Script) (n : Nat) (s : Session H) : Prop extends s.Unhindered where
  copies : s.ensemble.copies = [{ script, cursor := n }]

lemma Unhindered.ignores {a : Aspect}
    (ha : a ≠ .paused ∧ a ≠ .talk ∧ a ≠ .chooser ∧ a ≠ .movie ∧ a ≠ .roster) :
    Ignores (Unhindered (H := H)) a := by
  have hmodify {s : Session H} (h : s.Unhindered) (k : InstanceId)
      {f : Instance H.Predicate → Instance H.Predicate} (hf : ∀ i, (f i).owner = i.owner) :
      (s.modifyInstance k f).Unhindered := by
    refine { h with ownerless := fun i hi => ?_ }
    rw [instance?_modifyInstance] at hi
    split at hi
    · obtain ⟨j, hj, rfl⟩ := Option.map_eq_some_iff.mp hi
      exact (hf j).trans (h.ownerless j hj)
    · exact h.ownerless i hi
  intro s t hc h
  cases hc with
  | paused | talk | chooser | movie | roster => simp at ha
  | cursor | status => exact hmodify h _ fun _ => rfl
  | marks _ k f hf =>
    refine hmodify h k fun i => ?_
    obtain ⟨b, c, ws, hi⟩ := hf i
    rw [hi]
  | _ => exact { h with }

lemma Alone.runs (h : s.Alone script n) : ∃ i, s.instance? 0 = some i ∧ i.script = script ∧
    i.cursor = n ∧ i.status = .running ∧ i.owner = none := by
  have hcopy := s.getElem?_ensemble 0
  rw [h.copies] at hcopy
  obtain ⟨i, hi, hcopy⟩ := Option.map_eq_some_iff.mp hcopy.symm
  obtain ⟨hscript, hcursor, hphase⟩ := Copy.mk.inj hcopy
  exact ⟨i, hi, hscript, hcursor, Status.phase_eq_running.mp hphase, h.ownerless i hi⟩

lemma Alone.changed {A : Set Aspect} (h : s.Alone script n) (hc : Changes A s t)
    (hA : ∀ a ∈ A, a ∈ Aspect.apart ∧
      a ≠ .paused ∧ a ≠ .talk ∧ a ≠ .chooser ∧ a ≠ .movie) : t.Alone script n := by
  refine ⟨hc.ignored (fun a ha => Unhindered.ignores ?_) h.toUnhindered, ?_⟩
  · obtain ⟨⟨-, hroster, -⟩, hpaused, htalk, hchooser, hmovie⟩ := hA a ha
    exact ⟨hpaused, htalk, hchooser, hmovie, hroster⟩
  · exact hc.ignored (I := fun u => u.ensemble.copies = [{ script, cursor := n }])
      (fun a ha _ _ hu => (congrArg Ensemble.copies (hu.ensemble (hA a ha).1)).trans) h.copies

/-- The first instance is the only one on the lists. If it is yet to begin, nobody watches it. -/
def IsListed (s : Session H) : Prop :=
  s.active = [0] ∧ s.pending = [] ∨
    s.active = [] ∧ s.pending = [0] ∧ ∀ i, s.instance? 0 = some i → i.watchers = []

def Advanced (script : Script) (n : Nat) (s : Session H) : Prop :=
  s.HasCompleted 0 ∨ ∃ m, n < m ∧ m < script.size ∧ s.Alone script m

lemma Advanced.hasCompleted (h : s.Advanced script n)
    (hended : s.isActive 0 = false) : s.HasCompleted 0 := by
  rcases h with hdone | ⟨m, -, -, halone⟩
  · exact hdone
  · obtain ⟨i, hi, -, -, hr, -⟩ := halone.runs
    simp [Session.isActive, hi, Instance.isActive_of_running hr] at hended

end Session

lemma Changes.lists {A : Set Aspect} (h : Changes A s t) (hA : .active ∉ A ∧ .pending ∉ A) :
    t.active = s.active ∧ t.pending = s.pending := by
  refine h.ignored (I := fun u => u.active = s.active ∧ u.pending = s.pending) ?_ ⟨rfl, rfl⟩
  intro a ha u v hc hu
  cases hc with
  | active => exact absurd ha hA.1
  | pending => exact absurd ha hA.2
  | _ => exact hu

namespace Engine

lemma step_alone (w : Wiring H) (elapsed : Option Float) (hplain : script.IsPlain)
    (h : s.Alone script n) :
    EndsOnTurn 0 (fun t => Changes (Aspect.turn 0) s t ∧ t.Advanced script n)
      (step w 0 elapsed s) := by
  obtain ⟨i, hi, rfl, rfl, hr, -⟩ := h.runs
  have hensemble : s.ensemble.IsPlain := by
    intro c hc
    rw [h.copies] at hc
    obtain rfl := List.mem_singleton.mp hc
    exact ⟨hplain, nofun⟩
  suffices hadvanced : ∀ t : Session H, Changes (Aspect.turn 0) s t ∧
      t.ensemble = s.ensemble.turn 0 → Changes (Aspect.turn 0) s t ∧
        t.Advanced i.script i.cursor from
    (step_of_running w elapsed h.present hensemble hi hr).weaken (fun _ => hadvanced)
      fun _ t ht => ⟨ht.1, hadvanced t ht.2⟩
  rintro t ⟨hchanges, hturn⟩
  refine ⟨hchanges, ?_⟩
  let p := i.script.advance ⟨i.cursor, s.store⟩
  have hcopies : t.ensemble.copies = [Copy.moved { script := i.script, cursor := i.cursor } p] :=
    (congrArg Ensemble.copies hturn).trans (Ensemble.copies_turn_zero h.copies rfl)
  by_cases hend : i.script.size ≤ p.cursor
  · left
    rw [Session.hasCompleted_iff, hcopies, Copy.moved_of_le hend]
    rfl
  · right
    have hlt : p.cursor < i.script.size := Nat.not_le.mp hend
    refine ⟨p.cursor, Script.lt_advance_of_lt hlt, hlt, ?_, ?_⟩
    · refine hchanges.ignored (fun a ha => Session.Unhindered.ignores ?_) h.toUnhindered
      rcases ha with (rfl | rfl | rfl | rfl | rfl) | (rfl | rfl) <;> simp
    · rw [hcopies, Copy.moved_of_lt hlt]

lemma stepUpTo_of_completed (w : Wiring H) (elapsed : Option Float) (h : s.HasCompleted 0)
    (m : Nat) : stepUpTo w 0 elapsed m s = .ok () s := by
  obtain ⟨i, hi, hdone⟩ := h
  cases m with
  | zero => rfl
  | succ m =>
    have hstep : step w 0 elapsed s = .ok .completed s := by
      unfold step
      rw [bind_of_ok (theInstance_of_some hi), hdone]
      rfl
    unfold stepUpTo
    rw [bind_of_ok (attempt_of_ok hstep)]
    rfl

lemma stepUpTo_succ_alone (w : Wiring H) (elapsed : Option Float) (hplain : script.IsPlain)
    (h : s.Alone script n) (m : Nat) : ∃ t, Changes (Aspect.turn 0) s t ∧ t.Advanced script n ∧
      (stepUpTo w 0 elapsed (m + 1) s = .ok () t ∨
        stepUpTo w 0 elapsed (m + 1) s = stepUpTo w 0 elapsed m t) := by
  have hstep := step_alone w elapsed hplain h
  rw [stepUpTo]
  cases ht : step w 0 elapsed s with
  | ok r t =>
    rw [ht] at hstep
    cases hstep with
    | ok hstep =>
      rw [bind_of_ok (attempt_of_ok ht)]
      cases r with
      | proceed => exact ⟨t, hstep.1, hstep.2, .inr rfl⟩
      | suspended | completed => exact ⟨t, hstep.1, hstep.2, .inl rfl⟩
  | error f t =>
    rw [ht] at hstep
    cases hstep with
    | error hstep =>
      obtain ⟨hended, hchanges, hadvanced⟩ := hstep
      obtain ⟨i, hi, hdone⟩ := hadvanced.hasCompleted hended
      have hended' : i.isActive = false := by simp [Instance.isActive, Status.isActive, hdone]
      let u : Session H := { t with counters := t.counters.countUnexpected }
      obtain ⟨x, hlog, -⟩ := log_apply .error s!"step failed for {u.label 0}, canceling it" u
      refine ⟨u.withScene x, .tail (hchanges.tail ⟨.counters, by simp, .counters t _⟩)
        ⟨.scene, by simp, .scene u x⟩, .inl ⟨i, hi, hdone⟩, .inl ?_⟩
      rw [bind_of_ok (attempt_of_error ht)]
      change (log .error _ >>= fun _ => abort w.services 0) u = _
      rw [bind_of_ok hlog]
      exact abort_of_ended (s := u.withScene x) hi hended' _

lemma stepUpTo_alone (w : Wiring H) (elapsed : Option Float) (hplain : script.IsPlain) (m : Nat)
    (h : s.Alone script n) : ∃ t, stepUpTo w 0 elapsed (m + 1) s = .ok () t ∧
      Changes (Aspect.turn 0) s t ∧ t.Advanced script n := by
  induction m generalizing s n with
  | zero =>
    obtain ⟨t, hchanges, hadvanced, ht | ht⟩ := stepUpTo_succ_alone w elapsed hplain h 0
    · exact ⟨t, ht, hchanges, hadvanced⟩
    · exact ⟨t, ht, hchanges, hadvanced⟩
  | succ m ih =>
    obtain ⟨t, hchanges, hadvanced, ht | ht⟩ := stepUpTo_succ_alone w elapsed hplain h (m + 1)
    · exact ⟨t, ht, hchanges, hadvanced⟩
    rw [ht]
    rcases hadvanced with hdone | ⟨j, hnj, -, hj⟩
    · exact ⟨t, stepUpTo_of_completed w elapsed hdone _, hchanges, .inl hdone⟩
    · obtain ⟨u, hu, hmore, hadvanced⟩ := ih hj
      refine ⟨u, hu, hchanges.trans hmore, hadvanced.imp_right ?_⟩
      rintro ⟨l, hjl, hl⟩
      exact ⟨l, hnj.trans hjl, hl⟩

lemma begin_of_unwatched {k : InstanceId} {i : Instance H.Predicate} (hi : s.instance? k = some i)
    (hw : i.watchers = []) :
    ∃ t, begin k s = .ok () t ∧ Changes {.scene, .marks k} s t := by
  unfold begin
  rw [bind_of_ok (theInstance_of_some hi), hw]
  split
  · refine ⟨_, rfl, .tail (.single ⟨.marks k, by simp, .marks s k _ fun i => ?_⟩)
      ⟨.scene, by simp, .scene _ _⟩⟩
    exact ⟨true, i.counted, i.watchers, rfl⟩
  · exact ⟨s, rfl, .refl⟩

lemma promote_alone (h : s.Alone script n) (hlisted : s.IsListed) :
    ∃ t, promote s = .ok () t ∧ t.Alone script n ∧ t.active = [0] ∧ t.pending = [] := by
  unfold promote
  rw [bind_of_ok (get_apply s), bind_of_ok (modify_apply _ s)]
  rcases hlisted with ⟨hactive, hpending⟩ | ⟨hactive, hpending, hwatchers⟩
  · rw [hpending]
    refine ⟨_, rfl, { h with }, ?_, rfl⟩
    exact congrArg (· ++ []) hactive
  · obtain ⟨i, hi, -⟩ := h.runs
    obtain ⟨t, ht, hchanges⟩ :=
      begin_of_unwatched (s := { s with pending := [] }) hi (hwatchers i hi)
    obtain ⟨hactive', hpending'⟩ := hchanges.lists (by simp)
    have hbegin : beginEach [0] { s with pending := [] } = .ok () t := bind_of_ok ht
    have halone : t.Alone script n :=
      Session.Alone.changed (s := { s with pending := [] }) { h with } hchanges (by simp)
    rw [hpending, bind_of_ok hbegin]
    refine ⟨_, rfl, { halone with }, ?_, hpending'⟩
    change t.active ++ [0] = [0]
    rw [hactive', hactive]
    rfl

lemma dropOrphans_alone (S : Services H.Game) (h : s.Alone script n) (hactive : s.active = [0]) :
    dropOrphans S s = .ok () s := by
  obtain ⟨i, hi, -, -, -, howner⟩ := h.runs
  unfold dropOrphans
  rw [bind_of_ok (get_apply s), hactive, dropOrphansOf, bind_of_ok (theInstance_of_some hi),
    bind_of_ok (get_apply s)]
  simp only [Instance.isOrphaned, howner]
  rfl

lemma updateScreen_alone (S : Services H.Game) (h : s.Alone script n) :
    ∃ x, updateScreen S s = .ok () (s.withUi { s.ui with fade := x }) := by
  refine ⟨s.ui.fade.update, ?_⟩
  let x : Screen H.Game InstanceId := { s.screen with ui := { s.ui with fade := s.ui.fade.update } }
  have hmovie : Stage.updateMovie S x = .ok () x := by
    unfold Stage.updateMovie
    rw [bind_of_ok (get_apply x)]
    simp only [x, Session.ui, h.movie]
    rfl
  have htalk : Stage.releaseIdle S s.holders (x.ui.talk.map (·.holder)) x = .ok () x := by
    simp only [x, Session.ui, h.talk]
    rfl
  have hchooser : Stage.releaseIdle S s.holders x.ui.chooser x = .ok () x := by
    simp only [x, Session.ui, h.chooser]
    rfl
  refine stage_of_ok (a := ()) ?_
  change (Stage.updateMovie S >>= _) x = _
  rw [bind_of_ok hmovie, bind_of_ok (get_apply x), bind_of_ok htalk, bind_of_ok (get_apply x)]
  exact hchooser

lemma stepAll_alone (w : Wiring H) (elapsed : Option Float) (hplain : script.IsPlain)
    (h : s.Alone script n) (hactive : s.active = [0]) :
    ∃ t, stepAll w elapsed s = .ok () t ∧ Changes (Aspect.turn 0) s t ∧ t.Advanced script n := by
  obtain ⟨i, hi, -, -, hr, -⟩ := h.runs
  have hruns : (i.isActive && !(s.paused && i.pausable)) = true := by
    simp [Instance.isActive_of_running hr, h.unpaused]
  obtain ⟨m, hm⟩ := Nat.exists_eq_succ_of_ne_zero s.setup.maxSteps_pos.ne'
  obtain ⟨t, ht, hchanges, hadvanced⟩ := stepUpTo_alone w elapsed hplain m h
  refine ⟨t, ?_, hchanges, hadvanced⟩
  unfold stepAll
  rw [bind_of_ok (get_apply s), hactive, stepEach, bind_of_ok (theInstance_of_some hi),
    bind_of_ok (get_apply s), hruns]
  change (stepUpTo w 0 elapsed s.setup.maxSteps >>= fun _ => stepEach w elapsed []) s = _
  rw [hm, bind_of_ok ht]
  rfl

lemma tick_alone (w : Wiring H) (elapsed : Option Float) (hplain : script.IsPlain)
    (h : s.Alone script n) (hlisted : s.IsListed) :
    ∃ t, tick w elapsed s = .ok () t ∧ (t.HasCompleted 0 ∨
      ∃ m, n < m ∧ m < script.size ∧ t.Alone script m ∧ t.IsListed) := by
  obtain ⟨s₁, hpromote, h₁, hactive₁, hpending₁⟩ :=
    promote_alone (s := { s with ticks := s.ticks + 1 }) { h with } hlisted
  obtain ⟨x, hscreen⟩ := updateScreen_alone w.services h₁
  let s₂ := s₁.withUi { s₁.ui with fade := x }
  have h₂ : s₂.Alone script n := { h₁ with }
  obtain ⟨t, hsteps, hchanges, hadvanced⟩ := stepAll_alone w elapsed hplain h₂ hactive₁
  obtain ⟨hactive, hpending⟩ := hchanges.lists (by simp)
  refine ⟨t.retire, ?_, ?_⟩
  · unfold tick
    rw [bind_of_ok (modify_apply _ s), bind_of_ok hpromote,
      bind_of_ok (dropOrphans_alone w.services h₁ hactive₁), bind_of_ok hscreen, bind_of_ok hsteps]
    rfl
  · rcases hadvanced with hdone | ⟨m, hnm, hm, ht⟩
    · exact .inl hdone
    · refine .inr ⟨m, hnm, hm, { ht with }, .inl ⟨?_, hpending.trans hpending₁⟩⟩
      obtain ⟨i, hi, -, -, hr, -⟩ := ht.runs
      have hisActive : t.isActive 0 = true := by
        simp [Session.isActive, hi, Instance.isActive_of_running hr]
      change t.active.filter t.isActive = [0]
      rw [hactive.trans hactive₁]
      simp [hisActive]

end Engine

namespace Session

lemma Alone.completes (w : Wiring H) (elapsed : Option Float) (hplain : script.IsPlain)
    (h : s.Alone script n) (hlisted : s.IsListed) :
    ∃ d, (s.after w (List.replicate d (.tick elapsed))).HasCompleted 0 := by
  -- What is left of the script gets shorter with every tick.
  induction hleft : script.size - n using Nat.strongRecOn generalizing s n with
  | ind left ih =>
    obtain ⟨t, ht, hdone | ⟨m, hnm, hm, halone, hlisted⟩⟩ :=
      Engine.tick_alone w elapsed hplain h hlisted
    · refine ⟨1, ?_⟩
      change (endState (Engine.tick w elapsed) s).HasCompleted 0
      rwa [endState, ht]
    · obtain ⟨d, hd⟩ := ih (script.size - m) (by omega) halone hlisted rfl
      refine ⟨d + 1, ?_⟩
      change ((endState (Engine.tick w elapsed) s).after w _).HasCompleted 0
      rwa [endState, ht]

/-- Started alone, a plain script completes after some ticks. -/
lemma IsAtStartWith.completes {v : Store} (h : s.IsAtStartWith v) (w : Wiring H)
    (elapsed : Option Float) (hplain : script.IsPlain) :
    ∃ d, (s.after w (.start script none true none ::
      List.replicate d (.tick elapsed))).HasCompleted 0 := by
  obtain ⟨setup, scene, fade, files, rfl⟩ := h.eq_mk
  refine Alone.completes w elapsed hplain (n := 0) ⟨⟨rfl, rfl, rfl, rfl, rfl, ?_⟩, rfl⟩
    (.inr ⟨rfl, rfl, ?_⟩)
  · intro i hi
    obtain rfl := Option.some.inj hi
    rfl
  · intro i hi
    obtain rfl := Option.some.inj hi
    rfl

end Session

end EventScript
