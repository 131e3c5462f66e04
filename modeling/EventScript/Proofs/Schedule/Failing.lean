import EventScript.Proofs.Prompt.Stage
import EventScript.Proofs.Schedule.Status
import EventScript.Proofs.Session.Run

/-! Steps that fail as a whole. In a game that closes its prompts without failing, that takes a
watcher that fails when it is told of an end, and so the instance has ended. -/

namespace EventScript

variable {H : Host} {w : Wiring H} {elapsed : Option Float}

/-- The game closes prompts and looks at videos without failing. -/
structure Services.Settles {σ : Type} (S : Services σ) : Prop where
  closeDialog : Returns (S.perform .closeDialog)
  closeSelection : Returns (S.perform .closeSelection)
  videoStopped : ∀ v, Returns (S.videoStopped v)

/-! ### Computations that return -/

section Returns

variable {ε σ α β : Type}

lemma Returns.pure (a : α) : Returns (pure a : EStateM ε σ α) := fun s => ⟨a, s, rfl⟩

lemma Returns.get : Returns (get : EStateM ε σ σ) := fun s => ⟨s, s, rfl⟩

lemma Returns.modify (f : σ → σ) : Returns (modify f : EStateM ε σ PUnit) := fun s => ⟨_, f s, rfl⟩

lemma Returns.bind {p : EStateM ε σ β} {f : β → EStateM ε σ α} (hp : Returns p)
    (hf : ∀ b, Returns (f b)) : Returns (p >>= f) := by
  intro s
  obtain ⟨b, t, h⟩ := hp s
  rw [bind_of_ok h]
  exact hf b t

lemma Returns.ite {c : Prop} [Decidable c] {p q : EStateM ε σ α} (hp : Returns p)
    (hq : Returns q) : Returns (if c then p else q) := by
  split
  · exact hp
  · exact hq

lemma endState_of_ok {p : EStateM ε σ α} {s t : σ} {a : α} (h : p s = .ok a t) :
    endState p s = t := by
  unfold endState
  rw [h]

end Returns

lemma endState_of_error {ε σ α : Type} {p : EStateM ε σ α} {s t : σ} {e : ε}
    (h : p s = .error e t) : endState p s = t := by
  unfold endState
  rw [h]

lemma Stage.play_returns {σ η α : Type} {p : Play σ α} (hp : Returns p) :
    Returns (play p : Stage σ η α) := by
  intro x
  obtain ⟨a, scene, h⟩ := play_of_returns hp x
  exact ⟨a, _, h⟩

lemma Engine.stage_returns {α : Type} {p : Stage H.Game InstanceId α} (hp : Returns p)
    (s : Session H) : ∃ a x, stage p s = .ok a { s with screen := x } := by
  obtain ⟨a, x, h⟩ := hp s.screen
  exact ⟨a, x, stage_of_ok h⟩

section Screen

variable {σ η : Type} {S : Services σ}

lemma Stage.stopMovie_returns (hlook : ∀ v, Returns (S.videoStopped v))
    (hstop : ∀ v, Returns (S.stopVideo v)) : Returns (stopMovie S : Stage σ η Unit) := by
  refine Returns.get.bind fun x => ?_
  dsimp only
  split
  · exact .pure _
  · refine (play_returns (hlook _)).bind fun stopped => ?_
    exact .ite ((play_returns (hstop _)).bind fun _ => .modify _) (.modify _)

lemma Stage.reset_returns (hS : S.Settles) (hstop : ∀ v, Returns (S.stopVideo v)) :
    Returns (reset S : Stage σ η Unit) := by
  have hclear : Returns (clear S : Stage σ η Unit) :=
    (Returns.modify _).bind fun _ => (stopMovie_returns hS.videoStopped hstop).bind fun _ =>
      .modify _
  have hchooser : Returns (resetSelection S : Stage σ η Unit) :=
    Returns.get.bind fun _ => .ite ((Returns.modify _).bind fun _ =>
      (play_returns hS.closeSelection).bind fun _ => hclear) hclear
  exact Returns.get.bind fun x => .ite
    ((Returns.modify _).bind fun _ => (play_returns hS.closeDialog).bind fun _ => hchooser) hchooser

variable [DecidableEq η]

lemma Stage.release_returns (hdialog : Returns (S.perform .closeDialog))
    (hselection : Returns (S.perform .closeSelection)) (who : η) : Returns (release S who) := by
  intro x
  obtain ⟨scene, h⟩ := release_clears hdialog hselection who x
  exact ⟨_, _, h⟩

lemma Services.Settles.release (hS : S.Settles) (who : η) : Returns (Stage.release S who) :=
  Stage.release_returns hS.closeDialog hS.closeSelection who

lemma Stage.update_returns (hS : S.Settles) (holders : Holders η) :
    Returns (update S holders) := by
  have hmovie : Returns (updateMovie S : Stage σ η Unit) := by
    refine Returns.get.bind fun x => ?_
    dsimp only
    split
    · exact .pure _
    · exact (play_returns (hS.videoStopped _)).bind fun _ => .ite (.modify _) (.pure _)
  have hidle (h : Option η) : Returns (releaseIdle S holders h) := by
    cases h with
    | none => exact .pure _
    | some k => exact .ite (hS.release k) (.pure _)
  refine (Returns.modify _).bind fun _ => hmovie.bind fun _ => Returns.get.bind fun _ => ?_
  exact (hidle _).bind fun _ => Returns.get.bind fun _ => hidle _

end Screen

namespace Engine

variable {id : InstanceId} {s : Session H}

lemma abort_cases {S : Services H.Game} (hS : S.Settles) {i : Instance H.Predicate}
    (hi : s.instance? id = some i) (hactive : i.isActive = true) :
    ∃ (x : Screen H.Game InstanceId) (a : Aftermath H),
      a.Follows { s with screen := x } i .cancel ∧ abort S id s =
        if i.watchers.any (s.fails .cancel)
        then .error .watcherFailed (Session.closed { s with screen := x } id .canceled a)
        else .ok () (Session.closed { s with screen := x } id .canceled a) := by
  obtain ⟨_, x, hrel⟩ := stage_returns (hS.release id) s
  obtain ⟨a, ha, hcancel⟩ := terminate_of_active (s := { s with screen := x }) hi hactive
    .canceled (fun i => s!"cancel at command {i.cursor}") .cancel
  exact ⟨x, a, ha, (abort_of_active hi hactive hrel).trans hcancel⟩

end Engine

lemma present_dependsOnStatus (k : InstanceId) :
    DependsOnStatus fun s : Session H => s.status? k ≠ none where
  ignores a ha s t hc hs := by
    rcases hc.status?_or (ha k) with h | ⟨h, -⟩
    · rwa [h]
    · exact absurd h hs
  moves s j x y _ _ _ hs := by
    rw [s.status?_setStatus]
    split
    · cases h : s.status? k with
      | none => exact absurd h hs
      | some z => simp
    · exact hs

lemma Session.instance?_ne_none {s : Session H} {k : InstanceId} :
    s.instance? k ≠ none ↔ s.status? k ≠ none := by
  simp [status?]

/-! ### Steps that fail -/

namespace Triple

variable {ε σ α β : Type} {P P' : σ → Prop} {Q : α → σ → Prop} {E : ε → σ → Prop}

lemma of_imp {p : EStateM ε σ α} (h : Triple P p Q E) (hP : ∀ s, P' s → P s) : Triple P' p Q E :=
  h.weaken hP (fun _ _ h => h) fun _ _ h => h

lemma following {q : EStateM ε σ β} {f : β → EStateM ε σ α} (hq : Preserves P q)
    (hreturns : Returns q) (hf : ∀ b, Triple P (f b) Q E) : Triple P (q >>= f) Q E := by
  intro s hs
  obtain ⟨b, t, h⟩ := hreturns s
  have ht := hq.endState hs
  rw [endState_of_ok h] at ht
  rw [bind_of_ok h]
  exact hf b t ht

end Triple

namespace Engine

lemma attempt_returns {α : Type} (p : Engine H α) : Returns (attempt p) := by
  intro s
  cases h : p s with
  | ok a t => exact ⟨_, _, attempt_of_ok h⟩
  | error f t => exact ⟨_, _, attempt_of_error h⟩

lemma returns_stage {α : Type} {p : Stage H.Game InstanceId α} (hp : Returns p) :
    Returns (stage p : Engine H α) := by
  intro s
  obtain ⟨a, x, h⟩ := stage_returns hp s
  exact ⟨a, _, h⟩

lemma logFor_returns (id : InstanceId) (level : LogLevel) (text : String) :
    Returns (logFor id level text : Engine H Unit) := by
  intro s
  obtain ⟨x, h, -⟩ := logFor_apply id level text s
  exact ⟨_, _, h⟩

def IsSteppable (id : InstanceId) (s : Session H) : Prop := s.IsHostless ∧ s.status? id ≠ none

def IsWaiting (id : InstanceId) (s : Session H) : Prop :=
  IsSteppable id s ∧ ∃ x, s.status? id = some (.suspended x)

lemma isSteppable_dependsOnStatus (id : InstanceId) : DependsOnStatus (IsSteppable (H := H) id) :=
  isHostless_dependsOnStatus.and (present_dependsOnStatus id)

lemma isSteppable_count {id : InstanceId} (f : Counters → Counters) :
    Preserves (IsSteppable id) (count f : Engine H Unit) :=
  (isSteppable_dependsOnStatus id).within (count_within (A := {.counters}) (by simp) f) (by simp)

lemma isWaiting_within {α : Type} {id : InstanceId} {A : Set Aspect} {p : Engine H α}
    (hp : Within A p) (hA : ∀ k, .status k ∉ A) : Preserves (IsWaiting id) p := by
  refine hp.preserves fun a ha s t hc hs => ?_
  have hstatus (k : InstanceId) : a ≠ .status k := fun h => hA k (h ▸ ha)
  obtain ⟨x, hx⟩ := hs.2
  exact ⟨(isSteppable_dependsOnStatus id).ignores a hstatus s t hc hs.1, x,
    status?_ignores_of_ne (hstatus id) s t hc hx⟩

def HasStopped (id : InstanceId) (_ : Fault) (s : Session H) : Prop := s.isActive id = false

variable {id : InstanceId}

lemma theSteppable_bind {α : Type} {f : Instance H.Predicate → Engine H α}
    {Q : α → Session H → Prop} {E : Fault → Session H → Prop}
    (hf : ∀ i, Triple (fun s => IsSteppable id s ∧ s.instance? id = some i) (f i) Q E) :
    Triple (IsSteppable id) (theInstance id >>= f) Q E :=
  theInstance_bind hf fun _ hs hi => absurd hi (Session.instance?_ne_none.mpr hs.2)

lemma terminate_faults {x : Status H.Predicate} (hx : x.isActive = false)
    (text : Instance H.Predicate → String) (o : Occasion) :
    Triple (IsSteppable id) (terminate id x text o) (fun _ t => t.isActive id = false)
      (HasStopped id) := by
  intro s hs
  obtain ⟨i, hi⟩ := Option.ne_none_iff_exists'.mp (Session.instance?_ne_none.mpr hs.2)
  cases hactive : i.isActive with
  | false =>
    have hend : terminate id x text o s = .ok () s := by
      unfold terminate
      rw [bind_of_ok (theInstance_of_some hi), hactive]
      rfl
    exact .of_ok hend (by simpa [Session.isActive, hi] using hactive)
  | true =>
    obtain ⟨a, -, hend⟩ := terminate_of_active hi hactive x text o
    have hclosed : (s.closed id x a).isActive id = false := by
      simp [Session.isActive, Session.instance?_closed, hi, Instance.isActive, hx]
    rw [hend]
    split
    · exact .error hclosed
    · exact .ok hclosed

lemma abort_faults (hS : w.services.Settles) : Triple (IsSteppable id) (abort w.services id)
    (fun _ t => t.isActive id = false) (HasStopped id) := by
  have hI := (isSteppable_dependsOnStatus (H := H) id).turnKeeps w id
  refine theSteppable_bind fun i => Triple.ite (fun _ => ?_) fun hactive => Triple.pure fun s hs => ?_
  · refine (Triple.following hI.release (returns_stage (hS.release id)) fun _ => ?_).of_imp
      fun _ hs => hs.1
    exact terminate_faults (x := .canceled) rfl _ _
  · simpa [Session.isActive, hs.2] using hactive

lemma finish_ends : Triple (IsSteppable id) (finish id : Engine H StepResult)
    (fun r t => r = .proceed → t.isActive id = true) (HasStopped id) := by
  refine theSteppable_bind fun i => Triple.ite (fun _ => Triple.pure (by simp)) fun hactive => ?_
  refine Triple.ite (fun _ => ?_) fun _ => Triple.pure fun s hs _ => ?_
  · exact ((terminate_faults (x := .completed) rfl _ _).of_imp fun _ hs => hs.1).bind fun _ =>
      Triple.pure (by simp)
  · simpa [Session.isActive, hs.2] using hactive

lemma settle_ends : Triple (IsSteppable id) (settle id : Engine H StepResult)
    (fun r t => r = .proceed → t.isActive id = true) (HasStopped id) := by
  refine theSteppable_bind fun i => Triple.of_imp (P := IsSteppable id) ?_ fun _ hs => hs.1
  refine Triple.ite (fun _ => ?_) fun _ => finish_ends
  exact .following (isSteppable_count _) (.modify _) fun _ => Triple.pure (by simp)

lemma runCommandAt_ends (hS : w.services.Settles) (c : Command) :
    Triple (IsSteppable id) (runCommandAt w id c)
      (fun r t => r = .proceed → t.isActive id = true) (HasStopped id) := by
  have hI := (isSteppable_dependsOnStatus (H := H) id).turnKeeps w id
  have hcursor (n : Nat) : Preserves (IsSteppable id) (setCursor id n : Engine H Unit) :=
    (setCursor_within (A := {.cursor id}) (by simp) n).preserves fun a ha =>
      (isSteppable_dependsOnStatus id).ignores a fun k hk => by simp [hk] at ha
  have hexecute := attempt_leads
    (hI.execute (fun _ hs => hs.1) (c := c) fun _ x _ _ _ => hI.carryOut x)
  refine theSteppable_bind fun i => Triple.of_imp (P := IsSteppable id) ?_ fun _ hs => hs.1
  refine .following (hcursor _) (.modify _) fun _ => ?_
  refine .following hexecute (attempt_returns _) fun r => ?_
  split
  · exact settle_ends
  · refine .following (isSteppable_count _) (.modify _) fun _ => ?_
    refine .following (hI.logFor _ _ _) (logFor_returns _ _ _) fun _ => ?_
    exact (abort_faults hS).bind fun _ => Triple.pure (by simp)
  · exact .following (isSteppable_count _) (.modify _) fun _ =>
      .following (hI.logFor _ _ _) (logFor_returns _ _ _) fun _ => settle_ends
  · exact .following (isSteppable_count _) (.modify _) fun _ =>
      .following (hI.logFor _ _ _) (logFor_returns _ _ _) fun _ => settle_ends

lemma poll_keepsWaiting (w : Wiring H) (elapsed : Option Float) (x : Wait H.Predicate) :
    Leads (fun s => IsSteppable id s ∧ s.status? id = some (.suspended x)) (poll w id elapsed x)
      (IsWaiting id) := by
  rintro s ⟨hs, hx⟩
  have hpoll {A : Set Aspect} (hp : Within A (pollWait w id elapsed x)) (hA : ∀ k, .status k ∉ A) :
      Ends (fun _ => IsWaiting id) (fun _ => IsWaiting id) (pollWait w id elapsed x s) :=
    isWaiting_within hp hA s ⟨hs, x, hx⟩
  rw [poll_of_hostless hs.1]
  cases x with
  | dialogue =>
    exact hpoll (waitDialogue_within (A := {.scene, .talk}) (by simp) (by simp) _ id) (by simp)
  | sleep remaining =>
    cases elapsed with
    | none => exact .error ⟨hs, _, hx⟩
    | some y =>
      refine .ok ⟨(isSteppable_dependsOnStatus id).moves s id _ _ hx rfl (by simp) hs,
        .sleep (remaining - y), ?_⟩
      refine (s.status?_setStatus id id _).trans ?_
      rw [if_pos rfl, hx]
      rfl
  | fadeOut | fadeIn => exact .ok ⟨hs, _, hx⟩
  | selection out =>
    exact hpoll (waitSelection_within (A := {.scene, .chooser, .store}) (by simp) (by simp)
      (by simp) _ id out) (by simp)
  | movie => exact hpoll (movieEnded_within (A := {.scene}) (by simp) _) (by simp)
  | host p => exact absurd hx (hs.1.own id p)

lemma reportWait_ends (hS : w.services.Settles) (f : Fault) :
    Triple (IsWaiting id) (reportWait w.services id f)
      (fun _ t => IsSteppable id t ∧ (t.isActive id = true → IsWaiting id t)) (HasStopped id) := by
  have hcount (g : Counters → Counters) : Preserves (IsWaiting id) (count g : Engine H Unit) :=
    isWaiting_within (count_within (A := {.counters}) (by simp) g) (by simp)
  have hlog (level : LogLevel) (text : String) :
      Preserves (IsWaiting id) (logFor id level text : Engine H Unit) :=
    isWaiting_within (logFor_within (A := {.scene}) (by simp) id level text) (by simp)
  have htag {α : Type} {f : String → Engine H α} {Q : α → Session H → Prop}
      {E : Fault → Session H → Prop} (hf : ∀ tag, Triple (IsWaiting id) (f tag) Q E) :
      Triple (IsWaiting id) (waitTag id >>= f) Q E := by
    intro s hs
    obtain ⟨x, hx⟩ := hs.2
    obtain ⟨i, hi, hix⟩ := Option.map_eq_some_iff.mp hx
    have h : waitTag id s = .ok x.kind.tag s := by
      unfold waitTag
      rw [bind_of_ok (theInstance_of_some hi), hix]
      rfl
    rw [bind_of_ok h]
    exact hf _ s hs
  have hdone {p : Engine H Unit} (hp : Preserves (IsWaiting id) p) (hreturns : Returns p) :
      Triple (IsWaiting id) p (fun _ t => IsSteppable id t ∧ (t.isActive id = true → IsWaiting id t))
        (HasStopped id) := by
    intro s hs
    obtain ⟨_, t, h⟩ := hreturns s
    have ht := hp.endState hs
    rw [endState_of_ok h] at ht
    exact .of_ok h ⟨ht.1, fun _ => ht⟩
  unfold reportWait
  split
  · refine .following (hcount _) (.modify _) fun _ => htag fun _ => ?_
    refine .following (hlog _ _) (logFor_returns _ _ _) fun _ => ?_
    have habort := ((isSteppable_dependsOnStatus (H := H) id).turnKeeps w id).abort
    refine ((abort_faults hS).and_preserves habort).weaken (fun _ hs => ⟨hs.1, hs.1⟩) ?_
      fun _ _ h => h.2
    exact fun _ t ht => ⟨ht.1, fun hactive => absurd (ht.2.symm.trans hactive) (by simp)⟩
  · exact .following (hcount _) (.modify _) fun _ => htag fun _ =>
      hdone (hlog _ _) (logFor_returns _ _ _)
  · exact .following (hcount _) (.modify _) fun _ => htag fun _ =>
      hdone (hlog _ _) (logFor_returns _ _ _)

lemma checkWait_ends (hS : w.services.Settles) (elapsed : Option Float) (x : Wait H.Predicate) :
    Triple (fun s => IsSteppable id s ∧ s.status? id = some (.suspended x))
      (checkWait w id elapsed x)
      (fun ready t => IsSteppable id t ∧ (ready = true → IsWaiting id t)) (HasStopped id) := by
  intro s hs
  obtain ⟨r, t, h⟩ := attempt_returns (poll w id elapsed x) s
  have ht := (attempt_leads (poll_keepsWaiting w elapsed x)).endState hs
  rw [endState_of_ok h] at ht
  unfold checkWait
  rw [bind_of_ok h]
  have hrelease : Preserves (IsWaiting id)
      (stage (Stage.release w.services id) : Engine H Unit) :=
    isWaiting_within (release_within (A := {.scene, .talk, .chooser}) (by simp) (by simp) (by simp)
      _ id) (by simp)
  cases r with
  | ok ready => exact .ok ⟨ht.1, fun _ => ht⟩
  | error f =>
    refine (reportWait_ends hS f).bind (fun _ => ?_) t ht
    refine theInstance_bind (fun i => Triple.ite (fun _ => Triple.pure ?_) fun hactive => ?_) ?_
    · exact fun u hu => ⟨hu.1.1, nofun⟩
    · refine Triple.of_imp (P := IsWaiting id) ?_ fun u hu => hu.1.2 ?_
      · exact .following hrelease (returns_stage (hS.release id)) fun _ =>
          Triple.pure fun u hu => ⟨hu.1, fun _ => hu⟩
      · simpa [Session.isActive, hu.2] using hactive
    · exact fun u hu hi => absurd hi (Session.instance?_ne_none.mpr hu.1.2)

lemma step_ends (hS : w.services.Settles) (elapsed : Option Float) :
    Triple (IsSteppable id) (step w id elapsed) (fun r t => r = .proceed → t.isActive id = true)
      (HasStopped id) := by
  refine theSteppable_bind fun i => ?_
  split
  · exact Triple.pure (by simp)
  · exact Triple.pure (by simp)
  · next x hx =>
    refine ((checkWait_ends hS elapsed x).of_imp ?_).bind fun ready =>
    Triple.ite (fun _ => ?_) fun _ => ?_
    · exact fun s hs => ⟨hs.1, by simp [Session.status?, hs.2, hx]⟩
    · rintro s ⟨-, hs⟩
      obtain ⟨hs, y, hy⟩ := hs ‹_›
      obtain ⟨j, hj, hjy⟩ := Option.map_eq_some_iff.mp hy
      have hresume := ((isSteppable_dependsOnStatus (H := H) id).turnKeeps w id).resume.endState hs
      rw [endState_of_ok (resume_of_suspended hj hjy)] at hresume
      rw [bind_of_ok (resume_of_suspended hj hjy)]
      exact finish_ends _ hresume
    · refine Triple.of_imp (P := IsSteppable id) ?_ fun _ hs => hs.1
      refine theSteppable_bind fun j => Triple.pure fun _ _ hj => ?_
      split at hj <;> cases hj
  · split
    · exact ((terminate_faults (x := .completed) rfl _ _).of_imp fun _ hs => hs.1).bind fun _ =>
        Triple.pure (by simp)
    · exact (runCommandAt_ends hS _).of_imp fun _ hs => hs.1

end Engine

end EventScript
