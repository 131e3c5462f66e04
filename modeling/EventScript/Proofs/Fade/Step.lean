import EventScript.Proofs.Prompt.Poll

/-! What becomes of the fade while an instance waits for the screen to be dark. Only commands that
fade and the openings of ticks touch it, and a new game, but that leaves nobody waiting. -/

namespace EventScript

def Instruction.fades : Instruction → Bool
  | fadeOut | fadeIn => true
  | _ => false

variable {H : Host} {w : Wiring H} {s t : Session H} {k id : InstanceId}

/-- While the instance waits for the screen to be dark, `P` holds of the two lists of the schedule
and of the fade. -/
structure Session.InDark (k : InstanceId) (P : List InstanceId → List InstanceId → Fade → Prop)
    (s : Session H) : Prop where
  hostless : s.IsHostless
  dark : s.status? k = some (.suspended .fadeOut) → P s.active s.pending s.ui.fade

def Listed (k : InstanceId) (Q : Fade → Prop) (active pending : List InstanceId) (f : Fade) : Prop :=
  k ∈ active ++ pending → Q f

variable {P : List InstanceId → List InstanceId → Fade → Prop} {Q : Fade → Prop}

namespace Session.InDark

lemma ignores {a : Aspect} (hfade : a = .fade → ∀ l m f g, P l m f → P l m g)
    (hactive : a ≠ .active) (hpending : a ≠ .pending) (hstatus : ∀ j, a ≠ .status j) :
    Ignores (Session.InDark (H := H) k P) a := by
  intro s t hc hs
  refine ⟨isHostless_dependsOnStatus.ignores a hstatus s t hc hs.hostless, fun hwait => ?_⟩
  have hwait' : s.status? k = some (.suspended .fadeOut) := by
    rcases hc.status?_or (hstatus k) with h | ⟨-, h⟩
    · exact h ▸ hwait
    · simp [h] at hwait
  cases hc with
  | active | pending => contradiction
  | fade => exact hfade rfl _ _ _ _ (hs.dark hwait')
  | _ => exact hs.dark hwait'

lemma within {α : Type} {A : Set Aspect} {p : Engine H α} (hp : Within A p)
    (hA : .fade ∉ A ∧ .active ∉ A ∧ .pending ∉ A ∧ ∀ j, .status j ∉ A) :
    Preserves (Session.InDark k P) p :=
  hp.preserves fun _ ha => ignores (fun h => absurd (h ▸ ha) hA.1) (fun h => hA.2.1 (h ▸ ha))
    (fun h => hA.2.2.1 (h ▸ ha)) fun j h => hA.2.2.2 j (h ▸ ha)

lemma imp {P' : List InstanceId → List InstanceId → Fade → Prop}
    (h : ∀ l m f, P l m f → P' l m f) (hs : s.InDark k P) : s.InDark k P' :=
  ⟨hs.hostless, fun hwait => h _ _ _ (hs.dark hwait)⟩

lemma lists {P' : List InstanceId → List InstanceId → Fade → Prop} {l m : List InstanceId}
    (h : P s.active s.pending s.ui.fade → P' l m s.ui.fade) (hs : s.InDark k P) :
    Session.InDark k P' { s with active := l, pending := m } :=
  ⟨hs.hostless.same rfl rfl rfl, fun hwait => h (hs.dark hwait)⟩

lemma setStatus {i : Instance H.Predicate} {y : Status H.Predicate}
    (hi : s.instance? id = some i) (hactive : i.isActive = true)
    (hhost : ∀ p, y ≠ .suspended (.host p)) (hy : y ≠ .suspended .fadeOut)
    (hs : s.InDark k P) :
    Session.InDark k P (s.modifyInstance id ({ · with status := y })) := by
  refine ⟨isHostless_dependsOnStatus.setStatus hi hactive hhost hs.hostless, fun hwait => ?_⟩
  rw [s.status?_setStatus] at hwait
  split at hwait
  · obtain ⟨-, -, h⟩ := Option.map_eq_some_iff.mp hwait
    exact absurd h hy
  · exact hs.dark hwait

end Session.InDark

namespace Engine

open Session.InDark

/-! ### The lives of instances -/

lemma suspend_inDark {x : Wait H.Predicate} (hhost : x.kind ≠ .host) (hx : x.kind ≠ .fadeOut) :
    Preserves (Session.InDark k P) (suspend id x) := by
  refine theInstance_bind (fun i => ?_) fun _ hs _ => hs
  split
  · next hr =>
    refine Leads.modify fun s hs =>
      hs.1.setStatus hs.2 (Instance.isActive_of_running hr) ?_ ?_ <;> rintro h
    · intro h'
      simp [Status.suspended.inj h', Wait.kind] at hhost
    · simp [Status.suspended.inj h, Wait.kind] at hx
  · exact Leads.throw fun _ hs => hs.1

lemma resume_inDark : Preserves (Session.InDark k P) (resume id : Engine H Unit) := by
  refine theInstance_bind (fun i => ?_) fun _ hs _ => hs
  split
  · next x hx =>
    refine Leads.modify fun s hs => hs.1.setStatus hs.2 ?_ (by simp) (by simp)
    simp [Instance.isActive, Status.isActive, hx]
  · exact Leads.throw fun _ hs => hs.1

lemma terminate_inDark {x : Status H.Predicate} (hx : ∀ y, x ≠ .suspended y)
    (text : Instance H.Predicate → String) (o : Occasion) :
    Preserves (Session.InDark k P) (terminate id x text o) := by
  refine theInstance_bind (fun i => ?_) fun _ hs _ => hs
  refine Leads.ite (fun hactive => ?_) fun _ => Leads.pure fun _ hs => hs.1
  refine Leads.bind (Leads.modify fun s hs =>
    hs.1.setStatus hs.2 hactive (fun _ => hx _) (hx _)) fun _ => ?_
  exact within (A := {.scene, .counters, .watchers, .marks id})
    (logEnded_within id (by simp) (by simp) (by simp) (by simp) _ o) (by simp)

lemma complete_inDark : Preserves (Session.InDark k P) (complete id : Engine H Unit) :=
  terminate_inDark (by simp) _ _

lemma theInstance_inDark :
    Preserves (Session.InDark k P) (theInstance id : Engine H (Instance H.Predicate)) :=
  within (theInstance_within (A := ∅) id) (by simp)

lemma count_inDark (f : Counters → Counters) :
    Preserves (Session.InDark k P) (count f : Engine H Unit) :=
  within (count_within (A := {.counters}) rfl f) (by simp)

lemma log_inDark (level : LogLevel) (text : String) :
    Preserves (Session.InDark k P) (log level text : Engine H Unit) :=
  within (log_within (A := {.scene}) rfl level text) (by simp)

lemma logFor_inDark (level : LogLevel) (text : String) :
    Preserves (Session.InDark k P) (logFor id level text : Engine H Unit) :=
  within (logFor_within (A := {.scene}) rfl id level text) (by simp)

lemma release_inDark (S : Services H.Game) :
    Preserves (Session.InDark k P) (stage (Stage.release S id) : Engine H Unit) :=
  within (release_within (A := {.scene, .talk, .chooser}) (by simp) (by simp) (by simp) S id)
    (by simp)

lemma abort_inDark (S : Services H.Game) :
    Preserves (Session.InDark k P) (abort S id : Engine H Unit) :=
  (Modular.preserves _).abort (release_inDark S) (terminate_inDark (by simp) _ _)

lemma finish_inDark : Preserves (Session.InDark k P) (finish id : Engine H StepResult) :=
  (Modular.preserves _).finish complete_inDark

lemma settle_inDark : Preserves (Session.InDark k P) (settle id : Engine H StepResult) :=
  (Modular.preserves _).settle complete_inDark (count_inDark _)

lemma start_inDark (script : Script) (owner : Option EntityId) (pausable : Bool)
    (watcher : Option String) : Preserves (Session.InDark k (Listed k Q))
      (start script owner pausable watcher : Engine H InstanceId) := by
  have hless := isHostless_dependsOnStatus.within (start_within (H := H) (A := Aspect.starting)
    subset_rfl script owner pausable watcher) (by simp)
  refine Leads.of_endState fun s hs => ?_
  have hless := hless.endState hs.hostless
  rw [endState_of_ok (start_apply script owner pausable watcher s)] at hless ⊢
  refine ⟨hless, fun hwait hlisted => ?_⟩
  have hpush := s.status?_push (i := {
    id := s.roster.size, script, owner
    ownerName := (owner.bind s.scene.entity?).map (·.name)
    pausable, watchers := watcher.toList, counted := true }) k
  have hwait' := hpush.symm.trans hwait
  split at hwait'
  · simp at hwait'
  · next hne =>
    have hk : k ∈ s.active ++ s.pending := by simpa [hne, or_assoc] using hlisted
    exact hs.dark hwait' hk

/-! ### Steps -/

lemma carryOut_inDark (S : Services H.Game) {x : Instruction} (hx : x.fades = false) :
    Preserves (Session.InDark k (Listed k Q)) (carryOut S id x) := by
  have hsuspend (y : Wait H.Predicate) (hhost : y.kind ≠ .host) (hy : y.kind ≠ .fadeOut) :
      Preserves (Session.InDark k (Listed k Q)) (suspend id y) := suspend_inDark hhost hy
  have hacting : Acting S fun p : Engine H _ => Preserves (Session.InDark k (Listed k Q)) p :=
    preserves_acting (ignores (by simp) (by simp) (by simp) (by simp)) S
  cases x with
  | fadeOut | fadeIn => cases hx
  | assign x n => exact within (assign_within (A := {.store}) rfl x n) (by simp)
  | add x n => exact within (add_within (A := {.store}) rfl x n) (by simp)
  | talk first last =>
    exact hacting.talk (fun _ => within (beginTalk_within (A := {.scene, .talk}) (by simp)
      (by simp) S _ id first last) (by simp)) (hsuspend _ (by simp [Wait.kind]) (by simp [Wait.kind]))
  | choose a b question out =>
    exact hacting.choose (fun _ => within (beginSelection_within (A := {.chooser}) rfl _ id)
      (by simp)) (hsuspend _ (by simp [Wait.kind]) (by simp [Wait.kind])) a b question
  | sleep n =>
    exact (Modular.preserves _).sleep (fun _ => hsuspend _ (by simp [Wait.kind])
      (by simp [Wait.kind])) n
  | playMovie file color =>
    exact within ((playMovie_within (A := {.scene, .movie}) (by simp) (by simp) S file color).bind
      fun _ => .pure _) (by simp)
  | stopMovie =>
    exact within (stopMovie_within (A := {.scene, .movie}) (by simp) (by simp) S) (by simp)
  | waitMovieEnd =>
    exact (within (movieEnded_within (A := {.scene}) rfl S) (by simp)).bind fun _ =>
      .ite (hsuspend _ (by simp [Wait.kind]) (by simp [Wait.kind])) (.pure _)
  | runScript file =>
    have hstart : Preserves (Session.InDark k (Listed k Q)) (do
        let script ← loadHere S file
        let owner := (← owner? id).map (·.1)
        let _ ← start script owner true none : Engine H Unit) := by
      refine (within (loadHere_within (A := Aspect.beside) subset_rfl S file)
        (by simp)).bind fun _ => ?_
      refine (within (owner?_within (A := ∅) id) (by simp)).bind fun _ => ?_
      exact (start_inDark _ _ _ _).bind fun _ => .pure _
    exact Preserves.get.bind fun _ => Leads.guard (fun _ h => h) hstart
  | _ => exact within (carryOut_beside (A := Aspect.beside) subset_rfl S id rfl) (by simp)

lemma execute_inDark {c : Command} (hc : ∀ x, c.instruction? = some x → x.fades = false) :
    Preserves (Session.InDark k (Listed k Q)) (execute w id c) := by
  cases herror : c.error with
  | some e =>
    unfold execute
    rw [herror]
    exact theInstance_inDark.bind fun _ => .throw _
  | none =>
    unfold execute
    rw [herror]
    refine (count_inDark _).bind fun _ => ?_
    cases hkind : c.kind with
    | builtin v =>
      refine Preserves.get.bind fun s => Leads.guard (fun _ h => h) ?_
      cases hx : Instruction.ofArgs? v c.args with
      | none => exact Preserves.throw _
      | some x =>
        have hfades := hc x ((Command.instruction?_of herror hkind).trans hx)
        refine Preserves.ite ?_ (carryOut_inDark _ hfades)
        exact within (steer_within (A := {.cursor id}) rfl _ _) (by simp)
    | unknown =>
      refine Triple.get_bind fun s hs => ?_
      rw [hs.hostless.noCommands]
      rintro _ rfl
      exact .error hs
    | invalid => exact .throw _

lemma runCommandAt_inDark {c : Command} (hc : ∀ x, c.instruction? = some x → x.fades = false) :
    Preserves (Session.InDark k (Listed k Q)) (runCommandAt w id c) :=
  (Modular.preserves _).runCommandAt (count_inDark _) (fun _ => count_inDark _) (count_inDark _)
    logFor_inDark (fun _ => within (setCursor_within (A := {.cursor id}) rfl _) (by simp))
    (attempt_leads (execute_inDark hc)) settle_inDark (abort_inDark _)

lemma reportWait_inDark (S : Services H.Game) (f : Fault) :
    Preserves (Session.InDark k P) (reportWait S id f) :=
  (Modular.preserves _).reportWait (count_inDark _) (fun _ => count_inDark _) (count_inDark _)
    logFor_inDark (abort_inDark S) f

lemma poll_inDark (elapsed : Option Float) (x : Wait H.Predicate) :
    Leads (fun s => s.InDark k P ∧ s.status? id = some (.suspended x)) (poll w id elapsed x)
      (Session.InDark k P) := by
  rintro s ⟨hs, hx⟩
  rw [poll_of_hostless hs.hostless]
  cases x with
  | dialogue =>
    exact within (waitDialogue_within (A := {.scene, .talk}) (by simp) (by simp) w.services id)
      (by simp) s hs
  | sleep remaining =>
    cases elapsed with
    | none => exact .error hs
    | some y =>
      obtain ⟨i, hi, hwait⟩ := Option.map_eq_some_iff.mp hx
      have hactive : i.isActive = true := by simp [Instance.isActive, Status.isActive, hwait]
      exact .ok (hs.setStatus hi hactive (by simp) (by simp))
  | fadeOut | fadeIn => exact .ok hs
  | selection out =>
    exact within (waitSelection_within (A := {.scene, .chooser, .store}) (by simp) (by simp)
      (by simp) w.services id out) (by simp) s hs
  | movie => exact within (movieEnded_within (A := {.scene}) rfl w.services) (by simp) s hs
  | host p => exact absurd hx (hs.hostless.own id p)

lemma step_inDark (elapsed : Option Float) (hs : s.InDark k (Listed k Q))
    (hx : ∀ x, Turn.instruction? ⟨s, id⟩ = some x → x.fades = false) :
    (endState (step w id elapsed) s).InDark k (Listed k Q) := by
  refine step_keeps (poll_inDark elapsed) (reportWait_inDark _) (release_inDark _) resume_inDark
    finish_inDark complete_inDark hs fun i c hi hr hc => runCommandAt_inDark ?_
  have hcommand : Turn.command? ⟨s, id⟩ = some (i.cursor, c) :=
    Turn.command?_eq_some.mpr ⟨i, hi, hr, rfl, hc⟩
  rwa [Turn.instruction?_of_command hcommand] at hx

/-! ### Canceling -/

lemma mem_of_mem_erases {l m : List InstanceId} (h : k ∈ l.erase id ++ m.erase id) :
    k ∈ l ++ m := by
  rw [List.mem_append] at h ⊢
  exact h.imp List.mem_of_mem_erase List.mem_of_mem_erase

lemma drop_inDark (S : Services H.Game) :
    Preserves (Session.InDark k (Listed k Q)) (drop S id : Engine H Unit) := by
  refine (abort_inDark S).bind fun _ => Leads.modify fun s hs => ?_
  exact hs.lists fun h hk => h (mem_of_mem_erases hk)

lemma dropOrphansOf_inDark (S : Services H.Game) (ids : List InstanceId) :
    Preserves (Session.InDark k (Listed k Q)) (dropOrphansOf S ids : Engine H Unit) :=
  (Modular.preserves _).dropOrphansOf (fun _ => drop_inDark S) (log_inDark _) (count_inDark _) ids

lemma dropEach_inDark (S : Services H.Game) (ids : List InstanceId) :
    Preserves (Session.InDark k (Listed k Q)) (dropEach S ids : Engine H Unit) :=
  (Modular.preserves _).dropEach (fun _ => drop_inDark S) ids

/-! ### Between the steps -/

lemma promote_inDark : Preserves (Session.InDark k (Listed k Q)) (promote : Engine H Unit) := by
  refine Triple.get_bind fun s hs => ?_
  -- What was pending is on neither list until all of it has begun.
  let P : List InstanceId → List InstanceId → Fade → Prop := fun l m f =>
    (k ∈ l ++ s.pending → Q f) ∧ m = []
  have hbegin (ids : List InstanceId) :
      Preserves (Session.InDark k P) (beginEach ids : Engine H Unit) :=
    (Modular.preserves _).beginEach (fun id => within (begin_within
      (A := {.scene, .watchers, .marks id}) (by simp) (by simp) (by simp)) (by simp)) ids
  have hclear : Triple (· = s) (modify ({ · with pending := [] }) : Engine H PUnit)
      (fun _ => Session.InDark k P) fun _ => Session.InDark k (Listed k Q) := by
    refine Triple.modify ?_
    rintro _ rfl
    exact hs.lists fun h => ⟨h, rfl⟩
  refine Triple.bind hclear fun _ => ?_
  have hlost (t : Session H) (ht : t.InDark k P) : t.InDark k (Listed k Q) := by
    refine ht.imp ?_
    rintro l _ f ⟨h, rfl⟩ hk
    rw [List.append_nil] at hk
    exact h (List.mem_append_left _ hk)
  refine Triple.bind (R := fun _ => Session.InDark k P) (Triple.weaken (hbegin s.pending)
    (fun _ h => h) (fun _ _ h => h) fun _ => hlost) fun _ => Triple.modify fun t ht => ?_
  refine ht.lists fun h hk => h.1 ?_
  rwa [h.2, List.append_nil] at hk

lemma retire_inDark (hs : s.InDark k (Listed k Q)) : s.retire.InDark k (Listed k Q) := by
  have hlists : Session.InDark k (Listed k Q) { s with active := s.active.filter s.isActive } :=
    hs.lists fun h hk => h ((List.mem_append.mp hk).elim
      (fun h => List.mem_append_left _ (List.mem_of_mem_filter h)) (List.mem_append_right _))
  exact ignores (a := .asleep) (by simp) (by simp) (by simp) (by simp) _ _
    (.asleep _ ((s.active.filter s.isActive).any s.isAsleep)) hlists

lemma newGame_inDark (S : Services H.Game) :
    Preserves (Session.InDark k (Listed k Q)) (newGame S : Engine H Unit) := by
  have hcancel : Triple (Session.InDark k (Listed k Q)) (cancelAll S : Engine H Unit)
      (fun _ s => s.InDark k (Listed k fun _ => False))
      fun _ => Session.InDark k (Listed k Q) := by
    have hdark : Preserves (Session.InDark k (Listed k Q)) (cancelAll S : Engine H Unit) :=
      Preserves.get.bind fun _ => dropEach_inDark S _
    exact ((cancelAll_unlists S k).and_preserves hdark).weaken (fun _ h => ⟨h, trivial⟩)
      (fun _ s h => ⟨h.1.hostless, fun _ hk => (h.2 hk).elim⟩) fun _ _ h => h.1
  have hclear : Within {.scene, .talk, .chooser, .fade, .movie, .asleep, .store} (do
      stage (Stage.reset S)
      modify ({ · with store := [] }) : Engine H Unit) :=
    (reset_within (by simp) (by simp) (by simp) (by simp) (by simp) (by simp) _).bind fun _ =>
      .modify fun s => (Change.store s []).changes (by simp)
  have hnobody : Preserves (Session.InDark k (Listed k fun _ => False)) _ :=
    hclear.preserves fun a ha => ignores (fun _ _ _ _ _ h hk => h hk) (by rintro rfl; simp at ha)
      (by rintro rfl; simp at ha) (by rintro j rfl; simp at ha)
  refine (log_inDark _ _).bind fun _ => Triple.bind hcancel fun _ => ?_
  exact hnobody.weaken (fun _ h => h) fun _ h => h.imp fun _ _ _ h hk => (h hk).elim

lemma request_inDark {r : Request H} (hr : r.isTick = false) :
    Preserves (Session.InDark k (Listed k Q)) (r.run w) :=
  Request.preserves hr (fun _ => newGame_inDark _) (fun hp => within hp (by simp)) start_inDark
    fun _ => drop_inDark _

lemma aside_inDark {a : Aside H} (ha : a ≠ .opening) :
    Preserves (Session.InDark k (Listed k Q)) (a.run w) := by
  cases a with
  | opening => exact absurd rfl ha
  | retire => exact Leads.modify fun s hs => retire_inDark hs
  | create script owner pausable watcher =>
    exact (within (create_within (A := {.roster}) rfl _ _ _ _) (by simp)).bind fun _ => .pure _
  | giveUp id label =>
    exact (count_inDark _).bind fun _ => (log_inDark _ _).bind fun _ => abort_inDark _
  | request r hr => exact request_inDark hr

lemma opening_inDark (S : Services H.Game) (hQ : ∀ f, Q f → Q f.update) :
    Preserves (Session.InDark k (Listed k Q)) (opening S : Engine H Unit) := by
  have hticks : Within {.ticks}
      (modify fun s => { s with ticks := s.ticks + 1 } : Engine H PUnit) :=
    .modify fun s => (Change.ticks s _).changes rfl
  have hfade : Preserves (Session.InDark k (Listed k Q))
      (stage (Stage.updateFade Fade.update) : Engine H Unit) :=
    Leads.modify fun t ht =>
      ⟨ht.hostless.same rfl rfl rfl, fun hwait hk => hQ _ (ht.dark hwait hk)⟩
  have hscreen : Preserves (Session.InDark k (Listed k Q)) (updateScreen S : Engine H Unit) :=
    (Modular.preserves _).updateScreen hfade
      (within (updateMovie_within (A := {.scene, .movie}) (by simp) (by simp) S) (by simp))
      fun _ => release_inDark S
  refine (within hticks (by simp)).bind fun _ => promote_inDark.bind fun _ => ?_
  exact Preserves.bind (Preserves.get.bind fun _ => dropOrphansOf_inDark S _) fun _ => hscreen

/-! ### Steps that fade -/

lemma step_fades (hs : s.withdrawn = []) {x : Instruction} (hsteers : x.steers = false)
    (hx : Turn.instruction? ⟨s, id⟩ = some x) {g : Fade → Fade} {y : Wait H.Predicate}
    (hcarry : carryOut w.services id x = (do
      stage (Stage.updateFade g)
      suspend id y)) (elapsed : Option Float) :
    let t := endState (step w id elapsed) s
    t.ui.fade = g s.ui.fade ∧ t.instances = s.instances ∧ t.status? id = some (.suspended y) ∧
      ∀ j, j ≠ id → t.status? j = s.status? j := by
  obtain ⟨i, c, hi, hr, hstep, hexecute⟩ := step_of_instruction (w := w) hs hsteers hx elapsed
  let u := (s.fetched id (i.cursor + 1)).withUi { s.ui with fade := g s.ui.fade }
  have hui : u.instance? id = some { i with cursor := i.cursor + 1 } := by
    change (s.modifyInstance id _).instance? id = _
    simp [Session.instance?_modifyInstance, hi]
  let v := u.modifyInstance id ({ · with status := .suspended y })
  have hv : v.status? id = some (.suspended y) :=
    u.status?_suspended (y := i.status) (by simp [Session.status?, hui])
  have hrun : carryOut w.services id x (s.fetched id (i.cursor + 1)) = .ok () v := by
    rw [hcarry]
    exact (bind_of_ok (t := u) rfl).trans (suspend_of_running hui hr y)
  have hend := (runCommandAt_of_ok hi (hexecute.trans hrun)).trans (settle_waits hv)
  rw [endState_of_ok (hstep.trans hend)]
  refine ⟨rfl, rfl, hv, fun j hj => ?_⟩
  change v.status? j = _
  rw [u.status?_setStatus, if_neg (Ne.symm hj)]
  exact s.status?_fetched id j _

lemma step_of_dark (hs : s.IsHostless) (hwait : s.status? id = some (.suspended .fadeOut))
    (hdark : s.ui.fade.outEnded = true) (elapsed : Option Float) :
    (endState (step w id elapsed) s).status? id ≠ some (.suspended .fadeOut) := by
  have hpoll : pollWait w id elapsed .fadeOut s = .ok true s := by
    rw [← hdark]
    rfl
  obtain ⟨⟨script, n, -, hgone⟩, -⟩ := step_goesOn hwait (checkWait_of_ok hs hpoll) hwait
  rw [hgone]
  split <;> simp

end Engine

end EventScript
