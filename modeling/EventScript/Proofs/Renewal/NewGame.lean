import EventScript.Proofs.Prompt.Choice
import EventScript.Proofs.Renewal.Schedule
import EventScript.Proofs.Schedule.Abiding
import EventScript.Proofs.Schedule.Books

/-! A new game. It leaves nothing behind but what has ended, so that the session goes on as one that
was just set up would. -/

namespace EventScript

section Screen

variable {σ η α : Type}

structure Ui.IsClear (u : Ui η) : Prop where
  fade : u.fade = { rate := u.fade.rate }
  talk : u.talk = none
  chooser : u.chooser = none
  showing : u.movie.showing = none
  asleep : u.asleep = false

lemma Stage.play_keepsUi {J : Ui η → Prop} (p : Play σ α) :
    Preserves (fun x : Screen σ η => J x.ui) (play p) := by
  intro x hx
  unfold play
  cases p x.scene
  · exact .ok hx
  · exact .error hx

lemma Stage.stopMovie_empties {J : Ui η → Prop} (S : Services σ)
    (hJ : ∀ u m, J u → J { u with movie := m }) : Triple (fun x : Screen σ η => J x.ui)
      (stopMovie S) (fun _ x => J x.ui ∧ x.ui.movie.showing = none) fun _ _ => True := by
  refine Triple.get_bind fun x hx => ?_
  dsimp only
  split
  · next hm =>
    refine Triple.pure ?_
    rintro _ rfl
    exact ⟨hx, hm⟩
  · have hempty : Triple (fun x : Screen σ η => J x.ui)
        (setMovie { x.ui.movie with showing := none })
        (fun _ x => J x.ui ∧ x.ui.movie.showing = none) fun _ _ => True :=
      Triple.modify fun y hy => ⟨hJ _ _ hy, rfl⟩
    refine Triple.weaken (Triple.after (play_keepsUi _) (fun _ _ _ => trivial) fun stopped => ?_)
      (by rintro _ rfl; exact hx) (fun _ _ h => h) fun _ _ h => h
    exact Triple.ite (fun _ => Triple.after (play_keepsUi _) (fun _ _ _ => trivial) fun _ => hempty)
      fun _ => hempty

lemma Stage.clear_clears (S : Services σ) :
    Triple (fun x : Screen σ η => x.ui.talk = none ∧ x.ui.chooser = none) (clear S)
      (fun _ x => x.ui.IsClear) fun _ _ => True := by
  let J : Ui η → Prop := fun u =>
    u.talk = none ∧ u.chooser = none ∧ u.fade = { rate := u.fade.rate }
  refine Triple.bind (R := fun _ x => J x.ui) (Triple.modify fun x hx => ⟨hx.1, hx.2, rfl⟩)
    fun _ => ?_
  refine Triple.bind (stopMovie_empties S fun _ _ h => h) fun _ => Triple.modify fun x hx => ?_
  obtain ⟨⟨htalk, hchooser, hfade⟩, hshowing⟩ := hx
  exact ⟨hfade, htalk, hchooser, hshowing, rfl⟩

lemma Stage.resetSelection_clears (S : Services σ) :
    Triple (fun x : Screen σ η => x.ui.talk = none) (resetSelection S)
      (fun _ x => x.ui.IsClear) fun _ _ => True := by
  refine Triple.get_bind fun x hx => Triple.ite (fun _ => ?_) fun hnone => ?_
  · refine Triple.bind (R := fun _ y => y.ui.talk = none ∧ y.ui.chooser = none) ?_ fun _ =>
      Triple.after (play_keepsUi (J := fun u => u.talk = none ∧ u.chooser = none) _)
        (fun _ _ _ => trivial) fun _ => clear_clears S
    refine Triple.modify ?_
    rintro _ rfl
    exact ⟨hx, rfl⟩
  · refine (clear_clears S).weaken ?_ (fun _ _ h => h) fun _ _ h => h
    rintro _ rfl
    exact ⟨hx, by simpa using hnone⟩

lemma Stage.reset_clears (S : Services σ) : Triple (fun _ : Screen σ η => True) (reset S)
    (fun _ x => x.ui.IsClear) fun _ _ => True := by
  refine Triple.get_bind fun x _ => Triple.ite (fun _ => ?_) fun hnone => ?_
  · refine Triple.bind (R := fun _ y => y.ui.talk = none) (Triple.modify fun _ _ => rfl) fun _ => ?_
    exact Triple.after (play_keepsUi (J := fun u => u.talk = none) _) (fun _ _ _ => trivial)
      fun _ => resetSelection_clears S
  · refine (resetSelection_clears S).weaken ?_ (fun _ _ h => h) fun _ _ h => h
    rintro _ rfl
    simpa using hnone

end Screen

variable {H : Host} {w : Wiring H} {s t : Session H} {k : InstanceId}

/-- Nothing runs, nothing is on screen and there are no variables. -/
structure Session.IsCleared (t : Session H) : Prop where
  ui : t.ui.IsClear
  store : t.store = []
  instances : t.instances = []
  paused : t.paused = false

namespace Engine

lemma paused_ignores {b : Bool} {a : Aspect} (ha : a ≠ .paused) :
    Ignores (fun s : Session H => s.paused = b) a := by
  intro s t hc hs
  cases hc with
  | paused => exact absurd rfl ha
  | _ => exact hs

lemma cancelAll_clears (S : Services H.Game) : Triple (fun s => s.paused = false)
    (cancelAll S : Engine H Unit) (fun _ s => s.paused = false ∧ s.instances = [])
    fun _ _ => True := by
  have hdrop (id : InstanceId) :
      Preserves (fun s : Session H => s.paused = false) (drop S id) := by
    have habort := (abort_within (H := H) (A := Aspect.canceling id) subset_rfl S).preserves
      fun a ha => paused_ignores (b := false) (by rintro rfl; simp at ha)
    exact habort.bind fun _ => Leads.modify fun _ h => h
  have hpaused : Preserves (fun s : Session H => s.paused = false) (cancelAll S) :=
    Preserves.get.bind fun _ => (Modular.preserves _).dropEach hdrop _
  intro s hs
  cases hr : cancelAll S s with
  | error => exact .error trivial
  | ok _ t =>
    refine .ok ⟨Triple.answer hpaused hs hr, List.eq_nil_iff_forall_not_mem.mpr fun k => ?_⟩
    exact (cancelAll_unlists S k).answer trivial hr

lemma newGame_clears (S : Services H.Game) : Triple (fun s => s.paused = false)
    (newGame S : Engine H Unit) (fun _ t => t.IsCleared) fun _ _ => True := by
  have hlog : Preserves (fun s : Session H => s.paused = false) (log .info "new game") :=
    Leads.of_endState fun _ hs => hs
  refine Triple.after hlog (fun _ _ _ => trivial) fun _ => ?_
  refine Triple.bind (cancelAll_clears S) fun _ => ?_
  have hreset : Triple (fun s : Session H => s.paused = false ∧ s.instances = [])
      (stage (Stage.reset S))
      (fun _ s => s.ui.IsClear ∧ s.paused = false ∧ s.instances = []) fun _ _ => True := by
    intro s hs
    have hr := Stage.reset_clears S s.screen trivial
    unfold stage
    cases h : Stage.reset S s.screen <;> rw [h] at hr <;> cases hr
    · next hui => exact .ok ⟨hui, hs⟩
    · exact .error trivial
  exact hreset.bind fun _ => Triple.modify fun s hs => ⟨hs.1, rfl, hs.2.2, hs.2.1⟩

lemma dropEach_cancels (w : Wiring H) {ids : List InstanceId} (hk : k ∈ ids)
    {x : Status H.Predicate} (hx : x.isActive = true) :
    Triple (fun s : Session H => s.status? k = some x) (dropEach w.services ids)
      (fun _ s => s.HasEnded k .canceled) fun _ _ => True := by
  have hstays := (hasEnded_dependsOnStatus (H := H) k .canceled).tickKeeps w
  induction ids with
  | nil => cases hk
  | cons id ids ih =>
    by_cases hid : id = k
    · subst hid
      have habort : Triple (fun s : Session H => s.status? id = some x) (abort w.services id)
          (fun _ s => s.status? id = some .canceled) fun _ _ => True :=
        (abort_cancels w.services id).weaken (fun s hs => by rw [s.isActive_eq, hs]; exact hx)
          (fun _ _ h => h) fun _ _ h => h
      refine Triple.bind (R := fun _ s => s.HasEnded id .canceled)
        (habort.bind fun _ => Triple.modify fun s hs => ⟨hs, rfl⟩) fun _ => ?_
      exact Triple.weaken (hstays.dropEach ids) (fun _ h => h) (fun _ _ h => h) fun _ _ _ => trivial
    · have habort := (abort_within (H := H) (A := Aspect.canceling id) subset_rfl
        w.services).preserves fun a ha => status?_ignores_of_ne (k := k) (x := x) (by
          rintro rfl
          simp [Ne.symm hid] at ha)
      have hdrop : Preserves (fun s : Session H => s.status? k = some x) (drop w.services id) :=
        habort.bind fun _ => Leads.modify fun _ h => h
      exact Triple.after hdrop (fun _ _ _ => trivial) fun _ =>
        ih ((List.mem_cons.mp hk).resolve_left (Ne.symm hid))

lemma newGame_cancels (w : Wiring H) : Triple (fun s : Session H => s.IsLive k)
    (newGame w.services) (fun _ t => t.HasEnded k .canceled) fun _ _ => True := by
  rintro s ⟨hlisted, hactive⟩
  obtain ⟨x, hx, hlive⟩ : ∃ x, s.status? k = some x ∧ x.isActive = true := by
    rw [s.isActive_eq] at hactive
    cases hx : s.status? k with
    | none => simp [hx] at hactive
    | some x => exact ⟨x, rfl, by simpa [hx] using hactive⟩
  have hended := hasEnded_dependsOnStatus (H := H) k .canceled
  have hcanceled : Triple (fun u : Session H => u.instances = s.instances ∧ u.status? k = some x)
      (cancelAll w.services) (fun _ u => u.HasEnded k .canceled) fun _ _ => True := by
    refine Triple.get_bind ?_
    rintro u ⟨hlists, hu⟩
    exact (dropEach_cancels w (hlists ▸ hlisted) hlive).weaken (by rintro _ rfl; exact hu)
      (fun _ _ h => h) fun _ _ h => h
  have hlog : Preserves (fun u : Session H => u.instances = s.instances ∧ u.status? k = some x)
      (log .info "new game") := Leads.of_endState fun u hu => hu
  refine Triple.after hlog (fun _ _ _ => trivial) (fun _ => hcanceled.bind fun _ => ?_) s ⟨rfl, hx⟩
  exact Triple.weaken (hended.within (wipe_within _) (by simp)) (fun _ h => h) (fun _ _ h => h)
    fun _ _ _ => trivial

lemma newGame_returns (hS : w.services.Settles) (hstop : ∀ v, Returns (w.services.stopVideo v))
    (hs : ∀ k ∈ s.instances, s.instance? k ≠ none)
    (hcalm : ∀ k ∈ s.instances, s.CancelsCalmly k) : ∃ t, newGame w.services s = .ok () t := by
  obtain ⟨x, hlog, -⟩ := log_apply .info "new game" s
  have hpresent (k : InstanceId) (hk : k ∈ (s.withScene x).instances) :
      (s.withScene x).status? k ≠ none :=
    Session.instance?_ne_none.mp (hs k hk)
  obtain ⟨t, hcancel | ⟨-, k, hk, -, hnot⟩⟩ := dropEach_cases (s := s.withScene x) (r := s) hS
    (fun _ h => h) _ (List.Subset.refl _) hpresent
  case inr => exact absurd (hcalm k hk) hnot
  obtain ⟨_, y, hreset⟩ := stage_returns (Stage.reset_returns hS hstop) t
  refine ⟨{ t with screen := y, store := [] }, ?_⟩
  unfold newGame cancelAll
  rw [bind_of_ok hlog, bind_assoc, bind_of_ok (get_apply _), bind_of_ok hcancel, bind_of_ok hreset]
  rfl

end Engine

namespace Session

/-- A session that was just set up with the game of this one as it is now, its random numbers
included, its files and scripts, its fade rate and step budget, and what the host added to it. -/
def fresh (t : Session H) : Session H where
  setup := t.setup
  screen := { scene := t.scene, ui := { fade := { rate := t.ui.fade.rate } } }
  watchers := t.watchers
  files := t.files
  cache := t.cache
  hostCommands := t.hostCommands
  withdrawn := t.withdrawn
  hostWaits := t.hostWaits
  canSpawn := t.canSpawn

lemma IsCleared.mirrors_fresh (h : t.IsCleared) : t.Mirrors t t.fresh := by
  obtain ⟨hactive, hpending⟩ := List.append_eq_nil_iff.mp h.instances
  refine {
    setup := rfl
    screen := ⟨⟨rfl, rfl⟩, h.ui.fade, h.ui.talk, h.ui.chooser, h.ui.showing, h.ui.asleep⟩
    store := h.store
    roster := by simp [fresh]
    active := hactive
    pending := hpending
    paused := h.paused
    ticks := rfl
    counters := t.counters.add_zero.symm
    watchers := fun name => ?_
    files := rfl
    cache := rfl
    hostCommands := rfl
    withdrawn := rfl
    hostWaits := rfl
    canSpawn := rfl }
  change Option.Rel _ (t.watchers.get? name) (t.watchers.get? name)
  cases t.watchers.get? name with
  | none => exact .none
  | some u => exact .some ⟨rfl, rfl, u.notes, #[], by simp, by simp⟩

end Session

/-- A new game in a session that is not paused begins if the closing calls of the game return and no
watcher of those who are canceled fails. From then on whatever is done to the session ends as in one
that was just set up, with the same answers of the game, as what the game was told and will answer is
part of it: the variables, what is on screen, the game and the lists of live instances are the same,
apart from the numbers of instances, ticks and counters. The instances from before stay as they are;
those that were live, listed and not ended, are canceled, and a step of them does nothing. -/
theorem new_game_is_fresh (hw : w.Oblivious) (hpaused : s.paused = false) :
    (w.services.Settles → (∀ v, Returns (w.services.stopVideo v)) →
      (∀ k ∈ s.instances, s.instance? k ≠ none) → (∀ k ∈ s.instances, s.CancelsCalmly k) →
        ∃ t, Engine.newGame w.services s = .ok () t) ∧
    ∀ t, Engine.newGame w.services s = .ok () t →
      ∀ xs : List (Operation H), (∀ x ∈ xs, x.Oblivious) →
        let u := t.afterAll w (xs.map (·.later t))
        let v := t.fresh.afterAll w xs
        t.Mirrors u v ∧
          (∀ x : Operation H, x.Oblivious → Ends₂ t.Mirrors Eq ((x.later t).run w u) (x.run w v)) ∧
          (∀ k < t.roster.size, u.instance? k = t.instance? k) ∧
          ∀ k, s.IsLive k → u.status? k = some .canceled ∧
            ∀ elapsed, Engine.step w k elapsed u = .ok .completed u := by
  refine ⟨Engine.newGame_returns, fun t ht xs hxs => ?_⟩
  have hcleared : t.IsCleared := (Engine.newGame_clears w.services).answer hpaused ht
  have hmirrors := hcleared.mirrors_fresh.afterAll hw xs hxs
  have hbefore (k : InstanceId) (hk : k < t.roster.size) := hmirrors.instance?_before hk
  refine ⟨hmirrors, fun x hx => Operation.inStep hw t hx _ _ hmirrors, hbefore, fun k hk => ?_⟩
  have hcanceled : t.status? k = some .canceled := ((Engine.newGame_cancels w).answer hk ht).1
  have hlt : k < t.roster.size := by
    obtain ⟨i, hi, -⟩ := Option.map_eq_some_iff.mp hcanceled
    exact (Array.getElem?_eq_some_iff.mp hi).1
  have hstays : Session.status? _ k = some .canceled :=
    (congrArg (Option.map Instance.status) (hbefore k hlt)).trans hcanceled
  exact ⟨hstays, fun _ => Engine.step_of_canceled hstays⟩

namespace Waiter

/-- A host with a command that waits for the next step. -/
def host : Host where
  Game := Cli.Game
  Command := Unit
  Predicate := Unit

def wiring : Wiring host where
  services := Cli.services
  runCommand _ id _ := Engine.waitUntil id ()
  poll _ _ := return true

lemma wiring_oblivious : wiring.Oblivious where
  services := Cli.services_oblivious
  runCommand _ _ k _ := Engine.suspend_inStep k _
  poll _ _ _ := .same true

end Waiter

/-- A script waits on a command of the host when the new game begins, and another follows it. -/
theorem new_game_is_fresh_waiter : ∃ s t : Session Waiter.host,
    s.paused = false ∧ s.IsLive 0 ∧ s.store = [("$x", 1)] ∧
      Engine.newGame Waiter.wiring.services s = .ok () t ∧
      let xs : List (Operation Waiter.host) :=
        [.request (.startText "Await()\nAdd($x, 1)" "second" none), .request (.tick (some 16))]
      let u := t.afterAll Waiter.wiring (xs.map (·.later t))
      let v := t.fresh.afterAll Waiter.wiring xs
      t.Mirrors u v ∧
        Ends₂ t.Mirrors Eq (((Operation.step 0 none).later t).run Waiter.wiring u)
          ((Operation.step 0 none).run Waiter.wiring v) ∧
        u.status? 0 = some .canceled ∧ Engine.step Waiter.wiring 0 none u = .ok .completed u := by
  have hwaits : ∃ s₀ : Session Waiter.host, s₀.IsAtStart ∧
      let s := s₀.afterAll Waiter.wiring [.register "Await" (),
        .request (.startText "Assign($x, 1)\nAwait()" "first" none), .request (.tick (some 16))]
      s.paused = false ∧ s.isActive 0 = true ∧ s.instances = [0] ∧ s.store = [("$x", 1)] ∧
      (s.instance? 0).all (·.watchers.isEmpty) = true := by
    refine ⟨.sample 3 { game := Cli.Game.mk {} 0 }, Session.sample_isAtStart, ?_⟩
    decide +kernel
  obtain ⟨s₀, -, hpaused, hactive, hlists, hstore, hwatchers⟩ := hwaits
  set s := s₀.afterAll Waiter.wiring _
  have hlive : s.IsLive 0 := ⟨by simp [hlists], hactive⟩
  have hstop (v : VideoId) : Returns (Waiter.wiring.services.stopVideo v) :=
    (show Returns (Headless.stopVideo v) from .modify _).within Cli.Game.headless
      ({ · with headless := · })
  obtain ⟨hbegins, hfresh⟩ := new_game_is_fresh Waiter.wiring_oblivious hpaused
  have hzero (k : InstanceId) (hk : k ∈ s.instances) : k = 0 := by simpa [hlists] using hk
  have hpresent : ∀ k ∈ s.instances, s.instance? k ≠ none := by
    intro k hk hnone
    rw [hzero k hk] at hnone
    simp [Session.isActive, hnone] at hactive
  have hcalm : ∀ k ∈ s.instances, s.CancelsCalmly k := by
    intro k hk i hi _ name hname
    rw [hzero k hk] at hi
    simp only [hi, Option.all_some, List.isEmpty_iff] at hwatchers
    simp [hwatchers] at hname
  obtain ⟨t, ht⟩ := hbegins Cli.services_settles hstop hpresent hcalm
  obtain ⟨hmirrors, hnext, -, hcanceled⟩ := hfresh t ht
    [.request (.startText "Await()\nAdd($x, 1)" "second" none), .request (.tick (some 16))]
    (by simp [Operation.Oblivious, Request.Oblivious])
  exact ⟨s, t, hpaused, hlive, hstore, ht, hmirrors, hnext _ trivial, (hcanceled 0 hlive).1,
    (hcanceled 0 hlive).2 none⟩

end EventScript
