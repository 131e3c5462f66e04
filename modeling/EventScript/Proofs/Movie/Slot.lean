import EventScript.Proofs.Movie.Video
import EventScript.Proofs.Schedule.Tick

/-! The movie slot holds the only video that may still play. Every way out of the slot stops the
video or has seen it stopped, and a video that was started goes straight into it. -/

namespace EventScript

section Slot

variable {σ η : Type} {S : Services σ} {V : Reel σ}

def Movie.video? (m : Movie) : Option VideoId := m.showing.map Prod.fst

/-- Of the videos that were started, all but the one in the slot have stopped. -/
structure Screen.ShowsOne (V : Reel σ) (x : Screen σ η) : Prop where
  others : ∀ v ∈ V.made x.scene.game, x.ui.movie.video? ≠ some v → v ∈ V.stopped x.scene.game
  made : ∀ v, x.ui.movie.video? = some v → v ∈ V.made x.scene.game

lemma Screen.ShowsOne.rests {x y : Screen σ η} (hx : x.ShowsOne V)
    (h : V.Rests x.scene.game y.scene.game) (hm : y.ui.movie = x.ui.movie) : y.ShowsOne V := by
  refine ⟨fun v hv hne => ?_, fun v hv => ?_⟩
  · rw [h.made] at hv
    exact h.stopped v hv (hx.others v hv (hm ▸ hne))
  · rw [h.made]
    exact hx.made v (hm ▸ hv)

lemma Screen.ShowsOne.empty {x : Screen σ η} (hx : x.ShowsOne V) {m : Movie}
    (hm : m.showing = none)
    (hv : ∀ v, x.ui.movie.video? = some v → v ∈ V.stopped x.scene.game) :
    Screen.ShowsOne V { x with ui := { x.ui with movie := m } } := by
  have hnone : m.video? = none := by simp [Movie.video?, hm]
  refine ⟨fun v hmade _ => ?_, fun v h => ?_⟩
  · by_cases h : x.ui.movie.video? = some v
    · exact hv v h
    · exact hx.others v hmade h
  · exact absurd (hnone.symm.trans h) (by simp)

namespace Stage

lemma play_related {α : Type} {R : σ → σ → Prop} {J : Screen σ η → Prop} {p : Play σ α}
    (hJ : ∀ x y : Screen σ η, J x → R x.scene.game y.scene.game → y.ui = x.ui → J y)
    (hp : ∀ x, R x.game (endState p x).game) : Preserves J (play p) := by
  intro x hx
  have h := hp x.scene
  unfold endState at h
  unfold play
  cases hr : p x.scene <;> rw [hr] at h
  · exact .ok (hJ _ _ hx h rfl)
  · exact .error (hJ _ _ hx h rfl)

lemma play_showsOne {α : Type} {p : Play σ α} (hp : ∀ x, V.Rests x.game (endState p x).game) :
    Preserves (Screen.ShowsOne V) (play p : Stage σ η α) :=
  play_related (fun _ _ hx h hu => hx.rests h (congrArg Ui.movie hu)) hp

lemma look_showsOne (hS : S.PlaysVideos V) {m : Movie} {v : VideoId} (hv : m.video? = some v) :
    Triple (fun x : Screen σ η => x.ShowsOne V ∧ x.ui.movie = m) (play (S.videoStopped v))
      (fun stopped x => (x.ShowsOne V ∧ x.ui.movie = m) ∧
        (stopped = true → v ∈ V.stopped x.scene.game))
      fun _ x => x.ShowsOne V := by
  rintro x ⟨hx, hm⟩
  have h := hS.look v x.scene
  unfold endState at h
  unfold play
  cases hr : S.videoStopped v x.scene with
  | ok stopped y =>
    rw [hr] at h
    refine .ok ⟨⟨hx.rests h rfl, hm⟩, ?_⟩
    rintro rfl
    exact hS.seen v x.scene y (hx.made v (hm ▸ hv)) hr
  | error f y =>
    rw [hr] at h
    exact .error (hx.rests h rfl)

lemma setMovie_showsOne {m : Movie} {v : VideoId} (hv : m.video? = some v) :
    Triple (fun x : Screen σ η =>
        (x.ShowsOne V ∧ x.ui.movie = m) ∧ v ∈ V.stopped x.scene.game)
      (setMovie { m with showing := none })
      (fun _ x => x.ShowsOne V ∧ x.ui.movie.showing = none) fun _ x => x.ShowsOne V := by
  refine Triple.modify fun x hx => ⟨hx.1.1.empty rfl fun u hu => ?_, rfl⟩
  rw [hx.1.2, hv] at hu
  exact Option.some.inj hu ▸ hx.2

lemma stopMovie_showsOne (hS : S.PlaysVideos V) :
    Triple (Screen.ShowsOne V) (stopMovie S : Stage σ η Unit)
      (fun _ x => x.ShowsOne V ∧ x.ui.movie.showing = none) fun _ x => x.ShowsOne V := by
  refine Triple.get_bind fun x hx => ?_
  dsimp only
  split
  · next hnone => exact Triple.pure fun _ h => h ▸ ⟨hx, hnone⟩
  · next v file hsome =>
    have hv : x.ui.movie.video? = some v := by simp [Movie.video?, hsome]
    refine Triple.bind ((look_showsOne hS hv).weaken (by rintro y rfl; exact ⟨hx, rfl⟩)
      (fun _ _ h => h) fun _ _ h => h) fun stopped => Triple.ite (fun _ => ?_) fun hs => ?_
    · refine Triple.bind ?_ fun _ => setMovie_showsOne hv
      rintro y ⟨⟨hy, hm⟩, -⟩
      have h := hS.stop v y.scene
      unfold endState at h
      unfold play
      cases hr : S.stopVideo v y.scene with
      | ok _ z =>
        rw [hr] at h
        exact .ok ⟨⟨hy.rests h rfl, hm⟩, hS.stops v y.scene z (hy.made v (hm ▸ hv)) hr⟩
      | error f z =>
        rw [hr] at h
        exact .error (hy.rests h rfl)
    · refine (setMovie_showsOne hv).weaken (fun y hy => ⟨hy.1, hy.2 ?_⟩) (fun _ _ h => h)
        fun _ _ h => h
      simpa using hs

lemma playMovie_showsOne (hS : S.PlaysVideos V) (file : String) (color : Color) :
    Preserves (Screen.ShowsOne V) (playMovie S file color : Stage σ η Bool) := by
  refine Triple.bind (stopMovie_showsOne hS) fun _ => ?_
  rintro x ⟨hx, hnone⟩
  have hvideo : x.ui.movie.video? = none := by simp [Movie.video?, hnone]
  cases hr : S.playVideo file color x.scene with
  | error f y =>
    have hplay : play (S.playVideo file color) x = .error f { x with scene := y } := by
      simp [play, hr]
    rw [bind_of_error hplay]
    exact .error (hx.rests (hS.fails file color _ y (.inr ⟨f, hr⟩)) rfl)
  | ok video y =>
    have hplay : play (S.playVideo file color) x = .ok video { x with scene := y } := by
      simp [play, hr]
    rw [bind_of_ok hplay]
    cases video with
    | none => exact .ok (hx.rests (hS.fails file color _ y (.inl hr)) rfl)
    | some v =>
      -- All videos from before have stopped, for the slot was empty.
      obtain ⟨hmade, hstay⟩ := hS.starts file color _ v y hr
      refine .ok ⟨fun u hu hne => ?_, fun u hu => ?_⟩
      · have hu : u ∈ insert v (V.made x.scene.game) := hmade ▸ hu
        rcases hu with rfl | hu
        · exact absurd rfl hne
        · exact hstay u hu (hx.others u hu (by simp [hvideo]))
      · obtain rfl : v = u := Option.some.inj hu
        exact hmade ▸ Set.mem_insert v _

lemma movieEnded_showsOne (hS : S.PlaysVideos V) :
    Preserves (Screen.ShowsOne V) (movieEnded S : Stage σ η Bool) :=
  (Modular.preserves _).movieEnded fun _ => play_showsOne (hS.look _)

lemma updateMovie_showsOne (hS : S.PlaysVideos V) :
    Preserves (Screen.ShowsOne V) (updateMovie S : Stage σ η Unit) := by
  refine Triple.get_bind fun x hx => ?_
  dsimp only
  split
  · exact Triple.pure fun _ h => h ▸ hx
  · next v file hsome =>
    have hv : x.ui.movie.video? = some v := by simp [Movie.video?, hsome]
    refine Triple.bind ((look_showsOne hS hv).weaken (by rintro y rfl; exact ⟨hx, rfl⟩)
      (fun _ _ h => h) fun _ _ h => h) fun stopped => Triple.ite (fun hs => ?_) fun _ => ?_
    · exact (setMovie_showsOne hv).weaken (fun y hy => ⟨hy.1, hy.2 hs⟩) (fun _ _ h => h.1)
        fun _ _ h => h
    · exact Triple.pure fun _ h => h.1.1

end Stage

end Slot

variable {H : Host} {w : Wiring H} {V : Reel H.Game}

def Session.ShowsOneMovie (V : Reel H.Game) (s : Session H) : Prop := s.screen.ShowsOne V

lemma showsOneMovie_stageKeeps (hS : w.services.PlaysVideos V) :
    w.StageKeeps (Session.ShowsOneMovie V) where
  quiet _ hscene hmovie _ := Ignores.of_screen
    (fun _ _ hs hm h => h.rests (congrArg Scene.game hs ▸ .refl V _) hm) hscene hmovie
  asks hp := Engine.stage_preserves (Stage.play_showsOne fun x => hS.asks hp x)
  stopMovie := Engine.stage_preserves
    ((Stage.stopMovie_showsOne hS).weaken (fun _ h => h) (fun _ _ h => h.1) fun _ _ h => h)
  playMovie file color := Engine.stage_preserves (Stage.playMovie_showsOne hS file color)
  movieEnded := Engine.stage_preserves (Stage.movieEnded_showsOne hS)
  updateMovie := Engine.stage_preserves (Stage.updateMovie_showsOne hS)
  note name o id := by
    refine Leads.modify fun s hs => ?_
    split <;> exact hs

/-- What happens to the game between requests starts no video and leaves stopped ones stopped. -/
def Request.LetsVideosRest (V : Reel H.Game) (r : Request H) : Prop :=
  ∀ f, r = .meanwhile f → ∀ x : Scene H.Game, V.Rests x.game (f x).game

lemma showsOneMovie_tickKeeps (w : Wiring H) (hS : w.services.PlaysVideos V) :
    w.TickKeeps fun s => s.IsHostless ∧ s.ShowsOneMovie V :=
  (isHostless_dependsOnStatus.tickKeeps w).and (showsOneMovie_stageKeeps hS).tickKeeps

lemma Session.IsAtStart.showsOneMovie {s : Session H} (h : s.IsAtStart)
    (hmade : V.made s.scene.game = ∅) : s.ShowsOneMovie V := by
  obtain ⟨setup, scene, fade, files, rfl⟩ := h.eq_mk
  refine ⟨fun v hv => ?_, fun v hv => ?_⟩
  · exact absurd hv (hmade ▸ Set.notMem_empty v)
  · simp [Movie.video?] at hv

theorem only_slot_movie_plays (w : Wiring H) (hS : w.services.PlaysVideos V) {s₀ : Session H}
    (h₀ : s₀.IsAtStart) (hmade : V.made s₀.scene.game = ∅) (rs : List (Request H))
    (hrs : ∀ r ∈ rs, r.LetsVideosRest V) :
    let s := s₀.after w rs
    s.ShowsOneMovie V ∧
      (s.ui.movie.showing = none → V.made s.scene.game ⊆ V.stopped s.scene.game) ∧
      ∀ elapsed s₁ us s₂, Engine.opening w.services s = .ok () s₁ → Turns w elapsed s₁ us s₂ →
        ∀ u ∈ us, u.before.ShowsOneMovie V := by
  have hw := showsOneMovie_tickKeeps w hS
  have hs : (s₀.after w rs).IsHostless ∧ (s₀.after w rs).ShowsOneMovie V := by
    refine s₀.after_keeps (I := fun s => s.IsHostless ∧ s.ShowsOneMovie V) w (fun r hr => ?_)
      ⟨h₀.isHostless, h₀.showsOneMovie hmade⟩
    refine hw.request (fun _ h => h.1) ?_ ?_
    · rintro name failsOn early rfl
      exact .and (isHostless_dependsOnStatus.request (fun _ h => h) w _) (Leads.modify fun s hs => by
        split <;> exact hs)
    · rintro f rfl
      refine .and (isHostless_dependsOnStatus.request (fun _ h => h) w _) (Leads.modify fun s hs => ?_)
      exact hs.rests (hrs _ hr f rfl s.scene) rfl
  refine ⟨hs.2, fun hnone v hv => hs.2.others v hv ?_, ?_⟩
  · have hvideo : (s₀.after w rs).screen.ui.movie.showing = none := hnone
    simp [Movie.video?, hvideo]
  · intro elapsed s₁ us s₂ hopen hus u hu
    have hs₁ := hw.opening.endState hs
    rw [endState_of_ok hopen] at hs₁
    exact ((hus.keeps (fun v _ => hw.turn v.id) (fun _ h => h.1) hs₁).1 u hu).2

/-- A film that is replaced twice, in the game of the command line. -/
theorem only_slot_movie_plays_cli : ∃ s₀ : Session Cli.host, s₀.IsAtStart ∧
    let V := Headless.reel.within Cli.Game.headless
    Cli.wiring.services.PlaysVideos V ∧ V.made s₀.scene.game = ∅ ∧
      let s := s₀.after Cli.wiring [
        .startText "PlayMovie(a)\nPlayMovie(b)\nWaitMovieEnd()\nPlayMovie(c)" "film" none,
        .tick (some 16), .tick (some 16), .newGame]
      s.ShowsOneMovie V ∧
        (s.ui.movie.showing = none → V.made s.scene.game ⊆ V.stopped s.scene.game) := by
  let s₀ : Session Cli.host := .sample 3 { game := Cli.Game.mk {} 0 }
  have h₀ : s₀.IsAtStart := Session.sample_isAtStart
  have hmade : (Headless.reel.within Cli.Game.headless).made s₀.scene.game = ∅ := by
    ext v
    exact ⟨fun hv => absurd hv (Nat.not_lt_zero v), fun hv => absurd hv (Set.notMem_empty v)⟩
  have h := only_slot_movie_plays Cli.wiring Cli.services_playsVideos h₀ hmade
  refine ⟨s₀, h₀, Cli.services_playsVideos, hmade, ?_⟩
  refine And.imp_right And.left (h _ fun r hr f hf => ?_)
  simp only [List.mem_cons, List.not_mem_nil, or_false] at hr
  rcases hr with rfl | rfl | rfl | rfl <;> cases hf

end EventScript
