import EventScript.Proofs.Movie.Slot
import EventScript.Proofs.Prompt.Talk
import EventScript.Proofs.Fault.Services

/-! Games that go on by themselves. A line counts as read and a choice as made when a script asks,
and a video ends after so many looks at it. -/

namespace EventScript

/-- How long a game keeps scripts waiting: by its talk text, and by its videos, of which a new one is
looked at so many times. -/
structure Pace (σ : Type) where
  text : Int → Option TalkLine
  frames : Nat
  /-- The game has this talk text, and its new videos take so many looks. -/
  fits : σ → Prop
  /-- At most so many looks find the video going on. -/
  lasts : σ → VideoId → Nat → Prop

section Stage

variable {σ η : Type} {S : Services σ} {V : Pace σ} {n : Nat}

structure Pace.Rests (V : Pace σ) (g h : σ) : Prop where
  fits : V.fits g → V.fits h
  lasts : ∀ v n, V.lasts g v n → V.lasts h v n

lemma Pace.Rests.refl (V : Pace σ) (g : σ) : V.Rests g g := ⟨fun h => h, fun _ _ h => h⟩

lemma Pace.Rests.trans {g h k : σ} (hgh : V.Rests g h) (hhk : V.Rests h k) : V.Rests g k :=
  ⟨fun hg => hhk.fits (hgh.fits hg), fun v n hv => hhk.lasts v n (hgh.lasts v n hv)⟩

structure Services.Unattended (S : Services σ) (V : Pace σ) : Prop extends S.Settles where
  dialogEnded : ∀ x, ∃ y, S.dialogEnded x = .ok true y
  selectionEnded : ∀ x, ∃ y, S.selectionEnded x = .ok true y
  talkLine : ∀ i x, V.fits x.game → ∃ y, S.talkLine i x = .ok (V.text i) y
  offers : ∀ {α : Type} {p : Play σ α}, S.Offers p → ∀ x, V.Rests x.game (endState p x).game
  play : ∀ file color x, V.Rests x.game (endState (S.playVideo file color) x).game
  starts : ∀ file color x v y, V.fits x.game → S.playVideo file color x = .ok (some v) y →
    V.lasts y.game v (V.frames - 1)
  look : ∀ v x, V.Rests x.game (endState (S.videoStopped v) x).game
  goesOn : ∀ v n x y, V.lasts x.game v n → S.videoStopped v x = .ok false y →
    ∃ m, n = m + 1 ∧ V.lasts y.game v m
  stop : ∀ v x, V.Rests x.game (endState (S.stopVideo v) x).game

namespace Services.Unattended

lemma asks (hS : S.Unattended V) {α : Type} {p : Play σ α} (hp : S.Asks p) (x : Scene σ) :
    V.Rests x.game (endState p x).game :=
  hp.related (Pace.Rests.refl V) Pace.Rests.trans hS.offers x

lemma reads (hS : S.Unattended V) : S.Reads V.text fun x => V.fits x.game := by
  intro i x hx
  obtain ⟨y, h⟩ := hS.talkLine i x hx
  have hy := (hS.offers (.talkLine i) x).fits hx
  rw [endState_of_ok h] at hy
  exact ⟨y, h, hy⟩

end Services.Unattended

/-- The game keeps its pace, and at most so many looks find the video in the slot going on. -/
structure Screen.Lasts (V : Pace σ) (n : Nat) (x : Screen σ η) : Prop where
  fits : V.fits x.scene.game
  slot : ∀ v, x.ui.movie.video? = some v → V.lasts x.scene.game v n

lemma Screen.Lasts.rests {x y : Screen σ η} (hx : x.Lasts V n)
    (h : V.Rests x.scene.game y.scene.game) (hm : y.ui.movie = x.ui.movie) : y.Lasts V n :=
  ⟨h.fits hx.fits, fun v hv => h.lasts v n (hx.slot v (hm ▸ hv))⟩

lemma Screen.Lasts.empty {x : Screen σ η} (hx : x.Lasts V n) {m : Movie} (hm : m.showing = none) :
    Screen.Lasts V n { x with ui := { x.ui with movie := m } } :=
  ⟨hx.fits, fun v hv => absurd hv (by simp [Movie.video?, hm])⟩

namespace Stage

lemma play_lasts {α : Type} {p : Play σ α} (hp : ∀ x, V.Rests x.game (endState p x).game) :
    Preserves (Screen.Lasts V n) (play p : Stage σ η α) :=
  play_related (fun _ _ hx h hu => hx.rests h (congrArg Ui.movie hu)) hp

lemma empty_lasts {m : Movie} (hm : m.showing = none) :
    Preserves (Screen.Lasts V n) (setMovie m : Stage σ η Unit) :=
  Leads.modify fun _ hx => hx.empty hm

variable (hS : S.Unattended V)

include hS

lemma movieEnded_lasts :
    Triple (Screen.Lasts V n) (movieEnded S : Stage σ η Bool)
      (fun ended x => ended = false → ∃ m, n = m + 1 ∧ x.Lasts V m) fun _ _ => True := by
  refine Triple.get_bind fun x hx => ?_
  split
  · exact Triple.pure fun _ _ => by simp
  · next v file hsome =>
    have hv : x.ui.movie.video? = some v := by simp [Movie.video?, hsome]
    rintro y rfl
    unfold play
    have hrests := hS.look v y.scene
    cases hr : S.videoStopped v y.scene with
    | error f z => exact .error trivial
    | ok ended z =>
      rw [endState_of_ok hr] at hrests
      refine .ok ?_
      rintro rfl
      obtain ⟨m, rfl, hm⟩ := hS.goesOn v n y.scene z (hx.slot v hv) hr
      refine ⟨m, rfl, hrests.fits hx.fits, fun u hu => ?_⟩
      obtain rfl : v = u := Option.some.inj (hv.symm.trans hu)
      exact hm

lemma look_lasts (v : VideoId) :
    Preserves (Screen.Lasts V n) (play (S.videoStopped v) : Stage σ η Bool) :=
  play_lasts (hS.look v)

lemma movieEnded_keepsLasts : Preserves (Screen.Lasts V n) (movieEnded S : Stage σ η Bool) :=
  (Modular.preserves _).movieEnded (look_lasts hS)

lemma updateMovie_lasts : Preserves (Screen.Lasts V n) (updateMovie S : Stage σ η Unit) :=
  (Modular.preserves _).updateMovie (look_lasts hS) fun _ => empty_lasts

lemma stopMovie_lasts : Preserves (Screen.Lasts V n) (stopMovie S : Stage σ η Unit) :=
  (Modular.preserves _).stopMovie (look_lasts hS) (fun _ => empty_lasts)
    fun v => play_lasts (hS.stop v)

lemma playMovie_lasts (file : String) (color : Color) :
    Preserves (Screen.Lasts V (V.frames - 1)) (playMovie S file color : Stage σ η Bool) := by
  refine (stopMovie_lasts hS).bind fun _ x hx => ?_
  have hrests := hS.play file color x.scene
  cases hr : S.playVideo file color x.scene with
  | error f y =>
    have hplay : play (S.playVideo file color) x = .error f { x with scene := y } := by
      simp [play, hr]
    rw [bind_of_error hplay]
    unfold endState at hrests
    rw [hr] at hrests
    exact .error (hx.rests hrests rfl)
  | ok video y =>
    rw [endState_of_ok hr] at hrests
    rw [bind_of_ok (play_of_ok hr)]
    cases video with
    | none => exact .ok (hx.rests hrests rfl)
    | some v =>
      refine .ok ⟨hrests.fits hx.fits, fun u hu => ?_⟩
      obtain rfl : v = u := Option.some.inj hu
      exact hS.starts file color x.scene v y hx.fits hr

end Stage

end Stage

lemma lasts_stageKeeps {H : Host} {w : Wiring H} {V : Pace H.Game}
    (hS : w.services.Unattended V) :
    w.StageKeeps fun s => s.screen.Lasts V (V.frames - 1) where
  quiet _ hscene hmovie _ := Ignores.of_screen
    (fun _ _ hs hm h => h.rests (congrArg Scene.game hs ▸ .refl V _) hm) hscene hmovie
  asks hp := Engine.stage_preserves (Stage.play_lasts (hS.asks hp))
  stopMovie := Engine.stage_preserves (Stage.stopMovie_lasts hS)
  playMovie file color := Engine.stage_preserves (Stage.playMovie_lasts hS file color)
  movieEnded := Engine.stage_preserves (Stage.movieEnded_keepsLasts hS)
  updateMovie := Engine.stage_preserves (Stage.updateMovie_lasts hS)
  note name o id := by
    refine Leads.modify fun s hs => ?_
    split <;> exact hs

def Video.Lasts (n : Nat) (video : Video) : Prop :=
  video.stopped = true ∨ ∃ k, video.frames = some k ∧ k ≤ n + 1

lemma Video.Lasts.look {n : Nat} {video : Video} (h : video.Lasts n) :
    video.look.2.Lasts n ∧ (video.look.1 = false → ∃ m, n = m + 1 ∧ video.look.2.Lasts m) := by
  unfold Video.look
  rcases h with hstopped | ⟨k, hk, hn⟩
  · cases hf : video.frames with
    | none => simp [Lasts, hstopped]
    | some k => simp [Lasts, hstopped]
  · rw [hk]
    by_cases hstopped : video.stopped = true
    · simp [Lasts, hstopped]
    · simp only [hstopped]
      refine ⟨.inr ⟨k - 1, rfl, by omega⟩, fun hgoes => ?_⟩
      have hleft : 0 < k - 1 := by simpa using hgoes
      exact ⟨n - 1, by omega, .inr ⟨k - 1, rfl, by omega⟩⟩

namespace Headless

/-- The pace that the headless game has by its talk text and its videos. -/
def pace (h : Headless) : Pace Headless where
  text := Ledger.get? h.talk
  frames := max 1 h.videoFrames.toNat
  fits g := g.talk = h.talk ∧ g.videoFrames = h.videoFrames
  lasts g v n := ∃ video, g.videos[v]? = some video ∧ video.Lasts n

lemma fixtures_keeps (fs : TalkText × Datum × Int × Array Video) :
    Keeps fun x : Scene Headless => x.game.fixtures = fs where
  updateGame := fun hf => Leads.modify fun x hx => (hf x.game).trans hx
  info _ := Leads.modify fun _ hx => hx
  updateEntity _ := fun _ => Leads.modify fun _ hx => hx
  introduce _ := fun _ hx => .ok hx

variable {h g k : Headless} {n : Nat}

lemma pace_rests_of_fixtures (hf : k.fixtures = g.fixtures) : h.pace.Rests g k := by
  obtain ⟨htalk, -, hframes, hvideos⟩ : k.talk = g.talk ∧ k.choice = g.choice ∧
      k.videoFrames = g.videoFrames ∧ k.videos = g.videos := by simpa [fixtures] using hf
  refine ⟨fun hfits => ⟨htalk.trans hfits.1, hframes.trans hfits.2⟩, fun v n hv => ?_⟩
  change ∃ video, k.videos[v]? = some video ∧ _
  rw [hvideos]
  exact hv

lemma pace_rests_of_modify (v : VideoId) {f : Video → Video}
    (hf : ∀ video n, g.videos[v]? = some video → video.Lasts n → (f video).Lasts n) :
    h.pace.Rests g { g with videos := g.videos.modify v f } := by
  refine ⟨fun hfits => hfits, ?_⟩
  rintro u n ⟨video, hu, hlasts⟩
  change ∃ video, (g.videos.modify v f)[u]? = some video ∧ _
  rw [Array.getElem?_modify, hu]
  split
  · next hvu => exact ⟨f video, rfl, hf video n (hvu ▸ hu) hlasts⟩
  · exact ⟨video, rfl, hlasts⟩

variable {random : Int → Int → Play Headless Int}

lemma services_settles : (services random).Settles where
  closeDialog := perform_returns (c := .closeDialog) rfl
  closeSelection := perform_returns (c := .closeSelection) rfl
  videoStopped := lookAt_returns

lemma services_unattended (h : Headless)
    (hr : ∀ lo hi fs, Preserves (fun x => x.game.fixtures = fs) (random lo hi)) :
    (services random).Unattended h.pace where
  toSettles := services_settles
  dialogEnded x := ⟨x, rfl⟩
  selectionEnded x := ⟨x, rfl⟩
  talkLine i x hx := by
    have htalk : x.game.talk = h.talk := hx.1
    exact ⟨x, congrArg (fun talk => EStateM.Result.ok (Ledger.get? talk i) x) htalk⟩
  offers hp x := pace_rests_of_fixtures <|
    ((fixtures_keeps _).offers (fun lo hi => hr lo hi _) hp).endState rfl
  play file color x := by
    obtain ⟨log, hplay⟩ := playVideo_apply random file color x
    unfold endState
    rw [hplay]
    split
    · next h =>
      split at h <;> cases h
      refine ⟨fun hfits => hfits, ?_⟩
      rintro v n ⟨video, hv, hlasts⟩
      obtain ⟨hlt, hget⟩ := Array.getElem?_eq_some_iff.mp hv
      exact ⟨video, by rw [Array.getElem?_push_lt hlt, hget], hlasts⟩
    · next h =>
      split at h <;> cases h
      exact .refl _ _
  starts file color x v y hx hplay := by
    obtain ⟨log, hok⟩ := playVideo_apply random file color x
    rw [hok] at hplay
    split at hplay <;> cases hplay
    refine ⟨{ frames := some x.game.videoFrames }, by simp, .inr ⟨_, rfl, ?_⟩⟩
    have hframes : x.game.videoFrames = h.videoFrames := hx.2
    simp only [pace]
    omega
  look v x := by
    change h.pace.Rests x.game (endState (lookAt v) x).game
    unfold endState
    rw [lookAt_apply]
    cases hv : x.game.videos[v]? with
    | none => exact .refl _ _
    | some video =>
      refine pace_rests_of_modify v fun u n hu hlasts => ?_
      obtain rfl : video = u := Option.some.inj (hv.symm.trans hu)
      exact hlasts.look.1
  goesOn v n x y hlasts hlook := by
    obtain ⟨video, hv, hlasts⟩ := hlasts
    change lookAt v x = _ at hlook
    rw [lookAt_apply, hv] at hlook
    obtain ⟨hgoes, rfl⟩ := EStateM.Result.ok.inj hlook
    obtain ⟨m, rfl, hm⟩ := hlasts.look.2 hgoes
    exact ⟨m, rfl, video.look.2, by simp [Array.getElem?_modify, hv], hm⟩
  stop v x := pace_rests_of_modify v fun _ _ _ _ => .inl rfl

end Headless

section Within

variable {σ τ : Type} {part : τ → σ} {put : τ → σ → τ}

def Pace.within (part : τ → σ) (V : Pace σ) : Pace τ where
  text := V.text
  frames := V.frames
  fits g := V.fits (part g)
  lasts g := V.lasts (part g)

lemma Services.Unattended.within {S : Services σ} {V : Pace σ} (hS : S.Unattended V)
    (hput : ∀ g h, part (put g h) = h) : (S.within part put).Unattended (V.within part) := by
  have hrests {α : Type} {p : Play σ α} (hp : ∀ x, V.Rests x.game (endState p x).game)
      (x : Scene τ) : (V.within part).Rests x.game (endState (p.within part put) x).game := by
    have h := hp (x.onlyPart part)
    rw [Play.endState_within]
    exact ⟨fun hfits => by simpa only [Pace.within, hput] using h.fits hfits,
      fun v n hv => by simpa only [Pace.within, hput] using h.lasts v n hv⟩
  refine ⟨⟨hS.closeDialog.within part put, hS.closeSelection.within part put,
    fun v => (hS.videoStopped v).within part put⟩, fun x => ?_, fun x => ?_, fun i x hx => ?_,
    fun hp => ?_, fun file color => hrests (hS.play file color), ?_, fun v => hrests (hS.look v), ?_,
    fun v => hrests (hS.stop v)⟩
  · obtain ⟨y, h⟩ := hS.dialogEnded (x.onlyPart part)
    exact Play.within_of_ok h
  · obtain ⟨y, h⟩ := hS.selectionEnded (x.onlyPart part)
    exact Play.within_of_ok h
  · obtain ⟨y, h⟩ := hS.talkLine i (x.onlyPart part) hx
    exact Play.within_of_ok h
  · obtain ⟨q, hq, rfl⟩ := hp.of_within
    exact hrests (hS.offers hq)
  · rintro file color x v y hx h
    obtain ⟨z, hz, hy⟩ := Play.within_eq_ok h
    simpa only [Pace.within, hy, hput] using hS.starts file color (x.onlyPart part) v z hx hz
  · rintro v n x y hv h
    obtain ⟨z, hz, hy⟩ := Play.within_eq_ok h
    simpa only [Pace.within, hy, hput] using hS.goesOn v n (x.onlyPart part) z hv hz

lemma Services.Unattended.withRandom {S : Services σ} {V : Pace σ} (hS : S.Unattended V)
    {random : Int → Int → Play σ Int}
    (hr : ∀ lo hi x, V.Rests x.game (endState (random lo hi) x).game) :
    Services.Unattended { S with random := random } V where
  toSettles := ⟨hS.closeDialog, hS.closeSelection, hS.videoStopped⟩
  dialogEnded := hS.dialogEnded
  selectionEnded := hS.selectionEnded
  talkLine := hS.talkLine
  offers hp x := hp.withRandom (P := fun p => ∀ x, V.Rests x.game (endState p x).game)
    (fun hp x => hS.offers hp x) hr x
  play := hS.play
  starts := hS.starts
  look := hS.look
  goesOn := hS.goesOn
  stop := hS.stop

end Within

/-- The services of the headless game as part of a larger one. Numbers may be drawn from anywhere, as
long as that leaves alone what the headless game has prepared. -/
inductive Services.IsHeadless {σ : Type} (world : σ → Headless) : Services σ → Prop
  | part (put : σ → Headless → σ) (random : Int → Int → Play σ Int)
      (hput : ∀ g h, world (put g h) = h) (hrandom : ∀ lo hi x,
        (world (endState (random lo hi) x).game).fixtures = (world x.game).fixtures) :
      IsHeadless world
        { (Headless.services fun lo _ => return lo).within world put with random := random }

namespace Services.IsHeadless

variable {σ : Type} {world : σ → Headless} {S : Services σ}

lemma unattended (hS : S.IsHeadless world) (h : Headless) :
    S.Unattended (h.pace.within world) := by
  cases hS with
  | part put random hput hrandom =>
    have hheadless : (Headless.services fun lo _ => return lo).Unattended h.pace :=
      h.services_unattended fun _ _ _ => .pure _
    refine (hheadless.within hput).withRandom fun lo hi x => ?_
    have hrests : h.pace.Rests (world x.game) (world (endState (random lo hi) x).game) :=
      Headless.pace_rests_of_fixtures (hrandom lo hi x)
    exact ⟨hrests.fits, hrests.lasts⟩

lemma player_returns (hS : S.IsHeadless world) : Returns S.player := by
  cases hS with
  | part put =>
    have hheadless : Returns (Headless.services fun lo _ => return lo).player :=
      fun x => ⟨x.game.player, x, rfl⟩
    exact hheadless.within world put

end Services.IsHeadless

lemma Play.within_id {σ α : Type} (p : Play σ α) : p.within id (fun _ h => h) = p := by
  funext x
  unfold within
  split
  · next h => exact h.symm
  · next h => exact h.symm

lemma Headless.services_isHeadless {random : Int → Int → Play Headless Int}
    (hrandom : ∀ lo hi x, (endState (random lo hi) x).game.fixtures = x.game.fixtures) :
    (Headless.services random).IsHeadless id := by
  have h : Services.IsHeadless id _ := .part (fun _ h => h) random (fun _ _ => rfl) hrandom
  simp only [Services.within, Play.within_id] at h
  exact h

lemma Cli.services_isHeadless : services.IsHeadless Game.headless :=
  .part _ draw (fun _ _ => rfl) fun lo hi x => congrArg Headless.fixtures (draw_headless lo hi x)

end EventScript
