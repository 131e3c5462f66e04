import EventScript.Proofs.Services.Headless

/-! The videos of a game. A video that has stopped stays so, and looking at one or stopping it does
nothing to the others. -/

namespace EventScript

variable {σ : Type}

/-- The videos a game has started so far, and those among them that have stopped. -/
structure Reel (σ : Type) where
  made : σ → Set VideoId
  stopped : σ → Set VideoId

/-- No video is new, and those that had stopped still have. -/
structure Reel.Rests (V : Reel σ) (g h : σ) : Prop where
  made : V.made h = V.made g
  stopped : ∀ v ∈ V.made g, v ∈ V.stopped g → v ∈ V.stopped h

lemma Reel.Rests.refl (V : Reel σ) (g : σ) : V.Rests g g := ⟨rfl, fun _ _ h => h⟩

lemma Reel.Rests.trans {V : Reel σ} {g h k : σ} (hgh : V.Rests g h) (hhk : V.Rests h k) :
    V.Rests g k :=
  ⟨hhk.made.trans hgh.made, fun v hv hs => hhk.stopped v (hgh.made ▸ hv) (hgh.stopped v hv hs)⟩

/-- The game starts videos only when asked to, stops those that it is asked to stop, and tells
rightly of a video that it has stopped. -/
structure Services.PlaysVideos (S : Services σ) (V : Reel σ) : Prop where
  offers : ∀ {α : Type} {p : Play σ α}, S.Offers p →
    ∀ x, V.Rests x.game (endState p x).game
  look : ∀ v x, V.Rests x.game (endState (S.videoStopped v) x).game
  seen : ∀ v x y, v ∈ V.made x.game → S.videoStopped v x = .ok true y → v ∈ V.stopped y.game
  stop : ∀ v x, V.Rests x.game (endState (S.stopVideo v) x).game
  stops : ∀ v x y, v ∈ V.made x.game → S.stopVideo v x = .ok () y → v ∈ V.stopped y.game
  fails : ∀ file color x y, (S.playVideo file color x = .ok none y ∨
    ∃ f, S.playVideo file color x = .error f y) → V.Rests x.game y.game
  starts : ∀ file color x v y, S.playVideo file color x = .ok (some v) y →
    V.made y.game = insert v (V.made x.game) ∧
      ∀ u ∈ V.made x.game, u ∈ V.stopped x.game → u ∈ V.stopped y.game

lemma Services.Asks.related {S : Services σ} {R : σ → σ → Prop} (hrefl : ∀ g, R g g)
    (htrans : ∀ {g h k}, R g h → R h k → R g k)
    (hoffers : ∀ {α : Type} {p : Play σ α}, S.Offers p → ∀ x, R x.game (endState p x).game)
    {α : Type} {p : Play σ α} (hp : S.Asks p) (x : Scene σ) : R x.game (endState p x).game := by
  induction hp generalizing x with
  | pure | throw | get | log | updateEntity => exact hrefl _
  | offered h => exact hoffers h x
  | @bind α β p f _ _ ihp ihf =>
    have hx := ihp x
    unfold endState at hx ⊢
    cases h : p x with
    | ok b y =>
      rw [bind_of_ok h]
      rw [h] at hx
      exact htrans hx (ihf b y)
    | error e y =>
      rw [bind_of_error h]
      rw [h] at hx
      exact hx

lemma Services.PlaysVideos.asks {S : Services σ} {V : Reel σ} (hS : S.PlaysVideos V) {α : Type}
    {p : Play σ α} (hp : S.Asks p) (x : Scene σ) : V.Rests x.game (endState p x).game :=
  hp.related (Reel.Rests.refl V) Reel.Rests.trans hS.offers x

namespace Headless

def reel : Reel Headless where
  made h := {v | v < h.videos.size}
  stopped h := {v | ∃ video, h.videos[v]? = some video ∧ video.stopped = true}

lemma rests_of_videos {g h : Headless} (hv : h.videos = g.videos) : reel.Rests g h := by
  refine ⟨?_, fun v _ hs => ?_⟩
  · simp [reel, hv]
  · simpa [reel, hv] using hs

lemma rests_of_modify (g : Headless) (v : VideoId) (f : Video → Video)
    (hf : ∀ video, g.videos[v]? = some video → video.stopped = true → (f video).stopped = true) :
    reel.Rests g { g with videos := g.videos.modify v f } := by
  refine ⟨by simp [reel], ?_⟩
  rintro u - ⟨video, hu, hs⟩
  by_cases h : v = u
  · subst h
    exact ⟨f video, by simp [Array.getElem?_modify, hu], hf video hu hs⟩
  · exact ⟨video, by simp [Array.getElem?_modify, h, hu], hs⟩

def KeepsVideos (vs : Array Video) (x : Scene Headless) : Prop := x.game.videos = vs

lemma keepsVideos_keeps (vs : Array Video) : Keeps (KeepsVideos vs) where
  updateGame := fun hf => Leads.modify fun x hx =>
    (congrArg (fun fs : TalkText × Datum × Int × Array Video => fs.2.2.2) (hf x.game)).trans hx
  info _ := Leads.modify fun _ hx => hx
  updateEntity _ := fun _ => Leads.modify fun _ hx => hx
  introduce _ := fun _ hx => .ok hx

variable {random : Int → Int → Play Headless Int}

lemma look_stopped (video : Video) :
    (video.stopped = true → video.look.2.stopped = true) ∧
      (video.look.1 = true → video.look.2.stopped = true) := by
  unfold Video.look
  cases hf : video.frames with
  | none => simp
  | some n =>
    by_cases hs : video.stopped = true <;> simp [hs]

lemma lookAt_apply (v : VideoId) (x : Scene Headless) : lookAt v x =
    match x.game.videos[v]? with
    | none => .ok true x
    | some video => .ok video.look.1 { x with game :=
        { x.game with videos := x.game.videos.modify v fun _ => video.look.2 } } := by
  change (match x.game.videos[v]? with
    | none => pure true
    | some video => _ : Play Headless Bool) x = _
  cases x.game.videos[v]? <;> rfl

lemma playVideo_apply (random : Int → Int → Play Headless Int) (file : String) (color : Color)
    (x : Scene Headless) : ∃ log, (services random).playVideo file color x =
      if color.parts.any Text.exceedsDigitLimit then .error .tooManyDigits x
      else .ok (some x.game.videos.size) { x with
        game := { x.game with videos := x.game.videos.push { frames := some x.game.videoFrames } }
        log := log } := by
  change ∃ log, playVideo file color x = _
  unfold playVideo checkDigits
  cases color.parts.any Text.exceedsDigitLimit
  · exact ⟨_, rfl⟩
  · exact ⟨x.log, rfl⟩

lemma services_playsVideos (hr : ∀ lo hi vs, Preserves (KeepsVideos vs) (random lo hi)) :
    (services random).PlaysVideos reel where
  offers hp x := rests_of_videos <|
    ((keepsVideos_keeps _).offers (fun lo hi => hr lo hi _) hp).endState rfl
  look v x := by
    change reel.Rests x.game (endState (lookAt v) x).game
    unfold endState
    rw [lookAt_apply]
    cases h : x.game.videos[v]? with
    | none => exact .refl _ _
    | some video =>
      refine rests_of_modify x.game v _ fun u hu hs => ?_
      obtain rfl : video = u := Option.some.inj (h.symm.trans hu)
      exact (look_stopped video).1 hs
  seen v x y hv h := by
    change lookAt v x = _ at h
    rw [lookAt_apply] at h
    cases hget : x.game.videos[v]? with
    | none => exact absurd hv (by simpa [reel] using hget)
    | some video =>
      rw [hget] at h
      cases hl : video.look.1 with
      | false => simp [hl] at h
      | true =>
        obtain rfl : _ = y := (EStateM.Result.ok.inj h).2
        exact ⟨video.look.2, by simp [Array.getElem?_modify, hget], (look_stopped video).2 hl⟩
  stop v x := rests_of_modify x.game v Video.stop fun _ _ _ => rfl
  stops v x y hv h := by
    obtain rfl : _ = y := (EStateM.Result.ok.inj h).2
    have hv : v < x.game.videos.size := hv
    have hget := Array.getElem?_eq_getElem hv
    exact ⟨(x.game.videos[v]).stop, Array.getElem?_modify.trans (by simp [hget]), rfl⟩
  fails file color x y h := by
    obtain ⟨log, hplay⟩ := playVideo_apply random file color x
    rw [hplay] at h
    split at h
    · rcases h with h | ⟨f, h⟩ <;> cases h
      exact .refl _ _
    · rcases h with h | ⟨f, h⟩ <;> cases h
  starts file color x v y h := by
    obtain ⟨log, hplay⟩ := playVideo_apply random file color x
    rw [hplay] at h
    split at h <;> cases h
    refine ⟨?_, ?_⟩
    · ext u
      change u < (x.game.videos.push _).size ↔ u = x.game.videos.size ∨ u < x.game.videos.size
      rw [Array.size_push]
      exact Nat.lt_succ_iff_lt_or_eq.trans or_comm
    · rintro u hu ⟨video, hget, hs⟩
      refine ⟨video, ?_, hs⟩
      rw [Array.getElem?_push_lt hu, ← hget]
      exact (Array.getElem?_eq_getElem hu).symm

end Headless

section Within

variable {τ : Type} {part : τ → σ} {put : τ → σ → τ}

def Scene.onlyPart (part : τ → σ) (x : Scene τ) : Scene σ :=
  { game := part x.game, entities := x.entities, log := x.log }

@[simp] lemma Scene.onlyPart_game (x : Scene τ) : (x.onlyPart part).game = part x.game := rfl

lemma Play.endState_within {α : Type} (p : Play σ α) (x : Scene τ) :
    (endState (p.within part put) x).game = put x.game (endState p (x.onlyPart part)).game := by
  unfold endState Play.within Scene.onlyPart
  cases p { game := part x.game, entities := x.entities, log := x.log } <;> rfl

lemma Play.within_eq_ok {α : Type} {p : Play σ α} {x y : Scene τ} {a : α}
    (h : p.within part put x = .ok a y) :
    ∃ z, p (x.onlyPart part) = .ok a z ∧ y.game = put x.game z.game := by
  unfold Play.within at h
  unfold Scene.onlyPart
  split at h
  · next hp =>
    cases h
    exact ⟨_, hp, rfl⟩
  · cases h

lemma Play.within_of_ok {α : Type} {p : Play σ α} {a : α} {x : Scene τ} {y : Scene σ}
    (h : p (x.onlyPart part) = .ok a y) : ∃ z, p.within part put x = .ok a z := by
  unfold Scene.onlyPart at h
  unfold Play.within
  rw [h]
  exact ⟨_, rfl⟩

lemma Play.within_eq_error {α : Type} {p : Play σ α} {x y : Scene τ} {f : Fault}
    (h : p.within part put x = .error f y) : ∃ z, p (x.onlyPart part) = .error f z ∧
      y = { game := put x.game z.game, entities := z.entities, log := z.log } := by
  unfold Play.within at h
  unfold Scene.onlyPart
  split at h
  · cases h
  · next hp =>
    cases h
    exact ⟨_, hp, rfl⟩

def Reel.within (V : Reel σ) (part : τ → σ) : Reel τ where
  made g := V.made (part g)
  stopped g := V.stopped (part g)

lemma Services.PlaysVideos.within {S : Services σ} {V : Reel σ} (hS : S.PlaysVideos V)
    (hput : ∀ g h, part (put g h) = h) : (S.within part put).PlaysVideos (V.within part) := by
  have hrests {x : Scene τ} {z : Scene σ} {g : τ} (hz : V.Rests (x.onlyPart part).game z.game)
      (hg : g = put x.game z.game) : (V.within part).Rests x.game g := by
    subst hg
    refine ⟨?_, fun v hv hs => ?_⟩
    · simpa only [Reel.within, hput, Scene.onlyPart_game] using hz.made
    · simpa only [Reel.within, hput] using hz.stopped v hv hs
  refine ⟨fun hp x => ?_, fun v x => ?_, ?_, fun v x => ?_, ?_, ?_, ?_⟩
  · obtain ⟨q, hq, rfl⟩ := hp.of_within
    exact hrests (hS.offers hq _) (Play.endState_within q x)
  · exact hrests (hS.look v _) (Play.endState_within _ x)
  · rintro v x y hv h
    obtain ⟨z, hz, hy⟩ := Play.within_eq_ok h
    simpa only [Reel.within, hy, hput] using hS.seen v (x.onlyPart part) z hv hz
  · exact hrests (hS.stop v _) (Play.endState_within _ x)
  · rintro v x y hv h
    obtain ⟨z, hz, hy⟩ := Play.within_eq_ok h
    simpa only [Reel.within, hy, hput] using hS.stops v (x.onlyPart part) z hv hz
  · rintro file color x y (h | ⟨f, h⟩)
    · obtain ⟨z, hz, hy⟩ := Play.within_eq_ok h
      exact hrests (hS.fails file color _ z (.inl hz)) hy
    · obtain ⟨z, hz, rfl⟩ := Play.within_eq_error h
      exact hrests (hS.fails file color _ z (.inr ⟨f, hz⟩)) rfl
  · rintro file color x v y h
    obtain ⟨z, hz, hy⟩ := Play.within_eq_ok h
    simpa only [Reel.within, hy, hput, Scene.onlyPart_game] using hS.starts file color _ v z hz

end Within

lemma Services.PlaysVideos.withRandom {S : Services σ} {V : Reel σ} (hS : S.PlaysVideos V)
    {random : Int → Int → Play σ Int}
    (hr : ∀ lo hi x, V.Rests x.game (endState (random lo hi) x).game) :
    Services.PlaysVideos { S with random := random } V where
  offers hp x := hp.withRandom (P := fun p => ∀ x, V.Rests x.game (endState p x).game)
    (fun hp x => hS.offers hp x) hr x
  look := hS.look
  seen := hS.seen
  stop := hS.stop
  stops := hS.stops
  fails := hS.fails
  starts := hS.starts

lemma Cli.Game.headless_setDice (g : Cli.Game) (n : Nat) :
    ({ g with dice := n } : Cli.Game).headless = g.headless := rfl

lemma Cli.draw_headless (lo hi : Int) (x : Scene Cli.Game) :
    (endState (Cli.draw lo hi) x).game.headless = x.game.headless := by
  have hdice : Preserves (fun y : Scene Cli.Game => y.game.headless = x.game.headless)
      (Play.updateGame fun g => { g with dice := Dice.next g.dice }) :=
    Leads.modify fun y hy => (y.game.headless_setDice _).trans hy
  have hdraw : Preserves (fun y => y.game.headless = x.game.headless) (Cli.draw lo hi) := by
    unfold draw
    refine Leads.guard (fun _ h => h) (hdice.bind fun _ => ?_)
    exact Preserves.bind (Preserves.get.bind fun _ => .pure _) fun _ => .pure _
  exact hdraw.endState rfl

lemma Cli.services_playsVideos :
    Cli.services.PlaysVideos (Headless.reel.within Cli.Game.headless) := by
  have hheadless : (Headless.services fun lo _ => return lo).PlaysVideos Headless.reel :=
    Headless.services_playsVideos fun _ _ _ => .pure _
  refine Services.PlaysVideos.withRandom (hheadless.within fun _ _ => rfl) fun lo hi x => ?_
  have hx := draw_headless lo hi x
  refine ⟨?_, fun v _ hs => ?_⟩
  · simp only [Reel.within, hx]
  · simpa only [Reel.within, hx] using hs

end EventScript
