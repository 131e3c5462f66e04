import EventScript.Proofs.Movie.Video
import EventScript.Proofs.Schedule.Books

/-! Games that fail early. What comes with the library, the headless game and the game in which
nothing happens, fails only as long as the world is untouched, and most of its services never. -/

namespace EventScript

variable {σ α : Type} {world : σ → Headless}

def Scene.SameWorld {ω : Type} (world : σ → ω) (x y : Scene σ) : Prop :=
  world y.game = world x.game ∧ y.entities = x.entities

lemma Scene.SameWorld.refl {ω : Type} (world : σ → ω) (x : Scene σ) : x.SameWorld world x :=
  ⟨rfl, rfl⟩

lemma Scene.SameWorld.trans {ω : Type} {world : σ → ω} {x y z : Scene σ}
    (h : x.SameWorld world y) (h' : y.SameWorld world z) : x.SameWorld world z :=
  ⟨h'.1.trans h.1, h'.2.trans h.2⟩

lemma Scene.Alike.sameWorld {ω : Type} (world : σ → ω) {x y : Scene σ} (h : x.Alike y) :
    x.SameWorld world y :=
  ⟨congrArg world h.1, h.2⟩

/-- Whether or not it fails, the operation leaves the world and the entities alone. -/
def Play.IsQuiet {ω : Type} (world : σ → ω) (p : Play σ α) : Prop :=
  ∀ x : Scene σ, Preserves (x.SameWorld world) p

def Call.noted : Call → List Int
  | .showDialog _ portrait => [portrait]
  | .addPlayerMoney amount => [amount]
  | _ => []

def Instruction.noted : Instruction → List Int
  | .add _ n => [n]
  | .talk first last => [first, last]
  | .playMovie _ color => color.parts
  | .addRandMoney least most => [least, most]
  | .call c | .callForPlayer c | .callIfPlayer c => c.noted
  | _ => []

def Call.isRisky : Call → Bool
  | .addNpc .. | .addObj .. | .setPlayerTilePosition .. | .addPlayerMoney _ | .setMapTrap ..
  | .showDialog .. | .selection .. => true
  | _ => false

/-- The choice and the portraits of the talk text can be written out. -/
structure Headless.IsPrintable (h : Headless) : Prop where
  choice : h.choice.isPrintable = true
  portrait : ∀ i line, Ledger.get? h.talk i = some line →
    Text.exceedsDigitLimit line.portrait = false

inductive Services.Grants (S : Services σ) : {α : Type} → Play σ α → Prop
  | talkLine (i : Int) : Grants S (S.talkLine i)
  | addGood (file : String) : Grants S (S.addGood file)
  | addMagic (file : String) : Grants S (S.addMagic file)
  | videoStopped (v : VideoId) : Grants S (S.videoStopped v)
  | stopVideo (v : VideoId) : Grants S (S.stopVideo v)
  | perform (c : Call) (hc : c.isRisky = false) : Grants S (S.perform c)

/-- The game fails only as long as the world is untouched, apart from numbers that are too large to
be written out. -/
structure Services.FailsEarly (S : Services σ) (world : σ → Headless) : Prop where
  answers : ∀ {α : Type} {p : Play σ α}, S.Answers p → p.IsQuiet world
  grants : ∀ {α : Type} {p : Play σ α}, S.Grants p → Returns p
  playVideo : ∀ file color, color.parts.any Text.exceedsDigitLimit = false →
    Returns (S.playVideo file color)
  perform : ∀ c x f y, S.perform c x = .error f y → c.noted.any Text.exceedsDigitLimit = false →
    Text.exceedsDigitLimit (world y.game).money = false → x.SameWorld world y
  prompt : ∀ c x, c.isPrompt = true → c.noted.any Text.exceedsDigitLimit = false →
    (world x.game).IsPrintable → ∃ y, S.perform c x = .ok () y
  line : ∀ i x line y, (world x.game).IsPrintable → S.talkLine i x = .ok (some line) y →
    Text.exceedsDigitLimit line.portrait = false
  draws : ∀ lo hi x n y, S.random lo hi x = .ok n y → lo ≤ n ∧ n < hi
  keeps : S.Keeps fun x => (world x.game).IsPrintable

/-- Draws a number of a range, and does nothing to the world and the entities. -/
structure Play.IsDraw (world : σ → Headless) (lo hi : Int) (p : Play σ Int) : Prop where
  quiet : p.IsQuiet world
  range : ∀ x n y, p x = .ok n y → lo ≤ n ∧ n < hi

/-- The services that come with the library: those of the headless game, which may be part of a
larger one, and those of a game in which nothing happens. Where numbers are drawn from is left
open. -/
inductive Services.IsStock (world : σ → Headless) : Services σ → Prop
  | headless (put : σ → Headless → σ) (random : Int → Int → Play σ Int)
      (hput : ∀ g h, world (put g h) = h) (hrandom : ∀ lo hi, (random lo hi).IsDraw world lo hi) :
      IsStock world
        { (Headless.services fun lo _ => return lo).within world put with random := random }
  | silent (random : Int → Int → Play σ Int)
      (hrandom : ∀ lo hi, (random lo hi).IsDraw world lo hi) :
      IsStock world (Services.silent random)

lemma Triple.of_returns {ε : Type} {P : σ → Prop} {E : ε → σ → Prop} {p : EStateM ε σ α}
    (hp : Returns p) : Triple P p (fun _ _ => True) E := by
  intro s _
  obtain ⟨a, t, h⟩ := hp s
  exact .of_ok h trivial

namespace Headless

lemma game_returns : Returns (Play.game : Play Headless Headless) :=
  Returns.get.bind fun _ => .pure _

lemma release_returns (e : EntityId) : Returns (release e) :=
  game_returns.bind fun _ => .ite (.modify _) (.pure _)

lemma dismiss_returns (e : EntityId) : Returns (dismiss e) :=
  (Returns.modify _).bind fun _ => release_returns e

lemma dismissAll_returns (es : List EntityId) : Returns (dismissAll es) := by
  induction es with
  | nil => exact .pure _
  | cons e es ih => exact (dismiss_returns e).bind fun _ => ih

lemma deleteEntity_returns (kind : EntityKind) (name : String) :
    Returns (deleteEntity kind name) := by
  refine game_returns.bind fun h => ?_
  split
  · exact (Returns.modify _).bind fun _ => (dismiss_returns _).bind fun _ => .modify _
  · exact .modify _

lemma checkDigits_returns {ns : List Int} (h : ns.any Text.exceedsDigitLimit = false) :
    Returns (checkDigits ns) := by
  unfold checkDigits
  rw [h]
  exact .pure _

lemma perform_returns {c : Call} (hc : c.isRisky = false) : Returns (perform c) := by
  cases c with
  | addNpc | addObj | setPlayerTilePosition | addPlayerMoney | setMapTrap | showDialog
  | selection => simp [Call.isRisky] at hc
  | deleteNpc name | deleteObj name => exact deleteEntity_returns _ name
  | loadMap file =>
    exact game_returns.bind fun _ => (Returns.modify _).bind fun _ =>
      (dismissAll_returns _).bind fun _ => .modify _
  | showMessage | addMemo | deleteGood | playMusic | stopMusic | playSound | beginRain | stopRain
  | showSnow | setMagicLevel => exact .modify _
  | _ => exact .pure _

lemma perform_of_prompt {c : Call} {x : Scene Headless} (hc : c.isPrompt = true)
    (hnoted : c.noted.any Text.exceedsDigitLimit = false) (hx : x.game.IsPrintable) :
    ∃ y, perform c x = .ok () y := by
  cases c with
  | showDialog text portrait =>
    obtain ⟨_, y, h⟩ := (checkDigits_returns hnoted).bind
      (fun _ => (Returns.modify _ : Returns (Play.info s!"dialog [{portrait}]: {text}"))) x
    exact ⟨y, h⟩
  | selection a b question =>
    simp only [perform]
    rw [bind_of_ok (show Play.game x = .ok x.game x from rfl)]
    simp only [hx.choice, Bool.not_true, Bool.false_eq_true, if_false]
    exact ⟨_, rfl⟩
  | closeDialog | closeSelection => exact ⟨x, rfl⟩
  | _ => cases hc

/-- A call that fails has changed nothing yet, unless a number is too large to be written out. -/
lemma perform_failsEarly (c : Call) (x : Scene Headless) :
    Triple (· = x) (perform c) (fun _ _ => True) fun _ y =>
      c.noted.any Text.exceedsDigitLimit = false →
        Text.exceedsDigitLimit y.game.money = false → y = x := by
  have hadd (kind : EntityKind) (file : String) (a b : Datum) :
      Triple (· = x) (addEntity kind file a b) (fun _ _ => True) fun _ y => y = x := by
    unfold addEntity
    dsimp only
    split
    · exact Triple.throw fun _ hy => hy
    · refine Triple.of_returns (game_returns.bind fun _ => ?_)
      refine Returns.bind (fun s => ⟨_, _, rfl⟩) fun e => (Returns.modify _).bind fun _ => ?_
      split
      · exact (release_returns _).bind fun _ => .modify _
      · exact .modify _
  have hgame : Triple (· = x) (Play.game : Play Headless Headless) (fun _ y => y = x)
      fun _ y => y = x := by
    rintro _ rfl
    exact .ok rfl
  have hearly {p : Play Headless Unit} (hp : Triple (· = x) p (fun _ _ => True) fun _ y => y = x) :
      Triple (· = x) p (fun _ _ => True) fun _ y =>
        c.noted.any Text.exceedsDigitLimit = false →
          Text.exceedsDigitLimit y.game.money = false → y = x :=
    hp.weaken (fun _ h => h) (fun _ _ h => h) fun _ _ h _ _ => h
  cases c with
  | addNpc file a b | addObj file a b => exact hearly (hadd _ _ _ _)
  | setPlayerTilePosition a b =>
    refine hearly (hgame.bind fun h => ?_)
    split
    · split
      · exact Triple.throw fun _ hy => hy
      · exact Triple.of_returns (.modify _)
    · exact Triple.of_returns (.pure _)
  | addPlayerMoney amount =>
    rintro y rfl
    change Ends _ _ (addMoney amount y)
    unfold addMoney Play.updateGame checkDigits
    rw [bind_of_ok (modify_apply _ _), bind_of_ok (show Play.game _ = .ok _ _ from rfl)]
    split
    · next hany =>
      -- Either the amount or the sum is too large.
      refine .error fun hamount hsum => ?_
      simp_all [Call.noted]
    · exact .ok trivial
  | setMapTrap index file map =>
    refine hearly (hgame.bind fun h => ?_)
    split
    · exact Triple.throw fun _ hy => hy
    · exact Triple.of_returns (.modify _)
  | showDialog text portrait =>
    refine hearly (Triple.bind (R := fun _ y => y = x) ?_ fun _ => Triple.of_returns (.modify _))
    exact Triple.ite (fun _ => Triple.throw fun _ hy => hy) fun _ => Triple.pure fun _ hy => hy
  | selection a b question =>
    refine hearly (hgame.bind fun h => Triple.ite (fun _ => ?_) fun _ => Triple.of_returns (.modify _))
    exact Triple.bind (R := fun _ _ => True) (Triple.throw fun _ hy => hy) fun _ =>
      Triple.of_returns (.modify _)
  | _ => exact Triple.of_returns (perform_returns rfl)

lemma IsPrintable.of_fixtures {g h : Headless} (hg : g.IsPrintable) (hf : h.fixtures = g.fixtures) :
    h.IsPrintable := by
  obtain ⟨htalk, hchoice, -⟩ : h.talk = g.talk ∧ h.choice = g.choice ∧
      h.videoFrames = g.videoFrames ∧ h.videos = g.videos := by simpa [fixtures] using hf
  exact ⟨hchoice ▸ hg.choice, htalk ▸ hg.portrait⟩

lemma isPrintable_keeps : Keeps fun x => x.game.IsPrintable where
  updateGame := fun hf => Leads.modify fun x hx => hx.of_fixtures (hf x.game)
  info _ := Leads.modify fun _ hx => hx
  updateEntity _ := fun _ => Leads.modify fun _ hx => hx
  introduce _ := fun _ hx => .ok hx

variable {draw : Int → Int → Play Headless Int}

lemma grants_returns {p : Play Headless α} (hp : (services draw).Grants p) : Returns p := by
  cases hp with
  | talkLine i => exact game_returns.bind fun _ => .pure _
  | addGood file | addMagic file =>
    refine game_returns.bind fun h => ?_
    split
    · exact .pure _
    · exact (Returns.modify _).bind fun _ => .pure _
  | videoStopped v => exact lookAt_returns v
  | stopVideo v => exact .modify _
  | perform c hc => exact perform_returns hc

lemma playVideo_returns (file : String) {color : Color}
    (h : color.parts.any Text.exceedsDigitLimit = false) : Returns (playVideo file color) := by
  intro x
  obtain ⟨log, hplay⟩ := playVideo_apply (fun lo _ => return lo) file color x
  exact ⟨_, _, hplay.trans (if_neg (by simp [h]))⟩

end Headless

section Within

variable {put : σ → Headless → σ}

lemma Play.within_keeps {J : Headless → Prop} (hput : ∀ g h, world (put g h) = h)
    {p : Play Headless α} (hp : Preserves (fun x => J x.game) p) :
    Preserves (fun x => J (world x.game)) (p.within world put) := by
  intro x hx
  have h := hp { game := world x.game, entities := x.entities, log := x.log } hx
  unfold Play.within
  cases hr : p _ <;> rw [hr] at h <;> cases h
  · exact .ok ((hput x.game _).symm ▸ by assumption)
  · exact .error ((hput x.game _).symm ▸ by assumption)

lemma Play.IsQuiet.keeps {J : Headless → Prop} {p : Play σ α} (hp : p.IsQuiet world) :
    Preserves (fun x => J (world x.game)) p := by
  refine Leads.of_endState fun x hx => ?_
  rw [((hp x).endState (.refl world x)).1]
  exact hx

end Within

lemma Services.IsStock.keeps {S : Services σ} (hS : S.IsStock world) :
    S.Keeps fun x => (world x.game).IsPrintable := by
  cases hS with
  | headless put random hput hrandom =>
    have hwithin {α : Type} {p : Play Headless α} (hp : Preserves (fun x => x.game.IsPrintable) p) :
        Preserves (fun x => (world x.game).IsPrintable) (p.within world put) :=
      Play.within_keeps hput hp
    refine ⟨fun hp => Leads.of_endState fun x => ?_, fun file color => hwithin ?_,
      fun v => hwithin ?_, fun v => hwithin (p := Headless.stopVideo v) ?_⟩
    · refine hp.related (R := fun g h => (world g).IsPrintable → (world h).IsPrintable)
        (fun _ hg => hg) (fun hgh hhk hg => hhk (hgh hg)) (fun hp x hx => ?_) x
      refine Leads.endState (hp.withRandom (P := fun p => Preserves _ p) (fun hp => ?_)
        fun lo hi => (hrandom lo hi).quiet.keeps (J := Headless.IsPrintable)) hx
      obtain ⟨q, hq, rfl⟩ := hp.of_within
      exact hwithin (Headless.isPrintable_keeps.offers (fun _ _ => .pure _) hq)
    · refine (Headless.checkDigits_keeps _).bind fun _ => (Headless.isPrintable_keeps.info _).bind
        fun _ => Headless.game_keeps.bind fun g => Preserves.bind ?_ fun _ => .pure _
      exact Headless.game_keeps.bind fun _ =>
        Preserves.bind (Leads.modify fun x hx => ⟨hx.choice, hx.portrait⟩) fun _ => .pure _
    · refine Headless.game_keeps.bind fun _ => ?_
      split
      · exact .pure _
      · exact Preserves.bind (Leads.modify fun x hx => ⟨hx.choice, hx.portrait⟩) fun _ => .pure _
    · exact Leads.modify fun x hx => ⟨hx.choice, hx.portrait⟩
  | silent random hrandom =>
    refine ⟨fun hp => Leads.of_endState fun x => ?_, fun _ _ => .pure _, fun _ => .pure _,
      fun _ => .pure _⟩
    refine hp.related (R := fun g h => (world g).IsPrintable → (world h).IsPrintable)
      (fun _ hg => hg) (fun hgh hhk hg => hhk (hgh hg)) (fun hp x hx => ?_) x
    cases hp with
    | random lo hi => exact ((hrandom lo hi).quiet.keeps (J := Headless.IsPrintable)).endState hx
    | _ => exact hx

lemma Services.IsStock.failsEarly {S : Services σ} (hS : S.IsStock world) :
    S.FailsEarly world := by
  have hkeeps := hS.keeps
  cases hS with
  | headless put random hput hrandom =>
    have hgrants {α : Type} {p : Play Headless α}
        (hp : (Headless.services fun lo _ => return lo).Grants p) : Returns (p.within world put) :=
      (Headless.grants_returns hp).within _ _
    refine ⟨fun hp => ?_, fun hp => ?_, fun file color h => ?_, fun c x f y h hnoted hy => ?_,
      fun c x hc hnoted hx => ?_, fun i x line y hx h => ?_, fun lo hi => (hrandom lo hi).range,
      hkeeps⟩
    · cases hp with
      | random lo hi => exact (hrandom lo hi).quiet
      | _ => exact fun x y hy => .ok (hy.trans ⟨hput _ _, rfl⟩)
    · cases hp with
      | talkLine i => exact hgrants (.talkLine i)
      | addGood file => exact hgrants (.addGood file)
      | addMagic file => exact hgrants (.addMagic file)
      | videoStopped v => exact hgrants (.videoStopped v)
      | stopVideo v => exact hgrants (.stopVideo v)
      | perform c hc => exact hgrants (.perform c hc)
    · exact (Headless.playVideo_returns file h).within _ _
    · have hwithin : ((Headless.services fun lo _ => return lo).perform c).within world put x =
          .error f y := h
      obtain ⟨z, hz, rfl⟩ := Play.within_eq_error hwithin
      have hearly := Headless.perform_failsEarly c (x.onlyPart world) _ rfl
      simp only [hput] at hy
      rw [show Headless.perform c (x.onlyPart world) = .error f z from hz] at hearly
      cases hearly with
      | error hsame =>
        obtain rfl := hsame hnoted hy
        exact ⟨hput _ _, rfl⟩
    · obtain ⟨y, h⟩ := Headless.perform_of_prompt (c := c)
        (x := x.onlyPart world) hc hnoted hx
      exact Play.within_of_ok h
    · have hwithin : ((Headless.services fun lo _ => return lo).talkLine i).within world put x =
          .ok (some line) y := h
      obtain ⟨z, hz, -⟩ := Play.within_eq_ok hwithin
      exact hx.portrait i line (EStateM.Result.ok.inj hz).1
  | silent random hrandom =>
    refine ⟨fun hp => ?_, fun hp => ?_, fun _ _ _ => .pure _, ?_, fun _ x _ _ _ => ⟨x, rfl⟩, ?_,
      fun lo hi => (hrandom lo hi).range, hkeeps⟩
    · cases hp with
      | random lo hi => exact (hrandom lo hi).quiet
      | _ => exact fun x => .pure _
    · cases hp <;> exact .pure _
    · rintro c x f y ⟨⟩
    · rintro i x line y - ⟨⟩

end EventScript
