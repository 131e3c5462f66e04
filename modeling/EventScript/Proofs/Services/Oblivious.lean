import EventScript.Proofs.InStep
import EventScript.Proofs.Services.Headless

/-! Services that do not look at the log: from scenes that differ in their logs only they run in
step. -/

namespace EventScript

variable {σ α : Type}

lemma Scene.Alike.entity? {x y : Scene σ} (h : x.Alike y) (e : EntityId) :
    x.entity? e = y.entity? e := by
  unfold Scene.entity?
  rw [h.2]

/-- The operation does not look at the log. -/
def Play.Oblivious (p : Play σ α) : Prop := InStep Scene.Alike Eq p p

/-- The services of a game do not look at the log. -/
structure Services.Oblivious (S : Services σ) : Prop where
  offers : ∀ {α : Type} {p : Play σ α}, S.Offers p → p.Oblivious
  playVideo : ∀ file color, (S.playVideo file color).Oblivious
  videoStopped : ∀ v, (S.videoStopped v).Oblivious
  stopVideo : ∀ v, (S.stopVideo v).Oblivious

namespace Play

lemma log_inStep (level : LogLevel) (text text' : String) :
    InStep Scene.Alike Eq (Play.log level text : Play σ Unit) (Play.log level text') :=
  .modify fun _ _ h => h

lemma info_oblivious (text : String) : (info text : Play σ Unit).Oblivious := log_inStep _ _ _

lemma updateEntity_oblivious (e : EntityId) (f : Entity → Entity) :
    (Play.updateEntity e f : Play σ Unit).Oblivious :=
  .modify fun _ _ h => ⟨h.1, congrArg (·.modify e f) h.2⟩

lemma updateGame_oblivious (f : σ → σ) : (updateGame f).Oblivious :=
  .modify fun _ _ h => ⟨congrArg f h.1, h.2⟩

lemma introduce_oblivious (x : Entity) : (introduce x : Play σ EntityId).Oblivious := by
  refine InStep.get.bind fun s t h => ?_
  rw [h.2]
  exact (InStep.set ⟨h.1, rfl⟩).andThen fun _ => .same _

lemma game_bind {f : σ → Play σ α} (hf : ∀ g, (f g).Oblivious) : (game >>= f).Oblivious :=
  InStep.andThen (InStep.get.bind fun _ _ h => .pure h.1.symm) hf

end Play

lemma Services.Oblivious.listener {S : Services σ} (hS : S.Oblivious) : S.listener.Oblivious := by
  refine (hS.offers .player).andThen fun p => ?_
  split
  · exact .same _
  · refine InStep.get.bind fun x y h => ?_
    rw [h.entity?]
    split
    · exact .same _
    · split
      · exact .same _
      · exact .fail _

namespace Headless

open Play

lemma release_oblivious (e : EntityId) : (release e).Oblivious :=
  game_bind fun _ => .ite Iff.rfl (updateEntity_oblivious e _) (.same ())

lemma dismiss_oblivious (e : EntityId) : (dismiss e).Oblivious :=
  (updateEntity_oblivious e _).andThen fun _ => release_oblivious e

lemma addEntity_oblivious (kind : EntityKind) (file : String) (x y : Datum) :
    (addEntity kind file x y).Oblivious := by
  unfold addEntity
  dsimp only
  split
  · exact .fail _
  · refine game_bind fun g => (introduce_oblivious _).andThen fun e => ?_
    refine (updateGame_oblivious _).andThen fun _ => ?_
    split
    · exact (release_oblivious _).andThen fun _ => info_oblivious _
    · exact info_oblivious _

lemma deleteEntity_oblivious (kind : EntityKind) (name : String) :
    (deleteEntity kind name).Oblivious := by
  refine game_bind fun g => ?_
  split
  · exact (updateGame_oblivious _).andThen fun _ => (dismiss_oblivious _).andThen fun _ =>
      info_oblivious _
  · exact info_oblivious _

lemma loadMap_oblivious (file : String) : (loadMap file).Oblivious := by
  have hall (es : List EntityId) : (dismissAll es).Oblivious := by
    induction es with
    | nil => exact .same ()
    | cons e es ih => exact (dismiss_oblivious e).andThen fun _ => ih
  exact game_bind fun _ => (updateGame_oblivious _).andThen fun _ => (hall _).andThen fun _ =>
    info_oblivious _

lemma movePlayer_oblivious (x y : Datum) : (movePlayer x y).Oblivious := by
  refine game_bind fun g => ?_
  split
  · split
    · exact .fail _
    · exact updateEntity_oblivious _ _
  · exact .same ()

lemma checkDigits_oblivious (ns : List Int) : (checkDigits ns).Oblivious :=
  .ite Iff.rfl (.fail _) (.same ())

lemma addMoney_oblivious (amount : Int) : (addMoney amount).Oblivious := by
  unfold addMoney
  refine (updateGame_oblivious _).andThen fun _ => game_bind fun g => ?_
  exact (checkDigits_oblivious _).andThen fun _ => info_oblivious _

lemma setMagicLevel_oblivious (file : String) (level : Int) :
    (setMagicLevel file level).Oblivious :=
  updateGame_oblivious _

lemma perform_oblivious (c : Call) : (perform c).Oblivious := by
  cases c with
  | selection a b question =>
    exact game_bind fun _ => .guard Iff.rfl (.refl _) (info_oblivious _)
  | showDialog text portrait => exact (checkDigits_oblivious _).andThen fun _ => info_oblivious _
  | addNpc file x y | addObj file x y => exact addEntity_oblivious _ _ _ _
  | deleteNpc name | deleteObj name => exact deleteEntity_oblivious _ _
  | setPlayerTilePosition x y => exact movePlayer_oblivious _ _
  | addPlayerMoney amount => exact addMoney_oblivious amount
  | loadMap file => exact loadMap_oblivious file
  | setMapTrap index file map =>
    refine game_bind fun g => ?_
    split
    · exact .fail _
    · exact updateGame_oblivious _
  | beginRain | stopRain | showSnow =>
    rw [perform]
    exact updateGame_oblivious _
  | setMagicLevel file level => exact setMagicLevel_oblivious file level
  | showMessage | addMemo | deleteGood | playMusic | stopMusic | playSound =>
    exact info_oblivious _
  | _ => exact .same ()

lemma addGood_oblivious (file : String) : (addGood file).Oblivious := by
  refine game_bind fun g => ?_
  split
  · exact .same _
  · exact (updateGame_oblivious _).andThen fun _ => .same _

lemma addMagic_oblivious (file : String) : (addMagic file).Oblivious := by
  refine game_bind fun g => ?_
  split
  · exact .same _
  · exact (updateGame_oblivious _).andThen fun _ => .same _

lemma addVideo_oblivious (frames : Int) : (addVideo frames).Oblivious :=
  game_bind fun _ => (updateGame_oblivious _).andThen fun _ => .same _

lemma stopVideo_oblivious (v : VideoId) : (stopVideo v).Oblivious := updateGame_oblivious _

lemma lookAt_oblivious (v : VideoId) : (lookAt v).Oblivious := by
  refine game_bind fun g => ?_
  split
  · exact .same _
  · exact (updateGame_oblivious _).andThen fun _ => .same _

lemma services_oblivious {random : Int → Int → Play Headless Int}
    (hr : ∀ lo hi, (random lo hi).Oblivious) : (services random).Oblivious where
  offers hp := by
    cases hp with
    | perform c => exact perform_oblivious c
    | addGood file => exact addGood_oblivious file
    | addMagic file => exact addMagic_oblivious file
    | random lo hi => exact hr lo hi
    | dialogEnded | selectionEnded | levelList => exact .same _
    | choice | talkLine | player | mapName | npc | obj => exact game_bind fun _ => .same _
  playVideo _ _ := (checkDigits_oblivious _).andThen fun _ => (info_oblivious _).andThen fun _ =>
    game_bind fun g => (addVideo_oblivious g.videoFrames).andThen fun _ => .same _
  videoStopped := lookAt_oblivious
  stopVideo := stopVideo_oblivious

end Headless

section Within

variable {τ : Type} {part : τ → σ} {put : τ → σ → τ}

lemma Play.within_oblivious {p : Play σ α} (hp : p.Oblivious) : (p.within part put).Oblivious := by
  intro x y h
  have hr := hp ⟨part x.game, x.entities, x.log⟩ ⟨part y.game, y.entities, y.log⟩
    ⟨congrArg part h.1, h.2⟩
  unfold Play.within
  cases hx : p ⟨part x.game, x.entities, x.log⟩ <;>
    cases hy : p ⟨part y.game, y.entities, y.log⟩ <;> rw [hx, hy] at hr <;> cases hr
  · next ha h' => exact .ok ha ⟨congrArg₂ put h.1 h'.1, h'.2⟩
  · next ha h' => exact .error ha ⟨congrArg₂ put h.1 h'.1, h'.2⟩

lemma Services.Oblivious.within {S : Services σ} (hS : S.Oblivious) :
    (S.within part put).Oblivious where
  offers hp := by
    obtain ⟨q, hq, rfl⟩ := hp.of_within
    exact Play.within_oblivious (hS.offers hq)
  playVideo file color := Play.within_oblivious (hS.playVideo file color)
  videoStopped v := Play.within_oblivious (hS.videoStopped v)
  stopVideo v := Play.within_oblivious (hS.stopVideo v)

end Within

lemma Services.Oblivious.withRandom {S : Services σ} (hS : S.Oblivious)
    {random : Int → Int → Play σ Int} (hr : ∀ lo hi, (random lo hi).Oblivious) :
    Services.Oblivious { S with random := random } where
  offers hp := hp.withRandom (P := Play.Oblivious) hS.offers hr
  playVideo := hS.playVideo
  videoStopped := hS.videoStopped
  stopVideo := hS.stopVideo

lemma Cli.services_oblivious : Cli.services.Oblivious := by
  have hheadless : (Headless.services fun lo _ => return lo).Oblivious :=
    Headless.services_oblivious fun _ _ => .same _
  refine hheadless.within.withRandom fun lo hi => ?_
  refine .guard Iff.rfl (.refl _) ((Play.updateGame_oblivious _).andThen fun _ => ?_)
  exact Play.game_bind fun _ => .same _

end EventScript
