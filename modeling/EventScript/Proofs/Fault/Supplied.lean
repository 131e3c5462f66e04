import EventScript.Proofs.Fault.Missing
import EventScript.Proofs.Fault.Services

/-! Computations that never fail for want of an argument. Such is all that the games of the library
do, and what happens on the screen. -/

namespace EventScript

variable {σ α β : Type}

def Supplied (p : EStateM Fault σ α) : Prop :=
  Triple (fun _ => True) p (fun _ _ => True) fun f _ => f ≠ .missingArgument

namespace Supplied

variable {p : EStateM Fault σ α}

lemma pure (a : α) : Supplied (Pure.pure a : EStateM Fault σ α) := Triple.pure fun _ _ => trivial

lemma get : Supplied (MonadState.get : EStateM Fault σ σ) := fun _ _ => .ok trivial

lemma set (s : σ) : Supplied (MonadStateOf.set s : EStateM Fault σ PUnit) := fun _ _ => .ok trivial

lemma modify (f : σ → σ) : Supplied (modify f : EStateM Fault σ PUnit) :=
  Triple.modify fun _ _ => trivial

lemma throw {f : Fault} (hf : f ≠ .missingArgument) :
    Supplied (MonadExcept.throw f : EStateM Fault σ α) :=
  Triple.throw fun _ _ => hf

lemma bind {q : EStateM Fault σ β} {f : β → EStateM Fault σ α} (hq : Supplied q)
    (hf : ∀ b, Supplied (f b)) : Supplied (q >>= f) :=
  Triple.bind hq hf

lemma ite {c : Prop} [Decidable c] {q : EStateM Fault σ α} (hp : Supplied p) (hq : Supplied q) :
    Supplied (if c then p else q) :=
  Triple.ite (fun _ => hp) fun _ => hq

lemma guard {c : Prop} [Decidable c] {f : Fault} (hf : f ≠ .missingArgument) (hp : Supplied p) :
    Supplied (if c then (MonadExcept.throw f : EStateM Fault σ PUnit) >>= fun _ => p else p) :=
  .ite (.bind (.throw hf) fun _ => hp) hp

lemma modular : Modular fun p : EStateM Fault σ _ => Supplied p where
  pure := pure
  get := get
  throw := throw
  bind := bind

lemma ne_error (hp : Supplied p) (s t : σ) : p s ≠ .error .missingArgument t := by
  intro h
  have hends := hp s trivial
  rw [h] at hends
  cases hends with
  | error hf => exact hf rfl

end Supplied

structure Services.IsSupplied (S : Services σ) : Prop where
  offers : ∀ {α : Type} {p : Play σ α}, S.Offers p → Supplied p
  playVideo : ∀ file color, Supplied (S.playVideo file color)
  videoStopped : ∀ v, Supplied (S.videoStopped v)
  stopVideo : ∀ v, Supplied (S.stopVideo v)

namespace Supplied

lemma of_returns {p : EStateM Fault σ α} (hp : Returns p) : Supplied p := Triple.of_returns hp

lemma within {τ : Type} {p : Play σ α} (hp : Supplied p) (part : τ → σ) (put : τ → σ → τ) :
    Supplied (p.within part put) := by
  intro s _
  have h := hp { game := part s.game, entities := s.entities, log := s.log } trivial
  unfold Play.within
  cases hr : p _ <;> rw [hr] at h <;> cases h <;> constructor <;> assumption

end Supplied

lemma Point.ofData_ne_missing (x y : Datum) : ofData x y ≠ .error .missingArgument := by
  have hreal (x : Datum) : x.toReal ≠ .error .missingArgument := by
    unfold Datum.toReal
    repeat' split
    all_goals nofun
  exact bind_ne_missing (hreal x) fun _ => bind_ne_missing (hreal y) nofun

namespace Headless

lemma addEntity_supplied (kind : EntityKind) (file : String) (x y : Datum) :
    Supplied (addEntity kind file x y) := by
  unfold addEntity
  dsimp only
  split
  · next h => exact .throw fun hf => Point.ofData_ne_missing x y (hf ▸ h)
  · refine .bind (.of_returns game_returns) fun _ => ?_
    refine .bind (fun _ _ => .ok trivial) fun _ => .bind (.modify _) fun _ => ?_
    split
    · exact .bind (.of_returns (release_returns _)) fun _ => .modify _
    · exact .modify _

lemma movePlayer_supplied (x y : Datum) : Supplied (movePlayer x y) := by
  refine .bind (.of_returns game_returns) fun h => ?_
  split
  · split
    · next h => exact .throw fun hf => Point.ofData_ne_missing x y (hf ▸ h)
    · exact .modify _
  · exact .pure _

lemma checkDigits_supplied (ns : List Int) : Supplied (checkDigits ns) :=
  .ite (.throw nofun) (.pure _)

lemma addMoney_supplied (amount : Int) : Supplied (addMoney amount) := by
  unfold addMoney
  refine .bind (.modify _) fun _ => .bind (.of_returns game_returns) fun h => ?_
  exact .bind (checkDigits_supplied _) fun _ => .modify _

lemma setTrap_supplied (index : Int) (file : String) (map : Option String) :
    Supplied (setTrap index file map) := by
  have hmap (current : Datum) : trapMap map current ≠ .error .missingArgument := by
    unfold trapMap
    repeat' split
    all_goals nofun
  refine .bind (.of_returns game_returns) fun h => ?_
  split
  · next hf => exact .throw fun h' => hmap _ (h' ▸ hf)
  · exact .modify _

lemma perform_supplied (c : Call) : Supplied (perform c) := by
  cases c with
  | addNpc file x y | addObj file x y => exact addEntity_supplied _ file _ _
  | setPlayerTilePosition x y => exact movePlayer_supplied _ _
  | addPlayerMoney amount => exact addMoney_supplied amount
  | setMapTrap index file map => exact setTrap_supplied index file map
  | showDialog text portrait => exact .bind (checkDigits_supplied _) fun _ => .modify _
  | selection a b question =>
    exact .bind (.of_returns game_returns) fun h => .guard nofun (.modify _)
  | _ => exact .of_returns (perform_returns rfl)

lemma playVideo_supplied (file : String) (color : Color) : Supplied (playVideo file color) := by
  have hvideo : Returns (do return some (← addVideo (← Play.game).videoFrames) :
      Play Headless (Option VideoId)) :=
    game_returns.bind fun _ => Returns.bind (game_returns.bind fun _ =>
      (Returns.modify _).bind fun _ => .pure _) fun _ => .pure _
  exact .bind (checkDigits_supplied _) fun _ => .bind (.modify _) fun _ => .of_returns hvideo

end Headless

lemma Services.IsStock.isSupplied {world : σ → Headless} {S : Services σ} (hS : S.IsStock world)
    (hrandom : ∀ lo hi, Supplied (S.random lo hi)) : S.IsSupplied := by
  cases hS with
  | headless put random hput =>
    have hgrants {β : Type} {p : Play Headless β}
        (hp : (Headless.services fun lo _ => return lo).Grants p) : Supplied (p.within world put) :=
      (Supplied.of_returns (Headless.grants_returns hp)).within world put
    refine ⟨fun hp => ?_, fun file color => (Headless.playVideo_supplied file color).within world put,
      fun v => hgrants (.videoStopped v), fun v => hgrants (.stopVideo v)⟩
    cases hp with
    | perform c => exact (Headless.perform_supplied c).within world put
    | talkLine i => exact hgrants (.talkLine i)
    | addGood file => exact hgrants (.addGood file)
    | addMagic file => exact hgrants (.addMagic file)
    | random lo hi => exact hrandom lo hi
    | _ => exact fun _ _ => .ok trivial
  | silent random =>
    refine ⟨fun hp => ?_, fun _ _ => .pure _, fun _ => .pure _, fun _ => .pure _⟩
    cases hp with
    | random lo hi => exact hrandom lo hi
    | _ => exact .pure _

namespace Stage

variable {η : Type} {S : Services σ}

lemma play_supplied {p : Play σ α} (hp : Supplied p) : Supplied (play p : Stage σ η α) := by
  intro s _
  have h := hp s.scene trivial
  unfold play
  cases hr : p s.scene <;> rw [hr] at h <;> cases h <;> constructor <;> assumption

variable (hS : S.IsSupplied)

include hS

lemma stopMovie_supplied : Supplied (stopMovie S : Stage σ η Unit) :=
  Supplied.modular.stopMovie (fun v => play_supplied (hS.videoStopped v)) (fun _ _ => .modify _)
    fun v => play_supplied (hS.stopVideo v)

lemma playMovie_supplied (file : String) (color : Color) :
    Supplied (playMovie S file color : Stage σ η Bool) :=
  Supplied.modular.playMovie (stopMovie_supplied hS) (play_supplied (hS.playVideo file color))
    (fun _ _ => play_supplied (.modify _)) fun _ => .modify _

lemma movieEnded_supplied : Supplied (movieEnded S : Stage σ η Bool) :=
  Supplied.modular.movieEnded fun v => play_supplied (hS.videoStopped v)

end Stage

end EventScript
