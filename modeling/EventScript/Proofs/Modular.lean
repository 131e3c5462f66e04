import EventScript.Proofs.Effect
import EventScript.Session.Basic

/-! Properties of computations that pass from the parts to the whole: to change certain aspects of a
session only, to keep something true, never to fail for want of an argument. What is made of a given
set of operations is gone through once for all of them. -/

namespace EventScript

/-- What only looks at the state has the property, and so does what fails, unless for want of an
argument. What is made of computations that have it has it too. -/
structure Modular {σ : Type} (P : ∀ {α : Type}, EStateM Fault σ α → Prop) : Prop where
  pure : ∀ {α : Type} (a : α), P (pure a)
  get : P get
  throw : ∀ {α : Type} {f : Fault}, f ≠ .missingArgument → P (throw f : EStateM Fault σ α)
  bind : ∀ {α β : Type} {p : EStateM Fault σ β} {f : β → EStateM Fault σ α},
    P p → (∀ b, P (f b)) → P (p >>= f)

variable {σ α β : Type}

namespace Modular

section Basic

variable {P : ∀ {α : Type}, EStateM Fault σ α → Prop} {c : Prop} [Decidable c]
  {p q : EStateM Fault σ α}

lemma ite (_ : Modular P) (hp : P p) (hq : P q) : P (if c then p else q) := by
  split
  · exact hp
  · exact hq

lemma guard (hP : Modular P) {f : Fault} (hf : f ≠ .missingArgument) (hp : P p) :
    P (if c then (MonadExcept.throw f : EStateM Fault σ PUnit) >>= fun _ => p else p) :=
  hP.ite (hP.bind (hP.throw hf) fun _ => hp) hp

end Basic

lemma preserves (I : σ → Prop) : Modular fun p : EStateM Fault σ _ => Preserves I p where
  pure _ := Leads.pure fun _ hs => hs
  get := fun _ hs => .ok hs
  throw _ := Leads.throw fun _ hs => hs
  bind hp hf := Leads.bind hp hf

end Modular

lemma Stage.play_bind {η : Type} (p : Play σ β) (f : β → Play σ α) :
    (play (p >>= f) : Stage σ η α) = play p >>= fun b => play (f b) := by
  funext x
  change play (EStateM.bind p f) x = EStateM.bind (play p) (fun b => play (f b)) x
  unfold play EStateM.bind
  dsimp only
  cases p x.scene <;> rfl

lemma Engine.stage_bind {H : Host} (p : Stage H.Game InstanceId β)
    (f : β → Stage H.Game InstanceId α) :
    (stage (p >>= f) : Engine H α) = stage p >>= fun b => stage (f b) := by
  funext s
  change stage (EStateM.bind p f) s = EStateM.bind (stage p) (fun b => stage (f b)) s
  unfold stage EStateM.bind
  dsimp only
  cases p s.screen <;> rfl

lemma Stage.play_preserves {η : Type} {I : Scene σ → Prop} {p : Play σ α} (hp : Preserves I p) :
    Preserves (fun x : Screen σ η => I x.scene) (play p) := by
  intro x hx
  have h := hp x.scene hx
  unfold play
  cases hr : p x.scene <;> rw [hr] at h <;> cases h
  · exact .ok (by assumption)
  · exact .error (by assumption)

section Stage

variable {H : Host} {I : Screen H.Game InstanceId → Prop} {p : Stage H.Game InstanceId α}

lemma Engine.stage_triple {Q : α → Screen H.Game InstanceId → Prop}
    {E : Fault → Screen H.Game InstanceId → Prop} (hp : Triple I p Q E) :
    Triple (fun s : Session H => I s.screen) (stage p) (fun a s => Q a s.screen)
      fun f s => E f s.screen := by
  intro s hs
  have h := hp s.screen hs
  unfold stage
  cases hr : p s.screen <;> rw [hr] at h <;> cases h
  · exact .ok (by assumption)
  · exact .error (by assumption)

lemma Engine.stage_preserves (hp : Preserves I p) :
    Preserves (fun s : Session H => I s.screen) (stage p) :=
  stage_triple hp

end Stage

namespace Modular

lemma play {η : Type} {P : ∀ {α : Type}, Stage σ η α → Prop} (hP : Modular P) :
    Modular fun p : Play σ _ => P (Stage.play p) where
  pure a := hP.pure a
  get := hP.bind hP.get fun x => hP.pure x.scene
  throw hf := hP.throw hf
  bind hp hf := by
    rw [Stage.play_bind]
    exact hP.bind hp hf

lemma stage {H : Host} {P : ∀ {α : Type}, Engine H α → Prop} (hP : Modular P) :
    Modular fun p : Stage H.Game InstanceId _ => P (Engine.stage p) where
  pure a := hP.pure a
  get := hP.bind hP.get fun s => hP.pure s.screen
  throw hf := hP.throw hf
  bind hp hf := by
    rw [Engine.stage_bind]
    exact hP.bind hp hf

lemma listener {P : ∀ {α : Type}, Play σ α → Prop} (hP : Modular P) {S : Services σ}
    (hplayer : P S.player) : P S.listener := by
  refine hP.bind hplayer fun e => ?_
  split
  · exact hP.pure _
  · refine hP.bind hP.get fun x => ?_
    split
    · exact hP.pure _
    · split
      · exact hP.pure _
      · exact hP.throw nofun

end Modular

end EventScript
