import EventScript.Proofs.Session.Apply
import EventScript.Proofs.Session.Footprint.Step
import EventScript.Proofs.Session.Request

/-! What a session keeps through its ticks. It is enough that each step and each cancel keeps it,
and that it depends on nothing else that a tick touches. -/

namespace EventScript

variable {H : Host} {w : Wiring H} {I : Session H → Prop}

/-- The property survives all that a tick does if it survives steps and cancels. -/
structure Wiring.Keeps (w : Wiring H) (I : Session H → Prop) : Prop where
  apart : ∀ a ∈ Aspect.apart, Ignores I a
  canceled : ∀ s id i, s.instance? id = some i → i.isActive = true → I s →
    I (s.modifyInstance id ({ · with status := .canceled }))
  step : ∀ id elapsed, Preserves I (Engine.step w id elapsed)

namespace Wiring.Keeps

open Engine

lemma within {α : Type} {p : Engine H α} (hw : w.Keeps I) (hp : Within Aspect.apart p) :
    Preserves I p :=
  hp.preserves hw.apart

lemma cancel (hw : w.Keeps I) (id : InstanceId) :
    Preserves I (Engine.cancel id : Engine H Unit) := by
  refine theInstance_bind (fun i => ?_) fun _ hs _ => hs
  refine Leads.ite (fun hactive => ?_) fun _ => .pure fun _ hs => hs.1
  have hset : Leads (fun s => I s ∧ s.instance? id = some i)
      (setStatus id .canceled : Engine H Unit) I :=
    .modify fun s hs => hw.canceled s id i hs.2 hactive hs.1
  refine hset.bind fun _ => hw.within ?_
  exact (logFor_within (by simp) id _ _).bind fun _ =>
    ended_within (by simp) (by simp) (by simp) .cancel

lemma abort (hw : w.Keeps I) (S : Services H.Game) (id : InstanceId) :
    Preserves I (Engine.abort S id : Engine H Unit) :=
  (Modular.preserves I).abort (hw.within (release_within (by simp) (by simp) (by simp) S id))
    (hw.cancel id)

lemma drop (hw : w.Keeps I) (S : Services H.Game) (id : InstanceId) :
    Preserves I (Engine.drop S id : Engine H Unit) := by
  refine (hw.abort S id).bind fun _ => hw.within (.modify fun s => ?_)
  exact .tail ((Change.active s (s.active.erase id)).changes (by simp))
    ⟨.pending, by simp, .pending _ (s.pending.erase id)⟩

lemma promote (hw : w.Keeps I) : Preserves I (Engine.promote : Engine H Unit) :=
  (Modular.preserves I).promote
    (fun _ => hw.within (begin_within (by simp) (by simp) (by simp)))
    (hw.within (.modify fun s => (Change.pending s _).changes (by simp)))
    fun _ => hw.within (.modify fun s => (Change.active s _).changes (by simp))

lemma stepUpTo (hw : w.Keeps I) (id : InstanceId) (elapsed : Option Float) (n : Nat) :
    Preserves I (Engine.stepUpTo w id elapsed n) := by
  induction n with
  | zero => exact .pure _
  | succ n ih =>
    refine Preserves.bind (attempt_leads (hw.step id elapsed)) fun r => ?_
    split
    · exact ih
    · exact .pure _
    · exact (hw.within (count_within (by simp) _)).bind fun _ => Preserves.get.bind fun _ =>
        (hw.within (log_within (by simp) _ _)).bind fun _ => hw.abort w.services id

lemma retire (hw : w.Keeps I) : Preserves I (modify Session.retire : Engine H PUnit) :=
  hw.within (retire_within (by simp) (by simp))

lemma tick (hw : w.Keeps I) (elapsed : Option Float) : Preserves I (Engine.tick w elapsed) := by
  have hticks : Within Aspect.apart
      (modify fun s => { s with ticks := s.ticks + 1 } : Engine H PUnit) :=
    .modify fun s => (Change.ticks s _).changes (by simp)
  have hP := Modular.preserves I
  have horphans (ids : List InstanceId) :
      Preserves I (Engine.dropOrphansOf w.services ids : Engine H Unit) :=
    hP.dropOrphansOf (hw.drop w.services) (fun _ => hw.within (log_within (by simp) _ _))
      (hw.within (count_within (by simp) _)) ids
  have hscreen : Preserves I (Engine.updateScreen w.services : Engine H Unit) :=
    hP.updateScreen (hw.within (updateFade_within (by simp) _))
      (hw.within (updateMovie_within (by simp) (by simp) _))
      fun id => hw.within (release_within (by simp) (by simp) (by simp) _ id)
  refine (hw.within hticks).bind fun _ => hw.promote.bind fun _ => ?_
  refine Preserves.bind (Preserves.get.bind fun _ => horphans _) fun _ => hscreen.bind fun _ => ?_
  refine Preserves.bind (Preserves.get.bind fun s => ?_) fun _ => hw.retire
  exact hP.stepEach (fun id n => hw.stepUpTo id elapsed n) s.active

end Wiring.Keeps

namespace Request

/-- Requests that leave the variables to the scripts, and start no scripts but such as are given. -/
def isQuiet : Request H → Bool
  | startFile .. | newGame | load _ | setVariable .. => false
  | _ => true

def script? : Request H → Option Script
  | start script _ _ _ => some script
  | startText text name _ => (Script.parse text name none).toOption
  | _ => none

/-- The scripts that some requests start, in order. -/
def started (rs : List (Request H)) : List Script := rs.filterMap script?

lemma started_cons (r : Request H) (rs : List (Request H)) :
    started (r :: rs) = r.script?.toList ++ started rs := by
  unfold started
  cases h : r.script? <;> simp [h]

/-- Either a script is started, or everything stays that steps and cancels keep. -/
lemma starts_or_keeps (w : Wiring H) {r : Request H} (hr : r.isQuiet = true) :
    (∃ script owner pausable watcher, r.script? = some script ∧
      ∀ s, endState (r.run w) s = endState (Engine.start script owner pausable watcher) s) ∨
    r.script? = none ∧ ∀ I : Session H → Prop, w.Keeps I → Preserves I (r.run w) := by
  cases r with
  | start script owner pausable watcher =>
    exact .inl ⟨script, owner, pausable, watcher, rfl, fun s => rfl⟩
  | startText text name owner =>
    cases hp : Script.parse text name none with
    | ok script =>
      refine .inl ⟨script, owner, true, none, by simp [script?, hp, Except.toOption], fun s => ?_⟩
      simp only [run, Engine.startText, hp, Engine.ofExcept]
      rfl
    | error f =>
      refine .inr ⟨by simp [script?, hp, Except.toOption], fun I hw => ?_⟩
      simp only [run, Engine.startText, hp, Engine.ofExcept]
      exact fun s hs => .error hs
  | tick elapsed => exact .inr ⟨rfl, fun I hw => hw.tick elapsed⟩
  | cancel id => exact .inr ⟨rfl, fun I hw => hw.drop w.services id⟩
  | cancelOwned owner =>
    exact .inr ⟨rfl, fun I hw => Preserves.get.bind fun _ =>
      (Modular.preserves I).dropOwned (hw.drop w.services) owner _⟩
  | cancelAll =>
    exact .inr ⟨rfl, fun I hw => Preserves.get.bind fun _ =>
      (Modular.preserves I).dropEach (hw.drop w.services) _⟩
  | setPaused paused =>
    exact .inr ⟨rfl, fun I hw => hw.within (.modify fun s =>
      (Change.paused s paused).changes (by simp))⟩
  | save path =>
    exact .inr ⟨rfl, fun I hw => hw.within ((Engine.save_within (by simp) path).bind fun _ =>
      .pure _)⟩
  | watch name failsOn early =>
    exact .inr ⟨rfl, fun I hw => hw.within (Engine.ensureWatcher_within (by simp) _ _ _)⟩
  | meanwhile f =>
    exact .inr ⟨rfl, fun I hw => hw.within (.modify fun s => (Change.scene s _).changes (by simp))⟩
  | changeFiles f =>
    exact .inr ⟨rfl, fun I hw => hw.within (.modify fun s => (Change.files s _).changes (by simp))⟩
  | startFile | newGame | load | setVariable => simp [isQuiet] at hr

end Request

end EventScript
