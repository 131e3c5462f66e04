import EventScript.Proofs.Modular.Command
import EventScript.Session.Schedule

/-! What is made of the ends of instances, and what a tick does beside the turns of instances. -/

namespace EventScript.Modular

variable {H : Host} {S : Services H.Game} {w : Wiring H} {P : ∀ {α : Type}, Engine H α → Prop}
  (hP : Modular P) {id : InstanceId}

include hP

lemma decideOn (c : Condition) : P (Engine.decideOn c : Engine H Bool) :=
  hP.bind hP.get fun _ => hP.guard nofun (hP.pure _)

lemma abort (hrelease : P (Engine.stage (Stage.release S id)))
    (hcancel : P (Engine.cancel id : Engine H Unit)) : P (Engine.abort S id : Engine H Unit) :=
  hP.bind (hP.theInstance id) fun _ => hP.ite (hP.bind hrelease fun _ => hcancel) (hP.pure _)

section Finish

variable (hcomplete : P (Engine.complete id : Engine H Unit))

include hcomplete

lemma finish : P (Engine.finish id : Engine H StepResult) :=
  hP.bind (hP.theInstance id) fun _ =>
    hP.ite (hP.pure _) (hP.ite (hP.bind hcomplete fun _ => hP.pure _) (hP.pure _))

lemma settle (hcount : P (Engine.count Counters.countSuspension : Engine H Unit)) :
    P (Engine.settle id : Engine H StepResult) :=
  hP.bind (hP.theInstance id) fun _ =>
    hP.ite (hP.bind hcount fun _ => hP.pure _) (hP.finish hcomplete)

end Finish

section Faults

variable (hfatal : P (Engine.count Counters.countFatal : Engine H Unit))
  (hfault : ∀ kind, P (Engine.count (·.countScriptFault kind) : Engine H Unit))
  (hunexpected : P (Engine.count Counters.countUnexpected : Engine H Unit))
  (hlog : ∀ level text, P (Engine.logFor id level text : Engine H Unit))
  (habort : P (Engine.abort S id : Engine H Unit))

include hfatal hfault hunexpected hlog habort

lemma reportWait (f : Fault) : P (Engine.reportWait S id f : Engine H Unit) := by
  have htag : P (Engine.waitTag id : Engine H String) := by
    refine hP.bind (hP.theInstance id) fun i => ?_
    split
    · exact hP.pure _
    · exact hP.throw nofun
  unfold Engine.reportWait
  split
  · exact hP.bind hfatal fun _ => hP.bind htag fun _ => hP.bind (hlog _ _) fun _ => habort
  · exact hP.bind (hfault _) fun _ => hP.bind htag fun _ => hlog _ _
  · exact hP.bind hunexpected fun _ => hP.bind htag fun _ => hlog _ _

omit habort in
lemma runCommandAt {c : Command}
    (hcursor : ∀ n, P (Engine.setCursor id n : Engine H Unit))
    (hexecute : P (Engine.attempt (Engine.execute w id c)))
    (hsettle : P (Engine.settle id : Engine H StepResult))
    (habort : P (Engine.abort w.services id : Engine H Unit)) : P (Engine.runCommandAt w id c) := by
  refine hP.bind (hP.theInstance id) fun i => hP.bind (hcursor _) fun _ => ?_
  refine hP.bind hexecute fun r => ?_
  split
  · exact hsettle
  · exact hP.bind hfatal fun _ => hP.bind (hlog _ _) fun _ => hP.bind habort fun _ => hP.pure _
  · exact hP.bind (hfault _) fun _ => hP.bind (hlog _ _) fun _ => hsettle
  · exact hP.bind hunexpected fun _ => hP.bind (hlog _ _) fun _ => hsettle

end Faults

lemma noteAll {o : Occasion} (hnote : ∀ name, P (Engine.note name o id : Engine H Unit))
    (names : List String) : P (Engine.noteAll o id names : Engine H Unit) := by
  induction names with
  | nil => exact hP.pure _
  | cons name names ih =>
    exact hP.bind (hnote name) fun _ => hP.bind hP.get fun _ => hP.guard nofun ih

lemma ended {o : Occasion} (hnote : ∀ name, P (Engine.note name o id : Engine H Unit))
    (hcount : ∀ f, P (Engine.count f : Engine H Unit))
    (hmarks : P (Engine.updateInstance id ({ · with counted := false, watchers := [] }) :
      Engine H Unit)) : P (Engine.ended id o : Engine H Unit) := by
  have hlast (names : List String) : P (do
      Engine.noteAll o id names
      Engine.updateInstance id ({ · with counted := false, watchers := [] }) : Engine H Unit) :=
    hP.bind (hP.noteAll hnote names) fun _ => hmarks
  refine hP.bind (hP.theInstance id) fun i => hP.bind hP.get fun s => ?_
  refine hP.bind (hP.noteAll hnote _) fun _ => ?_
  exact hP.ite (hP.bind (hcount _) fun _ => hlast _) (hlast _)

lemma beginEach (hbegin : ∀ id, P (Engine.begin id : Engine H Unit)) (ids : List InstanceId) :
    P (Engine.beginEach ids : Engine H Unit) := by
  induction ids with
  | nil => exact hP.pure _
  | cons id ids ih => exact hP.bind (hbegin id) fun _ => ih

section Drop

variable (hdrop : ∀ id, P (Engine.drop S id : Engine H Unit))

include hdrop

lemma dropEach (ids : List InstanceId) : P (Engine.dropEach S ids : Engine H Unit) := by
  induction ids with
  | nil => exact hP.pure _
  | cons id ids ih => exact hP.bind (hdrop id) fun _ => ih

lemma dropOwned (owner : Option EntityId) (ids : List InstanceId) :
    P (Engine.dropOwned S owner ids : Engine H Unit) := by
  induction ids with
  | nil => exact hP.pure _
  | cons id ids ih =>
    exact hP.bind (hP.owner? id) fun _ => hP.ite (hP.bind (hdrop id) fun _ => ih) ih

lemma dropOrphansOf (hlog : ∀ text, P (Engine.log .info text : Engine H Unit))
    (hcount : P (Engine.count Counters.countOrphan : Engine H Unit)) (ids : List InstanceId) :
    P (Engine.dropOrphansOf S ids : Engine H Unit) := by
  induction ids with
  | nil => exact hP.pure _
  | cons id ids ih =>
    refine hP.bind (hP.theInstance id) fun i => hP.bind hP.get fun s => hP.ite ?_ ih
    exact hP.bind (hlog _) fun _ => hP.bind hcount fun _ => hP.bind (hdrop id) fun _ => ih

end Drop

lemma promote (hbegin : ∀ id, P (Engine.begin id : Engine H Unit))
    (hpending : P (modify ({ · with pending := [] }) : Engine H PUnit))
    (hactive : ∀ l, P (modify fun s => { s with active := s.active ++ l } : Engine H PUnit)) :
    P (Engine.promote : Engine H Unit) :=
  hP.bind hP.get fun _ => hP.bind hpending fun _ => hP.bind (hP.beginEach hbegin _) fun _ =>
    hactive _

lemma updateScreen (hfade : P (Engine.stage (Stage.updateFade Fade.update)))
    (hmovie : P (Engine.stage (Stage.updateMovie S)))
    (hrelease : ∀ id, P (Engine.stage (Stage.release S id))) :
    P (Engine.updateScreen S : Engine H Unit) :=
  hP.bind hP.get fun _ => hP.stage.update hfade hmovie (hP.stage.releaseIdle _ hrelease)

lemma stepEach {elapsed : Option Float}
    (hstep : ∀ id n, P (Engine.stepUpTo w id elapsed n : Engine H Unit)) (ids : List InstanceId) :
    P (Engine.stepEach w elapsed ids : Engine H Unit) := by
  induction ids with
  | nil => exact hP.pure _
  | cons id ids ih =>
    refine hP.bind (hP.theInstance id) fun i => hP.bind hP.get fun s => hP.ite ?_ ih
    exact hP.bind hP.get fun _ => hP.bind (hstep id _) fun _ => ih

end EventScript.Modular
