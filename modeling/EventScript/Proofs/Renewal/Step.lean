import EventScript.Proofs.Renewal.Command
import EventScript.Session.Step

/-! Steps and ticks of a session that has gone on, beside the same steps and ticks of a session that
was set up anew. -/

namespace EventScript

variable {H : Host}

/-- What a game and its host do depends neither on the log nor on the numbers of instances and what
was counted. -/
structure Wiring.Oblivious (w : Wiring H) : Prop where
  services : w.services.Oblivious
  runCommand : ∀ (o : Session H) x k c,
    InStep o.Mirrors Eq (w.runCommand x (o.later k) c) (w.runCommand x k c)
  poll : ∀ (o : Session H) p k, InStep o.Mirrors Eq (w.poll p (o.later k)) (w.poll p k)

namespace Engine

variable {o : Session H} {w : Wiring H} (hw : w.Oblivious)

lemma jumpToTarget_inStep (k : InstanceId) (target : Option Nat) :
    InStep o.Mirrors Eq (jumpToTarget (o.later k) target : Engine H Unit)
      (jumpToTarget k target) := by
  cases target with
  | none => exact .fail _
  | some t => exact jump_inStep k t

lemma decideOn_inStep (c : Condition) :
    InStep o.Mirrors Eq (decideOn c : Engine H Bool) (decideOn c) := by
  refine InStep.get.bind fun s t h => ?_
  rw [h.store]
  exact .guard Iff.rfl (.refl _) (.same _)

lemma steer_inStep (k : InstanceId) (target : Option Nat) (x : Instruction) :
    InStep o.Mirrors Eq (steer (o.later k) target x : Engine H Unit) (steer k target x) := by
  cases x with
  | jumpUnless c | jumpIf c =>
    exact (decideOn_inStep c).andThen fun _ =>
      .ite Iff.rfl (jumpToTarget_inStep k target) (.same ())
  | jump => exact jumpToTarget_inStep k target
  | leave => exact theInstance_andThen k fun _ => jump_inStep k _
  | _ => exact .same ()

lemma finish_inStep (k : InstanceId) :
    InStep o.Mirrors Eq (finish (o.later k) : Engine H StepResult) (finish k) := by
  refine theInstance_andThen k fun i => .ite Iff.rfl (.same _) (.ite Iff.rfl ?_ (.same _))
  exact (complete_inStep k).andThen fun _ => .same _

lemma settle_inStep (k : InstanceId) :
    InStep o.Mirrors Eq (settle (o.later k) : Engine H StepResult) (settle k) := by
  refine theInstance_andThen k fun i => .ite Iff.rfl ?_ (finish_inStep k)
  exact (count_inStep Counters.countSuspension_isCount).andThen fun _ => .same _

lemma waitSleep_inStep (k : InstanceId) (remaining : Float) (elapsed : Option Float) :
    InStep o.Mirrors Eq (waitSleep (o.later k) remaining elapsed : Engine H Bool)
      (waitSleep k remaining elapsed) := by
  cases elapsed with
  | none => exact .fail _
  | some e => exact (setStatus_inStep k _).andThen fun _ => .same _

lemma waitTag_inStep (k : InstanceId) :
    InStep o.Mirrors Eq (waitTag (o.later k) : Engine H String) (waitTag k) := by
  refine theInstance_andThen k fun i => ?_
  rw [i.raise_status]
  split
  · exact .same _
  · exact .fail _

include hw

lemma executeBuiltin_inStep (k : InstanceId) (v : Verb) (c : Command) :
    InStep o.Mirrors Eq (executeBuiltin w.services (o.later k) v c)
      (executeBuiltin w.services k v c) := by
  refine InStep.get.bind fun s t h => ?_
  rw [h.withdrawn]
  refine .guard Iff.rfl (.refl _) ?_
  split
  · exact .fail _
  · exact .ite Iff.rfl (steer_inStep k _ _) (carryOut_inStep hw.services k _)

lemma execute_inStep (k : InstanceId) (c : Command) :
    InStep o.Mirrors Eq (execute w (o.later k) c) (execute w k c) := by
  unfold execute
  split
  · exact theInstance_andThen k fun i => .fail _
  · refine (count_inStep Counters.countExecuted_isCount).andThen fun _ => ?_
    split
    · exact executeBuiltin_inStep hw k _ c
    · refine InStep.get.bind fun s t h => ?_
      rw [h.hostCommands]
      split
      · exact hw.runCommand o _ k c
      · exact .fail _
    · exact .fail _

lemma runCommandAt_inStep (k : InstanceId) (c : Command) :
    InStep o.Mirrors Eq (runCommandAt w (o.later k) c) (runCommandAt w k c) := by
  refine theInstance_andThen k fun i => (setCursor_inStep k _).andThen fun _ => ?_
  have hnoted {f : Counters → Counters} (hf : Counters.IsCount f) (level : LogLevel)
      (text text' : String) {p q : Engine H StepResult} (hpq : InStep o.Mirrors Eq p q) :
      InStep o.Mirrors Eq (do
        count f
        logFor (o.later k) level text
        p) (do
        count f
        logFor k level text'
        q) :=
    (count_inStep hf).andThen fun _ => (logFor_inStep _ _ _ _ _).andThen fun _ => hpq
  refine attempt_inStep (execute_inStep hw k c) (fun _ _ _ => settle_inStep k) fun e e' he => ?_
  cases he with
  | conflict => exact hnoted (Counters.countScriptFault_isCount _) _ _ _ (settle_inStep k)
  | refl =>
    cases e with
    | fatal text =>
      exact hnoted Counters.countFatal_isCount _ _ _ <|
        (abort_inStep hw.services k).andThen fun _ => .same _
    | script kind text => exact hnoted (Counters.countScriptFault_isCount _) _ _ _ (settle_inStep k)
    | _ => exact hnoted Counters.countUnexpected_isCount _ _ _ (settle_inStep k)

lemma waitDialogue_inStep (k : InstanceId) :
    InStep o.Mirrors Eq (waitDialogue w.services (o.later k)) (waitDialogue w.services k) := by
  refine InStep.get.bind fun s t h => ?_
  have hholds : s.ui.holdsTalk (o.later k) = t.ui.holdsTalk k :=
    h.screen.holdsTalk o.later_injective k
  rw [hholds]
  have hasked := play_inStep (o := o) (hw.services.offers .dialogEnded)
  refine .ite Iff.rfl (.same _) (hasked.andThen fun _ => ?_)
  refine .ite Iff.rfl (.same _) ((stage_inStep (Stage.advanceTalk_inStep hw.services)).andThen
    fun line => ?_)
  cases line with
  | none => exact .same _
  | some line => exact (perform_inStep hw.services _).andThen fun _ => .same _

lemma waitSelection_inStep (k : InstanceId) (out : Option String) :
    InStep o.Mirrors Eq (waitSelection w.services (o.later k) out)
      (waitSelection w.services k out) := by
  refine InStep.get.bind fun s t h => ?_
  have hholds : s.ui.holdsSelection (o.later k) = t.ui.holdsSelection k :=
    h.screen.holdsSelection o.later_injective k
  rw [hholds]
  refine .ite Iff.rfl (.same _) ((play_inStep (hw.services.offers .selectionEnded)).andThen
    fun _ => .ite Iff.rfl (.same _) ?_)
  refine (play_inStep (hw.services.offers .choice)).andThen fun choice =>
    (keepChoice_inStep out choice).andThen fun _ => ?_
  exact (stage_inStep (Stage.endSelection_inStep o.later_injective k)).andThen fun _ => .same _

lemma pollWait_inStep (k : InstanceId) (elapsed : Option Float) (x : Wait H.Predicate) :
    InStep o.Mirrors Eq (pollWait w (o.later k) elapsed x) (pollWait w k elapsed x) := by
  cases x with
  | dialogue => exact waitDialogue_inStep hw k
  | sleep remaining => exact waitSleep_inStep k remaining elapsed
  | fadeOut | fadeIn =>
    refine InStep.get.bind fun s t h => .pure ?_
    have hfade : s.ui.fade = t.ui.fade := h.screen.fade
    rw [hfade]
  | selection out => exact waitSelection_inStep hw k out
  | movie => exact stage_inStep (Stage.movieEnded_inStep hw.services)
  | host p => exact hw.poll o p k

lemma poll_inStep (k : InstanceId) (elapsed : Option Float) (x : Wait H.Predicate) :
    InStep o.Mirrors Eq (poll w (o.later k) elapsed x) (poll w k elapsed x) := by
  refine InStep.get.bind fun s t h => ?_
  rw [h.hostWaits]
  split
  · exact hw.poll o _ k
  · exact pollWait_inStep hw k elapsed x

lemma reportWait_inStep (k : InstanceId) {f g : Fault} (hfg : f.Alike g) :
    InStep o.Mirrors Eq (reportWait w.services (o.later k) f) (reportWait w.services k g) := by
  have hnoted {f : Counters → Counters} (hf : Counters.IsCount f) {p q : String → Engine H Unit}
      (hpq : ∀ tag, InStep o.Mirrors Eq (p tag) (q tag)) : InStep o.Mirrors Eq (do
        count f
        p (← waitTag (o.later k))) (do
        count f
        q (← waitTag k)) :=
    (count_inStep hf).andThen fun _ => (waitTag_inStep k).andThen hpq
  cases hfg with
  | conflict => exact hnoted (Counters.countScriptFault_isCount _) fun _ => logFor_inStep _ _ _ _ _
  | refl =>
    cases f with
    | fatal text =>
      exact hnoted Counters.countFatal_isCount fun _ => (logFor_inStep _ _ _ _ _).andThen fun _ =>
        abort_inStep hw.services k
    | script kind text =>
      exact hnoted (Counters.countScriptFault_isCount _) fun _ => logFor_inStep _ _ _ _ _
    | _ => exact hnoted Counters.countUnexpected_isCount fun _ => logFor_inStep _ _ _ _ _

lemma checkWait_inStep (k : InstanceId) (elapsed : Option Float) (x : Wait H.Predicate) :
    InStep o.Mirrors Eq (checkWait w (o.later k) elapsed x) (checkWait w k elapsed x) := by
  refine attempt_inStep (poll_inStep hw k elapsed x) (fun _ _ hab => .pure hab) fun e e' he => ?_
  refine (reportWait_inStep hw k he).andThen fun _ => theInstance_andThen k fun i => ?_
  exact .ite Iff.rfl (.same _) ((release_inStep hw.services k).andThen fun _ => .same _)

lemma step_inStep (k : InstanceId) (elapsed : Option Float) :
    InStep o.Mirrors Eq (step w (o.later k) elapsed) (step w k elapsed) := by
  refine theInstance_andThen k fun i => ?_
  rw [i.raise_status]
  split
  · exact .same _
  · exact .same _
  · refine (checkWait_inStep hw k elapsed _).andThen fun _ => .ite Iff.rfl ?_ ?_
    · exact (resume_inStep k).andThen fun _ => finish_inStep k
    · exact theInstance_andThen k fun _ => .same _
  · rw [i.raise_command?]
    split
    · exact (complete_inStep k).andThen fun _ => .same _
    · exact runCommandAt_inStep hw k _

end Engine

end EventScript
