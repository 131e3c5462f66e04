import EventScript.Proofs.Session.Footprint.Builtin

/-! The footprints of whole commands, of waits and of what ends a step. -/

namespace EventScript

variable {H : Host} {A : Set Aspect}

namespace Engine

lemma save_within (hA : .files ∈ A) (path : String) : Within A (save path : Engine H Nat) := by
  refine .get_bind fun s => ?_
  generalize Save.save s.store s.setup.now = r
  obtain ⟨result, bytes⟩ := r
  dsimp only
  cases s.files.write path bytes with
  | error f => exact .refl
  | ok files => cases result <;> exact (Change.files s files).changes hA

lemma load_within (hA : .store ∈ A) (path : String) : Within A (load path : Engine H Unit) := by
  refine .get_bind fun s => ?_
  cases s.files.read path with
  | error f => exact .refl
  | ok bytes =>
    let r := Save.loadInto s.store bytes
    change Changes A s (endState (set { s with store := r.2 } >>= fun _ => ofExcept r.1) s)
    cases r.1 <;> exact (Change.store s r.2).changes hA

lemma setVariable_within (hA : .store ∈ A) (x : String) (d : Datum) :
    Within A (setVariable x d : Engine H Unit) := by
  unfold setVariable
  split
  · exact .modify fun s => (Change.store s _).changes hA
  · exact .throw _

lemma ensureWatcher_within (hA : .watchers ∈ A) (name : String) (failsOn : List Occasion)
    (early : Bool) :
    Within A (ensureWatcher name failsOn early : Engine H Unit) := by
  apply Within.modify
  intro s
  split
  · exact .refl
  · exact (Change.watchers s _).changes hA

end Engine

def Instruction.touches (id : InstanceId) : Instruction → Set Aspect
  | .assign .. | .add .. => {.store}
  | .talk .. => {.scene, .talk, .status id}
  | .choose .. => {.scene, .chooser, .status id}
  | .sleep _ => {.status id}
  | .fadeOut | .fadeIn => {.fade, .status id}
  | .playMovie .. | .stopMovie => {.scene, .movie}
  | .waitMovieEnd => {.scene, .status id}
  | .runScript _ => Aspect.beside ∪ Aspect.starting
  | _ => Aspect.beside

namespace Engine

lemma carryOut_beside (hA : Aspect.beside ⊆ A) (S : Services H.Game) (id : InstanceId)
    {i : Instruction} (hi : i.isExternal = true) : Within A (carryOut S id i : Engine H Unit) :=
  (within_directing hA S).carryOut id hi

lemma carryOut_within_touches (S : Services H.Game) (id : InstanceId) (i : Instruction) :
    Within (i.touches id) (carryOut S id i : Engine H Unit) := by
  cases i with
  | assign x n => exact assign_within (by simp [Instruction.touches]) x n
  | add x n => exact add_within (by simp [Instruction.touches]) x n
  | talk first last =>
    exact talk_within (by simp [Instruction.touches]) (by simp [Instruction.touches])
      (by simp [Instruction.touches]) S first last
  | choose a b question out =>
    exact choose_within (by simp [Instruction.touches]) (by simp [Instruction.touches])
      (by simp [Instruction.touches]) S a b question out
  | sleep n => exact sleep_within (by simp [Instruction.touches]) n
  | fadeOut | fadeIn =>
    exact (updateFade_within (by simp [Instruction.touches]) _).bind fun _ =>
      suspend_within (by simp [Instruction.touches]) _
  | playMovie file color =>
    exact (playMovie_within (by simp [Instruction.touches]) (by simp [Instruction.touches]) S file
      color).bind fun _ => .pure _
  | stopMovie =>
    exact stopMovie_within (by simp [Instruction.touches]) (by simp [Instruction.touches]) S
  | waitMovieEnd =>
    exact (movieEnded_within (by simp [Instruction.touches]) S).bind fun _ =>
      .ite (suspend_within (by simp [Instruction.touches]) _) (.pure _)
  | runScript file =>
    exact runScript_within Set.subset_union_left Set.subset_union_right S id file
  | _ => exact carryOut_beside subset_rfl S id rfl

lemma carryOut_within_of {id : InstanceId} (hA : Aspect.command id \ Aspect.starting ⊆ A)
    (S : Services H.Game) {i : Instruction}
    (hstarts : ∀ file, i = .runScript file → Aspect.starting ⊆ A) :
    Within A (carryOut S id i : Engine H Unit) := by
  refine (carryOut_within_touches S id i).mono ?_
  cases i with
  | runScript file =>
    refine Set.union_subset (fun a ha => hA ?_) (hstarts file rfl)
    rcases ha with rfl | rfl <;> simp
  | _ =>
    intro a ha
    exact hA (by rcases ha with rfl | rfl | rfl <;> simp)

lemma carryOut_within {id : InstanceId} (hA : Aspect.command id ⊆ A) (S : Services H.Game)
    (i : Instruction) : Within A (carryOut S id i : Engine H Unit) :=
  carryOut_within_of (fun _ ha => hA ha.1) S fun _ _ _ ha => hA (.inl (.inr ha))

lemma executeBuiltin_within {id : InstanceId} (hA : Aspect.command id \ Aspect.starting ⊆ A)
    (hcursor : .cursor id ∈ A) (S : Services H.Game) (v : Verb) {c : Command}
    (hstarts : ∀ file, Instruction.ofArgs? v c.args = some (.runScript file) →
      Aspect.starting ⊆ A) : Within A (executeBuiltin S id v c : Engine H Unit) := by
  refine Within.get.bind fun s => .ite (.throw _) ?_
  cases hi : Instruction.ofArgs? v c.args with
  | none => exact .throw _
  | some i =>
    refine .ite (steer_within hcursor c.target i) (carryOut_within_of hA S fun file h => ?_)
    exact hstarts file (h ▸ hi)

lemma waitDialogue_within (hs : .scene ∈ A) (ht : .talk ∈ A) (S : Services H.Game)
    (id : InstanceId) : Within A (waitDialogue S id : Engine H Bool) :=
  (within_acting hs S).waitDialogue (advanceTalk_within hs ht S) id

lemma waitSleep_within {id : InstanceId} (hi : .status id ∈ A) (remaining : Float)
    (elapsed : Option Float) : Within A (waitSleep id remaining elapsed : Engine H Bool) := by
  cases elapsed with
  | none => exact .throw _
  | some x => exact (setStatus_within hi _).bind fun _ => .pure _

lemma waitSelection_within (hs : .scene ∈ A) (hc : .chooser ∈ A) (hx : .store ∈ A)
    (S : Services H.Game) (id : InstanceId) (out : Option String) :
    Within A (waitSelection S id out : Engine H Bool) :=
  (within_acting hs S).waitSelection (setChooser_within hc none) (keepChoice_within hx out) id

lemma pollWait_within {id : InstanceId} (hs : .scene ∈ A) (ht : .talk ∈ A) (hc : .chooser ∈ A)
    (hx : .store ∈ A) (hi : .status id ∈ A) (w : Wiring H) (elapsed : Option Float)
    {x : Wait H.Predicate} (hown : ∀ p, x ≠ .host p) : Within A (pollWait w id elapsed x) := by
  cases x with
  | dialogue => exact waitDialogue_within hs ht _ id
  | sleep remaining => exact waitSleep_within hi _ _
  | fadeOut | fadeIn => exact Within.get.bind fun _ => .pure _
  | selection out => exact waitSelection_within hs hc hx _ id out
  | movie => exact movieEnded_within hs _
  | host p => exact absurd rfl (hown p)

lemma reportWait_within {id : InstanceId} (hA : Aspect.canceling id ⊆ A) (S : Services H.Game)
    (f : Fault) : Within A (reportWait S id f : Engine H Unit) := by
  have hcount (g : Counters → Counters) : Within A (count g : Engine H Unit) :=
    count_within (hA (by simp)) g
  exact (Within.modular A).reportWait (hcount _) (fun _ => hcount _) (hcount _)
    (logFor_within (hA (by simp)) id) (abort_within hA S) f

lemma finish_within {id : InstanceId} (hA : Aspect.ending id ⊆ A) :
    Within A (finish id : Engine H StepResult) :=
  (Within.modular A).finish (complete_within hA)

lemma settle_within {id : InstanceId} (hA : Aspect.ending id ⊆ A) :
    Within A (settle id : Engine H StepResult) :=
  (Within.modular A).settle (complete_within hA) (count_within (hA (by simp)) _)

end Engine

end EventScript
