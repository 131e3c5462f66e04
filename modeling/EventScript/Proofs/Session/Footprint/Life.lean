import EventScript.Proofs.Modular.Schedule
import EventScript.Proofs.Session.Footprint.Screen

/-! The footprints of the life of an instance, from its start to its end. -/

namespace EventScript.Engine

variable {H : Host} {α : Type} {A : Set Aspect}

lemma count_within (hA : .counters ∈ A) (f : Counters → Counters) :
    Within A (count f : Engine H Unit) :=
  .modify fun s => (Change.counters s _).changes hA

lemma theInstance_within (id : InstanceId) :
    Within A (theInstance id : Engine H (Instance H.Predicate)) :=
  (Within.modular A).theInstance id

lemma setStatus_within {id : InstanceId} (hA : .status id ∈ A) (x : Status H.Predicate) :
    Within A (setStatus id x : Engine H Unit) :=
  .modify fun s => (Change.status s id x).changes hA

lemma setCursor_within {id : InstanceId} (hA : .cursor id ∈ A) (n : Nat) :
    Within A (setCursor id n : Engine H Unit) :=
  .modify fun s => (Change.cursor s id n).changes hA

lemma setMarks_within {id : InstanceId} (hA : .marks id ∈ A)
    {f : Instance H.Predicate → Instance H.Predicate}
    (hf : ∀ i, ∃ b c ws, f i = { i with begun := b, counted := c, watchers := ws }) :
    Within A (updateInstance id f : Engine H Unit) :=
  .modify fun s => (Change.marks s id f hf).changes hA

lemma log_within (hA : .scene ∈ A) (level : LogLevel) (text : String) :
    Within A (log level text : Engine H Unit) :=
  play_within hA _

lemma logFor_within (hA : .scene ∈ A) (id : InstanceId) (level : LogLevel) (text : String) :
    Within A (logFor id level text : Engine H Unit) :=
  Within.get.bind fun _ => play_within hA _

lemma perform_within (hA : .scene ∈ A) (S : Services H.Game) (c : Call) :
    Within A (perform S c : Engine H Unit) :=
  play_within hA _

lemma note_within (hA : .watchers ∈ A) (watcher : String) (o : Occasion) (id : InstanceId) :
    Within A (note watcher o id : Engine H Unit) := by
  apply Within.modify
  intro s
  split
  · exact .refl
  · exact (Change.watchers s _).changes hA

lemma noteAll_within (hA : .watchers ∈ A) (o : Occasion) (id : InstanceId) (ws : List String) :
    Within A (noteAll o id ws : Engine H Unit) :=
  (Within.modular A).noteAll (fun w => note_within hA w o id) ws

lemma ended_within {id : InstanceId} (hc : .counters ∈ A) (hw : .watchers ∈ A)
    (hm : .marks id ∈ A) (o : Occasion) : Within A (ended id o : Engine H Unit) :=
  (Within.modular A).ended (fun w => note_within hw w o id) (fun f => count_within hc f)
    (setMarks_within hm fun i => ⟨i.begun, false, [], rfl⟩)

lemma begin_within {id : InstanceId} (hs : .scene ∈ A) (hw : .watchers ∈ A) (hm : .marks id ∈ A) :
    Within A (begin id : Engine H Unit) := by
  apply (theInstance_within id).bind
  intro i
  apply Within.ite _ (.pure _)
  apply (setMarks_within hm fun i => ⟨true, i.counted, i.watchers, rfl⟩).bind
  intro _
  exact (logFor_within hs id _ _).bind fun _ => noteAll_within hw _ id _

lemma beginEach_within (hs : .scene ∈ A) (hw : .watchers ∈ A) (hm : ∀ id, .marks id ∈ A)
    (ids : List InstanceId) : Within A (beginEach ids : Engine H Unit) :=
  (Within.modular A).beginEach (fun id => begin_within hs hw (hm id)) ids

lemma logEnded_within (id : InstanceId) (hs : .scene ∈ A) (hc : .counters ∈ A) (hw : .watchers ∈ A)
    (hm : .marks id ∈ A) (text : String) (occasion : Occasion) :
    Within A (do
      logFor id .info text
      ended id occasion : Engine H Unit) :=
  (logFor_within hs id _ _).bind fun _ => ended_within hc hw hm occasion

/-- The end of an instance, by completing or by being canceled. -/
def terminate (id : InstanceId) (x : Status H.Predicate) (text : Instance H.Predicate → String)
    (occasion : Occasion) : Engine H Unit := do
  let i ← theInstance id
  if i.isActive then
    setStatus id x
    logFor id .info (text i)
    ended id occasion

lemma complete_eq (id : InstanceId) :
    (complete id : Engine H Unit) = terminate id .completed (fun _ => "complete") .complete := rfl

lemma cancel_eq (id : InstanceId) : (cancel id : Engine H Unit) =
    terminate id .canceled (fun i => s!"cancel at command {i.cursor}") .cancel := rfl

lemma terminate_within {id : InstanceId} (hA : Aspect.ending id ⊆ A) (x : Status H.Predicate)
    (text : Instance H.Predicate → String) (occasion : Occasion) :
    Within A (terminate id x text occasion) := by
  apply (theInstance_within id).bind
  intro i
  apply Within.ite _ (.pure _)
  apply (setStatus_within (hA (by simp)) _).bind
  intro _
  exact logEnded_within id (hA (by simp)) (hA (by simp)) (hA (by simp)) (hA (by simp)) _ _

lemma complete_within {id : InstanceId} (hA : Aspect.ending id ⊆ A) :
    Within A (complete id : Engine H Unit) :=
  terminate_within hA .completed _ _

lemma cancel_within {id : InstanceId} (hA : Aspect.ending id ⊆ A) :
    Within A (cancel id : Engine H Unit) :=
  terminate_within hA .canceled _ _

lemma abort_within {id : InstanceId} (hA : Aspect.canceling id ⊆ A) (S : Services H.Game) :
    Within A (abort S id : Engine H Unit) :=
  (Within.modular A).abort (release_within (hA (by simp)) (hA (by simp)) (hA (by simp)) S id)
    (cancel_within (Set.subset_union_left.trans hA))

lemma suspend_within {id : InstanceId} (hA : .status id ∈ A) (x : Wait H.Predicate) :
    Within A (suspend id x : Engine H Unit) := by
  apply (theInstance_within id).bind
  intro i
  split
  · exact setStatus_within hA _
  · exact .throw _

lemma resume_within {id : InstanceId} (hA : .status id ∈ A) :
    Within A (resume id : Engine H Unit) := by
  apply (theInstance_within id).bind
  intro i
  split
  · exact setStatus_within hA _
  · exact .throw _

lemma jump_within {id : InstanceId} (hA : .cursor id ∈ A) (target : Int) :
    Within A (jump id target : Engine H Unit) := by
  apply (theInstance_within id).bind
  intro i
  exact .ite ((Within.throw _).bind fun _ => setCursor_within hA _) (setCursor_within hA _)

lemma jumpToTarget_within {id : InstanceId} (hA : .cursor id ∈ A) (target : Option Nat) :
    Within A (jumpToTarget id target : Engine H Unit) := by
  unfold jumpToTarget
  split
  · exact jump_within hA _
  · exact .throw _

lemma steer_within {id : InstanceId} (hA : .cursor id ∈ A) (target : Option Nat)
    (i : Instruction) : Within A (steer id target i : Engine H Unit) := by
  cases i with
  | jumpUnless c | jumpIf c =>
    exact ((Within.modular A).decideOn c).bind fun _ => .ite (jumpToTarget_within hA target) (.pure _)
  | jump => exact jumpToTarget_within hA target
  | leave => exact (theInstance_within id).bind fun _ => jump_within hA _
  | _ => exact .pure _

lemma owner?_within (id : InstanceId) :
    Within A (owner? id : Engine H (Option (EntityId × Entity))) :=
  (Within.modular A).owner? id

lemma modify_push_size (xs : Array α) (a : α) (f : α → α) :
    (xs.push a).modify xs.size f = xs.push (f a) := by
  apply Array.ext
  · simp
  · intro k h₁ h₂
    rw [Array.getElem_modify, Array.getElem_push, Array.getElem_push]
    by_cases hk : k < xs.size
    · simp [hk, Nat.ne_of_gt hk]
    · have hk' : xs.size = k := by simp at h₂; omega
      simp [hk']

lemma start_apply (script : Script) (owner : Option EntityId) (pausable : Bool)
    (watcher : Option String) (s : Session H) :
    (start script owner pausable watcher : Engine H InstanceId) s = .ok s.roster.size { s with
      roster := s.roster.push {
        id := s.roster.size, script, owner
        ownerName := (owner.bind s.scene.entity?).map (·.name)
        pausable, watchers := watcher.toList, counted := true }
      pending := s.pending ++ [s.roster.size]
      counters := s.counters.countStart } := by
  rw [← modify_push_size s.roster {
    id := s.roster.size, script, owner
    ownerName := (owner.bind s.scene.entity?).map (·.name)
    pausable, watchers := watcher.toList } ({ · with counted := true })]
  rfl

lemma create_within (hA : .roster ∈ A) (script : Script) (owner : Option EntityId)
    (pausable : Bool) (watcher : Option String) :
    Within A (create script owner pausable watcher : Engine H InstanceId) :=
  fun s => (Change.roster s _ rfl rfl rfl).changes hA

lemma start_within (hA : Aspect.starting ⊆ A) (script : Script) (owner : Option EntityId)
    (pausable : Bool) (watcher : Option String) :
    Within A (start script owner pausable watcher : Engine H InstanceId) := by
  intro s
  unfold endState
  rw [start_apply]
  refine .tail (.tail (.tail .refl ⟨_, hA (by simp), .roster s _ ?_ ?_ ?_⟩)
    ⟨_, hA (by simp), .pending _ _⟩) ⟨_, hA (by simp), .counters _ _⟩ <;> rfl

lemma retire_within (hactive : .active ∈ A) (hasleep : .asleep ∈ A) :
    Within A (modify Session.retire : Engine H PUnit) := by
  refine .modify fun s => ?_
  let active := s.active.filter s.isActive
  exact .tail ((Change.active s active).changes hactive)
    ⟨.asleep, hasleep, .asleep _ (active.any s.isAsleep)⟩

end EventScript.Engine
