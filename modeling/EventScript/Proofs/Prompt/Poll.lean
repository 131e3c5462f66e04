import EventScript.Proofs.Prompt.Hold
import EventScript.Proofs.Session.Run

/-! The step of one who asks for the prompt and of one who waits for it, and how an instance goes
on. -/

namespace EventScript

variable {H : Host} {w : Wiring H} {A : Set Aspect} {s t u : Session H} {id : InstanceId}

/-- The same is on screen, in the variables and in the game. -/
structure Session.Agrees (s t : Session H) : Prop where
  ui : t.ui = s.ui
  store : t.store = s.store
  game : t.scene.game = s.scene.game

/-- The instance runs, or has completed because it is at the end of its script. -/
def Session.HasGoneOn (id : InstanceId) (s : Session H) : Prop :=
  ∃ script n, s.place? id = some (script, n) ∧
    s.status? id = some (if script.size ≤ n then .completed else .running)

def Instruction.asks : Instruction → Bool
  | talk .. | choose .. => true
  | _ => false

def Instruction.steers : Instruction → Bool
  | jumpUnless .. | jumpIf .. | jump | pass | leave => true
  | _ => false

lemma Instruction.steers_of_asks {x : Instruction} (h : x.asks = true) : x.steers = false := by
  cases x <;> first | rfl | cases h

lemma Verb.isControlFlow_of_steers {v : Verb} {args : List Arg} {x : Instruction}
    (hx : Instruction.ofArgs? v args = some x) (hsteers : x.steers = false) :
    v.isControlFlow = false := by
  cases v with
  | ifThen =>
    match args, hx with
    | [.condition _], rfl | [.condition _, .label _], rfl => cases hsteers
  | goto =>
    match args, hx with
    | [.label _], rfl => cases hsteers
  | ifElse | endIf | leave =>
    match args, hx with
    | [], rfl => cases hsteers
  | _ => rfl

/-- The session in which an instance carries out its command: the cursor has moved on. -/
def Session.fetched (s : Session H) (id : InstanceId) (n : Nat) : Session H :=
  { s.modifyInstance id ({ · with cursor := n }) with counters := s.counters.countExecuted }

@[simp] lemma Session.status?_fetched (s : Session H) (id k : InstanceId) (n : Nat) :
    (s.fetched id n).status? k = s.status? k :=
  s.status?_modifyInstance id k fun _ => rfl

lemma Session.status?_suspended {x : Wait H.Predicate} {y : Status H.Predicate}
    (s : Session H) (hs : s.status? id = some y) :
    (s.modifyInstance id ({ · with status := .suspended x })).status? id = some (.suspended x) := by
  rw [s.status?_setStatus, if_pos rfl, hs]
  rfl

lemma Session.isTaken_fetched {k : InstanceId} {n : Nat} :
    (s.fetched id n).ui.IsTakenFrom (s.fetched id n).holders k ↔
      s.ui.IsTakenFrom s.holders k := by
  have hactive (j : InstanceId) : (s.fetched id n).holders.isActive j = s.holders.isActive j := by
    change (s.fetched id n).isActive j = s.isActive j
    rw [isActive_eq, isActive_eq, status?_fetched]
  simp only [Ui.IsTakenFrom, hactive]
  exact Iff.rfl

lemma Ui.not_isTakenFrom {u : Ui InstanceId} (htalk : u.talk.isNone = true)
    (hchooser : u.chooser = none) (holders : Holders InstanceId) (k : InstanceId) :
    ¬ u.IsTakenFrom holders k := by
  rintro (⟨x, hx, -⟩ | ⟨h, hh, -⟩)
  · simp [hx] at htalk
  · simp [hh] at hchooser

namespace Engine

lemma within_agrees {α : Type} {p : Engine H α} (hp : Within A p)
    (hA : A ⊆ {a | a = .counters ∨ a = .watchers ∨
      ∃ k, a = .marks k ∨ a = .status k ∨ a = .cursor k}) : Preserves s.Agrees p := by
  refine hp.preserves fun a ha t u hc ht => ?_
  rcases hA ha with rfl | rfl | ⟨k, rfl | rfl | rfl⟩ <;> cases hc <;> exact ⟨ht.ui, ht.store, ht.game⟩

lemma logFor_agrees (id : InstanceId) (level : LogLevel) (text : String) :
    Preserves s.Agrees (logFor id level text : Engine H Unit) := by
  intro t ht
  obtain ⟨x, hx, halike⟩ := logFor_apply id level text t
  rw [hx]
  exact .ok ⟨ht.ui, ht.store, halike.1.trans ht.game⟩

lemma complete_agrees : Preserves s.Agrees (complete id : Engine H Unit) := by
  refine (within_agrees (theInstance_within (A := ∅) id) (by simp)).bind fun i => .ite ?_ (.pure _)
  refine (within_agrees (setStatus_within (A := {.status id}) rfl _) (by simp)).bind fun _ => ?_
  refine (logFor_agrees id _ _).bind fun _ => ?_
  exact within_agrees (ended_within (A := {.counters, .watchers, .marks id}) (by simp) (by simp)
    (by simp) _) (by simp [Set.insert_subset_iff])

lemma finish_agrees : Preserves s.Agrees (finish id : Engine H StepResult) :=
  (Modular.preserves _).finish complete_agrees

lemma settle_agrees : Preserves s.Agrees (settle id : Engine H StepResult) :=
  (Modular.preserves _).settle complete_agrees
    (within_agrees (count_within (A := {.counters}) rfl _) (by simp))

lemma finish_goesOn : Leads (fun s => s.status? id = some .running)
    (finish id : Engine H StepResult) (Session.HasGoneOn id) := by
  refine theInstance_bind (fun i => ?_) fun s hs hi => by simp [Session.status?, hi] at hs
  refine Leads.ite (fun hended => Leads.pure fun s hs => ?_) fun _ => ?_
  · obtain ⟨hrunning, hi⟩ := hs
    simp [Session.status?, hi] at hrunning
    simp [Instance.isActive, Status.isActive, hrunning] at hended
  refine Leads.ite (fun hend => ?_) fun hgoes => Leads.pure fun s hs => ?_
  · refine Triple.bind (R := fun _ => Session.HasGoneOn id) (Leads.of_endState fun s hs => ?_)
      fun _ => Triple.pure fun _ h => h
    obtain ⟨hrunning, hi⟩ := hs
    have hsteady : Within Aspect.steady (complete id : Engine H Unit) :=
      complete_within (Set.subset_union_left.trans (canceling_steady id))
    refine ⟨i.script, i.cursor, (hsteady s).keepsPlaces id _ (Session.place?_of_some hi), ?_⟩
    rw [if_pos (of_decide_eq_true hend)]
    refine (terminate_status .completed _ _).endState ?_
    rw [s.isActive_eq, hrunning]
    rfl
  · refine ⟨i.script, i.cursor, Session.place?_of_some hs.2, ?_⟩
    rw [if_neg (of_decide_eq_false (Bool.not_eq_true _ ▸ hgoes)), hs.1]

lemma settle_goesOn : Leads (fun s => s.status? id = some .running)
    (settle id : Engine H StepResult) (Session.HasGoneOn id) := by
  refine theInstance_bind (fun i => ?_) fun s hs hi => by simp [Session.status?, hi] at hs
  refine Leads.ite (fun hwaits => ?_) fun _ => finish_goesOn.weaken (fun _ h => h.1) fun _ h => h
  rintro s ⟨hrunning, hi⟩
  simp only [Session.status?, hi, Option.map_some, Option.some.injEq] at hrunning
  simp [Status.isSuspended, Status.wait?, hrunning] at hwaits

lemma settle_waits {x : Wait H.Predicate} (hs : s.status? id = some (.suspended x)) :
    settle id s = .ok .suspended { s with counters := s.counters.countSuspension } := by
  obtain ⟨i, hi, hx⟩ := Option.map_eq_some_iff.mp hs
  have hsuspended : i.status.isSuspended = true := by simp [Status.isSuspended, Status.wait?, hx]
  unfold settle
  rw [bind_of_ok (theInstance_of_some hi), hsuspended]
  rfl

lemma resume_goesOn {x : Wait H.Predicate} (hs : s.status? id = some (.suspended x)) :
    Session.HasGoneOn id (endState (do resume id; finish id : Engine H StepResult) s) ∧
      s.Agrees (endState (do resume id; finish id : Engine H StepResult) s) := by
  obtain ⟨i, hi, hx⟩ := Option.map_eq_some_iff.mp hs
  rw [endState_congr (bind_of_ok (resume_of_suspended hi hx))]
  refine ⟨finish_goesOn.endState ?_, finish_agrees.endState ⟨rfl, rfl, rfl⟩⟩
  rw [s.status?_setStatus, if_pos rfl, hs]
  rfl

lemma fault_goesOn {S : Services H.Game} {f : Fault} (g : Counters → Counters) (level : LogLevel)
    (text : String) (hf : ∀ text, f ≠ .fatal text) (hs : s.status? id = some .running) :
    Session.HasGoneOn id (endState (do
      count g
      logFor id level text
      afterFault S id f : Engine H StepResult) s) ∧
    s.Agrees (endState (do
      count g
      logFor id level text
      afterFault S id f : Engine H StepResult) s) := by
  let s' : Session H := { s with counters := g s.counters }
  obtain ⟨x, hlog, halike⟩ := logFor_apply id level text s'
  have hafter : afterFault S id f = settle id := by
    cases f with
    | fatal text => exact absurd rfl (hf text)
    | _ => rfl
  have hrun : (do
      count g
      logFor id level text
      afterFault S id f : Engine H StepResult) s = settle id (s'.withScene x) := by
    rw [bind_of_ok (count_apply _ s), bind_of_ok hlog, hafter]
  rw [endState_congr hrun]
  exact ⟨settle_goesOn.endState hs, settle_agrees.endState ⟨rfl, rfl, halike.1⟩⟩

lemma step_of_instruction (hs : s.withdrawn = []) {x : Instruction} (hsteers : x.steers = false)
    (hx : Turn.instruction? ⟨s, id⟩ = some x) (elapsed : Option Float) :
    ∃ i c, s.instance? id = some i ∧ i.status = .running ∧
      step w id elapsed s = runCommandAt w id c s ∧
      execute w id c (s.modifyInstance id ({ · with cursor := i.cursor + 1 })) =
        carryOut w.services id x (s.fetched id (i.cursor + 1)) := by
  obtain ⟨⟨m, c⟩, hcommand, hinstruction⟩ := Option.bind_eq_some_iff.mp hx
  obtain ⟨i, hi, hr, -, hc⟩ := Turn.command?_eq_some.mp hcommand
  obtain ⟨herror, v, hv, hargs⟩ := Command.instruction?_eq_some.mp hinstruction
  refine ⟨i, c, hi, hr, step_of_command w elapsed hi hr hc, ?_⟩
  exact execute_carryOut w herror hv hargs (Verb.isControlFlow_of_steers hargs hsteers)
    (by simp [Session.modifyInstance, hs])

lemma asks_refused {S : Services H.Game} {x : Instruction} (hasks : x.asks = true)
    (htaken : s.ui.IsTakenFrom s.holders id) :
    ∃ message, carryOut S id x s = .error (.script .resourceConflict message) s := by
  rcases Stage.checkPromptFree_cases s.holders id s.screen with
    ⟨-, hfree⟩ | ⟨_, herror, -, message, rfl⟩
  · exact absurd htaken hfree
  refine ⟨message, ?_⟩
  cases x with
  | talk first last =>
    have hbegin : Stage.beginTalk S s.holders id first last s.screen =
        .error (.script .resourceConflict message) s.screen :=
      bind_of_error herror
    unfold carryOut talk
    dsimp only
    rw [bind_of_ok (get_apply s), bind_of_error (stage_of_error hbegin)]
  | choose a b question out =>
    have hbegin : Stage.beginSelection s.holders id s.screen =
        .error (.script .resourceConflict message) s.screen :=
      bind_of_error herror
    unfold carryOut choose
    dsimp only
    rw [bind_of_ok (get_apply s), bind_of_error (stage_of_error hbegin)]
  | _ => cases hasks

lemma step_of_asks (hs : s.withdrawn = []) {x : Instruction} (hasks : x.asks = true)
    (hx : Turn.instruction? ⟨s, id⟩ = some x) (elapsed : Option Float) :
    ∃ n, (s.fetched id n).status? id = some .running ∧
      (∀ t y, carryOut w.services id x (s.fetched id n) = .ok () t →
        t.status? id = some (.suspended y) →
        endState (step w id elapsed) s = { t with counters := t.counters.countSuspension }) ∧
      (∀ t, carryOut w.services id x (s.fetched id n) = .ok () t → t.status? id = some .running →
        (endState (step w id elapsed) s).HasGoneOn id ∧ t.Agrees (endState (step w id elapsed) s)) ∧
      ∀ f t, carryOut w.services id x (s.fetched id n) = .error f t →
        (∀ text, f ≠ .fatal text) → t.status? id = some .running →
        (endState (step w id elapsed) s).HasGoneOn id ∧ t.Agrees (endState (step w id elapsed) s) := by
  obtain ⟨i, c, hi, hr, hstep, hexecute⟩ :=
    step_of_instruction (w := w) hs (Instruction.steers_of_asks hasks) hx elapsed
  refine ⟨i.cursor + 1, ?_, fun t y hok ht => ?_, fun t hok ht => ?_, fun f t herror hf ht => ?_⟩
  · rw [Session.status?_fetched]
    simp [Session.status?, hi, hr]
  · have hsettle := (runCommandAt_of_ok hi (hexecute.trans hok)).trans (settle_waits ht)
    exact endState_of_ok (hstep.trans hsettle)
  · rw [endState_congr (hstep.trans (runCommandAt_of_ok hi (hexecute.trans hok)))]
    exact ⟨settle_goesOn.endState ht, settle_agrees.endState ⟨rfl, rfl, rfl⟩⟩
  · obtain ⟨level, text, hrun⟩ := runCommandAt_of_error hi (hexecute.trans herror)
    rw [endState_congr (hstep.trans hrun)]
    exact fault_goesOn f.tally level text hf ht

section Wait

variable {x : Wait H.Predicate} {elapsed : Option Float} {i : Instance H.Predicate} {ready : Bool}

lemma checkWait_of_ok (hs : s.IsHostless) (hpoll : pollWait w id elapsed x s = .ok ready t) :
    checkWait w id elapsed x s = .ok ready t := by
  unfold checkWait
  rw [bind_of_ok (attempt_of_ok ((poll_of_hostless hs).trans hpoll))]
  rfl

lemma step_of_suspended (hi : s.instance? id = some i) (hx : i.status = .suspended x) :
    step w id elapsed s = (do
      if ← checkWait w id elapsed x then
        resume id
        finish id
      else return if (← theInstance id).isActive then .suspended else .completed) s := by
  unfold step
  rw [bind_of_ok (theInstance_of_some hi), hx]

lemma step_of_wait (hi : s.instance? id = some i) (hx : i.status = .suspended x)
    (hcheck : checkWait w id elapsed x s = .ok ready t) :
    step w id elapsed s = (if ready then do resume id; finish id else do
      return if (← theInstance id).isActive then .suspended else .completed) t := by
  rw [step_of_suspended hi hx, bind_of_ok hcheck]

lemma step_waits (hx : s.status? id = some (.suspended x))
    (hcheck : checkWait w id elapsed x s = .ok false t) : endState (step w id elapsed) s = t := by
  obtain ⟨i, hi, hx⟩ := Option.map_eq_some_iff.mp hx
  rw [endState_congr (step_of_wait hi hx hcheck)]
  have hsame : Preserves (· = t) (do
      return if (← theInstance id).isActive then .suspended else .completed :
      Engine H StepResult) :=
    Preserves.bind (theInstance_here id) fun _ => .pure _
  exact hsame.endState rfl

lemma step_goesOn (hx : s.status? id = some (.suspended x))
    (hcheck : checkWait w id elapsed x s = .ok true t) (ht : t.status? id = some (.suspended x)) :
    (endState (step w id elapsed) s).HasGoneOn id ∧ t.Agrees (endState (step w id elapsed) s) := by
  obtain ⟨i, hi, hx⟩ := Option.map_eq_some_iff.mp hx
  rw [endState_congr (step_of_wait hi hx hcheck)]
  exact resume_goesOn ht

end Wait

end Engine

end EventScript
