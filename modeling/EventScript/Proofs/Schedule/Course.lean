import EventScript.Proofs.Ensemble.Spot
import EventScript.Proofs.Schedule.Tick

/-! Runs of a session that tell what the instances do in their steps from all that happens between
them. An instance may be stepped by the schedule or by hand, and need not be known to the
schedule. -/

namespace EventScript

variable {H : Host} {w : Wiring H} {s t : Session H}

/-- A step of an instance: the moment before it and the moment after. -/
structure Act (H : Host) extends Turn H where
  after : Session H

def Act.IsStep (w : Wiring H) (v : Act H) : Prop :=
  ∃ elapsed, v.after = endState (Engine.step w v.id elapsed) v.before

def Turn.act (w : Wiring H) (elapsed : Option Float) (u : Turn H) : Act H :=
  { u with after := endState (Engine.step w u.id elapsed) u.before }

lemma Turn.act_isStep (elapsed : Option Float) (u : Turn H) : (u.act w elapsed).IsStep w :=
  ⟨elapsed, rfl⟩

/-- The steps among these that one instance took. -/
def actsOf (id : InstanceId) (vs : List (Act H)) : List (Act H) := vs.filter (·.id = id)

section ActsOf

variable {id : InstanceId} {vs : List (Act H)} {v : Act H}

lemma actsOf_concat_self (hv : v.id = id) : actsOf id (vs ++ [v]) = actsOf id vs ++ [v] := by
  simp [actsOf, hv]

lemma actsOf_concat_of_ne (hv : v.id ≠ id) : actsOf id (vs ++ [v]) = actsOf id vs := by
  simp [actsOf, hv]

end ActsOf

/-- What is asked for in a turn. -/
def Turn.instruction? (u : Turn H) : Option Instruction := u.command?.bind (·.2.instruction?)

lemma Turn.instruction?_of_command {u : Turn H} {n : Nat} {c : Command}
    (h : u.command? = some (n, c)) : u.instruction? = c.instruction? := by
  simp [instruction?, h]

def Request.isTick : Request H → Bool
  | tick _ => true
  | _ => false

@[simp] def Aspect.outer : Set Aspect := {.scene, .cache, .store, .files, .watchers, .paused}

lemma Request.preserves {I : Session H → Prop} {r : Request H} (htick : r.isTick = false)
    (hnewGame : r = .newGame → Preserves I (Engine.newGame w.services : Engine H Unit))
    (houter : ∀ {α : Type} {p : Engine H α}, Within Aspect.outer p → Preserves I p)
    (hstart : ∀ script owner pausable watcher,
      Preserves I (Engine.start script owner pausable watcher : Engine H InstanceId))
    (hdrop : ∀ id, Preserves I (Engine.drop w.services id : Engine H Unit)) :
    Preserves I (r.run w) := by
  have hempty {α : Type} {p : Engine H α} (hp : Within ∅ p) : Preserves I p :=
    houter (hp.mono (Set.empty_subset _))
  cases r with
  | tick => cases htick
  | start => exact (hstart _ _ _ _).bind fun _ => .pure _
  | startFile file =>
    have hload : Within Aspect.outer (Engine.loadHere w.services file : Engine H Script) :=
      Engine.loadHere_within (by rintro a (rfl | rfl) <;> simp) _ file
    exact (houter hload).bind fun _ => (hstart _ _ _ _).bind fun _ => .pure _
  | startText =>
    exact Preserves.bind ((hempty (.ofExcept _)).bind fun _ => hstart _ _ _ _) fun _ => .pure _
  | cancel id => exact hdrop id
  | cancelOwned owner =>
    exact Preserves.get.bind fun _ => (Modular.preserves I).dropOwned hdrop owner _
  | cancelAll =>
    exact Preserves.get.bind fun _ => (Modular.preserves I).dropEach hdrop _
  | setPaused paused =>
    exact houter (.modify fun s => (Change.paused s paused).changes (by simp))
  | newGame => exact hnewGame rfl
  | save path => exact (houter (Engine.save_within (by simp) path)).bind fun _ => .pure _
  | load path => exact houter (Engine.load_within (by simp) path)
  | setVariable name value => exact houter (Engine.setVariable_within (by simp) name value)
  | watch name failsOn early => exact houter (Engine.ensureWatcher_within (by simp) _ _ _)
  | meanwhile f => exact houter (.modify fun s => (Change.scene s _).changes (by simp))
  | changeFiles f => exact houter (.modify fun s => (Change.files s _).changes (by simp))

/-- What happens to a session beside the steps of its instances. -/
inductive Aside (H : Host) where
  | request (r : Request H) (hr : r.isTick = false)
  /-- What a tick does before the instances take their steps. -/
  | opening
  /-- What a tick does after that. -/
  | retire
  /-- An instance is made that the schedule does not know. -/
  | create (script : Script) (owner : Option EntityId) (pausable : Bool) (watcher : Option String)
  /-- An instance is canceled because its step failed as a whole. -/
  | giveUp (id : InstanceId) (label : String)

namespace Aside

def newGame : Aside H := .request .newGame rfl

def run (w : Wiring H) : Aside H → Engine H Unit
  | request r _ => r.run w
  | opening => Engine.opening w.services
  | retire => modify Session.retire
  | create script owner pausable watcher => do
    let _ ← Engine.create script owner pausable watcher
  | giveUp id label => do
    Engine.count Counters.countUnexpected
    Engine.log .error s!"step failed for {label}, canceling it"
    Engine.abort w.services id

end Aside

/-- The instances of a session take steps, in any order, and between them there is what `A` allows.
-/
inductive Course (w : Wiring H) (A : Set (Aside H)) (s : Session H) :
    List (Act H) → Session H → Prop
  | start : Course w A s [] s
  | act {t : Session H} {us : List (Act H)} {v : Act H} : Course w A s us t → v.IsStep w →
      v.before = t → Course w A s (us ++ [v]) v.after
  | aside {t : Session H} {us : List (Act H)} {a : Aside H} : Course w A s us t → a ∈ A →
      Course w A s us (endState (a.run w) t)

lemma Course.opened (script : Script) : Course w .univ s [] (endState (Aside.opening.run w)
    (endState ((Request.start script none true none).run w) s)) :=
  (start.aside (a := .request (.start script none true none) rfl) (Set.mem_univ _)).aside
    (Set.mem_univ _)

/-- The property survives the steps of instances and what ticks do beside them. -/
structure Wiring.Upholds (w : Wiring H) (I : Session H → Prop) : Prop where
  step : ∀ id elapsed, Preserves I (Engine.step w id elapsed)
  opening : Preserves I (Aside.opening.run w)
  retire : Preserves I (Aside.retire.run w)
  giveUp : ∀ id label, Preserves I ((Aside.giveUp id label).run w)

namespace Wiring.Upholds

open Engine

variable {I : Session H → Prop} (hw : w.Upholds I)

include hw

lemma takeTurn (id : InstanceId) (elapsed : Option Float) :
    Preserves I (Engine.takeTurn w id elapsed) := by
  refine (attempt_leads (hw.step id elapsed)).bind fun r => ?_
  split
  · exact .pure _
  · intro t ht
    let t' : Session H := { t with counters := t.counters.countUnexpected }
    have hgiveUp : Preserves I ((Aside.giveUp id (t'.label id)).run w >>= fun _ =>
        pure StepResult.completed) := (hw.giveUp id _).bind fun _ => .pure _
    have h := hgiveUp t ht
    simp only [Aside.run, bind_assoc] at h
    rw [bind_of_ok (count_apply _ t)] at h ⊢
    rw [bind_of_ok (get_apply _)]
    exact h

lemma tick (elapsed : Option Float) : Preserves I (Engine.tick w elapsed) := by
  have hturns (id : InstanceId) (n : Nat) : Preserves I (stepUpTo w id elapsed n) := by
    induction n with
    | zero => exact .pure _
    | succ n ih =>
      rw [stepUpTo_succ]
      exact (hw.takeTurn id elapsed).bind fun _ => .ite ih (.pure _)
  have heach (ids : List InstanceId) : Preserves I (stepEach w elapsed ids) :=
    (Modular.preserves I).stepEach hturns ids
  rw [tick_eq]
  exact hw.opening.bind fun _ => Preserves.bind (Preserves.get.bind fun t => heach t.active)
    fun _ => hw.retire

lemma request {r : Request H} (hr : r.isTick = false → Preserves I (r.run w)) :
    Preserves I (r.run w) := by
  cases h : r.isTick with
  | true =>
    cases r with
    | tick elapsed => exact hw.tick elapsed
    | _ => cases h
  | false => exact hr h

end Wiring.Upholds

/-- A session comes, by requests of the kind given, to another in which an instance may take a step:
between two of them, or before a turn of the tick that follows. -/
inductive Session.Reaches (w : Wiring H) (R : Request H → Prop) (s₀ : Session H) :
    Session H → Prop
  | between (rs : List (Request H)) : (∀ r ∈ rs, R r) → Reaches w R s₀ (s₀.after w rs)
  | amid (rs : List (Request H)) {elapsed : Option Float} {s₁ s₂ : Session H} {us : List (Turn H)}
      {u : Turn H} : (∀ r ∈ rs, R r) → Engine.opening w.services (s₀.after w rs) = .ok () s₁ →
      Turns w elapsed s₁ us s₂ → u ∈ us → Reaches w R s₀ u.before

lemma Session.Reaches.keeps {R : Request H → Prop} {I : Session H → Prop} {s₀ : Session H}
    (hs : s₀.Reaches w R s) (hw : w.Upholds I) (hR : ∀ r, R r → Preserves I (r.run w))
    (h₀ : I s₀) : I s := by
  have hafter {rs : List (Request H)} (hrs : ∀ r ∈ rs, R r) : I (s₀.after w rs) :=
    s₀.after_keeps w (fun r hr => hR r (hrs r hr)) h₀
  cases hs with
  | between rs hrs => exact hafter hrs
  | @amid rs elapsed s₁ s₂ us u hrs hopen hus hu =>
    have h₁ := hw.opening.endState (hafter hrs)
    change I (endState (Engine.opening w.services) _) at h₁
    rw [endState_of_ok hopen] at h₁
    exact (hus.preserves (fun v _ => hw.takeTurn v.id elapsed) h₁).1 u hu

namespace Engine

variable {A : Set (Aside H)}

lemma step_courses (s : Session H) (id : InstanceId) (elapsed : Option Float) :
    Preserves (fun t => ∃ us, Course w A s us t) (step w id elapsed) := by
  refine Leads.of_endState fun t => ?_
  rintro ⟨us, h⟩
  exact ⟨_, h.act (Turn.act_isStep elapsed ⟨t, id⟩) rfl⟩

lemma aside_courses (s : Session H) {a : Aside H} (ha : a ∈ A) :
    Preserves (fun t => ∃ us, Course w A s us t) (a.run w) := by
  refine Leads.of_endState fun t => ?_
  rintro ⟨us, h⟩
  exact ⟨us, h.aside ha⟩

end Engine

lemma Course.upholds (w : Wiring H) (s : Session H) :
    w.Upholds fun t => ∃ us, Course w .univ s us t where
  step := Engine.step_courses s
  opening := Engine.aside_courses s (Set.mem_univ _)
  retire := Engine.aside_courses s (Set.mem_univ _)
  giveUp _ _ := Engine.aside_courses s (Set.mem_univ _)

lemma Session.after_course (w : Wiring H) (s : Session H) (rs : List (Request H)) :
    ∃ us, Course w .univ s us (s.after w rs) :=
  s.after_induction w (fun r => (Course.upholds w s).request fun hr =>
    Engine.aside_courses s (Set.mem_univ (.request r hr))) ⟨[], .start⟩ rs

lemma Wiring.TickKeeps.giveUp {I : Session H → Prop} (hw : w.TickKeeps I) (id : InstanceId)
    (label : String) : Preserves I ((Aside.giveUp id label).run w) :=
  ((hw.turn id).count Counters.countUnexpected fun _ => rfl).bind fun _ =>
    ((hw.turn id).log _ _).bind fun _ => (hw.turn id).abort

lemma DependsOnStatus.upholds {I : Session H → Prop} (hI : DependsOnStatus I)
    (hless : ∀ s, I s → s.IsHostless) (w : Wiring H) : w.Upholds I where
  step id elapsed := (hI.turnKeeps w id).step hless elapsed
  opening := (hI.tickKeeps w).opening
  retire := (hI.tickKeeps w).retire
  giveUp := (hI.tickKeeps w).giveUp

lemma DependsOnStatus.aside {I : Session H → Prop} (hI : DependsOnStatus I)
    (hless : ∀ s, I s → s.IsHostless) (w : Wiring H) (a : Aside H) : Preserves I (a.run w) := by
  have htick := hI.tickKeeps w
  cases a with
  | request r hr => exact hI.request hless w r
  | opening => exact htick.opening
  | retire => exact htick.retire
  | create script owner pausable watcher =>
    have hcreate := Engine.create_within (H := H) (A := {.roster}) rfl script owner pausable watcher
    exact hI.within (hcreate.bind fun _ => .pure _) (by simp)
  | giveUp id label => exact htick.giveUp id label

lemma DependsOnStatus.course {I : Session H → Prop} (hI : DependsOnStatus I)
    (hless : ∀ s, I s → s.IsHostless) {A : Set (Aside H)} {us : List (Act H)}
    (h : Course w A s us t) (hs : I s) : I t := by
  induction h with
  | start => exact hs
  | act _ hv hbefore ih =>
    obtain ⟨elapsed, hafter⟩ := hv
    rw [hafter]
    exact ((hI.turnKeeps w _).step hless elapsed).endState (hbefore ▸ ih)
  | aside _ _ ih => exact (hI.aside hless w _).endState ih

namespace Course

variable {A : Set (Aside H)} {us : List (Act H)}

lemma isHostless (h : Course w A s us t) (h₀ : s.IsAtStart) : t.IsHostless :=
  isHostless_dependsOnStatus.course (fun _ h => h) h h₀.isHostless

lemma withdrawn (h : Course w A s us t) (h₀ : s.IsAtStart) : t.withdrawn = [] :=
  ((isHostless_dependsOnStatus.and (withdrawn_dependsOnStatus [])).course (fun _ h => h.1) h
    ⟨h₀.isHostless, h₀.withdrawn⟩).2

end Course

end EventScript
