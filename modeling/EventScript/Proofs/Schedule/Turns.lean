import EventScript.Proofs.Schedule.Failing

/-! A tick, taken apart into its opening and the turns of the instances. -/

namespace EventScript

variable {H : Host} {w : Wiring H} {elapsed : Option Float}

namespace Engine

variable {id : InstanceId} {s : Session H}

def takeTurn (w : Wiring H) (id : InstanceId) (elapsed : Option Float) : Engine H StepResult := do
  match ← attempt (step w id elapsed) with
  | .ok r => return r
  | .error _ =>
    count Counters.countUnexpected
    let label := (← get).label id
    log .error s!"step failed for {label}, canceling it"
    abort w.services id
    return .completed

lemma stepUpTo_succ (n : Nat) : stepUpTo w id elapsed (n + 1) = (do
    if (← takeTurn w id elapsed) = .proceed then stepUpTo w id elapsed n) := by
  rw [stepUpTo, takeTurn, bind_assoc]
  congr 1
  funext r
  cases r with
  | ok r => cases r <;> simp
  | error f => simp [bind_assoc]

lemma takeTurn_of_ok {r : StepResult} {t : Session H} (h : step w id elapsed s = .ok r t) :
    takeTurn w id elapsed s = .ok r t := by
  unfold takeTurn
  rw [bind_of_ok (attempt_of_ok h)]
  rfl

lemma takeTurn_of_error {f : Fault} {t : Session H} (h : step w id elapsed s = .error f t) :
    ∃ x, t.scene.Alike x ∧
      takeTurn w id elapsed s = (abort w.services id >>= fun _ => pure .completed)
        ({ t with counters := t.counters.countUnexpected }.withScene x) := by
  unfold takeTurn
  rw [bind_of_ok (attempt_of_error h)]
  refine ⟨_, ?_, rfl⟩
  exact ⟨rfl, rfl⟩

end Engine

lemma Wiring.TurnKeeps.takeTurn {I : Session H → Prop} {id : InstanceId}
    (hw : w.TurnKeeps id I) (hI : ∀ s, I s → s.IsHostless) (elapsed : Option Float) :
    Preserves I (Engine.takeTurn w id elapsed) := by
  refine Preserves.bind (Engine.attempt_leads (hw.step hI elapsed)) fun r => ?_
  split
  · exact .pure _
  · exact (hw.count Counters.countUnexpected fun _ => rfl).bind fun _ => Preserves.get.bind fun _ =>
      (hw.log _ _).bind fun _ => hw.abort.bind fun _ => .pure _

lemma Engine.takeTurn_returns (hS : w.services.Settles) (elapsed : Option Float) {s : Session H}
    {id : InstanceId} (hs : s.IsHostless) (hid : s.status? id ≠ none) :
    ∃ r c x, (endState (step w id elapsed) s).scene.Alike x ∧
      let t := ({ endState (step w id elapsed) s with counters := c } : Session H).withScene x
      takeTurn w id elapsed s = .ok r t ∧ (r = .proceed → t.isActive id = true) := by
  have hI := (isSteppable_dependsOnStatus (H := H) id).turnKeeps w id
  have hends := (step_ends hS elapsed).and_preserves (hI.step (fun _ h => h.1) elapsed) s
    ⟨⟨hs, hid⟩, hs, hid⟩
  cases h : step w id elapsed s with
  | ok r t =>
    rw [h] at hends
    rw [endState_of_ok h]
    cases hends with
    | ok ht => exact ⟨r, t.counters, t.scene, ⟨rfl, rfl⟩, takeTurn_of_ok h, ht.2⟩
  | error f t =>
    rw [h] at hends
    rw [endState_of_error h]
    cases hends with
    | error ht =>
      obtain ⟨x, halike, hx⟩ := takeTurn_of_error h
      obtain ⟨i, hi⟩ := Option.ne_none_iff_exists'.mp (Session.instance?_ne_none.mpr ht.1.2)
      have hended : i.isActive = false := by simpa [HasStopped, Session.isActive, hi] using ht.2
      let t' := ({ t with counters := t.counters.countUnexpected } : Session H).withScene x
      have habort := abort_of_ended (s := t') hi hended w.services
      exact ⟨.completed, _, x, halike, hx.trans (bind_of_ok habort), by simp⟩

/-- The instances of a session take turns in one tick, and nothing happens between them. -/
inductive Turns (w : Wiring H) (elapsed : Option Float) :
    Session H → List (Turn H) → Session H → Prop
  | done (s : Session H) : Turns w elapsed s [] s
  | turn {s t u : Session H} {us : List (Turn H)} {id : InstanceId} {r : StepResult} :
      s.isActive id = true → Engine.takeTurn w id elapsed s = .ok r t →
      Turns w elapsed t us u → Turns w elapsed s (⟨s, id⟩ :: us) u

namespace Turns

variable {s t u : Session H} {us vs : List (Turn H)}

lemma trans (h : Turns w elapsed s us t) (h' : Turns w elapsed t vs u) :
    Turns w elapsed s (us ++ vs) u := by
  induction h with
  | done => exact h'
  | turn hactive hturn _ ih => exact .turn hactive hturn (ih h')

lemma split {as bs : List (Turn H)} {v : Turn H} (h : Turns w elapsed s (as ++ v :: bs) t) :
    ∃ r x, Engine.takeTurn w v.id elapsed v.before = .ok r x ∧ Turns w elapsed x bs t := by
  induction as generalizing s with
  | nil =>
    cases h with
    | turn _ hturn hrest => exact ⟨_, _, hturn, hrest⟩
  | cons a as ih =>
    cases h with
    | turn _ _ hrest => exact ih hrest

lemma preserves {I : Session H → Prop} (h : Turns w elapsed s us t)
    (hI : ∀ v ∈ us, Preserves I (Engine.takeTurn w v.id elapsed)) (hs : I s) :
    (∀ v ∈ us, I v.before) ∧ I t := by
  induction h with
  | done => exact ⟨by simp, hs⟩
  | turn _ hturn _ ih =>
    obtain ⟨hfirst, hrest⟩ := List.forall_mem_cons.mp hI
    have ht := hfirst.endState hs
    rw [endState_of_ok hturn] at ht
    obtain ⟨hus, hu⟩ := ih hrest ht
    exact ⟨List.forall_mem_cons.mpr ⟨hs, hus⟩, hu⟩

lemma keeps {I : Session H → Prop} (h : Turns w elapsed s us t)
    (hw : ∀ v ∈ us, w.TurnKeeps v.id I) (hI : ∀ s, I s → s.IsHostless) (hs : I s) :
    (∀ v ∈ us, I v.before) ∧ I t :=
  h.preserves (fun v hv => (hw v hv).takeTurn hI elapsed) hs

lemma isActive (h : Turns w elapsed s us t) : ∀ v ∈ us, v.before.isActive v.id = true := by
  induction h with
  | done => simp
  | turn hactive _ _ ih => exact List.forall_mem_cons.mpr ⟨hactive, ih⟩

lemma not_mem_of_hasEnded {k : InstanceId} {x : Status H.Predicate} (h : Turns w elapsed s us t)
    (hs : s.IsHostless) (hk : s.HasEnded k x) :
    (∀ v ∈ us, v.id ≠ k ∧ v.before.HasEnded k x) ∧ t.HasEnded k x := by
  have hI := isHostless_dependsOnStatus.and (hasEnded_dependsOnStatus (H := H) k x)
  obtain ⟨hus, ht⟩ := h.keeps (fun v _ => hI.turnKeeps w v.id) (fun _ h => h.1) ⟨hs, hk⟩
  refine ⟨fun v hv => ⟨?_, (hus v hv).2⟩, ht.2⟩
  rintro rfl
  have hactive := h.isActive v hv
  rw [(hus v hv).2.isActive] at hactive
  cases hactive

end Turns

namespace Engine

/-- What a tick does before the instances take their turns. -/
def opening (S : Services H.Game) : Engine H Unit := do
  modify fun s => { s with ticks := s.ticks + 1 }
  promote
  dropOrphans S
  updateScreen S

lemma tick_eq (w : Wiring H) (elapsed : Option Float) : tick w elapsed = (do
    opening w.services
    stepAll w elapsed
    modify Session.retire) := by
  simp [tick, opening, bind_assoc]

end Engine

end EventScript
