import EventScript.Proofs.Prompt.Wait

/-! A step keeps the prompt invariant, and so do all the steps of a tick. -/

namespace EventScript.Engine

variable {H : Host} {l : List InstanceId} {id : InstanceId}

lemma runCommandAt_invariant (w : Wiring H) (hS : w.services.ShowsPrompts) (c : Command) :
    Leads (ReadyToAct id l) (runCommandAt w id c) (PromptInvariant l) := by
  refine .after (calm_ready (theInstance_within id)) (fun _ h => h.invariant) fun i => ?_
  refine .after (calm_ready (setCursor_within (by simp) _)) (fun _ h => h.invariant) fun _ => ?_
  refine (attempt_leads (execute_invariant w hS c)).bind fun r => ?_
  have report (text : String) {f : Counters → Counters} {level : LogLevel}
      {p : Engine H StepResult} (hp : Preserves (PromptInvariant l) p) :
      Preserves (PromptInvariant l) (do
        count f
        logFor id level text
        p : Engine H StepResult) :=
    (calm_preserves (count_within (by simp) f)).bind fun _ =>
      (calm_preserves (logFor_within (by simp) id level text)).bind fun _ => hp
  split
  · exact settle_invariant
  · exact report _ ((abort_invariant hS).bind fun _ => .pure _)
  · exact report _ settle_invariant
  · exact report _ settle_invariant

lemma resume_rests : Leads (MayGoOn id l) (resume id : Engine H Unit) (Rests id l) := by
  rintro s ⟨hfree, x, hx⟩
  obtain ⟨i, hi, hst⟩ := Option.map_eq_some_iff.mp hx
  rw [resume_of_suspended hi hst]
  exact .ok (hfree.setIdle hx rfl)

lemma step_invariant (w : Wiring H) (hS : w.services.ShowsPrompts) (hid : id ∈ l)
    (elapsed : Option Float) : Preserves (PromptInvariant l) (step w id elapsed) := by
  refine theInstance_bind (fun i => ?_) fun _ hs _ => hs
  have hst {s : Session H} (hi : s.instance? id = some i) : s.status? id = some i.status := by
    simp [Session.status?, hi]
  split
  · exact Leads.pure fun _ hs => hs.1
  · exact Leads.pure fun _ hs => hs.1
  · next x hx =>
    refine Triple.bind (R := AfterWait id l) ?_ fun ready => ?_
    · refine (checkWait_after w hS elapsed x).weaken ?_ (fun _ _ h => h) fun _ _ h => h
      exact fun s hs => ⟨hs.1, hid, hx ▸ hst hs.2⟩
    · cases ready with
      | true =>
        exact Triple.bind (Triple.weaken resume_rests (fun _ h => h) (fun _ _ h => h)
          fun _ _ h => h.invariant) fun _ => finish_invariant
      | false =>
        exact calm_preserves ((theInstance_within id).bind fun _ => .pure _)
  · next hx =>
    split
    · refine Leads.bind (complete_rests.weaken ?_ fun _ h => h.invariant) fun _ => .pure _
      intro s hs
      refine (Rests.mk hs.1 ?_).free
      simp [waitKind?_of_some hs.2, hx, Status.waitKind?, Status.wait?]
    · exact (runCommandAt_invariant w hS _).weaken (fun s hs => ⟨hs.1, hid, hx ▸ hst hs.2⟩)
        fun _ h => h

lemma stepUpTo_invariant (w : Wiring H) (hS : w.services.ShowsPrompts) (hid : id ∈ l)
    (elapsed : Option Float) (n : Nat) : Preserves (PromptInvariant l) (stepUpTo w id elapsed n) := by
  induction n with
  | zero => exact .pure _
  | succ n ih =>
    refine (attempt_leads (step_invariant w hS hid elapsed)).bind fun r => ?_
    split
    · exact ih
    · exact .pure _
    · exact (calm_preserves (count_within (by simp) _)).bind fun _ => Preserves.get.bind fun _ =>
        (calm_preserves (log_within (by simp) _ _)).bind fun _ => abort_invariant hS

lemma stepEach_invariant (w : Wiring H) (hS : w.services.ShowsPrompts) (elapsed : Option Float)
    (ids : List InstanceId) (hids : ids ⊆ l) :
    Preserves (PromptInvariant l) (stepEach w elapsed ids) := by
  induction ids with
  | nil => exact .pure _
  | cons id ids ih =>
    obtain ⟨hid, hids⟩ := List.cons_subset.mp hids
    refine (calm_preserves (theInstance_within id)).bind fun i => Preserves.get.bind fun _ => ?_
    refine Leads.ite (fun _ => ?_) fun _ => ih hids
    exact Preserves.get.bind fun s => (stepUpTo_invariant w hS hid elapsed _).bind fun _ => ih hids

lemma stepAll_invariant (w : Wiring H) (hS : w.services.ShowsPrompts) (elapsed : Option Float) :
    Preserves (PromptInvariant l) (stepAll w elapsed) := by
  refine Triple.get_bind fun s hs => ?_
  rintro _ rfl
  rw [hs.active]
  exact stepEach_invariant w hS elapsed l (List.Subset.refl l) _ hs

end EventScript.Engine
