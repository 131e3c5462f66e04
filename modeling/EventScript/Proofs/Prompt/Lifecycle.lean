import EventScript.Proofs.Prompt.Command

/-! Giving the prompt back. An instance ends only after it has given back what it held, and one that
waits for nothing holds nothing. -/

namespace EventScript

variable {H : Host} {S : Services H.Game} {l : List InstanceId} {id : InstanceId} {s : Session H}

lemma holdsTalk_iff : s.ui.holdsTalk id = true ↔ s.talker? = some id := by
  unfold Ui.holdsTalk Session.talker?
  cases s.ui.talk <;> simp

lemma holdsSelection_iff : s.ui.holdsSelection id = true ↔ s.ui.chooser = some id := by
  simp [Ui.holdsSelection]

lemma PromptInvariant.free_of_not_held (hs : PromptInvariant l s) (ht : s.talker? ≠ some id)
    (hc : s.ui.chooser ≠ some id) : PromptFreeOf id l s := by
  refine hs.exchange ?_ (by simp) (.inl rfl)
  intro k hk
  cases k with
  | dialogue => exact absurd ((hs.talk id).mpr hk) ht
  | selection => exact absurd ((hs.choice id).mpr hk) hc
  | host => exact absurd hk (hs.own id)
  | _ => rfl

lemma waitKind?_of_some {i : Instance H.Predicate} (hi : s.instance? id = some i) :
    s.waitKind? id = i.status.waitKind? := by
  simp [Session.waitKind?, Session.status?, hi]

lemma waitKind?_of_none (hi : s.instance? id = none) : s.waitKind? id = none := by
  simp [Session.waitKind?, Session.status?, hi]

lemma Status.waitKind?_of_ended {x : Status H.Predicate} (hx : x.isActive = false) :
    x.waitKind? = none := by
  cases x <;> simp_all [Status.isActive, Status.waitKind?, Status.wait?]

/-- One who waits for nothing, in a session that keeps the invariant. -/
structure Rests (id : InstanceId) (l : List InstanceId) (s : Session H) : Prop where
  invariant : PromptInvariant l s
  idle : s.waitKind? id = none

lemma Rests.ignores {a : Aspect} (ha : a.isCalm = true) : Ignores (H := H) (Rests id l) a :=
  fun s t h hs => ⟨PromptInvariant.ignores ha s t h hs.invariant,
    (congrFun (h.waitKind? ha) id).trans hs.idle⟩

lemma Rests.free (hs : Rests id l s) : PromptFreeOf id l s :=
  hs.invariant.exchange (by simp [hs.idle]) (by simp) (.inl rfl)

lemma PromptFreeOf.rests (hs : PromptFreeOf id l s) (h : s.waitKind? id = none) : Rests id l s := by
  refine ⟨?_, h⟩
  unfold PromptFreeOf at hs
  rwa [← h, Function.update_eq_self] at hs

lemma PromptFreeOf.setIdle {x y : Status H.Predicate} (hs : PromptFreeOf id l s)
    (hy : s.status? id = some y) (hx : x.waitKind? = none) :
    Rests id l (s.modifyInstance id ({ · with status := x })) := by
  refine ⟨hs.setStatus hy (by simp [hx]) (.inl hx), ?_⟩
  rw [Session.waitKind?_setStatus hy, Function.update_self, hx]

namespace Engine

lemma calm_preserves {α : Type} {p : Engine H α} (hp : Within Aspect.calm p) :
    Preserves (PromptInvariant l) p :=
  hp.preserves fun _ ha => PromptInvariant.ignores ha

lemma release_free (hS : S.ShowsPrompts) (id : InstanceId) (hs : PromptInvariant l s) :
    ∃ t, stage (Stage.release S id) s = .ok () t ∧ PromptFreeOf id l t ∧ t.roster = s.roster := by
  cases ht : s.ui.holdsTalk id with
  | true =>
    have htalk := holdsTalk_iff.mp ht
    have hc : s.ui.holdsSelection id = false := by
      have hnone := hs.apart.resolve_left (by simp [htalk])
      simp [Ui.holdsSelection, hnone]
    obtain ⟨scene, h⟩ := Stage.release_of_talk hS.toPerformsPrompts ht hc
    exact ⟨_, stage_of_ok h, (hs.leave_talk htalk rfl).same ⟨rfl, rfl, rfl, rfl, rfl⟩, rfl⟩
  | false =>
    have htalk : s.talker? ≠ some id := fun h => by simp [holdsTalk_iff.mpr h] at ht
    cases hc : s.ui.holdsSelection id with
    | true =>
      obtain ⟨scene, h⟩ := Stage.release_of_choice hS.toPerformsPrompts ht hc
      exact ⟨_, stage_of_ok h,
        (hs.leave_choice (holdsSelection_iff.mp hc) rfl).same ⟨rfl, rfl, rfl, rfl, rfl⟩, rfl⟩
    | false =>
      have hchoice : s.ui.chooser ≠ some id := fun h => by simp [holdsSelection_iff.mpr h] at hc
      exact ⟨s, stage_of_ok (Stage.release_of_neither ht hc), hs.free_of_not_held htalk hchoice, rfl⟩

lemma terminate_rests {x : Status H.Predicate} (hx : x.waitKind? = none)
    (text : Instance H.Predicate → String) (o : Occasion) :
    Leads (PromptFreeOf id l) (terminate id x text o) (Rests id l) := by
  apply theInstance_bind
  · intro i
    refine Leads.ite (fun _ => ?_) fun ha => ?_
    · have hlast := logEnded_within (H := H) (A := Aspect.calm) id (by simp) (by simp)
        (by simp) (by simp) (text i) o
      refine Leads.bind (Leads.modify ?_) fun _ => hlast.preserves fun _ ha => Rests.ignores ha
      rintro s ⟨hs, hi⟩
      exact hs.setIdle (y := i.status) (by simp [Session.status?, hi]) hx
    · refine Leads.pure ?_
      rintro s ⟨hs, hi⟩
      exact hs.rests ((waitKind?_of_some hi).trans
        (Status.waitKind?_of_ended (by simpa [Instance.isActive] using ha)))
  · exact fun s hs hi => hs.rests (waitKind?_of_none hi)

lemma complete_rests : Leads (PromptFreeOf id l) (complete id : Engine H Unit) (Rests id l) :=
  terminate_rests (x := .completed) rfl _ _

lemma cancel_rests : Leads (PromptFreeOf id l) (cancel id : Engine H Unit) (Rests id l) :=
  terminate_rests (x := .canceled) rfl _ _

lemma abort_rests (hS : S.ShowsPrompts) :
    Leads (PromptInvariant l) (abort S id : Engine H Unit) (Rests id l) := by
  refine theInstance_bind (fun i => ?_) fun _ hs hi => ⟨hs, waitKind?_of_none hi⟩
  refine Leads.ite (fun _ => ?_) fun ha => Leads.pure ?_
  · rintro s ⟨hs, -⟩
    obtain ⟨t, hrel, hfree, -⟩ := release_free hS id hs
    rw [bind_of_ok hrel]
    exact cancel_rests t hfree
  · rintro s ⟨hs, hi⟩
    exact ⟨hs, (waitKind?_of_some hi).trans
      (Status.waitKind?_of_ended (by simpa [Instance.isActive] using ha))⟩

lemma abort_invariant (hS : S.ShowsPrompts) :
    Preserves (PromptInvariant l) (abort S id : Engine H Unit) :=
  (abort_rests hS).weaken (fun _ h => h) fun _ h => h.invariant

lemma finish_invariant :
    Leads (Rests id l) (finish id : Engine H StepResult) (PromptInvariant l) := by
  refine theInstance_bind (fun i => ?_) fun _ hs _ => hs.invariant
  refine Leads.ite (fun _ => Leads.pure fun _ hs => hs.1.invariant) fun _ => ?_
  refine Leads.ite (fun _ => ?_) fun _ => Leads.pure fun _ hs => hs.1.invariant
  exact (complete_rests.weaken (fun _ hs => hs.1.free) fun _ h => h.invariant).bind fun _ => .pure _

lemma settle_invariant : Preserves (PromptInvariant l) (settle id : Engine H StepResult) := by
  refine theInstance_bind (fun i => ?_) fun _ hs _ => hs
  refine Leads.ite (fun _ => ?_) fun hn => finish_invariant.weaken ?_ fun _ h => h
  · exact (calm_preserves ((count_within (by simp) _).bind fun _ => .pure _)).weaken
      (fun _ hs => hs.1) fun _ h => h
  · rintro s ⟨hs, hi⟩
    refine ⟨hs, (waitKind?_of_some hi).trans ?_⟩
    simpa [Status.isSuspended, Status.waitKind?] using hn

end Engine

end EventScript
