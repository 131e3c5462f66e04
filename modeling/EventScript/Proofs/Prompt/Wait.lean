import EventScript.Proofs.Prompt.Lifecycle

/-! Waits keep the prompt invariant: an instance is let go on only after it has given back what it
held, whether its wait has come to its end or has broken. -/

namespace EventScript

variable {H : Host} {S : Services H.Game} {l : List InstanceId} {id : InstanceId}

/-- Suspended and listed, in a session that keeps the invariant. -/
structure WaitsFor (id : InstanceId) (l : List InstanceId) (x : Wait H.Predicate) (s : Session H) :
    Prop where
  invariant : PromptInvariant l s
  listed : id ∈ l
  suspended : s.status? id = some (.suspended x)

def IsNotRunning (id : InstanceId) (s : Session H) : Prop :=
  ∃ x, s.status? id = some x ∧ x ≠ .running

structure MayGoOn (id : InstanceId) (l : List InstanceId) (s : Session H) : Prop where
  free : PromptFreeOf id l s
  suspended : ∃ x, s.status? id = some (.suspended x)

def AfterWait (id : InstanceId) (l : List InstanceId) (ready : Bool) (s : Session H) : Prop :=
  if ready then MayGoOn id l s else PromptInvariant l s

section WaitsFor

variable {x : Wait H.Predicate} {s : Session H}

lemma WaitsFor.ignores {a : Aspect} (ha : a.isCalm = true) : Ignores (WaitsFor id l x) a :=
  fun s t h hs => ⟨PromptInvariant.ignores ha s t h hs.invariant, hs.listed,
    status?_ignores ha _ s t h hs.suspended⟩

lemma WaitsFor.waitKind? (hs : WaitsFor id l x s) : s.waitKind? id = some x.kind := by
  simp [Session.waitKind?, hs.suspended, Status.waitKind?, Status.wait?]

lemma WaitsFor.after_aside (hs : WaitsFor id l x s) (hx : x.kind.isAside = true) (ready : Bool) :
    AfterWait id l ready s := by
  cases ready with
  | false => exact hs.invariant
  | true => exact ⟨hs.invariant.exchange (by simpa [hs.waitKind?] using hx) (by simp) (.inl rfl),
      x, hs.suspended⟩

lemma WaitsFor.isNotRunning (hs : WaitsFor id l x s) : IsNotRunning id s :=
  ⟨_, hs.suspended, by simp⟩

end WaitsFor

lemma IsNotRunning.ignores {a : Aspect} (ha : ∀ k, a ≠ .status k) :
    Ignores (IsNotRunning (H := H) id) a := by
  rintro s t h ⟨x, hx, hr⟩
  cases a with
  | status k => exact absurd rfl (ha k)
  | talk | chooser | active => cases h; exact ⟨x, hx, hr⟩
  | _ => exact ⟨x, status?_ignores (by rfl) x s t h hx, hr⟩

namespace Engine

lemma calm_waits {α : Type} {p : Engine H α} {x : Wait H.Predicate} (hp : Within Aspect.calm p) :
    Preserves (WaitsFor id l x) p :=
  hp.preserves fun _ ha => WaitsFor.ignores ha

lemma calm_wait_bind {α β : Type} {q : Engine H β} {f : β → Engine H α} {x : Wait H.Predicate}
    {Q : α → Session H → Prop} (hq : Within Aspect.calm q)
    (hf : ∀ b, Triple (WaitsFor id l x) (f b) Q fun _ => WaitsFor id l x) :
    Triple (WaitsFor id l x) (q >>= f) Q fun _ => WaitsFor id l x :=
  Triple.bind (calm_waits hq) hf

lemma advanceTalk_after (hS : S.ShowsPrompts) :
    Triple (WaitsFor id l .dialogue) (do
      match ← stage (Stage.advanceTalk S) with
      | some line =>
        perform S (.showDialog line.text line.portrait)
        return false
      | none => return true : Engine H Bool) (AfterWait id l)
      fun _ => WaitsFor id l .dialogue := by
  intro s hs
  obtain ⟨t, ht, hh⟩ := Option.map_eq_some_iff.mp ((hs.invariant.talk id).mpr hs.waitKind?)
  obtain ⟨line, u, scene, hadv, hcases⟩ := Stage.advanceTalk_of_talk hS.talkLine ht
  rw [bind_of_ok (stage_of_ok hadv)]
  rcases hcases with ⟨rfl, rfl⟩ | ⟨line, t', rfl, rfl, hh'⟩
  · refine .ok ⟨?_, .dialogue, hs.suspended⟩
    have htalk : s.talker? = some id := by simp [Session.talker?, ht, hh]
    exact (hs.invariant.leave_talk htalk rfl).same ⟨rfl, rfl, rfl, rfl, rfl⟩
  · let s' : Session H :=
      { s with screen := { scene := scene, ui := { s.screen.ui with talk := some t' } } }
    have hs' : WaitsFor id l .dialogue s' := by
      refine ⟨hs.invariant.same ⟨?_, rfl, rfl, rfl, rfl⟩, hs.listed, hs.suspended⟩
      change some t'.holder = s.talker?
      simp [Session.talker?, ht, hh']
    have hshow : Triple (WaitsFor id l .dialogue) (do
        perform S (.showDialog line.text line.portrait)
        return false : Engine H Bool) (AfterWait id l) fun _ => WaitsFor id l .dialogue :=
      calm_wait_bind (perform_within (by simp) S _) fun _ => Triple.pure fun s hs => hs.invariant
    exact hshow s' hs'

lemma waitDialogue_after (hS : S.ShowsPrompts) :
    Triple (WaitsFor id l .dialogue) (waitDialogue S id : Engine H Bool) (AfterWait id l)
      fun _ => WaitsFor id l .dialogue := by
  refine Triple.get_bind fun s hs => ?_
  have hholds : s.ui.holdsTalk id = true :=
    holdsTalk_iff.mpr ((hs.invariant.talk id).mpr hs.waitKind?)
  rw [hholds]
  rintro _ rfl
  refine Triple.apply (P := WaitsFor id l .dialogue) ?_ hs
  refine Triple.ite (fun h => absurd h (by decide)) fun _ => ?_
  refine calm_wait_bind (play_within (by simp) _) fun gone => ?_
  exact Triple.ite (fun _ => Triple.pure fun s hs => hs.invariant) fun _ => advanceTalk_after hS

lemma waitSleep_after (remaining : Float) (elapsed : Option Float) :
    Triple (WaitsFor id l (.sleep remaining)) (waitSleep id remaining elapsed : Engine H Bool)
      (AfterWait id l) fun _ => WaitsFor id l (.sleep remaining) := by
  cases elapsed with
  | none => exact Triple.throw fun _ hs => hs
  | some e =>
    refine Triple.bind (R := fun _ => WaitsFor id l (.sleep (remaining - e))) (Triple.modify ?_) ?_
    · intro s hs
      have hfree : PromptFreeOf id l s := (hs.after_aside rfl true).free
      refine ⟨hfree.setStatus hs.suspended ?_ (.inr hs.listed), hs.listed, ?_⟩
      · simp [Status.waitKind?, Status.wait?, Wait.kind, WaitKind.isAside]
      · change (s.modifyInstance id ({ · with status := .suspended (.sleep (remaining - e)) })).status?
          id = _
        rw [s.status?_setStatus]
        simp [hs.suspended]
    · exact fun _ => Triple.pure fun s hs => hs.after_aside rfl _

lemma endSelection_after (out : Option String) :
    Triple (WaitsFor id l (.selection out)) (do
      stage (Stage.endSelection id)
      return true : Engine H Bool) (AfterWait id l) fun _ => WaitsFor id l (.selection out) := by
  intro s hs
  have hchoice : s.ui.chooser = some id := (hs.invariant.choice id).mpr hs.waitKind?
  have hend : Stage.endSelection id s.screen =
      .ok () { s.screen with ui := { s.screen.ui with chooser := none } } := by
    unfold Stage.endSelection
    rw [bind_of_ok (get_apply _)]
    exact congrFun (if_pos (holdsSelection_iff.mpr hchoice)) _
  rw [bind_of_ok (stage_of_ok hend)]
  exact .ok ⟨hs.invariant.leave_choice hchoice rfl, _, hs.suspended⟩

lemma waitSelection_after (S : Services H.Game) (out : Option String) :
    Triple (WaitsFor id l (.selection out)) (waitSelection S id out : Engine H Bool)
      (AfterWait id l) fun _ => WaitsFor id l (.selection out) := by
  refine Triple.get_bind fun s hs => ?_
  have hholds : s.ui.holdsSelection id = true :=
    holdsSelection_iff.mpr ((hs.invariant.choice id).mpr hs.waitKind?)
  rw [hholds]
  rintro _ rfl
  refine Triple.apply (P := WaitsFor id l (.selection out)) ?_ hs
  refine Triple.ite (fun h => absurd h (by decide)) fun _ => ?_
  refine calm_wait_bind (play_within (by simp) _) fun gone => ?_
  refine Triple.ite (fun _ => Triple.pure fun s hs => hs.invariant) fun _ => ?_
  refine calm_wait_bind (play_within (by simp) _) fun choice => ?_
  exact calm_wait_bind (keepChoice_within (by simp) out choice) fun _ => endSelection_after _

lemma pollWait_after (w : Wiring H) (hS : w.services.ShowsPrompts) (elapsed : Option Float)
    (x : Wait H.Predicate) :
    Triple (WaitsFor id l x) (pollWait w id elapsed x) (AfterWait id l)
      fun _ => WaitsFor id l x := by
  cases x with
  | dialogue => exact waitDialogue_after hS
  | sleep remaining => exact waitSleep_after remaining elapsed
  | selection out => exact waitSelection_after w.services out
  | fadeOut | fadeIn =>
    exact calm_wait_bind .get fun _ => Triple.pure fun _ hs => hs.after_aside rfl _
  | movie =>
    exact Triple.weaken (calm_waits (movieEnded_within (by simp) w.services)) (fun _ hs => hs)
      (fun _ _ hs => hs.after_aside rfl _) fun _ _ hs => hs
  | host p => exact fun s hs => absurd hs.waitKind? (hs.invariant.own id)

lemma poll_after (w : Wiring H) (hS : w.services.ShowsPrompts) (elapsed : Option Float)
    (x : Wait H.Predicate) :
    Triple (WaitsFor id l x) (poll w id elapsed x) (AfterWait id l) fun _ => WaitsFor id l x := by
  refine Triple.get_bind fun s hs => ?_
  rw [hs.invariant.noWaits]
  rintro _ rfl
  exact pollWait_after w hS elapsed x _ hs

lemma notRunning_preserves {α : Type} {A : Set Aspect} {p : Engine H α} (hp : Within A p)
    (hA : ∀ k, .status k ∉ A) : Preserves (IsNotRunning id) p :=
  hp.preserves fun _ ha => IsNotRunning.ignores fun k hk => hA k (hk ▸ ha)

lemma cancel_notRunning : Preserves (IsNotRunning id) (cancel id : Engine H Unit) := by
  refine theInstance_bind (fun i => ?_) fun _ hs _ => hs
  refine Leads.ite (fun _ => ?_) fun _ => Leads.pure fun _ hs => hs.1
  refine Leads.bind (Leads.modify ?_) fun _ => notRunning_preserves
    (A := {.scene, .counters, .watchers, .marks id})
    ((logFor_within (by simp) id _ _).bind fun _ => ended_within (by simp) (by simp) (by simp) _)
    (by simp)
  rintro s ⟨-, hi⟩
  refine ⟨.canceled, ?_, by simp⟩
  change (s.modifyInstance id ({ · with status := .canceled })).status? id = _
  rw [s.status?_setStatus]
  simp [Session.status?, hi]

lemma abort_notRunning (S : Services H.Game) :
    Preserves (IsNotRunning id) (abort S id : Engine H Unit) := by
  refine theInstance_bind (fun i => ?_) fun _ hs _ => hs
  refine Leads.ite (fun _ => ?_) fun _ => Leads.pure fun _ hs => hs.1
  refine Leads.weaken (Preserves.bind ?_ fun _ => cancel_notRunning) (fun _ hs => hs.1) fun _ h => h
  exact notRunning_preserves (A := {.scene, .talk, .chooser})
    (release_within (by simp) (by simp) (by simp) S id) (by simp)

lemma reportWait_preserves {I : Session H → Prop} (f : Fault)
    (hcalm : ∀ a : Aspect, a.isCalm = true → Ignores I a) (habort : Preserves I (abort S id)) :
    Preserves I (reportWait S id f) := by
  have hquiet {α : Type} {p : Engine H α} (hp : Within Aspect.calm p) : Preserves I p :=
    hp.preserves hcalm
  have hcount (f : Counters → Counters) : Preserves I (count f : Engine H Unit) :=
    hquiet (count_within (by simp) f)
  exact (Modular.preserves I).reportWait (hcount _) (fun _ => hcount _) (hcount _)
    (fun _ _ => hquiet (logFor_within (by simp) id _ _)) habort f

lemma reportWait_after (hS : S.ShowsPrompts) (f : Fault) :
    Preserves (fun s => PromptInvariant l s ∧ IsNotRunning id s)
      (reportWait S id f : Engine H Unit) := by
  refine reportWait_preserves f ?_ ?_
  · intro a ha s t h hs
    refine ⟨PromptInvariant.ignores ha s t h hs.1, IsNotRunning.ignores ?_ s t h hs.2⟩
    rintro k rfl
    simp at ha
  · exact (abort_invariant hS).and (abort_notRunning S)

lemma checkWait_after (w : Wiring H) (hS : w.services.ShowsPrompts) (elapsed : Option Float)
    (x : Wait H.Predicate) :
    Triple (WaitsFor id l x) (checkWait w id elapsed x) (AfterWait id l)
      fun _ => PromptInvariant l := by
  refine Triple.bind (attempt_triple (poll_after w hS elapsed x)) fun r => ?_
  cases r with
  | ok ready => exact Triple.pure fun _ hs => hs
  | error f =>
    refine Triple.bind (R := fun _ s => PromptInvariant l s ∧ IsNotRunning id s) ?_ fun _ => ?_
    · exact Triple.weaken (reportWait_after hS f) (fun s hs => ⟨hs.invariant, hs.isNotRunning⟩)
        (fun _ _ h => h) fun _ _ h => h.1
    · refine theInstance_bind (fun i => ?_) fun _ hs _ => hs.1
      refine Triple.ite (fun _ => Triple.pure fun s hs => hs.1.1) fun ha => ?_
      rintro s ⟨⟨hs, x, hx, hr⟩, hi⟩
      obtain ⟨t, hrel, hfree, hroster⟩ := release_free hS id hs
      rw [bind_of_ok hrel]
      have hst : s.status? id = some i.status := by simp [Session.status?, hi]
      have hst' : t.status? id = s.status? id := by
        simp [Session.status?, Session.instance?, hroster]
      obtain rfl := Option.some.inj (hst.symm.trans hx)
      refine .ok ⟨hfree, ?_⟩
      cases hi' : i.status with
      | running => exact absurd hi' hr
      | suspended y => exact ⟨y, hst'.trans (hst.trans (congrArg some hi'))⟩
      | completed | canceled => simp [Instance.isActive, hi', Status.isActive] at ha

end Engine

end EventScript
