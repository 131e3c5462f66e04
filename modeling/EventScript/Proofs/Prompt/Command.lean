import EventScript.Proofs.Prompt.Invariant
import EventScript.Proofs.Prompt.Stage
import EventScript.Proofs.Session.Apply

/-! Commands keep the prompt invariant: whoever takes the prompt is suspended right away. -/

namespace EventScript

variable {H : Host} {S : Services H.Game} {l : List InstanceId} {id : InstanceId}

/-- Running and listed, in a session that keeps the invariant. -/
structure ReadyToAct (id : InstanceId) (l : List InstanceId) (s : Session H) : Prop where
  invariant : PromptInvariant l s
  listed : id ∈ l
  running : s.status? id = some .running

lemma ReadyToAct.ignores {a : Aspect} (ha : a.isCalm = true) :
    Ignores (H := H) (ReadyToAct id l) a :=
  fun s t h hs => ⟨PromptInvariant.ignores ha s t h hs.invariant, hs.listed,
    status?_ignores ha _ s t h hs.running⟩

lemma ReadyToAct.waitKind? {s : Session H} (hs : ReadyToAct id l s) : s.waitKind? id = none := by
  simp [Session.waitKind?, hs.running, Status.waitKind?, Status.wait?]

lemma ReadyToAct.free {s : Session H} (hs : ReadyToAct id l s) : PromptFreeOf id l s :=
  hs.invariant.exchange (by simp [hs.waitKind?]) (by simp) (.inl rfl)

lemma setStatus_agree {s : Session H} {x y : Status H.Predicate} (hy : s.status? id = some y)
    (h : PromptsAgree l s (Function.update s.waitKind? id x.waitKind?)) :
    PromptInvariant l (s.modifyInstance id ({ · with status := x })) := by
  unfold PromptInvariant
  rw [Session.waitKind?_setStatus hy]
  exact h.same ⟨rfl, rfl, rfl, rfl, rfl⟩

lemma PromptFreeOf.setStatus {s : Session H} {x y : Status H.Predicate} (hs : PromptFreeOf id l s)
    (hy : s.status? id = some y) (hx : ∀ k, x.waitKind? = some k → k.isAside = true)
    (ha : x.waitKind? = none ∨ id ∈ l) :
    PromptInvariant l (s.modifyInstance id ({ · with status := x })) := by
  have h : PromptsAgree l s (Function.update (Function.update s.waitKind? id none) id _) :=
    PromptsAgree.exchange hs (by simp) hx ha
  rw [Function.update_idem] at h
  exact setStatus_agree hy h

namespace Engine

lemma calm_ready {α : Type} {p : Engine H α} (hp : Within Aspect.calm p) :
    Preserves (ReadyToAct id l) p :=
  hp.preserves fun _ ha => ReadyToAct.ignores ha

lemma calm_acts {α : Type} {p : Engine H α} (hp : Within Aspect.calm p) :
    Leads (ReadyToAct id l) p (PromptInvariant l) :=
  (calm_ready hp).weaken (fun _ h => h) fun _ h => h.invariant

lemma free_of_not_taken {s : Session H} (hs : ReadyToAct id l s)
    (h : ¬ s.ui.IsTakenFrom s.holders id) : s.talker? = none ∧ s.ui.chooser = none := by
  have hid := hs.waitKind?
  constructor
  · cases ht : s.ui.talk with
    | none => simp [Session.talker?, ht]
    | some t =>
      have hw := (hs.invariant.talk t.holder).mp (by simp [Session.talker?, ht])
      refine absurd (.inl ⟨t, ht, ?_, Session.isActive_of_waitKind? hw⟩) h
      rintro he
      simp [he, hid] at hw
  · cases hc : s.ui.chooser with
    | none => rfl
    | some k =>
      have hw := (hs.invariant.choice k).mp hc
      refine absurd (.inr ⟨k, hc, ?_, Session.isActive_of_waitKind? hw⟩) h
      rintro he
      simp [he, hid] at hw

lemma suspend_agree {s : Session H} (hs : s.status? id = some .running) (x : Wait H.Predicate)
    (h : PromptsAgree l s (Function.update s.waitKind? id (some x.kind))) :
    ∃ t, suspend id x s = .ok () t ∧ PromptInvariant l t := by
  obtain ⟨i, hi, hr⟩ := Option.map_eq_some_iff.mp hs
  exact ⟨_, suspend_of_running hi hr x, setStatus_agree hs h⟩

lemma suspend_aside (x : Wait H.Predicate) (hx : x.kind.isAside = true) :
    Leads (ReadyToAct id l) (suspend id x) (PromptInvariant l) := by
  intro s hs
  obtain ⟨i, hi, hr⟩ := Option.map_eq_some_iff.mp hs.running
  rw [suspend_of_running hi hr]
  refine .ok (hs.free.setStatus hs.running ?_ (.inr hs.listed))
  simpa [Status.waitKind?, Status.wait?] using hx

lemma sleep_invariant (n : Int) : Leads (ReadyToAct id l) (sleep id n : Engine H Unit)
    (PromptInvariant l) := by
  unfold sleep
  split
  · exact suspend_aside _ rfl
  · exact calm_acts (.throw _)

lemma talk_invariant (hS : S.ShowsPrompts) (first last : Int) :
    Leads (ReadyToAct id l) (talk S id first last) (PromptInvariant l) := by
  intro s hs
  unfold talk
  rw [bind_of_ok (get_apply s)]
  rcases Stage.checkPromptFree_cases s.holders id s.screen with ⟨hok, hfree⟩ | ⟨f, herr, -⟩
  · obtain ⟨ht, hc⟩ := free_of_not_taken hs hfree
    obtain ⟨line, u, scene, hadv, hcases⟩ := Stage.advanceTalk_of_talk hS.talkLine
      (x := { s.screen with ui := { s.screen.ui with
        talk := some { holder := id, first, last, current := first } } }) rfl
    have hbegin : Stage.beginTalk S s.holders id first last s.screen =
        .ok line { scene := scene, ui := { s.screen.ui with talk := u } } := by
      unfold Stage.beginTalk
      rw [bind_of_ok hok]
      exact hadv
    rw [bind_of_ok (stage_of_ok hbegin)]
    rcases hcases with ⟨rfl, rfl⟩ | ⟨line, t', rfl, rfl, hh⟩
    · refine (Modular.preserves (PromptInvariant l)).checkDigits [first, last] _ ?_
      exact hs.invariant.same ⟨ht.symm, rfl, rfl, rfl, rfl⟩
    · let s' : Session H :=
        { s with screen := { scene := scene, ui := { s.screen.ui with talk := some t' } } }
      obtain ⟨_, scene', hshow⟩ := play_of_returns
        (hS.perform (.showDialog line.text line.portrait) rfl) s'
      have hagree : PromptsAgree l (s'.withScene scene')
          (Function.update s.waitKind? id (some .dialogue)) :=
        (hs.invariant.take_talk ht hc hs.listed hh rfl).same ⟨rfl, rfl, rfl, rfl, rfl⟩
      obtain ⟨t, hsuspend, hinv⟩ := suspend_agree (s := s'.withScene scene') hs.running .dialogue
        hagree
      dsimp only
      unfold perform
      rw [bind_of_ok hshow, hsuspend]
      exact .ok hinv
  · have hbegin : Stage.beginTalk S s.holders id first last s.screen = .error f s.screen := by
      unfold Stage.beginTalk
      rw [bind_of_error herr]
    rw [bind_of_error (stage_of_error hbegin)]
    exact .error hs.invariant

lemma choose_invariant (hS : S.ShowsPrompts) (a b question : String) (out : Option String) :
    Leads (ReadyToAct id l) (choose S id a b question out) (PromptInvariant l) := by
  intro s hs
  unfold choose
  rw [bind_of_ok (get_apply s)]
  rcases Stage.beginSelection_cases s.holders id s.screen with ⟨hbegin, hfree⟩ | ⟨f, hbegin, -⟩
  · obtain ⟨ht, hc⟩ := free_of_not_taken hs hfree
    let s' : Session H :=
      { s with screen := { s.screen with ui := { s.screen.ui with chooser := some id } } }
    obtain ⟨_, scene, hshow⟩ := play_of_returns (hS.perform (.selection a b question) rfl) s'
    have hagree : PromptsAgree l (s'.withScene scene)
        (Function.update s.waitKind? id (some .selection)) :=
      (hs.invariant.take_choice ht hc hs.listed rfl).same ⟨rfl, rfl, rfl, rfl, rfl⟩
    obtain ⟨t, hsuspend, hinv⟩ := suspend_agree (s := s'.withScene scene) hs.running
      (.selection out) hagree
    unfold perform
    rw [bind_of_ok (stage_of_ok hbegin), bind_of_ok hshow, hsuspend]
    exact .ok hinv
  · rw [bind_of_error (stage_of_error hbegin)]
    exact .error hs.invariant

lemma carryOut_invariant (hS : S.ShowsPrompts) (i : Instruction) :
    Leads (ReadyToAct id l) (carryOut S id i) (PromptInvariant l) := by
  have hb : Aspect.beside ⊆ Aspect.calm := by rintro a (rfl | rfl) <;> rfl
  cases i with
  | assign x n => exact calm_acts (assign_within (by simp) x n)
  | add x n => exact calm_acts (add_within (by simp) x n)
  | talk first last => exact talk_invariant hS first last
  | choose a b question out => exact choose_invariant hS a b question out
  | sleep n => exact sleep_invariant n
  | fadeOut | fadeIn =>
    exact .after (calm_ready (updateFade_within (by simp) _)) (fun _ h => h.invariant)
      fun _ => suspend_aside _ (by rfl)
  | playMovie file color =>
    exact calm_acts ((playMovie_within (by simp) (by simp) S file color).bind fun _ => .pure _)
  | stopMovie => exact calm_acts (stopMovie_within (by simp) (by simp) S)
  | waitMovieEnd =>
    exact .after (calm_ready (movieEnded_within (by simp) S)) (fun _ h => h.invariant) fun _ =>
      .ite (fun _ => suspend_aside _ (by rfl)) fun _ => calm_acts (.pure _)
  | runScript file =>
    refine calm_acts (runScript_within hb ?_ S id file)
    rintro a (rfl | rfl | rfl) <;> rfl
  | _ => exact calm_acts (carryOut_beside hb S id rfl)

lemma executeBuiltin_invariant (hS : S.ShowsPrompts) (v : Verb) (c : Command) :
    Leads (ReadyToAct id l) (executeBuiltin S id v c) (PromptInvariant l) := by
  refine .after .get (fun _ h => h.invariant) fun s => .guard (fun _ h => h.invariant) ?_
  split
  · exact calm_acts (.throw _)
  · exact .ite (fun _ => calm_acts (steer_within (by simp) _ _)) fun _ => carryOut_invariant hS _

lemma execute_invariant (w : Wiring H) (hS : w.services.ShowsPrompts) (c : Command) :
    Leads (ReadyToAct id l) (execute w id c) (PromptInvariant l) := by
  unfold execute
  split
  · exact calm_acts ((theInstance_within id).bind fun _ => .throw _)
  · refine .after (calm_ready (count_within (by simp) _)) (fun _ h => h.invariant) fun _ => ?_
    split
    · exact executeBuiltin_invariant hS _ c
    · refine Triple.get_bind fun s hs => ?_
      rw [hs.invariant.noCommands]
      rintro _ rfl
      exact .error hs.invariant
    · exact calm_acts (.throw _)

end Engine

end EventScript
