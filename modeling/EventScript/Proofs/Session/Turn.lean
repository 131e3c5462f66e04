import EventScript.Proofs.Prompt.Invariant
import EventScript.Proofs.Session.Apply

/-! What a turn of an instance keeps. All that a session without host commands does in a step is
made of a few deeds, and a property that survives each of them survives the step. -/

namespace EventScript

def Counters.lives (c : Counters) : Nat × Nat × Nat × Nat :=
  (c.started, c.completed, c.canceled, c.orphaned)

@[simp] def Aspect.free (id : InstanceId) : Set Aspect := {.fade, .store, .cache, .cursor id}

@[simp] def Aspect.deed (id : InstanceId) : Set Aspect :=
  free id ∪ starting ∪ ending id ∪ {.movie}

@[simp] def Aspect.prompt : Set Aspect := {.talk, .chooser}

variable {H : Host}

structure Session.IsHostless (s : Session H) : Prop where
  noCommands : s.hostCommands = []
  noWaits : s.hostWaits = []
  own : ∀ id p, s.status? id ≠ some (.suspended (.host p))

lemma Session.IsHostless.same {s t : Session H} (hs : s.IsHostless)
    (hcommands : t.hostCommands = s.hostCommands) (hwaits : t.hostWaits = s.hostWaits)
    (hroster : t.roster = s.roster) : t.IsHostless := by
  refine ⟨hcommands.trans hs.noCommands, hwaits.trans hs.noWaits, fun id p => ?_⟩
  have hsame : t.status? id = s.status? id := by
    simp only [Session.status?, Session.instance?, hroster]
  rw [hsame]
  exact hs.own id p

lemma Engine.poll_of_hostless {w : Wiring H} {id : InstanceId} {elapsed : Option Float}
    {x : Wait H.Predicate} {s : Session H} (hs : s.IsHostless) :
    poll w id elapsed x s = pollWait w id elapsed x s := by
  unfold poll
  rw [bind_of_ok (get_apply s), hs.noWaits]
  rfl

lemma Engine.step_keeps {w : Wiring H} {id : InstanceId} {I : Session H → Prop}
    {elapsed : Option Float}
    (hpoll : ∀ x, Leads (fun s => I s ∧ s.status? id = some (.suspended x)) (poll w id elapsed x) I)
    (hreport : ∀ f, Preserves I (reportWait w.services id f : Engine H Unit))
    (hrelease : Preserves I (stage (Stage.release w.services id) : Engine H Unit))
    (hresume : Preserves I (resume id : Engine H Unit))
    (hfinish : Preserves I (finish id : Engine H StepResult))
    (hcomplete : Preserves I (complete id : Engine H Unit)) {s : Session H} (hs : I s)
    (hrun : ∀ i c, s.instance? id = some i → i.status = .running → i.command? = some c →
      Preserves I (runCommandAt w id c)) : I (endState (step w id elapsed) s) := by
  have hthe : Preserves I (theInstance id : Engine H (Instance H.Predicate)) :=
    (Modular.preserves I).theInstance id
  suffices h : Leads (· = s) (step w id elapsed) I from h.endState rfl
  refine theInstance_bind (fun i => ?_) fun _ h _ => h ▸ hs
  have hready (x : Wait H.Predicate) (hx : i.status = .suspended x) :
      Leads (fun t => t = s ∧ t.instance? id = some i) (checkWait w id elapsed x) I := by
    refine Leads.bind ((attempt_leads (hpoll x)).weaken ?_ fun _ h => h) fun r => ?_
    · rintro t ⟨rfl, hi⟩
      exact ⟨hs, by simp [Session.status?, hi, hx]⟩
    · split
      · exact .pure _
      · exact (hreport _).bind fun _ => hthe.bind fun _ =>
          .ite (.pure _) (hrelease.bind fun _ => .pure _)
  have hhere {t : Session H} (ht : t = s ∧ t.instance? id = some i) : I t := ht.1 ▸ hs
  split
  · exact Leads.pure fun _ => hhere
  · exact Leads.pure fun _ => hhere
  · next x hx =>
    refine (hready x hx).bind fun ready => Leads.ite (fun _ => ?_) fun _ => ?_
    · exact hresume.bind fun _ => hfinish
    · exact hthe.bind fun _ => .pure _
  · next hr =>
    split
    · exact (hcomplete.bind fun _ => .pure _).weaken (fun _ => hhere) fun _ h => h
    · next c hc =>
      rintro t ⟨rfl, hi⟩
      exact hrun i c hi hr hc t hs

lemma Engine.preserves_acting {I : Session H → Prop} (hI : Ignores I .scene)
    (S : Services H.Game) : Acting S fun p : Engine H _ => Preserves I p := by
  have hscene {α : Type} {p : Engine H α} (hp : Within {.scene} p) : Preserves I p :=
    hp.preserves (by rintro _ rfl; exact hI)
  have hplay {α : Type} (p : Play H.Game α) : Preserves I (play p : Engine H α) :=
    hscene (play_within (Set.mem_singleton _) p)
  exact {
    toModular := .preserves I
    attempt := attempt_leads
    log := fun level text => hplay (.log level text)
    answers := fun _ => hplay _
    offers := fun _ => hplay _
    update := fun _ _ _ => hplay _ }

/-- The property survives what an instance does without the prompt. -/
structure Wiring.DeedKeeps (w : Wiring H) (id : InstanceId) (I : Session H → Prop) : Prop where
  asks : ∀ {α : Type} {p : Play H.Game α}, w.services.Asks p → Preserves I (Engine.play p)
  free : ∀ a ∈ Aspect.free id, Ignores I a
  stopMovie : Preserves I (Engine.stage (Stage.stopMovie w.services) : Engine H Unit)
  playMovie : ∀ file color,
    Preserves I (Engine.stage (Stage.playMovie w.services file color) : Engine H Bool)
  movieEnded : Preserves I (Engine.stage (Stage.movieEnded w.services) : Engine H Bool)
  count : ∀ f : Counters → Counters, (∀ c, (f c).lives = c.lives) →
    Preserves I (Engine.count f : Engine H Unit)
  suspend : ∀ x : Wait H.Predicate, x.kind ≠ .host → Preserves I (Engine.suspend id x)
  resume : Preserves I (Engine.resume id : Engine H Unit)
  doze : ∀ (x y : Float) (s : Session H), s.status? id = some (.suspended (.sleep x)) → I s →
    I (s.modifyInstance id ({ · with status := .suspended (.sleep y) }))
  complete : Preserves I (Engine.complete id : Engine H Unit)
  cancel : Preserves I (Engine.cancel id : Engine H Unit)
  spawn : ∀ script owner, Preserves I (Engine.start script owner true none : Engine H InstanceId)

/-- The property survives what an instance does as long as it does not ask for the prompt. -/
structure Wiring.WaitKeeps (w : Wiring H) (id : InstanceId) (I : Session H → Prop) : Prop extends
    w.DeedKeeps id I where
  release : Preserves I (Engine.stage (Stage.release w.services id) : Engine H Unit)
  waitDialogue : Preserves I (Engine.waitDialogue w.services id : Engine H Bool)
  waitSelection : ∀ out, Preserves I (Engine.waitSelection w.services id out : Engine H Bool)

/-- The property survives the turns of an instance if it survives each of these. -/
structure Wiring.TurnKeeps (w : Wiring H) (id : InstanceId) (I : Session H → Prop) : Prop extends
    w.WaitKeeps id I where
  talk : ∀ first last, Preserves I (Engine.talk w.services id first last : Engine H Unit)
  choose : ∀ a b question out,
    Preserves I (Engine.choose w.services id a b question out : Engine H Unit)

namespace Wiring.DeedKeeps

open Engine

variable {w : Wiring H} {id : InstanceId} {I J : Session H → Prop}

lemma and (hI : w.DeedKeeps id I) (hJ : w.DeedKeeps id J) :
    w.DeedKeeps id fun s => I s ∧ J s where
  asks hp := (hI.asks hp).and (hJ.asks hp)
  free a ha s t hc hs := ⟨hI.free a ha s t hc hs.1, hJ.free a ha s t hc hs.2⟩
  stopMovie := hI.stopMovie.and hJ.stopMovie
  playMovie file color := (hI.playMovie file color).and (hJ.playMovie file color)
  movieEnded := hI.movieEnded.and hJ.movieEnded
  count f hf := (hI.count f hf).and (hJ.count f hf)
  suspend x hx := (hI.suspend x hx).and (hJ.suspend x hx)
  resume := hI.resume.and hJ.resume
  doze x y s hx hs := ⟨hI.doze x y s hx hs.1, hJ.doze x y s hx hs.2⟩
  complete := hI.complete.and hJ.complete
  cancel := hI.cancel.and hJ.cancel
  spawn script owner := (hI.spawn script owner).and (hJ.spawn script owner)

lemma of_ignores (hI : ∀ a ∈ Aspect.deed id, Ignores I a) : w.DeedKeeps id I where
  asks _ := (play_within (by simp) _).preserves hI
  free a ha := hI a (by simp_all)
  stopMovie := (stopMovie_within (by simp) (by simp) _).preserves hI
  playMovie file color := (playMovie_within (by simp) (by simp) _ file color).preserves hI
  movieEnded := (movieEnded_within (by simp) _).preserves hI
  count f _ := (count_within (by simp) f).preserves hI
  suspend x _ := (suspend_within (by simp) x).preserves hI
  resume := (resume_within (by simp)).preserves hI
  doze x y s _ hs := hI (.status id) (by simp) _ _ (Change.status s id _) hs
  complete := (complete_within fun _ ha => .inl (.inr ha)).preserves hI
  cancel := (cancel_within fun _ ha => .inl (.inr ha)).preserves hI
  spawn script owner :=
    (start_within (fun _ ha => .inl (.inl (.inr ha))) script owner true none).preserves hI

variable (hw : w.DeedKeeps id I)

include hw

lemma within {α : Type} {p : Engine H α} (hp : Within (Aspect.free id) p) : Preserves I p :=
  hp.preserves hw.free

lemma offers {α : Type} {p : Play H.Game α} (hp : w.services.Offers p) :
    Preserves I (Engine.play p) :=
  hw.asks (.offered hp)

lemma theInstance (k : InstanceId) :
    Preserves I (Engine.theInstance k : Engine H (Instance H.Predicate)) :=
  hw.within (theInstance_within k)

lemma perform (c : Call) : Preserves I (Engine.perform w.services c : Engine H Unit) :=
  hw.offers (.perform c)

lemma log (level : LogLevel) (text : String) : Preserves I (Engine.log level text : Engine H Unit) :=
  hw.asks (.log level text)

lemma logFor (k : InstanceId) (level : LogLevel) (text : String) :
    Preserves I (Engine.logFor k level text : Engine H Unit) :=
  Preserves.get.bind fun _ => hw.asks (.log level _)

lemma acting : Acting w.services fun p : Engine H _ => Preserves I p where
  toModular := .preserves I
  attempt := attempt_leads
  log := hw.log
  answers hp := hw.offers hp.offers
  offers := hw.offers
  update e _ hf := hw.asks (.updateEntity e hf)

lemma directing : Directing w.services fun p : Engine H _ => Preserves I p where
  toActing := hw.acting
  keep _ _ := hw.within (.modify fun s => (Change.cache s _).changes (by simp))

section Prompt

variable (hprompt : ∀ a ∈ Aspect.prompt, Ignores I a)

include hprompt

lemma anywhere {α : Type} {p : Engine H α} (hp : Within (Aspect.free id ∪ Aspect.prompt) p) :
    Preserves I p :=
  hp.preserves fun a ha => ha.elim (hw.free a) (hprompt a)

lemma setTalk (t : Option (Talk InstanceId)) :
    Preserves I (stage (Stage.setTalk t) : Engine H Unit) :=
  hw.anywhere hprompt (setTalk_within (by simp) t)

lemma setChooser (h : Option InstanceId) :
    Preserves I (stage (Stage.setChooser h) : Engine H Unit) :=
  hw.anywhere hprompt (setChooser_within (by simp) h)

lemma turnKeeps : w.TurnKeeps id I where
  toDeedKeeps := hw
  talk first last := hw.acting.talk
    (fun _ => hw.acting.beginTalk (hw.setTalk hprompt) _ id first last)
    (hw.suspend _ (by simp [Wait.kind]))
  choose a b question _ := hw.acting.choose
    (fun _ => (Modular.preserves I).stage.beginSelection (hw.setChooser hprompt) _ id)
    (hw.suspend _ (by simp [Wait.kind])) a b question
  release := (Modular.preserves I).stage.release (hw.setTalk hprompt none)
    (hw.setChooser hprompt none) hw.perform id
  waitDialogue := hw.acting.waitDialogue (hw.acting.advanceTalk (hw.setTalk hprompt)) id
  waitSelection out := hw.acting.waitSelection (hw.setChooser hprompt none)
    (fun _ => hw.within (keepChoice_within (by simp) out _)) id

end Prompt

end Wiring.DeedKeeps

namespace Wiring.WaitKeeps

open Engine

variable {w : Wiring H} {id : InstanceId} {I J : Session H → Prop}

lemma and (hI : w.WaitKeeps id I) (hJ : w.WaitKeeps id J) :
    w.WaitKeeps id fun s => I s ∧ J s where
  toDeedKeeps := hI.toDeedKeeps.and hJ.toDeedKeeps
  release := hI.release.and hJ.release
  waitDialogue := hI.waitDialogue.and hJ.waitDialogue
  waitSelection out := (hI.waitSelection out).and (hJ.waitSelection out)

variable (hw : w.WaitKeeps id I)

include hw

lemma abort : Preserves I (Engine.abort w.services id : Engine H Unit) :=
  (Modular.preserves I).abort hw.release hw.cancel

lemma finish : Preserves I (Engine.finish id : Engine H StepResult) :=
  (Modular.preserves I).finish hw.complete

lemma settle : Preserves I (Engine.settle id : Engine H StepResult) :=
  (Modular.preserves I).settle hw.complete (hw.count _ fun _ => rfl)

lemma countScriptFault (kind : ScriptFault) :
    Preserves I (Engine.count (·.countScriptFault kind) : Engine H Unit) :=
  hw.count _ fun _ => by cases kind <;> rfl

lemma reportWait (f : Fault) : Preserves I (Engine.reportWait w.services id f : Engine H Unit) :=
  (Modular.preserves I).reportWait (hw.count _ fun _ => rfl) hw.countScriptFault
    (hw.count _ fun _ => rfl) (hw.logFor id) hw.abort f

variable (hI : ∀ s, I s → s.IsHostless)

include hI

section Command

variable {c : Command} (hc : ∀ v x, c.error = none → c.kind = .builtin v →
  Instruction.ofArgs? v c.args = some x →
  Preserves I (Engine.carryOut w.services id x : Engine H Unit))

include hc

lemma execute : Preserves I (Engine.execute w id c) := by
  unfold Engine.execute
  split
  · exact (hw.theInstance id).bind fun _ => .throw _
  · next herror =>
    refine (hw.count Counters.countExecuted fun _ => rfl).bind fun _ => ?_
    split
    · next v hkind =>
      refine Preserves.get.bind fun s => Leads.guard (fun _ h => h) ?_
      split
      · exact Preserves.throw _
      · next x hx =>
        exact Preserves.ite (hw.within (steer_within (by simp) _ _)) (hc v x herror hkind hx)
    · refine Triple.get_bind fun s hs => ?_
      rw [(hI s hs).noCommands]
      rintro _ rfl
      exact .error hs
    · exact .throw _

lemma runCommandAt : Preserves I (Engine.runCommandAt w id c) :=
  (Modular.preserves I).runCommandAt (hw.count _ fun _ => rfl) hw.countScriptFault
    (hw.count _ fun _ => rfl) (hw.logFor id) (fun _ => hw.within (setCursor_within (by simp) _))
    (attempt_leads (hw.execute hI hc)) hw.settle hw.abort

end Command

lemma poll (elapsed : Option Float) (x : Wait H.Predicate) :
    Leads (fun s => I s ∧ s.status? id = some (.suspended x)) (Engine.poll w id elapsed x) I := by
  rintro s ⟨hs, hx⟩
  rw [poll_of_hostless (hI s hs)]
  cases x with
  | dialogue => exact hw.waitDialogue s hs
  | sleep remaining =>
    cases elapsed with
    | none => exact .error hs
    | some y => exact .ok (hw.doze remaining (remaining - y) s hx hs)
  | fadeOut | fadeIn => exact .ok hs
  | selection out => exact hw.waitSelection out s hs
  | movie => exact hw.movieEnded s hs
  | host p => exact absurd hx ((hI s hs).own id p)

lemma step_of (elapsed : Option Float) {s : Session H} (hs : I s)
    (hrun : ∀ i c, s.instance? id = some i → i.status = .running → i.command? = some c →
      Preserves I (Engine.runCommandAt w id c)) : I (endState (Engine.step w id elapsed) s) :=
  Engine.step_keeps (hw.poll hI elapsed) hw.reportWait hw.release hw.resume hw.finish hw.complete
    hs hrun

end Wiring.WaitKeeps

namespace Wiring.TurnKeeps

open Engine

variable {w : Wiring H} {id : InstanceId} {I J : Session H → Prop}

lemma and (hI : w.TurnKeeps id I) (hJ : w.TurnKeeps id J) :
    w.TurnKeeps id fun s => I s ∧ J s where
  toWaitKeeps := hI.toWaitKeeps.and hJ.toWaitKeeps
  talk first last := (hI.talk first last).and (hJ.talk first last)
  choose a b question out := (hI.choose a b question out).and (hJ.choose a b question out)

variable (hw : w.TurnKeeps id I)

include hw

lemma carryOut (i : Instruction) :
    Preserves I (Engine.carryOut w.services id i : Engine H Unit) := by
  cases i with
  | assign x n => exact hw.within (assign_within (by simp) x n)
  | add x n => exact hw.within (add_within (by simp) x n)
  | talk first last => exact hw.talk first last
  | choose a b question out => exact hw.choose a b question out
  | sleep n =>
    exact (Modular.preserves I).sleep (fun _ => hw.suspend _ (by simp [Wait.kind])) n
  | fadeOut | fadeIn =>
    exact (hw.within (updateFade_within (by simp) _)).bind fun _ =>
      hw.suspend _ (by simp [Wait.kind])
  | playMovie file color => exact (hw.playMovie file color).bind fun _ => .pure _
  | stopMovie => exact hw.stopMovie
  | waitMovieEnd =>
    exact hw.movieEnded.bind fun _ => .ite (hw.suspend _ (by simp [Wait.kind])) (.pure _)
  | runScript file => exact hw.directing.runScript hw.spawn id file
  | _ => exact hw.directing.carryOut id rfl

lemma step (hI : ∀ s, I s → s.IsHostless) (elapsed : Option Float) :
    Preserves I (Engine.step w id elapsed) :=
  Leads.of_endState fun _ hs => hw.step_of hI elapsed hs fun _ _ _ _ _ =>
    hw.runCommandAt hI fun _ x _ _ _ => hw.carryOut x

end Wiring.TurnKeeps

end EventScript
