import EventScript.Proofs.Prompt.Poll
import EventScript.Proofs.Prompt.Wait

/-! Holding the prompt and waiting on it. Whatever the game does, an instance loses what it holds
when its wait is over or breaks and when it is aborted, and nobody is handed anything that was not
asked for. -/

namespace EventScript

/-- What the prompt is asked for. -/
inductive PromptPart where
  | dialogue
  | selection

namespace PromptPart

/-- What one is to wait for who has it. -/
def kind : PromptPart → WaitKind
  | dialogue => .dialogue
  | selection => .selection

def aspect : PromptPart → Aspect
  | dialogue => .talk
  | selection => .chooser

end PromptPart

def Instruction.part? : Instruction → Option PromptPart
  | talk .. => some .dialogue
  | choose .. => some .selection
  | _ => none

variable {H : Host} {w : Wiring H} {S : Services H.Game} {A : Set Aspect} {s t : Session H}
  {p : PromptPart} {k id : InstanceId} {α : Type}

namespace Session

def holder? (s : Session H) : PromptPart → Option InstanceId
  | .dialogue => s.talker?
  | .selection => s.ui.chooser

def Lacks (p : PromptPart) (k : InstanceId) (s : Session H) : Prop := s.holder? p ≠ some k

def HoldsDuly (p : PromptPart) (k : InstanceId) (s : Session H) : Prop :=
  s.holder? p = some k → s.waitKind? k = some p.kind

lemma holdsDuly_iff : s.HoldsDuly p k ↔ s.Lacks p k ∨ s.waitKind? k = some p.kind :=
  imp_iff_not_or

lemma Lacks.holdsDuly (hs : s.Lacks p k) : s.HoldsDuly p k := fun h => absurd h hs

lemma holdsDuly_of_wait {x : Wait H.Predicate} (hx : s.status? k = some (.suspended x))
    (hkind : x.kind = p.kind) : s.HoldsDuly p k := by
  intro _
  simp [waitKind?, hx, Status.waitKind?, Status.wait?, hkind]

end Session

/-! ### What has nothing to do with it -/

lemma Change.holder? {a : Aspect} (h : Change a s t) (ha : a ≠ p.aspect) :
    t.holder? p = s.holder? p := by
  cases p <;> cases h <;> first | rfl | exact absurd rfl ha

lemma Change.waitKind?_of_ne {a : Aspect} (h : Change a s t) (ha : a ≠ .status k) :
    t.waitKind? k = s.waitKind? k := by
  unfold Session.waitKind?
  rcases h.status?_or ha with hk | ⟨hk, hr⟩
  · rw [hk]
  · rw [hk, hr]
    rfl

namespace Session

lemma Lacks.ignores {a : Aspect} (ha : a ≠ p.aspect) : Ignores (H := H) (Lacks p k) a := by
  intro s t hc hs
  rwa [Lacks, hc.holder? ha]

lemma Lacks.within {q : Engine H α} (hq : Within A q) (hA : p.aspect ∉ A) :
    Preserves (Lacks p k) q :=
  hq.preserves fun _ ha => ignores fun h => hA (h ▸ ha)

lemma waits_ignores {a : Aspect} {x : Option WaitKind} (ha : a ≠ .status k) :
    Ignores (fun s : Session H => s.waitKind? k = x) a := by
  intro s t hc hs
  rwa [hc.waitKind?_of_ne ha]

lemma HoldsDuly.ignores {a : Aspect} (ha : a ≠ p.aspect) (hstatus : a ≠ .status k) :
    Ignores (H := H) (HoldsDuly p k) a := by
  intro s t hc hs
  rwa [HoldsDuly, hc.holder? ha, hc.waitKind?_of_ne hstatus]

lemma HoldsDuly.within {q : Engine H α} (hq : Within A q)
    (hA : .talk ∉ A ∧ .chooser ∉ A ∧ .status k ∉ A) : Preserves (HoldsDuly p k) q := by
  refine hq.preserves fun a ha => ignores ?_ fun h => hA.2.2 (h ▸ ha)
  rintro rfl
  cases p
  · exact hA.1 ha
  · exact hA.2.1 ha

end Session

namespace Engine

open Session

/-! ### Who holds what -/

lemma setTalk_lacks {x : Option (Talk InstanceId)} (hx : x.map (·.holder) ≠ some k) :
    Preserves (Lacks p k) (stage (Stage.setTalk x) : Engine H Unit) := by
  refine Leads.of_endState fun s hs => ?_
  cases p with
  | dialogue => exact hx
  | selection => exact hs

lemma play_lacks (q : Play H.Game α) :
    Preserves (Lacks p k) (stage (Stage.play q) : Engine H α) :=
  Lacks.within (play_within (A := {.scene}) rfl q) (by cases p <;> simp [PromptPart.aspect])

lemma setChooser_lacks {x : Option InstanceId} (hx : x ≠ some k) :
    Preserves (Lacks p k) (stage (Stage.setChooser x) : Engine H Unit) := by
  refine Leads.of_endState fun s hs => ?_
  cases p with
  | dialogue => exact hs
  | selection => exact hx

lemma seekLine_talker (o : Option InstanceId) (n : Nat) :
    Preserves (fun s => s.talker? = o)
      (stage (Stage.seekLine S n) : Engine H (Option TalkLine)) := by
  have hplay {α : Type} (q : Play H.Game α) :
      Preserves (fun s : Session H => s.talker? = o) (stage (Stage.play q) : Engine H α) := by
    refine (stage_play_within (A := {.scene}) rfl q).preserves ?_
    rintro _ rfl s t hc hs
    cases hc
    exact hs
  induction n with
  | zero => exact fun _ hs => .ok hs
  | succ n ih =>
    refine stage_get_bind fun s hs => ?_
    split
    · rintro _ rfl
      exact .ok hs
    · next x hx =>
      have ho : o = some x.holder := by simp [← hs, Session.talker?, Session.ui, hx]
      rw [stage_bind]
      refine Triple.weaken (P := fun s : Session H => s.talker? = o) ?_ (by rintro _ rfl; exact hs)
        (fun _ _ h => h) fun _ _ h => h
      refine Preserves.bind (hplay _) fun line => ?_
      rw [stage_bind]
      refine Preserves.bind (Leads.of_endState fun t _ => ho.symm) fun _ => ?_
      split
      · exact fun _ hs => .ok hs
      · exact ih

lemma advanceTalk_talker (o : Option InstanceId) :
    Triple (fun s => s.talker? = o) (stage (Stage.advanceTalk S) : Engine H (Option TalkLine))
      (fun line s => s.talker? = if line.isSome then o else none) fun _ s => s.talker? = o := by
  refine stage_get_bind fun s hs => ?_
  split
  · next hx =>
    rintro _ rfl
    refine .ok ?_
    simp [Session.talker?, Session.ui, hx]
  · rw [stage_bind]
    refine Triple.weaken (P := fun s : Session H => s.talker? = o) ?_ (by rintro _ rfl; exact hs)
      (fun _ _ h => h) fun _ _ h => h
    refine Triple.bind (R := fun (_ : Option TalkLine) (s : Session H) => s.talker? = o)
      (seekLine_talker o _) fun line => ?_
    cases line with
    | none => exact fun _ _ => .ok rfl
    | some line => exact fun _ hs => .ok hs

lemma advanceTalk_lacks :
    Preserves (Lacks p k) (stage (Stage.advanceTalk S) : Engine H (Option TalkLine)) := by
  cases p with
  | dialogue =>
    intro s hs
    refine (advanceTalk_talker (S := S) s.talker? s rfl).weaken (fun line t ht => ?_) fun _ t ht => ?_
    · change t.talker? ≠ some k
      rw [ht]
      cases line with
      | none => simp
      | some line => exact hs
    · change t.talker? ≠ some k
      rwa [ht]
  | selection =>
    exact Lacks.within (advanceTalk_within (A := {.scene, .talk}) (by simp) (by simp) S)
      (by simp [PromptPart.aspect])

lemma release_lacks : Preserves (Lacks p k) (stage (Stage.release S id) : Engine H Unit) :=
  (Modular.preserves _).stage.release (setTalk_lacks (by simp)) (setChooser_lacks (by simp))
    (fun _ => play_lacks _) id

lemma release_self (hdialog : Returns (S.perform .closeDialog))
    (hselection : Returns (S.perform .closeSelection)) (s : Session H) :
    ∃ t, stage (Stage.release S k) s = .ok () t ∧ t.Lacks p k ∧ t.roster = s.roster := by
  obtain ⟨scene, h⟩ := Stage.release_clears hdialog hselection k s.screen
  refine ⟨_, stage_of_ok h, ?_, rfl⟩
  -- Either part is given back, whatever becomes of the other.
  cases p with
  | dialogue =>
    intro ht
    change (if s.ui.holdsTalk k then none else s.ui.talk).map (·.holder) = some k at ht
    split at ht
    · cases ht
    · next hnot => exact hnot (holdsTalk_iff.mpr ht)
  | selection =>
    intro hc
    change (if s.ui.holdsSelection k then none else s.ui.chooser) = some k at hc
    split at hc
    · cases hc
    · next hnot => exact hnot (holdsSelection_iff.mpr hc)

/-! ### Waits -/

lemma lacks_acting (S : Services H.Game) : Acting S fun q : Engine H _ => Preserves (Lacks p k) q :=
  preserves_acting (Lacks.ignores (by cases p <;> simp [PromptPart.aspect])) S

lemma waitDialogue_lacks : Preserves (Lacks p k) (waitDialogue S id : Engine H Bool) :=
  (lacks_acting S).waitDialogue advanceTalk_lacks id

lemma waitSelection_lacks (out : Option String) :
    Preserves (Lacks p k) (waitSelection S id out : Engine H Bool) :=
  (lacks_acting S).waitSelection (setChooser_lacks (by simp)) (fun choice => Lacks.within
    (keepChoice_within (A := {.store}) rfl out choice) (by cases p <;> simp [PromptPart.aspect])) id

lemma waitDialogue_lets_go :
    Triple (fun _ => True) (waitDialogue S k : Engine H Bool)
      (fun ready s => ready = true → s.Lacks .dialogue k) fun _ _ => True := by
  refine Triple.get_bind fun s _ => ?_
  refine Triple.ite (fun hnot => Triple.pure ?_) fun _ => ?_
  · rintro _ rfl - ht
    simp [holdsTalk_iff.mpr ht] at hnot
  refine Triple.bind (Triple.of_true _) fun gone => ?_
  refine Triple.ite (fun _ => Triple.pure (by simp)) fun _ => ?_
  refine Triple.bind (R := fun line s => line = none → s.Lacks .dialogue k) ?_ fun line => ?_
  · intro t _
    refine (advanceTalk_talker (S := S) t.talker? t rfl).weaken ?_ fun _ _ _ => trivial
    rintro _ u hu rfl
    change u.talker? ≠ some k
    simp [hu]
  · cases line with
    | none => exact Triple.pure fun _ h _ => h rfl
    | some line => exact Triple.bind (Triple.of_true _) fun _ => Triple.pure (by simp)

lemma waitSelection_lets_go (out : Option String) :
    Triple (fun _ => True) (waitSelection S k out : Engine H Bool)
      (fun ready s => ready = true → s.Lacks .selection k) fun _ _ => True := by
  have hend : Triple (fun _ => True) (stage (Stage.endSelection k) : Engine H Unit)
      (fun _ => Lacks .selection k) fun _ _ => True := by
    refine stage_get_bind fun s _ => ?_
    split
    · exact fun _ _ => .ok (by simp [Lacks, holder?, Session.ui])
    · next hnot =>
      rintro _ rfl
      exact .ok fun hc => hnot (holdsSelection_iff.mpr hc)
  refine Triple.get_bind fun s _ => ?_
  refine Triple.ite (fun hnot => Triple.pure ?_) fun _ => ?_
  · rintro _ rfl - hc
    rw [Bool.not_eq_true'] at hnot
    exact Bool.eq_false_iff.mp hnot (holdsSelection_iff.mpr hc)
  refine Triple.bind (Triple.of_true _) fun gone => ?_
  refine Triple.ite (fun _ => Triple.pure (by simp)) fun _ => ?_
  refine Triple.bind (Triple.of_true _) fun choice => Triple.bind (Triple.of_true _) fun _ => ?_
  exact Triple.bind hend fun _ => Triple.pure fun _ h _ => h

lemma pollWait_lets_go {x : Wait H.Predicate} (hkind : x.kind = p.kind) (elapsed : Option Float) :
    Triple (fun s => s.status? k = some (.suspended x)) (pollWait w k elapsed x)
      (fun ready s => s.status? k = some (.suspended x) ∧ (ready = true → s.Lacks p k))
      fun _ s => s.status? k = some (.suspended x) := by
  have hsame {q : Engine H Bool} (hq : Within {.scene, .talk, .chooser, .store} q) :
      Preserves (fun s => s.status? k = some (.suspended x)) q :=
    hq.preserves fun a ha => status?_ignores_of_ne (by rintro rfl; simp at ha)
  have hboth {q : Engine H Bool} (hq : Within {.scene, .talk, .chooser, .store} q)
      (hlets : Triple (fun _ => True) q (fun ready s => ready = true → s.Lacks p k)
        fun _ _ => True) :
      Triple (fun s => s.status? k = some (.suspended x)) q
        (fun ready s => s.status? k = some (.suspended x) ∧ (ready = true → s.Lacks p k))
        fun _ s => s.status? k = some (.suspended x) :=
    (hlets.and_preserves (hsame hq)).weaken (fun _ h => ⟨h, trivial⟩) (fun _ _ h => h)
      fun _ _ h => h.1
  cases p with
  | dialogue =>
    cases x with
    | dialogue =>
      exact hboth (waitDialogue_within (by simp) (by simp) _ k) waitDialogue_lets_go
    | _ => cases hkind
  | selection =>
    cases x with
    | selection out =>
      exact hboth (waitSelection_within (by simp) (by simp) (by simp) _ k out)
        (waitSelection_lets_go out)
    | _ => cases hkind

end Engine

/-! ### What is kept -/

namespace Session

lemma Lacks.waitKeeps (w : Wiring H) (id : InstanceId) : w.WaitKeeps id (Lacks p k) where
  toDeedKeeps := .of_ignores fun a ha => ignores (by
    rintro rfl
    cases p <;> simp [PromptPart.aspect] at ha)
  release := Engine.release_lacks
  waitDialogue := Engine.waitDialogue_lacks
  waitSelection := Engine.waitSelection_lacks

lemma waits_turnKeeps (w : Wiring H) (hid : id ≠ k) (x : Option WaitKind) :
    w.TurnKeeps id fun s : Session H => s.waitKind? k = x := by
  refine (Wiring.DeedKeeps.of_ignores fun a ha => waits_ignores ?_).turnKeeps fun a ha =>
    waits_ignores ?_ <;> rintro rfl <;> simp_all

end Session

namespace Engine

open Session

lemma carryOut_lacks {x : Instruction} (hx : id = k → x.part? ≠ some p) :
    Preserves (Lacks p k) (carryOut S id x : Engine H Unit) := by
  by_cases hpart : x.part? = some p
  · have hid : id ≠ k := fun h => hx h hpart
    have hsuspend (y : Wait H.Predicate) : Preserves (Lacks p k) (suspend id y) :=
      Lacks.within (suspend_within (A := {.status id}) rfl y)
        (by cases p <;> simp [PromptPart.aspect])
    have hcheck (holders : Holders InstanceId) : Preserves (Lacks p k)
        (stage (Stage.checkPromptFree holders id) : Engine H Unit) :=
      Lacks.within (checkPromptFree_within (A := ∅) _ id) (by simp)
    cases x with
    | talk first last =>
      refine (lacks_acting S).talk (fun holders => ?_) (hsuspend _)
      unfold Stage.beginTalk
      rw [stage_bind]
      refine (hcheck holders).bind fun _ => ?_
      rw [stage_bind]
      exact (setTalk_lacks (by simpa using hid)).bind fun _ => advanceTalk_lacks
    | choose a b question out =>
      refine (lacks_acting S).choose (fun holders => ?_) (hsuspend _) a b question
      unfold Stage.beginSelection
      rw [stage_bind]
      exact (hcheck holders).bind fun _ => setChooser_lacks (by simpa using hid)
    | _ => cases hpart
  · refine Lacks.within (carryOut_within_touches S id x) ?_
    cases p <;> cases x <;> simp_all [PromptPart.aspect, Instruction.part?, Instruction.touches]

lemma step_lacks (hless : s.IsHostless) (hs : s.Lacks p k) (elapsed : Option Float)
    (hx : id = k → ∀ x, Turn.instruction? ⟨s, id⟩ = some x → x.part? ≠ some p) :
    (endState (step w id elapsed) s).Lacks p k := by
  have hhostless := isHostless_dependsOnStatus.turnKeeps w id
  have hboth := hhostless.toWaitKeeps.and (Lacks.waitKeeps (p := p) (k := k) w id)
  refine (hboth.step_of (fun _ h => h.1) elapsed ⟨hless, hs⟩ fun i c hi hr hc => ?_).2
  refine hboth.runCommandAt (fun _ h => h.1) fun v x herror hkind hargs => ?_
  refine (hhostless.carryOut x).and (carryOut_lacks fun hid => hx hid x ?_)
  have hcommand : Turn.command? ⟨s, id⟩ = some (i.cursor, c) :=
    Turn.command?_eq_some.mpr ⟨i, hi, hr, rfl, hc⟩
  rw [Turn.instruction?_of_command hcommand]
  exact (Command.instruction?_of herror hkind).trans hargs

/-! ### Steps -/

lemma step_duly_of_ne (hid : id ≠ k) (hless : s.IsHostless) (hs : s.HoldsDuly p k)
    (elapsed : Option Float) : (endState (step w id elapsed) s).HoldsDuly p k := by
  -- Others neither hand the part over nor end the wait on it.
  rcases holdsDuly_iff.mp hs with hlacks | hwaits
  · exact (step_lacks hless hlacks elapsed fun h => absurd h hid).holdsDuly
  · have hkept := (isHostless_dependsOnStatus.turnKeeps w id).and (waits_turnKeeps w hid (some p.kind))
    exact holdsDuly_iff.mpr (.inr ((hkept.step (fun _ h => h.1) elapsed).endState ⟨hless, hwaits⟩).2)

/-! ### With a game that closes prompts -/

section Close

variable (hdialog : Returns (w.services.perform .closeDialog))
  (hselection : Returns (w.services.perform .closeSelection))

include hdialog hselection

lemma abort_self : Leads (fun s => s.isActive k = true) (abort w.services k : Engine H Unit)
    (Lacks p k) := by
  refine theInstance_bind (fun i => ?_) fun s hs hi => by simp [Session.isActive, hi] at hs
  refine Leads.ite (fun _ => ?_) fun hended => Leads.pure fun s hs => ?_
  · rintro s -
    obtain ⟨t, hrelease, hlacks, -⟩ := release_self (p := p) (k := k) hdialog hselection s
    rw [bind_of_ok hrelease]
    exact (Lacks.waitKeeps w k).cancel t hlacks
  · obtain ⟨hactive, hi⟩ := hs
    simp [Session.isActive, hi, hended] at hactive

lemma abort_duly (id : InstanceId) :
    Preserves (HoldsDuly p k) (abort w.services id : Engine H Unit) := by
  refine Leads.of_endState fun s hs => ?_
  by_cases hid : id = k
  · subst hid
    by_cases hactive : s.isActive id = true
    · exact ((abort_self hdialog hselection).endState hactive).holdsDuly
    · have hsame : Preserves (· = s) (abort w.services id : Engine H Unit) := by
        refine theInstance_bind (fun i => ?_) fun _ h _ => h
        refine Leads.ite (fun h => ?_) fun _ => Leads.pure fun _ h => h.1
        rintro _ ⟨rfl, hi⟩
        simp [Session.isActive, hi, h] at hactive
      rwa [hsame.endState rfl]
  · exact holdsDuly_iff.mpr ((holdsDuly_iff.mp hs).imp (Lacks.waitKeeps w id).abort.endState
      (waits_turnKeeps w hid (some p.kind)).abort.endState)

lemma checkWait_duly {x : Wait H.Predicate} (hkind : x.kind = p.kind) (elapsed : Option Float) :
    Triple (fun s => s.IsHostless ∧ s.status? k = some (.suspended x)) (checkWait w k elapsed x)
      (fun ready s => if ready then s.Lacks p k else s.HoldsDuly p k) fun _ => HoldsDuly p k := by
  have hpoll : Triple (fun s => s.IsHostless ∧ s.status? k = some (.suspended x))
      (poll w k elapsed x)
      (fun ready s => s.status? k = some (.suspended x) ∧ (ready = true → s.Lacks p k))
      fun _ s => s.status? k = some (.suspended x) := by
    rintro s ⟨hless, hx⟩
    rw [poll_of_hostless hless]
    exact pollWait_lets_go hkind elapsed s hx
  refine Triple.bind (attempt_triple hpoll) fun r => ?_
  cases r with
  | ok ready =>
    refine Triple.pure fun s hs => ?_
    cases ready with
    | true => exact hs.2 rfl
    | false => exact holdsDuly_of_wait hs.1 hkind
  | error f =>
    have hreport : Preserves (HoldsDuly p k) (reportWait w.services k f : Engine H Unit) := by
      refine reportWait_preserves f (fun a ha => HoldsDuly.ignores ?_ ?_)
        (abort_duly hdialog hselection k)
      · rintro rfl
        cases p <;> cases ha
      · rintro rfl
        cases ha
    refine Triple.bind (R := fun _ => HoldsDuly p k) (Triple.weaken hreport
      (fun _ hs => holdsDuly_of_wait hs hkind) (fun _ _ h => h) fun _ _ h => h) fun _ => ?_
    refine Triple.after (theInstance_here k) (fun _ _ h => h) fun i => ?_
    refine Triple.ite (fun _ => Triple.pure fun _ h => h) fun _ s _ => ?_
    obtain ⟨t, hrelease, hlacks, -⟩ := release_self (p := p) (k := k) hdialog hselection s
    rw [bind_of_ok hrelease]
    exact .ok hlacks

lemma step_duly_self (hless : s.IsHostless) (hs : s.HoldsDuly p k) (elapsed : Option Float)
    (hx : ∀ x, Turn.instruction? ⟨s, k⟩ = some x → x.part? ≠ some p) :
    (endState (step w k elapsed) s).HoldsDuly p k := by
  rcases holdsDuly_iff.mp hs with hlacks | hwaits
  · exact (step_lacks hless hlacks elapsed fun _ => hx).holdsDuly
  -- One that waits on the part carries out no command, but looks at its wait.
  obtain ⟨y, hy, hwaits⟩ := Option.bind_eq_some_iff.mp hwaits
  obtain ⟨x, hwait, hkind⟩ := Option.map_eq_some_iff.mp hwaits
  have hy' : y = .suspended x := by
    cases y <;> simp_all [Status.wait?]
  subst hy'
  obtain ⟨i, hi, hwait⟩ := Option.map_eq_some_iff.mp hy
  have hkeeps := Lacks.waitKeeps (p := p) (k := k) w k
  rw [endState_congr (step_of_suspended hi hwait)]
  refine Leads.endState (Triple.bind (checkWait_duly hdialog hselection hkind elapsed)
    fun ready => ?_) ⟨hless, hy⟩
  cases ready with
  | true =>
    exact (hkeeps.resume.bind fun _ => hkeeps.finish).weaken (fun _ h => h) fun _ h => h.holdsDuly
  | false => exact Preserves.bind (theInstance_here k) fun _ => .pure _

/-! ### Between the steps -/

lemma duly_openingKeeps : w.OpeningKeeps (HoldsDuly p k) where
  ordering a ha := by
    refine HoldsDuly.ignores ?_ ?_
    · rintro rfl
      cases p <;> simp [PromptPart.aspect] at ha
    · rintro rfl
      simp at ha
  fade := HoldsDuly.ignores (by cases p <;> simp [PromptPart.aspect]) (by simp)
  log level text := HoldsDuly.within (log_within (A := {.scene}) rfl level text) (by simp)
  orphan := HoldsDuly.within (count_within (A := {.counters}) rfl _) (by simp)
  begin id := HoldsDuly.within (begin_within (A := {.scene, .watchers, .marks id}) (by simp)
    (by simp) (by simp)) (by simp)
  abort := abort_duly hdialog hselection
  release id := by
    have hkept : Preserves (fun s : Session H => s.waitKind? k = some p.kind)
        (stage (Stage.release w.services id) : Engine H Unit) :=
      (release_within (A := {.scene, .talk, .chooser}) (by simp) (by simp) (by simp) _ id).preserves
        fun _ ha => waits_ignores (by rintro rfl; simp at ha)
    exact Leads.of_endState fun s hs => holdsDuly_iff.mpr
      ((holdsDuly_iff.mp hs).imp release_lacks.endState hkept.endState)
  updateMovie := HoldsDuly.within (updateMovie_within (A := {.scene, .movie}) (by simp) (by simp) _)
    (by simp)

omit hdialog hselection in
lemma reset_duly : Preserves (HoldsDuly p k) (stage (Stage.reset S) : Engine H Unit) := by
  have hclear : Preserves (Lacks p k) (stage (Stage.clear S) : Engine H Unit) :=
    Lacks.within (clear_within (A := {.scene, .fade, .movie, .asleep}) (by simp) (by simp) (by simp)
      (by simp) S) (by cases p <;> simp [PromptPart.aspect])
  have hlacks : Preserves (Lacks p k) (stage (Stage.reset S) : Engine H Unit) :=
    (Modular.preserves _).stage.reset (setTalk_lacks (by simp)) (setChooser_lacks (by simp))
      (fun _ => play_lacks _) hclear
  have hkept : Preserves (fun s : Session H => s.waitKind? k = some p.kind)
      (stage (Stage.reset S) : Engine H Unit) :=
    (reset_within (A := {.scene, .talk, .chooser, .fade, .movie, .asleep}) (by simp) (by simp)
      (by simp) (by simp) (by simp) (by simp) S).preserves
      fun _ ha => waits_ignores (by rintro rfl; simp at ha)
  exact Leads.of_endState fun s hs => holdsDuly_iff.mpr
    ((holdsDuly_iff.mp hs).imp hlacks.endState hkept.endState)

lemma newGame_duly : Preserves (HoldsDuly p k) (newGame w.services : Engine H Unit) := by
  have hopening := duly_openingKeeps (p := p) (k := k) hdialog hselection
  have heach (ids : List InstanceId) :
      Preserves (HoldsDuly p k) (dropEach w.services ids : Engine H Unit) :=
    (Modular.preserves _).dropEach hopening.drop ids
  have hstore : Preserves (HoldsDuly p k) (modify ({ · with store := [] }) : Engine H PUnit) :=
    HoldsDuly.within (A := {.store}) (.modify fun s => (Change.store s []).changes rfl) (by simp)
  refine (hopening.log _ _).bind fun _ => Preserves.bind (Preserves.get.bind fun _ => heach _)
    fun _ => ?_
  exact reset_duly.bind fun _ => hstore

lemma aside_duly (a : Aside H) : Preserves (HoldsDuly p k) (a.run w) := by
  have hopening := duly_openingKeeps (p := p) (k := k) hdialog hselection
  cases a with
  | request r hr =>
    refine Request.preserves hr (fun _ => newGame_duly hdialog hselection)
      (fun hq => HoldsDuly.within hq (by simp)) (fun script owner pausable watcher => ?_)
      hopening.drop
    exact HoldsDuly.within (start_within subset_rfl script owner pausable watcher) (by simp)
  | opening => exact hopening.opening
  | retire => exact hopening.retire
  | create script owner pausable watcher =>
    have hcreate := create_within (H := H) (A := {.roster}) rfl script owner pausable watcher
    exact HoldsDuly.within (hcreate.bind fun _ => .pure _) (by simp)
  | giveUp id label =>
    refine Preserves.bind (HoldsDuly.within (count_within (A := {.counters}) rfl _) (by simp))
      fun _ => ?_
    exact (hopening.log _ _).bind fun _ => hopening.abort id

end Close

end Engine

end EventScript
