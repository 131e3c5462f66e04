import EventScript.Proofs.Schedule.Abiding

/-! The prompt stays with one who waits for it. Nothing that others do takes it away, and nothing
that happens between steps, unless it cancels the one who waits. Only one that the schedule does not
run can lose the prompt uncanceled, when a new game begins. -/

namespace EventScript

variable {H : Host} {w : Wiring H} {A : Set Aspect} {s t : Session H} {k : InstanceId}

/-- What an instance has of the prompt: the dialogue, as far as it has come, or the selection. -/
inductive Hold where
  | talk (x : Talk InstanceId)
  | choice (h : InstanceId)

namespace Hold

def holder : Hold → InstanceId
  | talk x => x.holder
  | choice h => h

def IsOn (g : Hold) (u : Ui InstanceId) : Prop :=
  match g with
  | talk x => u.talk = some x
  | choice h => u.chooser = some h

end Hold

structure Session.Holds (g : Hold) (x : Wait H.Predicate) (s : Session H) : Prop where
  suspended : s.status? g.holder = some (.suspended x)
  held : g.IsOn s.ui

variable {g : Hold} {x : Wait H.Predicate}

namespace Session.Holds

lemma isActive (hs : s.Holds g x) : s.isActive g.holder = true := by
  rw [s.isActive_eq, hs.suspended]
  rfl

lemma isTaken (hs : s.Holds g x) (hk : k ≠ g.holder) : s.ui.IsTakenFrom s.holders k := by
  cases g with
  | talk x => exact .inl ⟨x, hs.held, hk.symm, hs.isActive⟩
  | choice h => exact .inr ⟨h, hs.held, hk.symm, hs.isActive⟩

lemma holdsTalk_eq_false {y : Talk InstanceId} (hs : s.Holds (.talk y) x) (hk : k ≠ y.holder) :
    s.ui.holdsTalk k = false := by
  have hheld : s.ui.talk = some y := hs.held
  simpa [Ui.holdsTalk, hheld] using hk.symm

lemma holdsSelection_eq_false {h : InstanceId} (hs : s.Holds (.choice h) x) (hk : k ≠ h) :
    s.ui.holdsSelection k = false := by
  have hheld : s.ui.chooser = some h := hs.held
  simpa [Ui.holdsSelection, hheld] using hk.symm

lemma ignores {a : Aspect} (htalk : a ≠ .talk) (hchooser : a ≠ .chooser)
    (hstatus : a ≠ .status g.holder) : Ignores (Session.Holds g x) a := by
  rintro s t hc ⟨hs, hheld⟩
  refine ⟨status?_ignores_of_ne hstatus s t hc hs, ?_⟩
  cases hc with
  | talk | chooser => contradiction
  | _ => cases g <;> exact hheld

lemma ignores_chooser {y : Talk InstanceId} :
    Ignores (Session.Holds (H := H) (.talk y) x) .chooser := by
  rintro s t hc hs
  cases hc
  exact ⟨hs.suspended, hs.held⟩

lemma ignores_talk {h : InstanceId} : Ignores (Session.Holds (H := H) (.choice h) x) .talk := by
  rintro s t hc hs
  cases hc
  exact ⟨hs.suspended, hs.held⟩

lemma within {α : Type} {p : Engine H α} (hp : Within A p)
    (hA : .talk ∉ A ∧ .chooser ∉ A ∧ .status g.holder ∉ A) : Preserves (Session.Holds g x) p :=
  hp.preserves fun _ ha => ignores (fun h => hA.1 (h ▸ ha)) (fun h => hA.2.1 (h ▸ ha))
    fun h => hA.2.2 (h ▸ ha)

end Session.Holds

namespace Engine

lemma stage_get_bind {α : Type} {P : Session H → Prop} {Q : α → Session H → Prop}
    {E : Fault → Session H → Prop} {f : Screen H.Game InstanceId → Stage H.Game InstanceId α}
    (h : ∀ s, P s → Triple (· = s) (stage (f s.screen)) Q E) :
    Triple P (stage (get >>= f) : Engine H α) Q E :=
  fun s hs => h s hs s rfl

section Others

variable {S : Services H.Game} (hk : k ≠ g.holder)

include hk

lemma checkPromptFree_holds (hs : s.Holds g x) :
    ∃ f, Stage.checkPromptFree s.holders k s.screen = .error f s.screen := by
  rcases Stage.checkPromptFree_cases s.holders k s.screen with ⟨-, hfree⟩ | ⟨f, h, -⟩
  · exact absurd (hs.isTaken hk) hfree
  · exact ⟨f, h⟩

lemma talk_holds (first last : Int) : Preserves (Session.Holds g x) (talk S k first last) := by
  intro s hs
  obtain ⟨f, herror⟩ := checkPromptFree_holds hk hs
  have hbegin : Stage.beginTalk S s.holders k first last s.screen = .error f s.screen :=
    bind_of_error herror
  unfold talk
  rw [bind_of_ok (get_apply s), bind_of_error (stage_of_error hbegin)]
  exact .error hs

lemma choose_holds (a b question : String) (out : Option String) :
    Preserves (Session.Holds g x) (choose S k a b question out) := by
  intro s hs
  obtain ⟨f, herror⟩ := checkPromptFree_holds hk hs
  have hbegin : Stage.beginSelection s.holders k s.screen = .error f s.screen :=
    bind_of_error herror
  unfold choose
  rw [bind_of_ok (get_apply s), bind_of_error (stage_of_error hbegin)]
  exact .error hs

lemma releaseSelection_holds :
    Preserves (Session.Holds g x) (stage (Stage.releaseSelection S k) : Engine H Unit) := by
  cases g with
  | talk y =>
    have hfree : Within {.chooser, .scene} (stage (Stage.releaseSelection S k) : Engine H Unit) :=
      (Within.modular (H := H) {.chooser, .scene}).stage.releaseSelection
        (setChooser_within (by simp) none) (fun _ => stage_play_within (by simp) _) k
    refine hfree.preserves ?_
    rintro a (rfl | rfl)
    · exact Session.Holds.ignores_chooser
    · exact Session.Holds.ignores (by simp) (by simp) (by simp)
  | choice h =>
    refine stage_get_bind fun s hs => ?_
    have hnot : s.screen.ui.holdsSelection k = false := hs.holdsSelection_eq_false hk
    rw [hnot]
    exact Leads.pure (by rintro _ rfl; exact hs)

lemma release_holds : Preserves (Session.Holds g x) (stage (Stage.release S k) : Engine H Unit) := by
  refine stage_get_bind fun s hs => ?_
  dsimp only
  refine Triple.weaken (P := Session.Holds g x) ?_ (by rintro _ rfl; exact hs) (fun _ _ h => h)
    fun _ _ h => h
  cases g with
  | talk y =>
    have hnot : s.screen.ui.holdsTalk k = false := hs.holdsTalk_eq_false hk
    rw [hnot]
    exact releaseSelection_holds hk
  | choice h =>
    split
    · have hset : Preserves (Session.Holds (.choice h) x)
          (stage (Stage.setTalk none) : Engine H Unit) :=
        (setTalk_within (A := {.talk}) rfl none).preserves (by
          rintro a rfl
          exact Session.Holds.ignores_talk)
      have hclose : Preserves (Session.Holds (.choice h) x)
          (stage (Stage.play (S.perform .closeDialog)) : Engine H Unit) :=
        Session.Holds.within (stage_play_within (A := {.scene}) rfl _) (by simp)
      rw [stage_bind]
      refine hset.bind fun _ => ?_
      rw [stage_bind]
      exact hclose.bind fun _ => releaseSelection_holds hk
    · exact releaseSelection_holds hk

lemma waitDialogue_holds : Preserves (Session.Holds g x) (waitDialogue S k : Engine H Bool) := by
  cases g with
  | talk y =>
    intro s hs
    unfold waitDialogue
    rw [bind_of_ok (get_apply s), hs.holdsTalk_eq_false hk]
    exact .ok hs
  | choice h =>
    refine (waitDialogue_within (A := {.scene, .talk}) (by simp) (by simp) S k).preserves ?_
    rintro a (rfl | rfl)
    · exact Session.Holds.ignores (by simp) (by simp) (by simp)
    · exact Session.Holds.ignores_talk

lemma waitSelection_holds (out : Option String) :
    Preserves (Session.Holds g x) (waitSelection S k out : Engine H Bool) := by
  cases g with
  | talk y =>
    refine (waitSelection_within (A := {.scene, .chooser, .store}) (by simp) (by simp) (by simp) S k
      out).preserves ?_
    rintro a (rfl | rfl | rfl)
    · exact Session.Holds.ignores (by simp) (by simp) (by simp)
    · exact Session.Holds.ignores_chooser
    · exact Session.Holds.ignores (by simp) (by simp) (by simp)
  | choice h =>
    intro s hs
    unfold waitSelection
    rw [bind_of_ok (get_apply s), hs.holdsSelection_eq_false hk]
    exact .ok hs

end Others

end Engine

lemma Session.Holds.turnKeeps (w : Wiring H) (hk : k ≠ g.holder) (x : Wait H.Predicate) :
    w.TurnKeeps k (Session.Holds g x) where
  toDeedKeeps := .of_ignores fun a ha => by
    refine ignores ?_ ?_ ?_ <;> rintro rfl <;> simp_all
  talk := Engine.talk_holds hk
  choose := Engine.choose_holds hk
  release := Engine.release_holds hk
  waitDialogue := Engine.waitDialogue_holds hk
  waitSelection := Engine.waitSelection_holds hk

/-- The holder keeps its hold, and where `N` the schedule runs it. -/
structure Session.HoldsFast (N : Prop) (g : Hold) (x : Wait H.Predicate) (s : Session H) : Prop where
  hostless : s.IsHostless
  holds : s.Holds g x
  listed : N → g.holder ∈ s.active

variable {N : Prop}

lemma listed_ignores {h : InstanceId} {a : Aspect} (ha : a ≠ .active) :
    Ignores (fun s : Session H => N → h ∈ s.active) a := by
  intro s t hc hs
  cases hc with
  | active => exact absurd rfl ha
  | _ => exact hs

namespace Session.HoldsFast

lemma iff_and : s.HoldsFast N g x ↔ (s.IsHostless ∧ s.Holds g x) ∧ (N → g.holder ∈ s.active) :=
  ⟨fun h => ⟨⟨h.hostless, h.holds⟩, h.listed⟩, fun h => ⟨h.1.1, h.1.2, h.2⟩⟩

lemma turnKeeps (w : Wiring H) (hk : k ≠ g.holder) : w.TurnKeeps k (HoldsFast N g x) := by
  have hlisted : w.TurnKeeps k fun s : Session H => N → g.holder ∈ s.active := by
    refine (Wiring.DeedKeeps.of_ignores fun a ha => listed_ignores ?_).turnKeeps fun a ha =>
      listed_ignores ?_ <;> rintro rfl <;> simp at ha
  have h := ((isHostless_dependsOnStatus.turnKeeps w k).and (Holds.turnKeeps w hk x)).and hlisted
  simpa only [← iff_and] using h

lemma abides (w : Wiring H) : w.Abides g.holder (HoldsFast N g x) where
  hostless _ hs := hs.hostless
  live _ hs := hs.holds.isActive
  others _ hk := turnKeeps w hk
  quiet a hprompt hactive hown s t hc hs := by
    have hquiet : Ignores (Session.Holds g x) a :=
      Holds.ignores (by rintro rfl; simp at hprompt) (by rintro rfl; simp at hprompt) (hown _).2
    exact ⟨isHostless_dependsOnStatus.ignores a (fun j => (hown j).2) s t hc hs.hostless,
      hquiet s t hc hs.holds, listed_ignores hactive s t hc hs.listed⟩
  listed s l hl hs := ⟨hs.hostless.same rfl rfl rfl, ⟨hs.holds.suspended, hs.holds.held⟩,
    fun h => hl (hs.listed h)⟩

end Session.HoldsFast

def Session.Lasts (N : Prop) (g : Hold) (x : Wait H.Predicate) (s : Session H) : Prop :=
  s.HoldsFast N g x ∨ s.IsCanceled g.holder

lemma Engine.aside_lasts (hS : w.services.PerformsPrompts) {a : Aside H} (ha : a = .newGame → N) :
    Preserves (Session.Lasts N g x) (a.run w) := by
  have hrelease (id : InstanceId) : Returns (Stage.release w.services id) :=
    Stage.release_returns (hS.perform .closeDialog rfl) (hS.perform .closeSelection rfl) id
  exact (Session.HoldsFast.abides w).aside hrelease fun h _ hs => hs.listed (ha h)

section Act

variable {v : Act H} (hv : v.IsStep w)

include hv

lemma Act.IsStep.holdsFast (hid : v.id ≠ g.holder) (hs : v.before.HoldsFast N g x) :
    v.after.HoldsFast N g x := by
  obtain ⟨elapsed, hafter⟩ := hv
  rw [hafter]
  exact ((Session.HoldsFast.turnKeeps w hid).step (fun _ h => h.hostless) elapsed).endState hs

lemma Act.IsStep.isCanceled {h : InstanceId} (hs : v.before.IsCanceled h) : v.after.IsCanceled h := by
  obtain ⟨elapsed, hafter⟩ := hv
  rw [hafter]
  exact (((isCanceled_dependsOnStatus h).turnKeeps w v.id).step (fun _ h => h.1) elapsed).endState hs

end Act

end EventScript
