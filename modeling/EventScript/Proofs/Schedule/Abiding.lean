import EventScript.Proofs.Schedule.Course
import EventScript.Proofs.Schedule.Round

/-! What a live instance has for as long as it does nothing itself. Neither the turns of others nor
anything between the turns takes it away, unless it cancels the instance. -/

namespace EventScript

variable {H : Host} {w : Wiring H} {k : InstanceId} {I : Session H → Prop}

/-- The instance was canceled. -/
def Session.IsCanceled (h : InstanceId) (s : Session H) : Prop :=
  s.IsHostless ∧ s.HasEnded h .canceled

lemma isCanceled_dependsOnStatus (h : InstanceId) :
    DependsOnStatus (Session.IsCanceled (H := H) h) :=
  isHostless_dependsOnStatus.and (hasEnded_dependsOnStatus h .canceled)

/-- The property tells of a live instance what it can lose by its own turns only, or by its end. -/
structure Wiring.Abides (w : Wiring H) (k : InstanceId) (I : Session H → Prop) : Prop where
  hostless : ∀ s, I s → s.IsHostless
  live : ∀ s, I s → s.isActive k = true
  others : ∀ id, id ≠ k → w.TurnKeeps id I
  quiet : ∀ a, a ∉ Aspect.prompt → a ≠ .active → (∀ j, a ≠ .cursor j ∧ a ≠ .status j) → Ignores I a
  listed : ∀ s l, (k ∈ s.active → k ∈ l) → I s → I { s with active := l }

namespace Engine

lemma terminate_status {id : InstanceId} (y : Status H.Predicate)
    (text : Instance H.Predicate → String) (o : Occasion) :
    Leads (fun s => s.isActive id = true) (terminate id y text o)
      (fun s => s.status? id = some y) := by
  refine theInstance_bind (fun i => ?_) fun s hs hi => ?_
  · have hlast := logEnded_within (H := H) (A := Aspect.calm) id (by simp) (by simp) (by simp)
      (by simp) (text i) o
    refine Leads.ite (fun _ => Leads.bind (Leads.modify ?_) fun _ =>
      hlast.preserves fun _ ha => status?_ignores ha y) fun hended => Leads.pure ?_
    · rintro s ⟨-, hi⟩
      refine (s.status?_setStatus id id y).trans ?_
      simp [Session.status?, hi]
    · rintro s ⟨hs, hi⟩
      simp [Session.isActive, hi, hended] at hs
  · simp [Session.isActive, hi] at hs

lemma abort_cancels (S : Services H.Game) (id : InstanceId) :
    Triple (fun s => s.isActive id = true) (abort S id : Engine H Unit)
      (fun _ s => s.status? id = some .canceled) fun _ _ => True := by
  refine theInstance_bind (fun i => Triple.ite (fun hactive => ?_) fun hended => Triple.pure ?_)
    fun _ _ _ => trivial
  · have hrelease : Preserves (fun s : Session H => s.status? id = some i.status)
        (stage (Stage.release S id)) :=
      (release_within (A := {.scene, .talk, .chooser}) (by simp) (by simp) (by simp) S id).preserves
        fun a ha => status?_ignores_of_ne (by rintro rfl; simp at ha)
    refine Triple.bind (Triple.weaken hrelease (fun s hs => ?_) (fun _ _ h => h) fun _ _ _ => trivial)
      fun _ => ?_
    · simp [Session.status?, hs.2]
    · rw [cancel_eq]
      refine Triple.weaken (terminate_status .canceled _ _) (fun s hs => ?_) (fun _ _ h => h)
        fun _ _ _ => trivial
      rw [s.isActive_eq, hs]
      exact hactive
  · rintro s ⟨hs, hi⟩
    simp [Session.isActive, hi, hended] at hs

lemma wipe_within (S : Services H.Game) :
    Within {.scene, .talk, .chooser, .fade, .movie, .asleep, .store} (do
      stage (Stage.reset S)
      modify ({ · with store := [] }) : Engine H Unit) :=
  (reset_within (by simp) (by simp) (by simp) (by simp) (by simp) (by simp) S).bind fun _ =>
    .modify fun s => (Change.store s []).changes (by simp)

end Engine

namespace Wiring.Abides

open Engine

variable (hw : w.Abides k I)

include hw

lemma within {α : Type} {A : Set Aspect} {p : Engine H α} (hp : Within A p)
    (hA : .talk ∉ A ∧ .chooser ∉ A ∧ .active ∉ A ∧ ∀ j, .cursor j ∉ A ∧ .status j ∉ A) :
    Preserves I p := by
  obtain ⟨htalk, hchooser, hactive, hown⟩ := hA
  refine hp.preserves fun a ha => hw.quiet a ?_ (fun h => hactive (h ▸ ha)) fun j =>
    ⟨fun h => (hown j).1 (h ▸ ha), fun h => (hown j).2 (h ▸ ha)⟩
  rintro (rfl | rfl)
  · exact htalk ha
  · exact hchooser ha

lemma lasts {α : Type} {A : Set Aspect} {p : Engine H α} (hp : Within A p)
    (hA : .talk ∉ A ∧ .chooser ∉ A ∧ .active ∉ A ∧ ∀ j, .cursor j ∉ A ∧ .status j ∉ A) :
    Preserves (fun s => I s ∨ s.IsCanceled k) p :=
  (hw.within hp hA).or ((isCanceled_dependsOnStatus k).within hp fun j => (hA.2.2.2 j).2)

lemma round {elapsed : Option Float} {n : Nat} {ids : List InstanceId} {s t : Session H}
    {us : List (Turn H)} (hk : k ∉ ids) (h : Round w elapsed n ids s us t) (hs : I s) : I t :=
  h.preserves (fun id hid => (hw.others id fun he => hk (he ▸ hid)).takeTurn hw.hostless elapsed) hs

lemma unlisted {s : Session H} {l m : List InstanceId} (hl : k ∈ s.active → k ∈ l) (hs : I s) :
    I { s with active := l, pending := m } :=
  hw.quiet .pending (by simp) (by simp) (by simp) _ _ (.pending { s with active := l } m)
    (hw.listed s l hl hs)

lemma promote : Preserves I (Engine.promote : Engine H Unit) :=
  (Modular.preserves I).promote
    (fun id => hw.within (begin_within (A := {.scene, .watchers, .marks id}) (by simp) (by simp)
      (by simp)) (by simp))
    (hw.within (A := {.pending}) (.modify fun s => (Change.pending s []).changes rfl) (by simp))
    fun _ => Leads.modify fun s hs => hw.listed s _ (fun h => List.mem_append_left _ h) hs

lemma updateScreen : Preserves I (Engine.updateScreen w.services : Engine H Unit) := by
  refine Triple.get_bind fun s hs => ?_
  refine Triple.weaken (P := I) ?_ (by rintro _ rfl; exact hs) (fun _ _ h => h) fun _ _ h => h
  have hactive : s.holders.isActive k = true := hw.live s hs
  have hP := (Modular.preserves I).stage
  have hidle (o : Option InstanceId) :
      Preserves I (stage (Stage.releaseIdle w.services s.holders o) : Engine H Unit) := by
    cases o with
    | none => exact hP.pure _
    | some h =>
      refine Leads.of_endState fun t ht => ?_
      rw [Stage.releaseIdle]
      split
      · next hidle =>
        have hne : h ≠ k := fun h => by simp [h, hactive] at hidle
        exact (hw.others h hne).release.endState ht
      · exact ht
  exact hP.update (hw.within (updateFade_within (A := {.fade}) rfl _) (by simp))
    (hw.within (updateMovie_within (A := {.scene, .movie}) (by simp) (by simp) _) (by simp)) hidle

lemma retire {s : Session H} (hs : I s) : I s.retire :=
  hw.quiet .asleep (by simp) (by simp) (by simp) _ _
    (.asleep { s with active := s.active.filter s.isActive } _)
    (hw.listed s _ (fun h => List.mem_filter.mpr ⟨h, hw.live s hs⟩) hs)

section Cancel

variable (hrelease : ∀ id : InstanceId, Returns (Stage.release w.services id))

include hrelease

lemma abort_self : Leads I (Engine.abort w.services k) (Session.IsCanceled k) := by
  refine Leads.of_endState fun s hs => ⟨?_, ?_⟩
  · exact (isHostless_dependsOnStatus.turnKeeps w k).abort.endState (hw.hostless s hs)
  · have hlive := hw.live s hs
    obtain ⟨i, hi, hactive⟩ : ∃ i, s.instance? k = some i ∧ i.isActive = true := by
      unfold Session.isActive at hlive
      cases hi : s.instance? k with
      | none => simp [hi] at hlive
      | some i => exact ⟨i, rfl, by simpa [hi] using hlive⟩
    obtain ⟨_, screen, hrel⟩ := stage_returns (hrelease k) s
    refine ⟨?_, rfl⟩
    rw [endState_congr (abort_of_active hi hactive hrel)]
    exact (terminate_status .canceled _ _).endState (s := { s with screen }) hlive

lemma abort (id : InstanceId) :
    Preserves (fun s => I s ∨ s.IsCanceled k) (Engine.abort w.services id) := by
  have hended := ((isCanceled_dependsOnStatus k).turnKeeps w id).abort
  by_cases hid : id = k
  · subst hid
    rintro s (hs | hs)
    · exact (hw.abort_self hrelease).weaken (fun _ h => h) (fun _ h => .inr h) s hs
    · exact hended.weaken (fun _ h => h) (fun _ h => .inr h) s hs
  · exact (hw.others id hid).abort.or hended

lemma drop_self : Leads I (Engine.drop w.services k) (Session.IsCanceled k) :=
  (hw.abort_self hrelease).bind fun _ => (isCanceled_dependsOnStatus k).within
    (A := {.active, .pending}) (.modify fun s =>
      .tail ((Change.active s (s.active.erase k)).changes (by simp))
        ⟨.pending, by simp, .pending _ _⟩) (by simp)

omit hrelease in
lemma drop_other {id : InstanceId} (hid : id ≠ k) : Preserves I (Engine.drop w.services id) :=
  (hw.others id hid).abort.bind fun _ => Leads.modify fun _ hs =>
    hw.unlisted (fun h => (List.mem_erase_of_ne hid.symm).mpr h) hs

lemma drop (id : InstanceId) :
    Preserves (fun s => I s ∨ s.IsCanceled k) (Engine.drop w.services id) := by
  have hended := ((isCanceled_dependsOnStatus k).tickKeeps w).drop id
  by_cases hid : id = k
  · subst hid
    rintro s (hs | hs)
    · exact (hw.drop_self hrelease).weaken (fun _ h => h) (fun _ h => .inr h) s hs
    · exact hended.weaken (fun _ h => h) (fun _ h => .inr h) s hs
  · exact (hw.drop_other hid).or hended

lemma dropEach_self {ids : List InstanceId} (hk : k ∈ ids) :
    Triple I (Engine.dropEach w.services ids) (fun _ => Session.IsCanceled k)
      fun _ s => I s ∨ s.IsCanceled k := by
  induction ids with
  | nil => cases hk
  | cons id ids ih =>
    by_cases hid : id = k
    · subst hid
      have hrest := ((isCanceled_dependsOnStatus (H := H) id).tickKeeps w).dropEach ids
      refine Triple.bind (Triple.weaken (hw.drop_self hrelease) (fun _ h => h) (fun _ _ h => h)
        fun _ _ h => .inr h) fun _ => ?_
      exact Triple.weaken hrest (fun _ h => h) (fun _ _ h => h) fun _ _ h => .inr h
    · have hids := (List.mem_cons.mp hk).resolve_left (Ne.symm hid)
      exact Triple.after (hw.drop_other hid) (fun _ _ h => .inl h) fun _ => ih hids

lemma dropOrphansOf (ids : List InstanceId) :
    Preserves (fun s => I s ∨ s.IsCanceled k) (Engine.dropOrphansOf w.services ids) :=
  (Modular.preserves _).dropOrphansOf (hw.drop hrelease)
    (fun _ => hw.lasts (log_within (A := {.scene}) rfl _ _) (by simp))
    (hw.lasts (count_within (A := {.counters}) rfl _) (by simp)) ids

lemma opening : Preserves (fun s => I s ∨ s.IsCanceled k)
    (Engine.opening w.services : Engine H Unit) := by
  have hticks : Within {.ticks}
      (modify fun s => { s with ticks := s.ticks + 1 } : Engine H PUnit) :=
    .modify fun s => (Change.ticks s _).changes rfl
  have hended := ((isCanceled_dependsOnStatus (H := H) k).tickKeeps w).openingKeeps
  refine (hw.lasts hticks (by simp)).bind fun _ => (hw.promote.or hended.promote).bind fun _ => ?_
  refine Preserves.bind (Preserves.get.bind fun _ => hw.dropOrphansOf hrelease _) fun _ => ?_
  exact hw.updateScreen.or hended.updateScreen

lemma newGame (hk : ∀ s, I s → k ∈ s.active) :
    Preserves (fun s => I s ∨ s.IsCanceled k) (Engine.newGame w.services : Engine H Unit) := by
  have hended := isCanceled_dependsOnStatus (H := H) k
  have hlive : Leads I (Engine.newGame w.services) (fun s => I s ∨ s.IsCanceled k) := by
    have hlog : Preserves I (log .info "new game" : Engine H Unit) :=
      hw.within (log_within (A := {.scene}) rfl _ _) (by simp)
    have hcancel : Triple I (cancelAll w.services) (fun _ => Session.IsCanceled k)
        fun _ s => I s ∨ s.IsCanceled k := by
      refine Triple.get_bind fun s hs => ?_
      refine (hw.dropEach_self hrelease (List.mem_append_left _ (hk s hs))).weaken
        (by rintro _ rfl; exact hs) (fun _ _ h => h) fun _ _ h => h
    refine Leads.after hlog (fun _ h => .inl h) fun _ => Triple.bind hcancel fun _ => ?_
    exact (hended.within (wipe_within _) (by simp)).weaken (fun _ h => h) fun _ h => .inr h
  rintro s (hs | hs)
  · exact hlive s hs
  · exact (hended.tickKeeps w).newGame.weaken (fun _ h => h) (fun _ h => .inr h) s hs

lemma request {r : Request H} (hr : r.isTick = false)
    (hk : r = .newGame → ∀ s, I s → k ∈ s.active) :
    Preserves (fun s => I s ∨ s.IsCanceled k) (r.run w) :=
  Request.preserves hr (fun h => hw.newGame hrelease (hk h)) (fun hp => hw.lasts hp (by simp))
    (fun _ _ _ _ => hw.lasts (start_within subset_rfl _ _ _ _) (by simp)) (hw.drop hrelease)

lemma aside {a : Aside H} (hk : a = .newGame → ∀ s, I s → k ∈ s.active) :
    Preserves (fun s => I s ∨ s.IsCanceled k) (a.run w) := by
  cases a with
  | opening => exact hw.opening hrelease
  | retire =>
    exact Preserves.or (Leads.modify fun s hs => hw.retire hs)
      ((isCanceled_dependsOnStatus k).tickKeeps w).retire
  | create script owner pausable watcher =>
    exact (hw.lasts (create_within (A := {.roster}) rfl _ _ _ _) (by simp)).bind fun _ => .pure _
  | giveUp id label =>
    refine (hw.lasts (count_within (A := {.counters}) rfl _) (by simp)).bind fun _ => ?_
    exact (hw.lasts (log_within (A := {.scene}) rfl _ _) (by simp)).bind fun _ =>
      hw.abort hrelease id
  | request r hr => exact hw.request hrelease hr fun h => hk (by subst h; rfl)

end Cancel

end Wiring.Abides

end EventScript
