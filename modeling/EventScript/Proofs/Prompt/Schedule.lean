import EventScript.Proofs.Prompt.Step
import EventScript.Proofs.Session.Request
import Mathlib.Data.List.Basic

/-! The prompt invariant over the history of a session: each tick and each request keeps it. -/

namespace EventScript

variable {H : Host} {S : Services H.Game} {l : List InstanceId} {id : InstanceId}

def PromptsInOrder (s : Session H) : Prop := PromptInvariant s.active s

lemma PromptInvariant.inOrder {s : Session H} (hs : PromptInvariant l s) : PromptsInOrder s := by
  unfold PromptsInOrder
  rwa [hs.active]

lemma PromptInvariant.setActive {s : Session H} (hs : PromptInvariant l s)
    {l' : List InstanceId} (hl : ∀ h, s.waitKind? h ≠ none → h ∈ l') :
    PromptInvariant l' { s with active := l' } :=
  ⟨rfl, hs.talk, hs.choice, hs.apart, hl, hs.own, hs.noCommands, hs.noWaits⟩

/-- The invariant, and all who wait are among those that `holders` has as active. -/
structure WaitersActive (holders : Holders InstanceId) (l : List InstanceId) (s : Session H) :
    Prop where
  invariant : PromptInvariant l s
  active : ∀ h, s.waitKind? h ≠ none → holders.isActive h = true

lemma WaitersActive.ignores {holders : Holders InstanceId} {a : Aspect} (ha : a.isCalm = true) :
    Ignores (H := H) (WaitersActive holders l) a :=
  fun s t h hs => ⟨PromptInvariant.ignores ha s t h hs.invariant, h.waitKind? ha ▸ hs.active⟩

namespace Engine

lemma inOrder_preserves {α : Type} {p : Engine H α}
    (h : ∀ l, Leads (PromptInvariant l) p PromptsInOrder) : Preserves PromptsInOrder p :=
  fun s hs => h s.active s hs

lemma calm_inOrder {α : Type} {p : Engine H α} (hp : Within Aspect.calm p) :
    Preserves PromptsInOrder p :=
  inOrder_preserves fun _ => (calm_preserves hp).weaken (fun _ h => h) fun _ h => h.inOrder

lemma drop_invariant (hS : S.ShowsPrompts) :
    Triple (PromptInvariant l) (drop S id : Engine H Unit) (fun _ => PromptInvariant (l.erase id))
      fun _ => PromptInvariant l := by
  refine Triple.bind (Triple.weaken (abort_rests hS) (fun _ h => h) (fun _ _ h => h)
    fun _ _ h => h.invariant) fun _ => Triple.modify fun s hs => ?_
  have hl : ∀ h, s.waitKind? h ≠ none → h ∈ l.erase id := by
    intro h hw
    refine (List.mem_erase_of_ne ?_).mpr (hs.invariant.listed h hw)
    rintro rfl
    exact hw hs.idle
  rw [hs.invariant.active]
  exact (hs.invariant.setActive hl).same ⟨rfl, rfl, rfl, rfl, rfl⟩

lemma drop_inOrder (hS : S.ShowsPrompts) : Preserves PromptsInOrder (drop S id : Engine H Unit) :=
  inOrder_preserves fun _ => (drop_invariant hS).weaken (fun _ h => h) (fun _ _ h => h.inOrder)
    fun _ _ h => h.inOrder

lemma dropEach_invariant (hS : S.ShowsPrompts) (ids : List InstanceId) :
    Triple (PromptInvariant l) (dropEach S ids : Engine H Unit)
      (fun _ => PromptInvariant (l.diff ids)) fun _ => PromptsInOrder := by
  induction ids generalizing l with
  | nil => exact Triple.pure fun _ h => h
  | cons id ids ih =>
    rw [List.diff_cons]
    exact Triple.bind ((drop_invariant hS).weaken (fun _ h => h) (fun _ _ h => h)
      fun _ _ h => h.inOrder) fun _ => ih

lemma diff_append_self (l p : List InstanceId) : l.diff (l ++ p) = [] := by
  induction l with
  | nil => simp
  | cons a l ih => simpa using ih

lemma cancelAll_invariant (hS : S.ShowsPrompts) :
    Triple (PromptInvariant l) (cancelAll S : Engine H Unit) (fun _ => PromptInvariant [])
      fun _ => PromptsInOrder := by
  refine Triple.get_bind fun s hs => ?_
  rintro t rfl
  have h := dropEach_invariant hS (l ++ t.pending) t hs
  rw [diff_append_self] at h
  rw [Session.instances, hs.active]
  exact h

lemma dropOwned_inOrder (hS : S.ShowsPrompts) (owner : Option EntityId) (ids : List InstanceId) :
    Preserves PromptsInOrder (dropOwned S owner ids : Engine H Unit) :=
  (Modular.preserves _).dropOwned (fun _ => drop_inOrder hS) owner ids

lemma cancelOwned_inOrder (hS : S.ShowsPrompts) (owner : Option EntityId) :
    Preserves PromptsInOrder (cancelOwned S owner : Engine H Unit) :=
  Preserves.get.bind fun _ => dropOwned_inOrder hS owner _

lemma promote_inOrder : Preserves PromptsInOrder (promote : Engine H Unit) := by
  refine inOrder_preserves fun l => Leads.after .get (fun _ h => h.inOrder) fun s => ?_
  have hpending : Within Aspect.calm (modify ({ · with pending := [] }) : Engine H PUnit) :=
    .modify fun s => (Change.pending s []).changes (by simp)
  refine .after (calm_preserves hpending) (fun _ h => h.inOrder) fun _ => ?_
  have hbegin := beginEach_within (H := H) (A := Aspect.calm) (by simp) (by simp) (by simp)
  refine .after (calm_preserves (hbegin _)) (fun _ h => h.inOrder) fun _ => ?_
  refine Leads.modify fun t ht => ?_
  rw [ht.active]
  exact (ht.setActive fun h hw => List.mem_append_left _ (ht.listed h hw)).inOrder

lemma dropOrphansOf_inOrder (hS : S.ShowsPrompts) (ids : List InstanceId) :
    Preserves PromptsInOrder (dropOrphansOf S ids : Engine H Unit) :=
  (Modular.preserves _).dropOrphansOf (fun _ => drop_inOrder hS)
    (fun _ => calm_inOrder (log_within (by simp) _ _)) (calm_inOrder (count_within (by simp) _)) ids

lemma releaseIdle_of_active {σ η : Type} [DecidableEq η] (S : Services σ) (holders : Holders η)
    {h : Option η} (hh : ∀ k, h = some k → holders.isActive k = true) (x : Screen σ η) :
    Stage.releaseIdle S holders h x = .ok () x := by
  cases h with
  | none => rfl
  | some k => simp [Stage.releaseIdle, hh k rfl]

lemma update_invariant (S : Services H.Game) (holders : Holders InstanceId) :
    Leads (WaitersActive holders l) (stage (Stage.update S holders) : Engine H Unit)
      (PromptInvariant l) := by
  have hcalm {p : Engine H Unit} (hp : Within Aspect.calm p) :
      Preserves (WaitersActive holders l) p :=
    hp.preserves fun _ ha => WaitersActive.ignores ha
  unfold Stage.update
  rw [stage_bind]
  refine .after (hcalm (updateFade_within (by simp) _)) (fun _ h => h.invariant) fun _ => ?_
  rw [stage_bind]
  refine .after (hcalm (updateMovie_within (by simp) (by simp) S)) (fun _ h => h.invariant)
    fun _ => ?_
  intro t ht
  -- Whoever holds the prompt is active, so that it is taken from nobody.
  have htalk (h : InstanceId) (hh : t.screen.ui.talk.map (·.holder) = some h) :
      holders.isActive h = true :=
    ht.active h (by simp [(ht.invariant.talk h).mp hh])
  have hchoice (h : InstanceId) (hh : t.ui.chooser = some h) : holders.isActive h = true :=
    ht.active h (by simp [(ht.invariant.choice h).mp hh])
  refine .of_ok (stage_of_ok (a := ()) (x := t.screen) ?_) ht.invariant
  rw [bind_of_ok (get_apply _), bind_of_ok (releaseIdle_of_active S _ htalk _),
    bind_of_ok (get_apply _)]
  exact releaseIdle_of_active S _ hchoice _

lemma updateScreen_invariant (S : Services H.Game) :
    Preserves (PromptInvariant l) (updateScreen S : Engine H Unit) := by
  refine Triple.get_bind fun s hs => ?_
  rintro t rfl
  refine update_invariant S t.holders t ⟨hs, fun h hw => ?_⟩
  obtain ⟨k, hk⟩ := Option.ne_none_iff_exists'.mp hw
  exact Session.isActive_of_waitKind? hk

lemma stepAll_inOrder (w : Wiring H) (hS : w.services.ShowsPrompts) (elapsed : Option Float) :
    Preserves PromptsInOrder (stepAll w elapsed) :=
  inOrder_preserves fun _ => (stepAll_invariant w hS elapsed).weaken (fun _ h => h)
    fun _ h => h.inOrder

lemma retire_inOrder : Preserves PromptsInOrder (modify Session.retire : Engine H PUnit) := by
  refine inOrder_preserves fun l => Leads.modify fun s hs => ?_
  have hl : ∀ h, s.waitKind? h ≠ none → h ∈ s.active.filter s.isActive := by
    intro h hw
    obtain ⟨k, hk⟩ := Option.ne_none_iff_exists'.mp hw
    exact List.mem_filter.mpr ⟨hs.active ▸ hs.listed h hw, Session.isActive_of_waitKind? hk⟩
  exact (hs.setActive hl).same ⟨rfl, rfl, rfl, rfl, rfl⟩

lemma tick_inOrder (w : Wiring H) (hS : w.services.ShowsPrompts) (elapsed : Option Float) :
    Preserves PromptsInOrder (tick w elapsed) := by
  have hticks : Within Aspect.calm
      (modify fun s => { s with ticks := s.ticks + 1 } : Engine H PUnit) :=
    .modify fun s => (Change.ticks s _).changes (by simp)
  refine (calm_inOrder hticks).bind fun _ => promote_inOrder.bind fun _ => ?_
  refine Preserves.bind (Preserves.get.bind fun _ => dropOrphansOf_inOrder hS _) fun _ => ?_
  refine Preserves.bind (inOrder_preserves fun _ => (updateScreen_invariant w.services).weaken
    (fun _ h => h) fun _ h => h.inOrder) fun _ => ?_
  exact (stepAll_inOrder w hS elapsed).bind fun _ => retire_inOrder

lemma reset_invariant (S : Services H.Game) :
    Preserves (PromptInvariant []) (stage (Stage.reset S) : Engine H Unit) := by
  intro s hs
  -- With nobody listed nobody waits, so that there is no prompt to close.
  have hidle (h : InstanceId) : s.waitKind? h = none :=
    Option.not_isSome_iff_eq_none.mp fun hw => by
      simpa using hs.listed h (Option.isSome_iff_ne_none.mp hw)
  have htalk : s.screen.ui.talk = none := by
    cases ht : s.screen.ui.talk with
    | none => rfl
    | some t =>
      have hw := (hs.talk t.holder).mp (by simp [Session.talker?, Session.ui, ht])
      simp [hidle] at hw
  have hchoice : s.screen.ui.chooser = none := by
    cases hc : s.screen.ui.chooser with
    | none => rfl
    | some h => simpa [hidle] using (hs.choice h).mp hc
  have hstage : stage (Stage.reset S) s = stage (Stage.clear S) s := by
    unfold stage
    rw [Stage.reset_of_free S htalk hchoice]
  rw [hstage]
  exact calm_preserves (clear_within (by simp) (by simp) (by simp) (by simp) S) s hs

lemma newGame_inOrder (hS : S.ShowsPrompts) :
    Preserves PromptsInOrder (newGame S : Engine H Unit) := by
  refine inOrder_preserves fun l => ?_
  refine .after (calm_preserves (log_within (by simp) _ _)) (fun _ h => h.inOrder) fun _ => ?_
  refine Triple.bind (cancelAll_invariant hS) fun _ => ?_
  refine Leads.after (reset_invariant S) (fun _ h => h.inOrder) fun _ => ?_
  have hstore : Within Aspect.calm (modify ({ · with store := [] }) : Engine H PUnit) :=
    .modify fun s => (Change.store s []).changes (by simp)
  exact (calm_preserves hstore).weaken (fun _ h => h) fun _ h => h.inOrder

end Engine

lemma Request.inOrder (w : Wiring H) (hS : w.services.ShowsPrompts) (r : Request H) :
    Preserves PromptsInOrder (r.run w) := by
  have hb : Aspect.beside ⊆ Aspect.calm := by rintro a (rfl | rfl) <;> rfl
  have hstarting : Aspect.starting ⊆ Aspect.calm := by rintro a (rfl | rfl | rfl) <;> rfl
  cases r with
  | start script owner pausable watcher =>
    exact Engine.calm_inOrder ((Engine.start_within hstarting _ _ _ _).bind fun _ => .pure _)
  | startFile file owner pausable watcher =>
    exact Engine.calm_inOrder ((Engine.loadHere_within hb _ _).bind fun _ =>
      (Engine.start_within hstarting _ _ _ _).bind fun _ => .pure _)
  | startText text name owner =>
    exact Engine.calm_inOrder (((Within.ofExcept _).bind fun _ =>
      Engine.start_within hstarting _ _ _ _).bind fun _ => .pure _)
  | tick elapsed => exact Engine.tick_inOrder w hS elapsed
  | cancel id => exact Engine.drop_inOrder hS
  | cancelOwned owner => exact Engine.cancelOwned_inOrder hS owner
  | cancelAll =>
    exact Engine.inOrder_preserves fun _ => (Engine.cancelAll_invariant hS).weaken (fun _ h => h)
      (fun _ _ h => h.inOrder) fun _ _ h => h
  | setPaused paused =>
    exact Engine.calm_inOrder (.modify fun s => (Change.paused s paused).changes (by simp))
  | newGame => exact Engine.newGame_inOrder hS
  | save path => exact Engine.calm_inOrder ((Engine.save_within (by simp) path).bind fun _ => .pure _)
  | load path => exact Engine.calm_inOrder (Engine.load_within (by simp) path)
  | setVariable name value => exact Engine.calm_inOrder (Engine.setVariable_within (by simp) _ _)
  | watch name failsOn early =>
    exact Engine.calm_inOrder (Engine.ensureWatcher_within (by simp) _ _ _)
  | meanwhile f => exact Engine.calm_inOrder (.modify fun s => (Change.scene s _).changes (by simp))
  | changeFiles f =>
    exact Engine.calm_inOrder (.modify fun s => (Change.files s _).changes (by simp))

end EventScript
