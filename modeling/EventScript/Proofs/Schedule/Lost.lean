import EventScript.Proofs.Movie.Slot
import EventScript.Proofs.Schedule.Orphans
import EventScript.Proofs.Services.Headless

/-! Owners that are lost. An instance keeps its owner, a lost owner stays lost, and so an instance
whose owner was lost before a tick takes no turn in it. -/

namespace EventScript

section Scene

variable {σ : Type} {S : Services σ} {x : Scene σ} {e : EntityId}

def Scene.HasLost (e : EntityId) (x : Scene σ) : Prop :=
  ∃ y, x.entities[e]? = some y ∧ y.isLost = true

lemma Scene.HasLost.updateEntity (hx : x.HasLost e) (k : EntityId) {f : Entity → Entity}
    (hf : ∀ y, y.isLost = true → (f y).isLost = true) : (x.updateEntity k f).HasLost e := by
  obtain ⟨y, hy, hlost⟩ := hx
  unfold HasLost Scene.updateEntity
  rw [Array.getElem?_modify, hy]
  split
  · exact ⟨f y, rfl, hf y hlost⟩
  · exact ⟨y, rfl, hlost⟩

lemma Scene.HasLost.push (hx : x.HasLost e) (z : Entity) :
    Scene.HasLost e { x with entities := x.entities.push z } := by
  obtain ⟨y, hy, hlost⟩ := hx
  obtain ⟨he, hget⟩ := Array.getElem?_eq_some_iff.mp hy
  exact ⟨y, by rw [Array.getElem?_push_lt he, hget], hlost⟩

lemma Scene.HasLost.of_alike {y : Scene σ} (hx : x.HasLost e) (h : x.Alike y) : y.HasLost e := by
  unfold HasLost
  rw [h.2]
  exact hx

/-- Whatever the game does, it brings back no entity that is lost. -/
structure Services.KeepsLost (S : Services σ) : Prop where
  offers : ∀ {α : Type} {p : Play σ α}, S.Offers p → ∀ e, Preserves (Scene.HasLost e) p
  playVideo : ∀ file color e, Preserves (Scene.HasLost e) (S.playVideo file color)
  videoStopped : ∀ v e, Preserves (Scene.HasLost e) (S.videoStopped v)
  stopVideo : ∀ v e, Preserves (Scene.HasLost e) (S.stopVideo v)

lemma Services.KeepsLost.asks (hS : S.KeepsLost) {α : Type} {p : Play σ α} (hp : S.Asks p)
    (e : EntityId) : Preserves (Scene.HasLost e) p := by
  induction hp with
  | pure a => exact .pure a
  | throw f => exact .throw f
  | get => exact .get
  | bind _ _ ihp ihf => exact ihp.bind ihf
  | log level text => exact Leads.modify fun _ hx => hx
  | updateEntity k hf => exact Leads.modify fun _ hx => hx.updateEntity k hf
  | offered hp => exact hS.offers hp e

lemma Services.KeepsLost.keeps (hS : S.KeepsLost) (e : EntityId) : S.Keeps (Scene.HasLost e) where
  asks hp := hS.asks hp e
  playVideo file color := hS.playVideo file color e
  videoStopped v := hS.videoStopped v e
  stopVideo v := hS.stopVideo v e

end Scene

variable {H : Host} {w : Wiring H} {s s₁ : Session H} {k : InstanceId} {e : EntityId}

lemma Change.ownerId? {a : Aspect} {s t : Session H} (h : Change a s t)
    (hk : s.ownerId? k = some e) : t.ownerId? k = some e := by
  obtain ⟨i, hi, howner⟩ := Option.bind_eq_some_iff.mp hk
  have hx := h.trait? (k := k) (f := (·.owner)) (fun _ _ _ => rfl) (fun _ _ _ => rfl)
    (fun _ _ _ _ => rfl) (Option.map_eq_some_iff.mpr ⟨i, hi, howner⟩)
  obtain ⟨j, hj, hx⟩ := Option.map_eq_some_iff.mp hx
  exact Option.bind_eq_some_iff.mpr ⟨j, hj, hx⟩

lemma ownerId?_dependsOnStatus (k : InstanceId) (e : EntityId) :
    DependsOnStatus fun s : Session H => s.ownerId? k = some e where
  ignores _ _ _ _ hc hs := hc.ownerId? hs
  moves s id _ y _ _ _ hs := (Change.status s id y).ownerId? hs

structure Session.IsBereft (k : InstanceId) (e : EntityId) (s : Session H) : Prop where
  hostless : s.IsHostless
  owner : s.ownerId? k = some e
  lost : s.scene.HasLost e

namespace Session.IsBereft

lemma isOrphan (hs : s.IsBereft k e) : s.isOrphan k = true := by
  obtain ⟨y, hy, hlost⟩ := hs.lost
  have hentity : s.scene.entity? e = if y.gone then none else some y := by
    simp [Scene.entity?, hy]
  rw [s.isOrphan_eq, hs.owner, Option.any_some, hentity]
  cases hgone : y.gone with
  | true => rfl
  | false => simpa [Entity.isLost, hgone] using hlost

lemma iff_and : s.IsBereft k e ↔ (s.IsHostless ∧ s.ownerId? k = some e) ∧ s.scene.HasLost e :=
  ⟨fun h => ⟨⟨h.hostless, h.owner⟩, h.lost⟩, fun h => ⟨h.1.1, h.1.2, h.2⟩⟩

lemma tickKeeps (hS : w.services.KeepsLost) (k : InstanceId) (e : EntityId) :
    w.TickKeeps (IsBereft k e) := by
  have h := ((isHostless_dependsOnStatus.and (ownerId?_dependsOnStatus k e)).tickKeeps w).and
    (hS.keeps e).stageKeeps.tickKeeps
  simpa only [← iff_and] using h

end Session.IsBereft

/-- What happens to the game between requests brings back no entity that is lost. -/
def Request.KeepsLost (r : Request H) : Prop :=
  ∀ f, r = .meanwhile f → ∀ e (x : Scene H.Game), x.HasLost e → (f x).HasLost e

lemma Request.KeepsLost.isBereft {r : Request H} (hr : r.KeepsLost) (hS : w.services.KeepsLost)
    (k : InstanceId) (e : EntityId) : Preserves (Session.IsBereft k e) (r.run w) := by
  refine (Session.IsBereft.tickKeeps hS k e).request (fun _ h => h.hostless) ?_ ?_
  · rintro name failsOn early rfl
    refine Leads.modify fun s hs => ?_
    split
    · exact hs
    · exact ⟨hs.hostless.same rfl rfl rfl, hs.owner, hs.lost⟩
  · rintro f rfl
    refine Leads.modify fun s hs => ?_
    exact ⟨hs.hostless.same rfl rfl rfl, hs.owner,
      hr f rfl e _ hs.lost⟩

namespace Engine

lemma within_active {α : Type} {A : Set Aspect} {p : Engine H α} (hp : Within A p) (hA : .active ∉ A)
    (l : List InstanceId) : Preserves (fun s => s.active = l) p := by
  refine hp.preserves fun a ha s t hc hs => ?_
  cases hc with
  | active => exact absurd ha hA
  | _ => exact hs

lemma drop_active (S : Services H.Game) (id : InstanceId) (l : List InstanceId) :
    Triple (fun s : Session H => s.active = l) (drop S id) (fun _ s => s.active = l.erase id)
      fun _ _ => True := by
  refine Triple.after (within_active (abort_within subset_rfl S) (by simp) l)
    (fun _ _ _ => trivial) fun _ => Triple.modify ?_
  rintro s rfl
  rfl

lemma updateScreen_active (S : Services H.Game) (l : List InstanceId) :
    Preserves (fun s : Session H => s.active = l) (updateScreen S) := by
  refine Preserves.get.bind fun _ s hs => ?_
  unfold stage
  split
  · exact .ok hs
  · exact .error hs

variable {I : Session H → Prop}

lemma dropOrphansOf_unlists (hw : w.TickKeeps I) (hI : ∀ s, I s → s.isOrphan k = true)
    (ids : List InstanceId) :
    Triple (fun s => I s ∧ s.active.Nodup ∧ (k ∈ s.active → k ∈ ids))
      (dropOrphansOf w.services ids) (fun _ s => k ∉ s.active) fun _ _ => True := by
  induction ids with
  | nil => exact Triple.pure fun s hs hk => List.not_mem_nil (hs.2.2 hk)
  | cons id ids ih =>
    refine theInstance_bind (fun i => Triple.get_bind ?_) fun _ _ _ => trivial
    rintro s ⟨⟨hs, hnodup, hlisted⟩, hi⟩
    refine Triple.ite (fun _ => ?_) fun howned => ?_
    · have hlog := ((hw.turn id).log .info ("dropping orphaned " ++ i.label)).and
        (within_active (log_within (A := {.scene}) rfl _ _) (by simp) s.active)
      have hcount := hw.orphan.and
        (within_active (count_within (A := {.counters}) rfl _) (by simp) s.active)
      have hdrop : Triple (fun t => I t ∧ t.active = s.active) (drop w.services id)
          (fun _ t => I t ∧ t.active.Nodup ∧ (k ∈ t.active → k ∈ ids)) fun _ _ => True := by
        refine ((drop_active w.services id s.active).and_preserves (hw.drop id)).weaken
          (fun _ h => h) ?_ fun _ _ _ => trivial
        rintro _ t ⟨ht, hactive⟩
        rw [hactive]
        refine ⟨ht, hnodup.erase id, fun hk => ?_⟩
        obtain ⟨hne, hk⟩ := hnodup.mem_erase_iff.mp hk
        exact (List.mem_cons.mp (hlisted hk)).resolve_left hne
      have hrest := Triple.after hlog (fun _ _ _ => trivial) fun _ =>
        Triple.after hcount (fun _ _ _ => trivial) fun _ => Triple.bind hdrop fun _ => ih
      exact hrest.weaken (by rintro t rfl; exact ⟨hs, rfl⟩) (fun _ _ h => h) fun _ _ h => h
    · refine ih.weaken ?_ (fun _ _ h => h) fun _ _ h => h
      rintro t rfl
      refine ⟨hs, hnodup, fun hk => (List.mem_cons.mp (hlisted hk)).resolve_left ?_⟩
      rintro rfl
      have horphan := hI t hs
      simp [Session.isOrphan, hi, howned] at horphan

lemma opening_unlists (hw : w.TickKeeps I) (hI : ∀ s, I s → s.isOrphan k = true)
    {past : Past} (hb : s.Booked past) (hs : I s)
    (hopen : opening w.services s = .ok () s₁) : k ∉ s₁.active := by
  unfold opening at hopen
  rw [bind_of_ok (modify_apply _ s)] at hopen
  obtain ⟨_, t, hpromote, hopen⟩ := bind_eq_ok hopen
  obtain ⟨_, u, hdrop, hopen⟩ := bind_eq_ok hopen
  let s' : Session H := { s with ticks := s.ticks + 1 }
  have hs' : I s' := hw.ordering .ticks (by simp) _ _ (.ticks s _) hs
  have ht := hw.openingKeeps.promote.endState hs'
  rw [endState_of_ok hpromote] at ht
  have hactive : t.active = s.instances := by
    obtain ⟨t', ⟨hok, ht'⟩ | ⟨herror, -⟩⟩ := promote_cases (s := s')
      fun k hk => hb.present (List.mem_append_right _ hk)
    · obtain ⟨-, rfl⟩ := EStateM.Result.ok.inj (hok.symm.trans hpromote)
      exact ht'.active
    · cases herror.symm.trans hpromote
  have hu := dropOrphansOf_unlists hw hI t.active t ⟨ht, hactive ▸ hb.nodup, fun hk => hk⟩
  have hdrop : dropOrphansOf w.services t.active t = .ok () u := hdrop
  rw [hdrop] at hu
  have hscreen := (updateScreen_active w.services u.active).endState rfl
  rw [endState_of_ok hopen] at hscreen
  cases hu
  rwa [hscreen]

end Engine

end EventScript
