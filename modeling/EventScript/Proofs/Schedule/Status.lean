import EventScript.Proofs.Session.Turn
import EventScript.Proofs.Session.Request

/-! How instances change their status. Only one that has not ended does, so that an end is for good,
and no built-in command makes anybody wait for the host. -/

namespace EventScript

variable {H : Host} {I J : Session H → Prop} {id : InstanceId}

/-- The property depends on the status of instances alone, and survives what may become of one that
has not ended. -/
structure DependsOnStatus (I : Session H → Prop) : Prop where
  ignores : ∀ a, (∀ k, a ≠ .status k) → Ignores I a
  moves : ∀ (s : Session H) k x y, s.status? k = some x → x.isActive = true →
    (∀ p, y ≠ .suspended (.host p)) → I s → I (s.modifyInstance k ({ · with status := y }))

namespace DependsOnStatus

lemma and (hI : DependsOnStatus I) (hJ : DependsOnStatus J) :
    DependsOnStatus fun s => I s ∧ J s where
  ignores a ha s t hc hs := ⟨hI.ignores a ha s t hc hs.1, hJ.ignores a ha s t hc hs.2⟩
  moves s k x y hx hactive hy hs :=
    ⟨hI.moves s k x y hx hactive hy hs.1, hJ.moves s k x y hx hactive hy hs.2⟩

variable (hI : DependsOnStatus I)

include hI

lemma within {α : Type} {A : Set Aspect} {p : Engine H α} (hp : Within A p)
    (hA : ∀ k, .status k ∉ A) : Preserves I p :=
  hp.preserves fun a ha => hI.ignores a fun k hk => hA k (hk ▸ ha)

lemma setStatus {s : Session H} {i : Instance H.Predicate} (hi : s.instance? id = some i)
    (hactive : i.isActive = true) {y : Status H.Predicate} (hy : ∀ p, y ≠ .suspended (.host p))
    (hs : I s) : I (s.modifyInstance id ({ · with status := y })) :=
  hI.moves s id i.status y (by simp [Session.status?, hi]) hactive hy hs

lemma terminate {x : Status H.Predicate} (hx : ∀ p, x ≠ .suspended (.host p))
    (text : Instance H.Predicate → String) (o : Occasion) :
    Preserves I (Engine.terminate id x text o) := by
  refine Engine.theInstance_bind (fun i => ?_) fun _ hs _ => hs
  refine Leads.ite (fun hactive => ?_) fun _ => Leads.pure fun _ hs => hs.1
  refine Leads.bind (Leads.modify fun s hs => hI.setStatus hs.2 hactive hx hs.1) fun _ => ?_
  exact hI.within (A := {.scene, .counters, .watchers, .marks id})
    (Engine.logEnded_within id (by simp) (by simp) (by simp) (by simp) _ o) (by simp)

lemma deedKeeps (w : Wiring H) (id : InstanceId) : w.DeedKeeps id I where
  asks _ := hI.within (Engine.play_within (A := {.scene}) (by simp) _) (by simp)
  free a ha := hI.ignores a fun k hk => by simp [hk] at ha
  stopMovie :=
    hI.within (Engine.stopMovie_within (A := {.scene, .movie}) (by simp) (by simp) _) (by simp)
  playMovie file color :=
    hI.within (Engine.playMovie_within (A := {.scene, .movie}) (by simp) (by simp) _ file color)
      (by simp)
  movieEnded := hI.within (Engine.movieEnded_within (A := {.scene}) (by simp) _) (by simp)
  count f _ := hI.within (Engine.count_within (A := {.counters}) (by simp) f) (by simp)
  suspend x hx := by
    refine Engine.theInstance_bind (fun i => ?_) fun _ hs _ => hs
    split
    · next hr =>
      refine Leads.modify fun s hs => hI.setStatus hs.2 (Instance.isActive_of_running hr) ?_ hs.1
      rintro p hp
      simp [Status.suspended.inj hp, Wait.kind] at hx
    · exact Leads.throw fun _ hs => hs.1
  resume := by
    refine Engine.theInstance_bind (fun i => ?_) fun _ hs _ => hs
    split
    · next x hx =>
      refine Leads.modify fun s hs => hI.setStatus hs.2 ?_ (by simp) hs.1
      simp [Instance.isActive, Status.isActive, hx]
    · exact Leads.throw fun _ hs => hs.1
  doze x y s hx hs := hI.moves s id _ _ hx rfl (by simp) hs
  complete := hI.terminate (by simp) _ _
  cancel := hI.terminate (by simp) _ _
  spawn script owner :=
    hI.within (Engine.start_within subset_rfl script owner true none) (by simp)

lemma turnKeeps (w : Wiring H) (id : InstanceId) : w.TurnKeeps id I :=
  (hI.deedKeeps w id).turnKeeps fun a ha => hI.ignores a fun k hk => by simp [hk] at ha

end DependsOnStatus

lemma Change.hosted {a : Aspect} {s t : Session H} (h : Change a s t) :
    t.hostCommands = s.hostCommands ∧ t.hostWaits = s.hostWaits := by
  cases h <;> exact ⟨rfl, rfl⟩

lemma status?_ignores_of_ne {k : InstanceId} {x : Status H.Predicate} {a : Aspect}
    (ha : a ≠ .status k) : Ignores (fun s : Session H => s.status? k = some x) a :=
  fun _ _ hc hs => hc.trait? (fun _ _ _ => rfl) (fun h => absurd h ha) (fun _ _ _ _ => rfl) hs

lemma isHostless_dependsOnStatus : DependsOnStatus (Session.IsHostless (H := H)) where
  ignores a ha s t hc hs := by
    obtain ⟨hcommands, hwaits⟩ := hc.hosted
    refine ⟨hcommands.trans hs.noCommands, hwaits.trans hs.noWaits, fun k p hk => ?_⟩
    rcases hc.status?_or (ha k) with h | ⟨-, h⟩
    · exact hs.own k p (h ▸ hk)
    · simp [h] at hk
  moves s k x y hx _ hy hs := by
    refine ⟨hs.noCommands, hs.noWaits, fun j p hj => ?_⟩
    rw [s.status?_setStatus] at hj
    split at hj
    · obtain ⟨-, -, h⟩ := Option.map_eq_some_iff.mp hj
      exact hy p h
    · exact hs.own j p hj

lemma Session.IsAtStart.isHostless {s : Session H} (h : s.IsAtStart) : s.IsHostless := by
  obtain ⟨setup, scene, fade, files, rfl⟩ := h.eq_mk
  exact ⟨rfl, rfl, by simp [Session.status?, Session.instance?]⟩

lemma withdrawn_dependsOnStatus (vs : List Verb) :
    DependsOnStatus fun s : Session H => s.withdrawn = vs where
  ignores _ _ _ _ hc hs := by cases hc <;> exact hs
  moves _ _ _ _ _ _ _ hs := hs

lemma Session.IsAtStart.withdrawn {s : Session H} (h : s.IsAtStart) : s.withdrawn = [] := by
  obtain ⟨setup, scene, fade, files, rfl⟩ := h.eq_mk
  rfl

def Session.HasEnded (k : InstanceId) (x : Status H.Predicate) (s : Session H) : Prop :=
  s.status? k = some x ∧ x.isActive = false

lemma Session.isActive_eq (s : Session H) (k : InstanceId) :
    s.isActive k = ((s.status? k).map Status.isActive).getD false := by
  unfold isActive status? Instance.isActive
  cases s.instance? k <;> rfl

lemma Session.HasEnded.isActive {s : Session H} {k : InstanceId} {x : Status H.Predicate}
    (h : s.HasEnded k x) : s.isActive k = false := by
  rw [s.isActive_eq, h.1]
  exact h.2

lemma hasEnded_dependsOnStatus (k : InstanceId) (x : Status H.Predicate) :
    DependsOnStatus (Session.HasEnded k x) where
  ignores a ha s t hc hs := ⟨status?_ignores_of_ne (ha k) s t hc hs.1, hs.2⟩
  moves s j y z hy hactive _ hs := by
    have hne : j ≠ k := by
      rintro rfl
      have hxy : y = x := Option.some.inj (hy.symm.trans hs.1)
      simp [hxy, hs.2] at hactive
    exact ⟨by rw [s.status?_setStatus, if_neg hne, hs.1], hs.2⟩

end EventScript
