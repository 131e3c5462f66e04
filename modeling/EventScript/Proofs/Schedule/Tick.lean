import EventScript.Proofs.Schedule.Turns

/-! What a session keeps through its ticks and requests. Beside the turns of its instances these
begin instances, drop them and let the screen move on. -/

namespace EventScript

@[simp] def Aspect.ordering : Set Aspect := {.active, .pending, .paused, .ticks, .asleep, .files}

variable {H : Host} {w : Wiring H} {I : Session H → Prop}

/-- The property survives the opening of a tick if it survives each of these. -/
structure Wiring.OpeningKeeps (w : Wiring H) (I : Session H → Prop) : Prop where
  ordering : ∀ a ∈ Aspect.ordering, Ignores I a
  fade : Ignores I .fade
  log : ∀ level text, Preserves I (Engine.log level text : Engine H Unit)
  orphan : Preserves I (Engine.count Counters.countOrphan : Engine H Unit)
  begin : ∀ id, Preserves I (Engine.begin id : Engine H Unit)
  abort : ∀ id, Preserves I (Engine.abort w.services id : Engine H Unit)
  release : ∀ id, Preserves I (Engine.stage (Stage.release w.services id) : Engine H Unit)
  updateMovie : Preserves I (Engine.stage (Stage.updateMovie w.services) : Engine H Unit)

namespace Wiring.OpeningKeeps

open Engine

variable (hw : w.OpeningKeeps I)

include hw

lemma within {α : Type} {p : Engine H α} (hp : Within (Aspect.ordering ∪ {.fade}) p) :
    Preserves I p := by
  refine hp.preserves fun a ha => ?_
  rcases ha with ha | rfl
  · exact hw.ordering a ha
  · exact hw.fade

lemma drop (id : InstanceId) : Preserves I (Engine.drop w.services id : Engine H Unit) := by
  refine (hw.abort id).bind fun _ => hw.within (.modify fun s => ?_)
  exact .tail ((Change.active s (s.active.erase id)).changes (by simp))
    ⟨.pending, by simp, .pending _ (s.pending.erase id)⟩

lemma promote : Preserves I (Engine.promote : Engine H Unit) :=
  (Modular.preserves I).promote hw.begin
    (hw.within (.modify fun s => (Change.pending s []).changes (by simp)))
    fun _ => hw.within (.modify fun s => (Change.active s _).changes (by simp))

lemma dropOrphansOf (ids : List InstanceId) :
    Preserves I (Engine.dropOrphansOf w.services ids : Engine H Unit) :=
  (Modular.preserves I).dropOrphansOf hw.drop (hw.log _) hw.orphan ids

lemma updateScreen : Preserves I (Engine.updateScreen w.services : Engine H Unit) :=
  (Modular.preserves I).updateScreen (hw.within (updateFade_within (by simp) _)) hw.updateMovie
    hw.release

lemma opening : Preserves I (Engine.opening w.services : Engine H Unit) := by
  refine (hw.within (.modify fun s => (Change.ticks s _).changes (by simp))).bind fun _ => ?_
  exact hw.promote.bind fun _ => Preserves.bind (Preserves.get.bind fun _ => hw.dropOrphansOf _)
    fun _ => hw.updateScreen

lemma retire : Preserves I (modify Session.retire : Engine H PUnit) :=
  hw.within (retire_within (by simp) (by simp))

end Wiring.OpeningKeeps

/-- The property survives ticks and requests if it survives each of these. -/
structure Wiring.TickKeeps (w : Wiring H) (I : Session H → Prop) : Prop where
  turn : ∀ id, w.TurnKeeps id I
  ordering : ∀ a ∈ Aspect.ordering, Ignores I a
  prompt : ∀ a ∈ Aspect.prompt, Ignores I a
  orphan : Preserves I (Engine.count Counters.countOrphan : Engine H Unit)
  begin : ∀ id, Preserves I (Engine.begin id : Engine H Unit)
  start : ∀ script owner pausable watcher,
    Preserves I (Engine.start script owner pausable watcher : Engine H InstanceId)
  updateMovie : Preserves I (Engine.stage (Stage.updateMovie w.services) : Engine H Unit)

namespace Wiring.TickKeeps

open Engine

lemma and {J : Session H → Prop} (hI : w.TickKeeps I) (hJ : w.TickKeeps J) :
    w.TickKeeps fun s => I s ∧ J s where
  turn id := (hI.turn id).and (hJ.turn id)
  ordering a ha s t hc hs := ⟨hI.ordering a ha s t hc hs.1, hJ.ordering a ha s t hc hs.2⟩
  prompt a ha s t hc hs := ⟨hI.prompt a ha s t hc hs.1, hJ.prompt a ha s t hc hs.2⟩
  orphan := hI.orphan.and hJ.orphan
  begin id := (hI.begin id).and (hJ.begin id)
  start script owner pausable watcher :=
    (hI.start script owner pausable watcher).and (hJ.start script owner pausable watcher)
  updateMovie := hI.updateMovie.and hJ.updateMovie

variable (hw : w.TickKeeps I)

include hw

lemma within {α : Type} {p : Engine H α}
    (hp : Within (Aspect.ordering ∪ Aspect.free 0 ∪ Aspect.prompt) p) : Preserves I p := by
  refine hp.preserves fun a ha => ?_
  rcases ha with (ha | ha) | ha
  · exact hw.ordering a ha
  · exact (hw.turn 0).free a ha
  · exact hw.prompt a ha

lemma openingKeeps : w.OpeningKeeps I where
  ordering := hw.ordering
  fade := (hw.turn 0).free .fade (by simp)
  log := (hw.turn 0).log
  orphan := hw.orphan
  begin := hw.begin
  abort id := (hw.turn id).abort
  release id := (hw.turn id).release
  updateMovie := hw.updateMovie

lemma opening : Preserves I (Engine.opening w.services : Engine H Unit) := hw.openingKeeps.opening

lemma retire : Preserves I (modify Session.retire : Engine H PUnit) := hw.openingKeeps.retire

lemma drop (id : InstanceId) : Preserves I (Engine.drop w.services id : Engine H Unit) :=
  hw.openingKeeps.drop id

lemma dropEach (ids : List InstanceId) :
    Preserves I (Engine.dropEach w.services ids : Engine H Unit) :=
  (Modular.preserves I).dropEach hw.drop ids

lemma dropOwned (owner : Option EntityId) (ids : List InstanceId) :
    Preserves I (Engine.dropOwned w.services owner ids : Engine H Unit) :=
  (Modular.preserves I).dropOwned hw.drop owner ids

lemma newGame : Preserves I (Engine.newGame w.services : Engine H Unit) := by
  have hscreen := (Modular.preserves I).stage
  have hclear : Preserves I (stage (Stage.clear w.services) : Engine H Unit) :=
    hscreen.clear (hw.within (updateFade_within (by simp) _)) (hw.turn 0).stopMovie
      (hw.within (stage_within fun s => (Change.asleep s false).changes (by simp)))
  have hreset : Preserves I (stage (Stage.reset w.services) : Engine H Unit) :=
    hscreen.reset (hw.within (setTalk_within (by simp) none))
      (hw.within (setChooser_within (by simp) none)) (hw.turn 0).perform hclear
  refine ((hw.turn 0).log _ _).bind fun _ => ?_
  refine Preserves.bind (Preserves.get.bind fun _ => hw.dropEach _) fun _ => ?_
  exact hreset.bind fun _ => hw.within (.modify fun s => (Change.store s []).changes (by simp))

variable (hI : ∀ s, I s → s.IsHostless)

include hI

lemma stepUpTo (id : InstanceId) (elapsed : Option Float) (n : Nat) :
    Preserves I (Engine.stepUpTo w id elapsed n) := by
  induction n with
  | zero => exact .pure _
  | succ n ih =>
    rw [stepUpTo_succ]
    exact ((hw.turn id).takeTurn hI elapsed).bind fun _ => .ite ih (.pure _)

lemma stepEach (elapsed : Option Float) (ids : List InstanceId) :
    Preserves I (Engine.stepEach w elapsed ids) :=
  (Modular.preserves I).stepEach (fun id n => hw.stepUpTo hI id elapsed n) ids

lemma tick (elapsed : Option Float) : Preserves I (Engine.tick w elapsed) := by
  rw [tick_eq]
  exact hw.opening.bind fun _ => Preserves.bind (Preserves.get.bind fun _ => hw.stepEach hI elapsed _)
    fun _ => hw.retire

/-- All requests but those that are none of the session's own doing. -/
lemma request {r : Request H} (hwatch : ∀ name failsOn early, r = .watch name failsOn early →
      Preserves I (r.run w))
    (hmeanwhile : ∀ f, r = .meanwhile f → Preserves I (r.run w)) : Preserves I (r.run w) := by
  cases r with
  | start script owner pausable watcher => exact (hw.start _ _ _ _).bind fun _ => .pure _
  | startFile file owner pausable watcher =>
    have hload := (hw.turn 0).directing.loadHere file
    exact hload.bind fun _ => (hw.start _ _ _ _).bind fun _ => .pure _
  | startText text name owner =>
    have hread := (hw.turn 0).within (.ofExcept (Script.parse text name none))
    exact Preserves.bind (hread.bind fun _ => hw.start _ _ _ _) fun _ => .pure _
  | tick elapsed => exact hw.tick hI elapsed
  | cancel id => exact hw.drop id
  | cancelOwned owner => exact Preserves.get.bind fun _ => hw.dropOwned owner _
  | cancelAll => exact Preserves.get.bind fun _ => hw.dropEach _
  | setPaused paused =>
    exact hw.within (.modify fun s => (Change.paused s paused).changes (by simp))
  | newGame => exact hw.newGame
  | save path => exact hw.within ((save_within (by simp) path).bind fun _ => .pure _)
  | load path => exact hw.within (load_within (by simp) path)
  | setVariable name value => exact hw.within (setVariable_within (by simp) _ _)
  | watch name failsOn early => exact hwatch name failsOn early rfl
  | meanwhile f => exact hmeanwhile f rfl
  | changeFiles f => exact hw.within (.modify fun s => (Change.files s _).changes (by simp))

end Wiring.TickKeeps

namespace Engine

variable {k : InstanceId}

lemma count_erase_le {id : InstanceId} {l ids : List InstanceId}
    (h : l.count k ≤ (id :: ids).count k) : (l.erase id).count k ≤ ids.count k := by
  rw [List.count_cons] at h
  rw [List.count_erase]
  omega

lemma dropEach_unlists (S : Services H.Game) (ids : List InstanceId) :
    Triple (fun s => s.active.count k ≤ ids.count k ∧ s.pending.count k ≤ ids.count k)
      (dropEach S ids : Engine H Unit) (fun _ s => k ∉ s.instances) fun _ _ => True := by
  induction ids with
  | nil =>
    refine Triple.pure fun s ⟨hactive, hpending⟩ => ?_
    rw [List.count_nil, Nat.le_zero, List.count_eq_zero] at hactive hpending
    exact List.not_mem_append hactive hpending
  | cons id ids ih =>
    have habort : Preserves (fun s : Session H => s.active.count k ≤ (id :: ids).count k ∧
        s.pending.count k ≤ (id :: ids).count k) (abort S id) := by
      refine (abort_within (A := Aspect.canceling id) subset_rfl S).preserves ?_
      intro a ha s t hc hs
      cases hc <;> first | exact hs | simp at ha
    refine Triple.bind (Triple.after habort (fun _ _ _ => trivial) fun _ => ?_) fun _ => ih
    exact Triple.modify fun s ⟨hactive, hpending⟩ =>
      ⟨count_erase_le hactive, count_erase_le hpending⟩

lemma cancelAll_unlists (S : Services H.Game) (k : InstanceId) : Triple (fun _ => True)
    (cancelAll S : Engine H Unit) (fun _ s => k ∉ s.instances) fun _ _ => True := by
  refine Triple.get_bind fun s _ => (dropEach_unlists S s.instances).weaken ?_ (fun _ _ h => h)
    fun _ _ h => h
  rintro _ rfl
  simp [Session.instances]

end Engine

section Status

variable (hI : DependsOnStatus I)

include hI

lemma DependsOnStatus.tickKeeps (w : Wiring H) : w.TickKeeps I where
  turn := hI.turnKeeps w
  ordering a ha := hI.ignores a fun k hk => by simp [hk] at ha
  prompt a ha := hI.ignores a fun k hk => by simp [hk] at ha
  orphan := hI.within (Engine.count_within (A := {.counters}) (by simp) _) (by simp)
  begin id := hI.within (Engine.begin_within (A := {.scene, .watchers, .marks id}) (by simp)
    (by simp) (by simp)) (by simp)
  start script owner pausable watcher :=
    hI.within (Engine.start_within subset_rfl script owner pausable watcher) (by simp)
  updateMovie :=
    hI.within (Engine.updateMovie_within (A := {.scene, .movie}) (by simp) (by simp) _) (by simp)

lemma DependsOnStatus.request (hless : ∀ s, I s → s.IsHostless) (w : Wiring H) (r : Request H) :
    Preserves I (r.run w) := by
  refine (hI.tickKeeps w).request hless ?_ ?_
  · rintro name failsOn early rfl
    exact hI.within (Engine.ensureWatcher_within (A := {.watchers}) (by simp) _ _ _) (by simp)
  · rintro f rfl
    exact hI.within (A := {.scene}) (.modify fun s => (Change.scene s _).changes (by simp))
      (by simp)

end Status

lemma Session.HasEnded.after {s : Session H} {k : InstanceId} {x : Status H.Predicate}
    (h : s.HasEnded k x) (hs : s.IsHostless) (w : Wiring H) (rs : List (Request H)) :
    (s.after w rs).HasEnded k x := by
  have hI := isHostless_dependsOnStatus.and (hasEnded_dependsOnStatus (H := H) k x)
  exact (s.after_induction w (fun r => hI.request (fun _ h => h.1) w r) ⟨hs, h⟩ rs).2

/-- The property depends on the game, the movie and the watchers alone, and survives each of
these. -/
structure Wiring.StageKeeps (w : Wiring H) (I : Session H → Prop) : Prop where
  quiet : ∀ a, a ≠ .scene → a ≠ .movie → a ≠ .watchers → Ignores I a
  asks : ∀ {α : Type} {p : Play H.Game α}, w.services.Asks p → Preserves I (Engine.play p)
  stopMovie : Preserves I (Engine.stage (Stage.stopMovie w.services) : Engine H Unit)
  playMovie : ∀ file color,
    Preserves I (Engine.stage (Stage.playMovie w.services file color) : Engine H Bool)
  movieEnded : Preserves I (Engine.stage (Stage.movieEnded w.services) : Engine H Bool)
  updateMovie : Preserves I (Engine.stage (Stage.updateMovie w.services) : Engine H Unit)
  note : ∀ watcher o id, Preserves I (Engine.note watcher o id : Engine H Unit)

lemma Ignores.of_screen {J : Screen H.Game InstanceId → Prop}
    (hJ : ∀ x y, y.scene = x.scene → y.ui.movie = x.ui.movie → J x → J y) {a : Aspect}
    (hscene : a ≠ .scene) (hmovie : a ≠ .movie) : Ignores (fun s : Session H => J s.screen) a := by
  intro s t hc hs
  cases hc with
  | scene => exact absurd rfl hscene
  | movie => exact absurd rfl hmovie
  | talk | chooser | fade | asleep => exact hJ s.screen _ rfl rfl hs
  | _ => exact hs

namespace Wiring.StageKeeps

open Engine

variable (hw : w.StageKeeps I)

include hw

lemma within {α : Type} {A : Set Aspect} {p : Engine H α} (hp : Within A p)
    (hA : .scene ∉ A ∧ .movie ∉ A ∧ .watchers ∉ A) : Preserves I p :=
  hp.preserves fun a ha => hw.quiet a (fun h => hA.1 (h ▸ ha)) (fun h => hA.2.1 (h ▸ ha))
    fun h => hA.2.2 (h ▸ ha)

lemma theInstance (id : InstanceId) :
    Preserves I (Engine.theInstance id : Engine H (Instance H.Predicate)) :=
  hw.within (theInstance_within (A := ∅) id) (by simp)

lemma logFor (id : InstanceId) (level : LogLevel) (text : String) :
    Preserves I (Engine.logFor id level text : Engine H Unit) :=
  Preserves.get.bind fun _ => hw.asks (.log level _)

lemma terminate {id : InstanceId} (x : Status H.Predicate) (text : Instance H.Predicate → String)
    (o : Occasion) : Preserves I (Engine.terminate id x text o) := by
  refine (hw.theInstance id).bind fun i => .ite ?_ (.pure _)
  refine (hw.within (setStatus_within (A := {.status id}) rfl x) (by simp)).bind fun _ => ?_
  refine (hw.logFor id _ _).bind fun _ => (Modular.preserves I).ended (hw.note · o id) ?_ ?_
  · exact fun f => hw.within (count_within (A := {.counters}) rfl f) (by simp)
  · exact hw.within (setMarks_within (A := {.marks id}) rfl fun i => ⟨i.begun, false, [], rfl⟩)
      (by simp)

lemma begin (id : InstanceId) : Preserves I (Engine.begin id : Engine H Unit) := by
  refine (hw.theInstance id).bind fun i => .ite ?_ (.pure _)
  have hmarks : Within {.marks id} (updateInstance id ({ · with begun := true }) : Engine H Unit) :=
    setMarks_within (by simp) fun i => ⟨true, i.counted, i.watchers, rfl⟩
  exact (hw.within hmarks (by simp)).bind fun _ => (hw.logFor id _ _).bind fun _ =>
    (Modular.preserves I).noteAll (hw.note · _ id) _

lemma start (script : Script) (owner : Option EntityId) (pausable : Bool)
    (watcher : Option String) :
    Preserves I (Engine.start script owner pausable watcher : Engine H InstanceId) :=
  hw.within (start_within subset_rfl script owner pausable watcher) (by simp)

lemma deedKeeps (id : InstanceId) : w.DeedKeeps id I where
  asks := hw.asks
  free a ha := by
    refine hw.quiet a ?_ ?_ ?_ <;> rintro rfl <;> simp at ha
  stopMovie := hw.stopMovie
  playMovie := hw.playMovie
  movieEnded := hw.movieEnded
  count f _ := hw.within (count_within (A := {.counters}) rfl f) (by simp)
  suspend x _ := hw.within (suspend_within (A := {.status id}) rfl x) (by simp)
  resume := hw.within (resume_within (A := {.status id}) rfl) (by simp)
  doze x y s _ hs := hw.quiet _ (by simp) (by simp) (by simp) _ _ (Change.status s id _) hs
  complete := hw.terminate _ _ _
  cancel := hw.terminate _ _ _
  spawn script owner := hw.start script owner true none

lemma prompt (a : Aspect) (ha : a ∈ Aspect.prompt) : Ignores I a := by
  refine hw.quiet a ?_ ?_ ?_ <;> rintro rfl <;> simp at ha

lemma tickKeeps : w.TickKeeps I where
  turn id := (hw.deedKeeps id).turnKeeps hw.prompt
  prompt := hw.prompt
  ordering a ha := by
    refine hw.quiet a ?_ ?_ ?_ <;> rintro rfl <;> simp at ha
  orphan := hw.within (count_within (A := {.counters}) rfl _) (by simp)
  begin := hw.begin
  start := hw.start
  updateMovie := hw.updateMovie

end Wiring.StageKeeps

/-- The property of the scene survives all that the game is asked for. -/
structure Services.Keeps {σ : Type} (S : Services σ) (I : Scene σ → Prop) : Prop where
  asks : ∀ {α : Type} {p : Play σ α}, S.Asks p → Preserves I p
  playVideo : ∀ file color, Preserves I (S.playVideo file color)
  videoStopped : ∀ v, Preserves I (S.videoStopped v)
  stopVideo : ∀ v, Preserves I (S.stopVideo v)

lemma Services.Keeps.stageKeeps {J : Scene H.Game → Prop} (hS : w.services.Keeps J) :
    w.StageKeeps fun s => J s.scene := by
  have hscreen := Modular.preserves fun x : Screen H.Game InstanceId => J x.scene
  have hlook (v : VideoId) := Stage.play_preserves (η := InstanceId) (hS.videoStopped v)
  have hset (m : Movie) : Preserves (fun x : Screen H.Game InstanceId => J x.scene)
      (Stage.setMovie m) := Leads.modify fun _ hx => hx
  have hstop := hscreen.stopMovie hlook (fun m _ => hset m) fun v =>
    Stage.play_preserves (hS.stopVideo v)
  exact {
    quiet := fun a hscene _ _ s t hc hs => by
      cases hc with
      | scene => exact absurd rfl hscene
      | _ => exact hs
    asks := fun hp => Engine.stage_preserves (Stage.play_preserves (hS.asks hp))
    stopMovie := Engine.stage_preserves hstop
    playMovie := fun file color => Engine.stage_preserves <|
      hscreen.playMovie hstop (Stage.play_preserves (hS.playVideo file color))
        (fun level text => Stage.play_preserves (hS.asks (.log level text))) hset
    movieEnded := Engine.stage_preserves (hscreen.movieEnded hlook)
    updateMovie := Engine.stage_preserves (hscreen.updateMovie hlook fun m _ => hset m)
    note := fun name o id => Leads.modify fun s hs => by split <;> exact hs }

end EventScript
