import EventScript.Proofs.Effect
import EventScript.Session.Control

/-! What happens to a session from outside. Requests that fail leave what they did before failing,
so the history of a session runs on through their faults. -/

namespace EventScript

/-- What is asked of a session between its ticks, and what happens to its game meanwhile. -/
inductive Request (H : Host) where
  | start (script : Script) (owner : Option EntityId) (pausable : Bool) (watcher : Option String)
  | startFile (file : String) (owner : Option EntityId) (pausable : Bool) (watcher : Option String)
  | startText (text name : String) (owner : Option EntityId)
  | tick (elapsed : Option Float)
  | cancel (id : InstanceId)
  | cancelOwned (owner : Option EntityId)
  | cancelAll
  | setPaused (paused : Bool)
  | newGame
  | save (path : String)
  | load (path : String)
  | setVariable (name : String) (value : Datum)
  | watch (name : String) (failsOn : List Occasion) (early : Bool)
  /-- The game goes on: entities are removed, answers change. -/
  | meanwhile (f : Scene H.Game → Scene H.Game)
  | changeFiles (f : Files → Files)

def Host.plain (Game : Type) : Host := ⟨Game, Empty, Empty⟩

def Services.wiring {Game : Type} (S : Services Game) : Wiring (Host.plain Game) where
  services := S
  runCommand command := nomatch command
  poll predicate := nomatch predicate

variable {H : Host}

def Request.run (w : Wiring H) : Request H → Engine H Unit
  | start script owner pausable watcher => do
    let _ ← Engine.start script owner pausable watcher
  | startFile file owner pausable watcher => do
    let script ← Engine.loadHere w.services file
    let _ ← Engine.start script owner pausable watcher
  | startText text name owner => do
    let _ ← Engine.startText text name owner
  | tick elapsed => Engine.tick w elapsed
  | cancel id => Engine.drop w.services id
  | cancelOwned owner => Engine.cancelOwned w.services owner
  | cancelAll => Engine.cancelAll w.services
  | setPaused paused => Engine.setPaused paused
  | newGame => Engine.newGame w.services
  | save path => do
    let _ ← Engine.save path
  | load path => Engine.load path
  | setVariable name value => Engine.setVariable name value
  | watch name failsOn early => Engine.ensureWatcher name failsOn early
  | meanwhile f => modify fun s => { s with screen := { s.screen with scene := f s.screen.scene } }
  | changeFiles f => modify fun s => { s with files := f s.files }

namespace Session

/-- A session that was just set up, in whatever way. -/
def IsAtStart (s : Session H) : Prop :=
  ∃ settings root dataRoot maxSteps now files scene,
    start settings root dataRoot maxSteps now files scene = .ok s

lemma IsAtStart.eq_mk {s : Session H} (h : s.IsAtStart) : ∃ setup scene fade files,
    s = { setup, screen := { scene, ui := { fade } }, files } := by
  obtain ⟨settings, root, dataRoot, maxSteps, now, files, scene, h⟩ := h
  unfold start at h
  dsimp only at h
  split at h
  · cases h
  · obtain rfl := Except.ok.inj h
    exact ⟨_, _, _, _, rfl⟩

def sample (maxSteps : Nat) (scene : Scene H.Game) (files : Files := [])
    (hsteps : 0 < maxSteps := by decide) : Session H where
  setup := {
    settings := Settings.ofTree Settings.builtin
    root := .ofString (Settings.ofTree Settings.builtin).scriptRoot
    dataRoot := .ofString ""
    maxSteps
    now := { year := 2000, month := 1, day := 1 }
    maxSteps_pos := hsteps }
  screen := { scene, ui := { fade := { rate := (Settings.ofTree Settings.builtin).fadeRate } } }
  files

lemma sample_isAtStart {maxSteps : Nat} {scene : Scene H.Game} {files : Files}
    {hsteps : 0 < maxSteps} : (sample maxSteps scene files hsteps).IsAtStart := by
  refine ⟨Settings.ofTree Settings.builtin, none, none, some maxSteps,
    { year := 2000, month := 1, day := 1 }, files, scene, ?_⟩
  have hbudget : ¬ (maxSteps : Int) < 1 := by omega
  unfold start
  exact dif_neg hbudget

/-- The session after some requests, whether or not they failed. -/
def after (w : Wiring H) (s : Session H) (rs : List (Request H)) : Session H :=
  rs.foldl (fun s r => endState (r.run w) s) s

lemma after_keeps {I : Session H → Prop} (w : Wiring H) {s : Session H} {rs : List (Request H)}
    (hI : ∀ r ∈ rs, Preserves I (r.run w)) (hs : I s) : I (s.after w rs) := by
  induction rs generalizing s with
  | nil => exact hs
  | cons r rs ih =>
    exact ih (fun q hq => hI q (List.mem_cons_of_mem r hq)) ((hI r List.mem_cons_self).endState hs)

lemma after_induction {I : Session H → Prop} (w : Wiring H)
    (hI : ∀ r : Request H, Preserves I (r.run w)) {s : Session H} (hs : I s)
    (rs : List (Request H)) : I (s.after w rs) :=
  s.after_keeps w (fun r _ => hI r) hs

end Session

end EventScript
