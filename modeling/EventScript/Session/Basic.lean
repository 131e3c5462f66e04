import EventScript.Files
import EventScript.Session.Counters
import EventScript.Session.Instance
import EventScript.Settings.Basic
import EventScript.Store.Moment
import EventScript.Store.Basic
import EventScript.Ui.Update

/-!
A session: the game with its screen, the variables, every instance that was made, and the lists of
those that are to run. What a host adds to it, commands of its own and things to wait for, is left
open.
-/

namespace EventScript

structure Host where
  /-- The state of its game. -/
  Game : Type
  /-- Its commands. -/
  Command : Type
  /-- What its commands can wait for. -/
  Predicate : Type

structure Setup where
  settings : Settings
  /-- Where scripts are found. -/
  root : Path
  /-- Where buy lists are found. -/
  dataRoot : Path
  /-- How many steps an instance may take in one tick. -/
  maxSteps : Nat
  /-- The date written into saved variables. -/
  now : Moment
  maxSteps_pos : 0 < maxSteps := by omega

inductive Occasion where
  | begin
  | complete
  | cancel
  deriving DecidableEq

def Occasion.tag : Occasion → String
  | begin => "begin"
  | complete => "complete"
  | cancel => "cancel"

structure Watcher where
  notes : Array (Occasion × InstanceId) := #[]
  /-- What it fails at when it is told of it. -/
  failsOn : List Occasion := []
  /-- Whether it is told of an end before the session counts it. Nothing fixes this order. -/
  early : Bool := false

structure Session (H : Host) where
  setup : Setup
  screen : Screen H.Game InstanceId
  store : Store := []
  roster : Array (Instance H.Predicate) := #[]
  /-- The instances that run, in the order in which they were started. -/
  active : List InstanceId := []
  /-- The instances that begin with the next tick. -/
  pending : List InstanceId := []
  paused : Bool := false
  ticks : Nat := 0
  counters : Counters := {}
  watchers : Ledger String Watcher := []
  files : Files := []
  /-- Scripts that were read before, by their path. -/
  cache : Ledger Path Script := []
  /-- The commands of the host, by their names in small letters. -/
  hostCommands : Ledger String H.Command := []
  /-- Built-in commands that were taken out. -/
  withdrawn : List Verb := []
  /-- Waits that the host decides in place of the session. -/
  hostWaits : Ledger WaitKind H.Predicate := []
  /-- Whether scripts can start scripts. -/
  canSpawn : Bool := true

abbrev Engine (H : Host) := EStateM Fault (Session H)

structure Wiring (H : Host) where
  services : Services H.Game
  runCommand : H.Command → InstanceId → Command → Engine H Unit
  poll : H.Predicate → InstanceId → Engine H Bool

namespace Session

variable {H : Host}

def scene (s : Session H) : Scene H.Game := s.screen.scene

def ui (s : Session H) : Ui InstanceId := s.screen.ui

def instance? (s : Session H) (id : InstanceId) : Option (Instance H.Predicate) := s.roster[id]?

def isActive (s : Session H) (id : InstanceId) : Bool :=
  match s.instance? id with
  | some i => i.isActive
  | none => false

def label (s : Session H) (id : InstanceId) : String :=
  match s.instance? id with
  | some i => i.label
  | none => ""

def isEarly (s : Session H) (watcher : String) : Bool := (s.watchers.get? watcher).any (·.early)

def fails (s : Session H) (occasion : Occasion) (watcher : String) : Bool :=
  (s.watchers.get? watcher).any (·.failsOn.contains occasion)

def holders (s : Session H) : Holders InstanceId where
  isActive := s.isActive
  label := s.label

def instances (s : Session H) : List InstanceId := s.active ++ s.pending

def isRunning (s : Session H) : Bool := s.active.any s.isActive || !s.pending.isEmpty

def start (settings : Settings) (root dataRoot : Option String) (maxSteps : Option Int)
    (now : Moment) (files : Files) (scene : Scene H.Game) : Except Fault (Session H) :=
  let steps := maxSteps.getD settings.maxSteps
  if h : steps < 1 then .error (.badStepBudget steps)
  else .ok {
    setup := {
      settings
      root := Path.ofString (root.getD settings.scriptRoot)
      dataRoot := Path.ofString (dataRoot.getD "")
      maxSteps := steps.toNat
      now }
    screen := { scene, ui := { fade := { rate := settings.fadeRate } } }
    files }

end Session

namespace Engine

variable {H : Host} {α : Type}

def stage (p : Stage H.Game InstanceId α) : Engine H α := fun s =>
  match p s.screen with
  | .ok a screen => .ok a { s with screen }
  | .error f screen => .error f { s with screen }

def play (p : Play H.Game α) : Engine H α := stage (Stage.play p)

def attempt (p : Engine H α) : Engine H (Except Fault α) := fun s =>
  match p s with
  | .ok a s => .ok (.ok a) s
  | .error f s => .ok (.error f) s

def ofExcept : Except Fault α → Engine H α
  | .ok a => pure a
  | .error f => throw f

def count (f : Counters → Counters) : Engine H Unit :=
  modify fun s => { s with counters := f s.counters }

def theInstance (id : InstanceId) : Engine H (Instance H.Predicate) := do
  match (← get).instance? id with
  | some i => return i
  | none => throw .missingKey

def updateInstance (id : InstanceId)
    (f : Instance H.Predicate → Instance H.Predicate) : Engine H Unit :=
  modify fun s => { s with roster := s.roster.modify id f }

def setStatus (id : InstanceId) (status : Status H.Predicate) : Engine H Unit :=
  updateInstance id ({ · with status })

def setCursor (id : InstanceId) (cursor : Nat) : Engine H Unit :=
  updateInstance id ({ · with cursor })

def logFor (id : InstanceId) (level : LogLevel) (text : String) : Engine H Unit := do
  let label := (← get).label id
  play (Play.log level (label ++ " " ++ text))

def log (level : LogLevel) (text : String) : Engine H Unit := play (Play.log level text)

end Engine

end EventScript
