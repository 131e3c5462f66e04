import EventScript.Session.Step

/-!
Running instances side by side. In a tick the instances that were started since the last one
begin, those whose owner is gone are dropped, the screen moves on, and then each instance takes
its steps in the order in which they were started. An instance never runs in the tick in which it
was started.
-/

namespace EventScript.Engine

variable {H : Host}

def drop (S : Services H.Game) (id : InstanceId) : Engine H Unit := do
  abort S id
  modify fun s => { s with active := s.active.erase id, pending := s.pending.erase id }

def dropEach (S : Services H.Game) : List InstanceId → Engine H Unit
  | [] => pure ()
  | id :: ids => do
    drop S id
    dropEach S ids

def cancelAll (S : Services H.Game) : Engine H Unit := do
  dropEach S (← get).instances

def dropOwned (S : Services H.Game) (owner : Option EntityId) : List InstanceId → Engine H Unit
  | [] => pure ()
  | id :: ids => do
    if (← owner? id).map (·.1) = owner then drop S id
    dropOwned S owner ids

def cancelOwned (S : Services H.Game) (owner : Option EntityId) : Engine H Unit := do
  dropOwned S owner (← get).instances

def setPaused (paused : Bool) : Engine H Unit := modify ({ · with paused })

def beginEach : List InstanceId → Engine H Unit
  | [] => pure ()
  | id :: ids => do
    begin id
    beginEach ids

def promote : Engine H Unit := do
  let promoted := (← get).pending
  modify ({ · with pending := [] })
  beginEach promoted
  modify fun s => { s with active := s.active ++ promoted }

def dropOrphansOf (S : Services H.Game) : List InstanceId → Engine H Unit
  | [] => pure ()
  | id :: ids => do
    let i ← theInstance id
    if i.isOrphaned (← get).scene then
      log .info ("dropping orphaned " ++ i.label)
      count Counters.countOrphan
      drop S id
    dropOrphansOf S ids

def dropOrphans (S : Services H.Game) : Engine H Unit := do
  dropOrphansOf S (← get).active

def updateScreen (S : Services H.Game) : Engine H Unit := do
  let holders := (← get).holders
  stage (Stage.update S holders)

/-- Steps an instance at most so many times. A step that fails as a whole ends the instance. -/
def stepUpTo (w : Wiring H) (id : InstanceId) (elapsed : Option Float) : Nat → Engine H Unit
  | 0 => pure ()
  | n + 1 => do
    match ← attempt (step w id elapsed) with
    | .ok .proceed => stepUpTo w id elapsed n
    | .ok _ => pure ()
    | .error _ =>
      count Counters.countUnexpected
      let label := (← get).label id
      log .error s!"step failed for {label}, canceling it"
      abort w.services id

def stepEach (w : Wiring H) (elapsed : Option Float) : List InstanceId → Engine H Unit
  | [] => pure ()
  | id :: ids => do
    let i ← theInstance id
    if i.isActive && !((← get).paused && i.pausable) then
      stepUpTo w id elapsed (← get).setup.maxSteps
    stepEach w elapsed ids

def stepAll (w : Wiring H) (elapsed : Option Float) : Engine H Unit := do
  stepEach w elapsed (← get).active

end EventScript.Engine

namespace EventScript.Session

variable {H : Host}

def isAsleep (s : Session H) (id : InstanceId) : Bool :=
  match (s.instance? id).bind (·.status.wait?) with
  | some (.sleep _) => true
  | _ => false

/-- Takes instances that have ended off the list, and notes whether any of the others sleeps. -/
def retire (s : Session H) : Session H :=
  let active := s.active.filter s.isActive
  let ui := { s.screen.ui with asleep := active.any s.isAsleep }
  { s with active, screen := { s.screen with ui } }

end EventScript.Session

namespace EventScript.Engine

variable {H : Host}

def tick (w : Wiring H) (elapsed : Option Float) : Engine H Unit := do
  modify fun s => { s with ticks := s.ticks + 1 }
  promote
  dropOrphans w.services
  updateScreen w.services
  stepAll w elapsed
  modify Session.retire

def tickTimes (w : Wiring H) (elapsed : Option Float) : Nat → Engine H Unit
  | 0 => pure ()
  | n + 1 => do
    tick w elapsed
    tickTimes w elapsed n

def tickWhileRunning (w : Wiring H) (elapsed : Option Float) : Nat → Engine H Nat
  | 0 => return 0
  | n + 1 => do
    if (← get).isRunning then
      tick w elapsed
      return (← tickWhileRunning w elapsed n) + 1
    else return 0

end EventScript.Engine
