import EventScript.Session.Basic

/-!
The life of an instance: how it is made, begins, waits, goes on and ends. An instance that has ended
stays as it is.
-/

namespace EventScript.Engine

variable {H : Host}

def create (script : Script) (owner : Option EntityId) (pausable : Bool) (watcher : Option String) :
    Engine H InstanceId := do
  let s ← get
  let ownerName := (owner.bind s.scene.entity?).map (·.name)
  let id := s.roster.size
  let i : Instance H.Predicate :=
    { id, script, owner, ownerName, pausable, watchers := watcher.toList }
  set { s with roster := s.roster.push i }
  return id

def note (watcher : String) (occasion : Occasion) (id : InstanceId) : Engine H Unit :=
  modify fun s =>
    match s.watchers.get? watcher with
    | none => s
    | some w =>
      let w := { w with notes := w.notes.push (occasion, id) }
      { s with watchers := s.watchers.put watcher w }

def noteAll (occasion : Occasion) (id : InstanceId) : List String → Engine H Unit
  | [] => pure ()
  | w :: ws => do
    note w occasion id
    if (← get).fails occasion w then throw .watcherFailed
    noteAll occasion id ws

/-- Tells the watchers of an instance that it has ended, the session among them, and lets them go.
One that fails keeps those behind it from being told, and all of them from being let go. -/
def ended (id : InstanceId) (occasion : Occasion) : Engine H Unit := do
  let i ← theInstance id
  let s ← get
  noteAll occasion id (i.watchers.filter s.isEarly)
  if i.counted then
    count fun c => if occasion = .complete then c.countCompletion else c.countCancel
  noteAll occasion id (i.watchers.filter (!s.isEarly ·))
  updateInstance id ({ · with counted := false, watchers := [] })

def begin (id : InstanceId) : Engine H Unit := do
  let i ← theInstance id
  if !i.begun then
    updateInstance id ({ · with begun := true })
    logFor id .info "begin"
    noteAll .begin id i.watchers

def complete (id : InstanceId) : Engine H Unit := do
  let i ← theInstance id
  if i.isActive then
    setStatus id .completed
    logFor id .info "complete"
    ended id .complete

def cancel (id : InstanceId) : Engine H Unit := do
  let i ← theInstance id
  if i.isActive then
    setStatus id .canceled
    logFor id .info s!"cancel at command {i.cursor}"
    ended id .cancel

def abort (S : Services H.Game) (id : InstanceId) : Engine H Unit := do
  let i ← theInstance id
  if i.isActive then
    stage (Stage.release S id)
    cancel id

def suspend (id : InstanceId) (wait : Wait H.Predicate) : Engine H Unit := do
  match (← theInstance id).status with
  | .running => setStatus id (.suspended wait)
  | _ => throw .assertion

def resume (id : InstanceId) : Engine H Unit := do
  match (← theInstance id).status with
  | .suspended _ => setStatus id .running
  | _ => throw .assertion

def jump (id : InstanceId) (target : Int) : Engine H Unit := do
  let i ← theInstance id
  if target < i.cursor then throw (.backwardJump i.cursor target)
  setCursor id target.toNat

def owner? (id : InstanceId) : Engine H (Option (EntityId × Entity)) := do
  let i ← theInstance id
  let scene := (← get).scene
  return (i.owner? scene).bind fun e => (scene.entity? e).map (e, ·)

end EventScript.Engine
