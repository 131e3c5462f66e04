import EventScript.Session.Schedule
import EventScript.Store.Save

/-!
What a host does with a session: it starts scripts, adds commands and watchers, begins a new game,
and saves and loads the variables.
-/

namespace EventScript.Engine

variable {H : Host}

def startText (text name : String) (owner : Option EntityId) : Engine H InstanceId := do
  start (← ofExcept (Script.parse text name none)) owner true none

def runToEnd (w : Wiring H) (script : Script) (elapsed : Option Float) (maxTicks : Nat) :
    Engine H Nat := do
  let player ← play w.services.player
  let _ ← start script player true none
  tickWhileRunning w elapsed maxTicks

def register (name : String) (command : H.Command) : Engine H Unit := do
  if (Verb.ofName? name).isSome then throw (.builtinName name)
  modify fun s => { s with hostCommands := s.hostCommands.put (Text.lower name) command }

def registerWait (kind : WaitKind) (predicate : H.Predicate) : Engine H Unit :=
  modify fun s => { s with hostWaits := s.hostWaits.put kind predicate }

def withdraw (v : Verb) : Engine H Unit := modify fun s => { s with withdrawn := v :: s.withdrawn }

def waitUntil (id : InstanceId) (predicate : H.Predicate) : Engine H Unit :=
  suspend id (.host predicate)

def newGame (S : Services H.Game) : Engine H Unit := do
  log .info "new game"
  cancelAll S
  stage (Stage.reset S)
  modify ({ · with store := [] })

def setVariable (x : String) : Datum → Engine H Unit
  | .int n => modify fun s => { s with store := s.store.assign x n }
  | d => throw (.notAnInteger x d.shown)

/-- Writes the variables to a file. If they cannot be written, the file holds what came before the
fault. -/
def save (path : String) : Engine H Nat := do
  let s ← get
  let (result, bytes) := Save.save s.store s.setup.now
  let files ← ofExcept (s.files.write path bytes)
  set { s with files }
  ofExcept result

def load (path : String) : Engine H Unit := do
  let s ← get
  let bytes ← ofExcept (s.files.read path)
  let (result, store) := Save.loadInto s.store bytes
  set { s with store }
  ofExcept result

def ensureWatcher (name : String) (failsOn : List Occasion) (early : Bool) : Engine H Unit :=
  modify fun s =>
    if s.watchers.has name then s
    else { s with watchers := s.watchers.put name { failsOn, early } }

def watch (id : InstanceId) (name : String) : Engine H Unit :=
  updateInstance id fun i =>
    if i.watchers.contains name then i else { i with watchers := i.watchers ++ [name] }

def unwatch (id : InstanceId) (name : String) : Engine H Unit :=
  updateInstance id fun i => { i with watchers := i.watchers.erase name }

def clearWatchers (id : InstanceId) : Engine H Unit :=
  updateInstance id ({ · with watchers := [], counted := false })

def dropWatcher (name : String) : Engine H Unit :=
  modify fun s => { s with
    watchers := s.watchers.erase name
    roster := s.roster.map fun i => { i with watchers := i.watchers.erase name } }

end EventScript.Engine
