import EventScript.Entity

/-!
The scene a session plays in: the state of the game, all entities there ever were, and the log.
Operations on it may fail, and what they did before failing stays done.
-/

namespace EventScript

inductive LogLevel where
  | info
  | warning
  | error
  deriving DecidableEq

def LogLevel.tag : LogLevel → String
  | info => "INFO"
  | warning => "WARNING"
  | error => "ERROR"

structure LogLine where
  level : LogLevel
  text : String
  deriving DecidableEq

structure Scene (σ : Type) where
  game : σ
  entities : Array Entity := #[]
  log : Array LogLine := #[]

abbrev Play (σ : Type) := EStateM Fault (Scene σ)

namespace Scene

variable {σ : Type}

def write (s : Scene σ) (level : LogLevel) (text : String) : Scene σ :=
  { s with log := s.log.push ⟨level, text⟩ }

def entity? (s : Scene σ) (e : EntityId) : Option Entity :=
  match s.entities[e]? with
  | some x => if x.gone then none else some x
  | none => none

def updateEntity (s : Scene σ) (e : EntityId) (f : Entity → Entity) : Scene σ :=
  { s with entities := s.entities.modify e f }

end Scene

namespace Play

variable {σ : Type}

def log (level : LogLevel) (text : String) : Play σ Unit := modify (·.write level text)

def info (text : String) : Play σ Unit := log .info text

def game : Play σ σ := return (← get).game

def updateGame (f : σ → σ) : Play σ Unit := modify fun s => { s with game := f s.game }

def updateEntity (e : EntityId) (f : Entity → Entity) : Play σ Unit := modify (·.updateEntity e f)

def introduce (x : Entity) : Play σ EntityId := do
  let s ← get
  set { s with entities := s.entities.push x }
  return s.entities.size

end Play

end EventScript
