import EventScript.Rehearsal.Game
import EventScript.Session.Basic

/-!
What can be done in a rehearsal, written down: operations on the session and the game, and the
commands that a rehearsal adds, which are lists of actions.
-/

namespace EventScript.Rehearsal

/-- An entity, by what it is called in the rehearsal or in the world. -/
inductive Ref where
  | nobody
  | card (name : String)
  | player
  | npc (name : String)
  | obj (name : String)

/-- What a predicate does when it is asked; `result` is its answer then. -/
inductive Behavior where
  | gate (name : String)
  /-- True from the given number of questions on. -/
  | polls (least : Int)
  | raise (fault : Fault)
  | cancel (result : Bool)
  | bareCancel (result : Bool)
  | complete (result : Bool)
  | resume (result : Bool)
  | cancelRaise (fault : Fault)
  | answer (result : Bool)

/-- A behavior with a meter of its own that counts the questions. -/
structure Predicate where
  behavior : Behavior
  meter : Nat

inductive Source where
  | file (name : String)
  | text (text name : String)

inductive Move where
  | state
  | step (elapsed : Datum) (times : Nat)
  | abort
  | cancel
  | bareCancel
  | bareComplete
  | begin
  | jump (target : Int)
  | watch (watcher : String)
  | unwatch (watcher : String)
  | clearWatchers

mutual

inductive Op where
  | runText (text name : String) (owner : Ref)
  | runScript (source : Source) (owner : Ref) (pausable : Bool) (watcher : Option String)
  /-- Makes an instance that the session does not run. -/
  | create (text name : String) (owner : Ref) (pausable : Bool) (watcher : Option String)
  | tick (elapsed : Datum) (times : Nat)
  | runToEnd (text name : String) (elapsed : Datum) (maxTicks : Nat)
  | move (id : InstanceId) (move : Move)
  | cancelOwned (owner : Ref)
  | cancelAll
  | setPaused (paused : Bool)
  | newGame
  | save (path : String)
  | load (path : String)
  | setVariable (name : String) (value : Datum)
  | forbidSpawn
  | withdraw (tag : String)
  | reply (dialogEnded selectionEnded : Option Bool) (choice : Option Datum)
  /-- Lets a service fail, or no longer fail. -/
  | fail (service : String) (fault : Option Fault)
  | gate (name : String) (isOpen : Bool)
  | silence (number : Int)
  | isPlaying
  /-- Changes an entity; what is not given stays. -/
  | entity (ref : Ref) (removed : Option Bool) (position : Option (Datum × Datum))
    (name : Option String)
  | collect (card : String)
  | world (player : Option Ref) (map : Option Datum)
  | dropWatcher (watcher : String)
  | place (path : String) (node : Node)
  | clearCache
  | candidates (file : String) (map : Datum)
  | resolve (file : String) (map : Datum)
  | loadScript (file : String) (map : Datum)
  | readScript (path : String)
  | randomItem (path : String)
  | registerWait (kind : WaitKind) (behavior : Behavior)
  | register (name : String) (actions : List Action)
  /-- An operation that was not understood. -/
  | reject (fault : Fault)

inductive Action where
  | wait (behavior : Behavior)
  | raise (fault : Fault)
  /-- Jumps to the number in the first argument. -/
  | jump
  /-- Assigns the number in the second argument to the variable in the first. -/
  | assign
  | spawn (text : String)
  /-- Does something to the instance that runs the command. -/
  | self (move : Move)
  | op (op : Op)

end

inductive Reply where
  | nothing
  | id (id : InstanceId)
  | number (n : Nat)
  | flag (b : Bool)
  | state (id : InstanceId)
  | steps (results : List String) (id : InstanceId)
  | texts (texts : List String)
  | text (text : Option String)
  | script (script : Script)

def host : Host where
  Game := Game
  Command := List Action
  Predicate := Predicate

end EventScript.Rehearsal
