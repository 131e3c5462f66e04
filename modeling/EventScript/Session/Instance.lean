import EventScript.Scene

/-!
Instances: running copies of a script. An instance has a cursor into its script and either runs,
waits for something, or has ended, by completing or by being canceled.
-/

namespace EventScript

/-- The number of an instance, counted from zero in the order in which instances were made. -/
abbrev InstanceId := Nat

inductive WaitKind where
  | dialogue
  | sleep
  | fadeOut
  | fadeIn
  | selection
  | movie
  | host
  deriving DecidableEq

def WaitKind.tag : WaitKind → String
  | dialogue => "DIALOGUE_ADVANCE"
  | sleep => "SLEEP"
  | fadeOut => "FADE_OUT_COMPLETE"
  | fadeIn => "FADE_IN_COMPLETE"
  | selection => "SELECTION_MADE"
  | movie => "MOVIE_END"
  | host => "CUSTOM_PREDICATE"

inductive Wait (π : Type) where
  | dialogue
  /-- The milliseconds that are left. -/
  | sleep (remaining : Float)
  | fadeOut
  | fadeIn
  /-- The variable that takes the choice. -/
  | selection (out : Option String)
  | movie
  | host (predicate : π)

def Wait.kind {π : Type} : Wait π → WaitKind
  | dialogue => .dialogue
  | sleep _ => .sleep
  | fadeOut => .fadeOut
  | fadeIn => .fadeIn
  | selection _ => .selection
  | movie => .movie
  | host _ => .host

inductive Status (π : Type) where
  | running
  | suspended (wait : Wait π)
  | completed
  | canceled

namespace Status

variable {π : Type}

def isActive : Status π → Bool
  | running | suspended _ => true
  | completed | canceled => false

def wait? : Status π → Option (Wait π)
  | suspended w => some w
  | _ => none

def isSuspended (s : Status π) : Bool := s.wait?.isSome

def tag : Status π → String
  | running => "RUNNING"
  | suspended _ => "SUSPENDED"
  | completed => "COMPLETED"
  | canceled => "CANCELED"

end Status

structure Instance (π : Type) where
  id : InstanceId
  script : Script
  /-- What the script runs on behalf of. -/
  owner : Option EntityId := none
  /-- The name of the owner when the instance was made. -/
  ownerName : Option String := none
  pausable : Bool := true
  cursor : Nat := 0
  status : Status π := .running
  begun : Bool := false
  /-- Whether the scheduler still counts how the instance ends. -/
  counted : Bool := false
  /-- The watchers that are told of its beginning and end. -/
  watchers : List String := []

namespace Instance

variable {π : Type}

def isActive (i : Instance π) : Bool := i.status.isActive

def isAtEnd (i : Instance π) : Bool := i.script.size ≤ i.cursor

def command? (i : Instance π) : Option Command := i.script.commands[i.cursor]?

def label (i : Instance π) : String :=
  let owner := i.ownerName.getD "None"
  s!"{i.script.name}#{i.id + 1}@{owner}"

def owner? {σ : Type} (i : Instance π) (s : Scene σ) : Option EntityId :=
  match i.owner with
  | none => none
  | some e => if (s.entity? e).isSome then some e else none

def isOrphaned {σ : Type} (i : Instance π) (s : Scene σ) : Bool :=
  match i.owner with
  | none => false
  | some e =>
    match s.entity? e with
    | none => true
    | some x => x.removed

end Instance

end EventScript
