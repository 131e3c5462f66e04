import EventScript.Datum
import EventScript.Script.Basic

/-!
What scripts run on behalf of: characters, objects on the map, goods of the inventory.
-/

namespace EventScript

structure Point where
  x : Float := 0
  y : Float := 0

def Point.sub (p q : Point) : Point := ⟨p.x - q.x, p.y - q.y⟩

def Point.ofData (x y : Datum) : Except Fault Point := do
  return ⟨← x.toReal, ← y.toReal⟩

structure Color where
  red : Int
  green : Int
  blue : Int
  deriving DecidableEq

namespace Color

def white : Color := ⟨255, 255, 255⟩

def parts (c : Color) : List Int := [c.red, c.green, c.blue]

def text (c : Color) : String := s!"({c.red}, {c.green}, {c.blue})"

end Color

inductive EntityKind where
  | character
  | obj
  | good
  deriving DecidableEq

abbrev EntityId := Nat

structure Entity where
  kind : EntityKind
  name : String
  /-- The file of a good. -/
  file : String := ""
  /-- Where it stands, if it stands anywhere. -/
  position : Option Point := some {}
  /-- Taken out of the world, although something may still refer to it. -/
  removed : Bool := false
  /-- Nothing but the scripts it owns refers to it any more. -/
  gone : Bool := false
  script : Option Script := none
  deathScript : Option Script := none
  level : Int := 1
  levelList : Datum := .null
  opened : Bool := false

namespace Entity

def isCharacter (e : Entity) : Bool := e.kind = .character

def isObj (e : Entity) : Bool := e.kind = .obj

def isGood (e : Entity) : Bool := e.kind = .good

def isActor (e : Entity) : Bool := e.isCharacter || e.isObj

def shown (e : Entity) : String :=
  match e.kind with
  | .character => "Character(" ++ e.name ++ ")"
  | .obj => "Obj(" ++ e.name ++ ")"
  | .good => "Good(" ++ e.file ++ ")"

end Entity

end EventScript
