import EventScript.Command.Basic

/-!
Scripts: commands in order and the labels between them.
-/

namespace EventScript

structure Script where
  name : String
  commands : List Command := []
  /-- A label stands before the command with this index. -/
  labels : Ledger String Nat := []
  path : Option String := none

namespace Script

def size (s : Script) : Nat := s.commands.length

def errors (s : Script) : List Command := s.commands.filter fun c => !c.isValid

end Script

end EventScript
