import EventScript.Fault

/-!
What a session counts.
-/

namespace EventScript

structure Counters where
  executed : Nat := 0
  parseErrors : Nat := 0
  unknownCommands : Nat := 0
  unresolvedTargets : Nat := 0
  resourceConflicts : Nat := 0
  scriptErrors : Nat := 0
  fatalAborts : Nat := 0
  unexpectedErrors : Nat := 0
  suspensions : Nat := 0
  started : Nat := 0
  completed : Nat := 0
  canceled : Nat := 0
  orphaned : Nat := 0
  deriving DecidableEq

namespace Counters

def toList (c : Counters) : List Nat := [
  c.executed, c.parseErrors, c.unknownCommands, c.unresolvedTargets, c.resourceConflicts,
  c.scriptErrors, c.fatalAborts, c.unexpectedErrors, c.suspensions, c.started, c.completed,
  c.canceled, c.orphaned]

def countExecuted (c : Counters) : Counters := { c with executed := c.executed + 1 }

def countScriptFault (c : Counters) : ScriptFault → Counters
  | .plain => { c with scriptErrors := c.scriptErrors + 1 }
  | .parse => { c with parseErrors := c.parseErrors + 1 }
  | .unknownCommand => { c with unknownCommands := c.unknownCommands + 1 }
  | .unresolvedTarget => { c with unresolvedTargets := c.unresolvedTargets + 1 }
  | .resourceConflict => { c with resourceConflicts := c.resourceConflicts + 1 }

def countFatal (c : Counters) : Counters := { c with fatalAborts := c.fatalAborts + 1 }

def countUnexpected (c : Counters) : Counters :=
  { c with unexpectedErrors := c.unexpectedErrors + 1 }

def countSuspension (c : Counters) : Counters := { c with suspensions := c.suspensions + 1 }

def countStart (c : Counters) : Counters := { c with started := c.started + 1 }

def countCompletion (c : Counters) : Counters := { c with completed := c.completed + 1 }

def countCancel (c : Counters) : Counters := { c with canceled := c.canceled + 1 }

def countOrphan (c : Counters) : Counters := { c with orphaned := c.orphaned + 1 }

end Counters

end EventScript
