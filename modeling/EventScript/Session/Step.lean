import EventScript.Session.Builtin

/-!
One step of an instance: it carries out the command at its cursor or, while it waits, looks
whether it may go on. A fault of a command or of a wait is logged and counted and costs that
command or wait; only a fatal one ends the instance.
-/

namespace EventScript

/-- How a step ended: the instance can take another, waits, or has ended. -/
inductive StepResult where
  | proceed
  | suspended
  | completed
  deriving DecidableEq

def StepResult.tag : StepResult → String
  | proceed => "CONTINUE"
  | suspended => "SUSPENDED"
  | completed => "COMPLETED"

namespace Engine

variable {H : Host}

def jumpToTarget (id : InstanceId) (target : Option Nat) : Engine H Unit :=
  match target with
  | some t => jump id t
  | none => throw .assertion

/-- Whether a condition holds. The answer is noted together with the condition, which is a fault if
that cannot be written out. -/
def decideOn (c : Condition) : Engine H Bool := do
  let answer := c.holds (← get).store
  if !c.isPrintable then throw .tooManyDigits
  return answer

def steer (id : InstanceId) (target : Option Nat) : Instruction → Engine H Unit
  | .jumpUnless c => do
    if !(← decideOn c) then jumpToTarget id target
  | .jumpIf c => do
    if ← decideOn c then jumpToTarget id target
  | .jump => jumpToTarget id target
  | .leave => do
    jump id (← theInstance id).script.size
  | _ => pure ()

def executeBuiltin (S : Services H.Game) (id : InstanceId) (v : Verb) (c : Command) :
    Engine H Unit := do
  if !v.isControlFlow && (← get).withdrawn.contains v then
    throw (.script .unknownCommand ("no handler for " ++ v.tag))
  match Instruction.ofArgs? v c.args with
  | none => throw .missingArgument
  | some i => if v.isControlFlow then steer id c.target i else carryOut S id i

def execute (w : Wiring H) (id : InstanceId) (c : Command) : Engine H Unit := do
  match c.error with
  | some e =>
    let name := (← theInstance id).script.name
    throw (.script .parse s!"{name}:{c.line}: {e.message}")
  | none =>
    count Counters.countExecuted
    match c.kind with
    | .builtin v => executeBuiltin w.services id v c
    | .unknown =>
      match (← get).hostCommands.get? (Text.lower c.name) with
      | some command => w.runCommand command id c
      | none => throw (.script .unknownCommand ("unknown command " ++ c.name))
    | .invalid => throw (.script .unknownCommand "no handler for INVALID")

def finish (id : InstanceId) : Engine H StepResult := do
  let i ← theInstance id
  if !i.isActive then return .completed
  if i.isAtEnd then
    complete id
    return .completed
  return .proceed

def settle (id : InstanceId) : Engine H StepResult := do
  if (← theInstance id).status.isSuspended then
    count Counters.countSuspension
    return .suspended
  finish id

def runCommandAt (w : Wiring H) (id : InstanceId) (c : Command) : Engine H StepResult := do
  setCursor id ((← theInstance id).cursor + 1)
  match ← attempt (execute w id c) with
  | .ok () => settle id
  | .error (.fatal text) =>
    count Counters.countFatal
    logFor id .error s!"aborting on line {c.line} {c.name}: {text}"
    abort w.services id
    return .completed
  | .error (.script kind text) =>
    count (·.countScriptFault kind)
    logFor id .warning s!"line {c.line} {c.name}: {text}"
    settle id
  | .error _ =>
    count Counters.countUnexpected
    logFor id .error s!"unexpected error on line {c.line} {c.name}"
    settle id

def waitDialogue (S : Services H.Game) (id : InstanceId) : Engine H Bool := do
  if !(← get).ui.holdsTalk id then return true
  if !(← play S.dialogEnded) then return false
  match ← stage (Stage.advanceTalk S) with
  | some line =>
    perform S (.showDialog line.text line.portrait)
    return false
  | none => return true

def waitSleep (id : InstanceId) (remaining : Float) (elapsed : Option Float) : Engine H Bool :=
  match elapsed with
  | none => throw .wrongKind
  | some x => do
    let left := remaining - x
    setStatus id (.suspended (.sleep left))
    return left ≤ 0

/-- Once a choice is made it is kept in the variable, if there is one, and the selection ends. -/
def waitSelection (S : Services H.Game) (id : InstanceId) (out : Option String) :
    Engine H Bool := do
  if !(← get).ui.holdsSelection id then return true
  if !(← play S.selectionEnded) then return false
  let choice ← play S.choice
  keepChoice out choice
  stage (Stage.endSelection id)
  return true

def pollWait (w : Wiring H) (id : InstanceId) (elapsed : Option Float) :
    Wait H.Predicate → Engine H Bool
  | .dialogue => waitDialogue w.services id
  | .sleep remaining => waitSleep id remaining elapsed
  | .fadeOut => return (← get).ui.fade.outEnded
  | .fadeIn => return (← get).ui.fade.inEnded
  | .selection out => waitSelection w.services id out
  | .movie => stage (Stage.movieEnded w.services)
  | .host p => w.poll p id

def poll (w : Wiring H) (id : InstanceId) (elapsed : Option Float) (wait : Wait H.Predicate) :
    Engine H Bool := do
  match (← get).hostWaits.get? wait.kind with
  | some p => w.poll p id
  | none => pollWait w id elapsed wait

def waitTag (id : InstanceId) : Engine H String := do
  match (← theInstance id).status.wait? with
  | some wait => return wait.kind.tag
  | none => throw .noSuspension

def reportWait (S : Services H.Game) (id : InstanceId) : Fault → Engine H Unit
  | .fatal text => do
    count Counters.countFatal
    let tag ← waitTag id
    logFor id .error s!"aborting while waiting on {tag}: {text}"
    abort S id
  | .script kind text => do
    count (·.countScriptFault kind)
    let tag ← waitTag id
    logFor id .warning s!"while waiting on {tag}: {text}"
  | _ => do
    count Counters.countUnexpected
    let tag ← waitTag id
    logFor id .error ("unexpected error waiting on " ++ tag)

/-- Whether an instance may go on. A broken wait does not hold it up, and gives back what it held.
-/
def checkWait (w : Wiring H) (id : InstanceId) (elapsed : Option Float) (wait : Wait H.Predicate) :
    Engine H Bool := do
  match ← attempt (poll w id elapsed wait) with
  | .ok ready => return ready
  | .error f =>
    reportWait w.services id f
    if !(← theInstance id).isActive then return false
    stage (Stage.release w.services id)
    return true

/-- One step; `elapsed` is the time that went by since the last tick, as far as it is known. -/
def step (w : Wiring H) (id : InstanceId) (elapsed : Option Float) : Engine H StepResult := do
  let i ← theInstance id
  match i.status with
  | .completed | .canceled => return .completed
  | .suspended wait =>
    if ← checkWait w id elapsed wait then
      resume id
      finish id
    else return if (← theInstance id).isActive then .suspended else .completed
  | .running =>
    match i.command? with
    | none =>
      complete id
      return .completed
    | some c => runCommandAt w id c

end Engine

end EventScript
