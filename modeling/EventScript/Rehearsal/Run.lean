import EventScript.Rehearsal.Op
import EventScript.Session.Control

/-!
Carrying out a rehearsal. Its commands can do whatever an operation can, so they may call each
other; how deeply is bounded.
-/

namespace EventScript.Rehearsal

open EventScript.Engine

abbrev Act := Engine host

def quietly (p : Act Unit) : Act Reply := do
  p
  return .nothing

def onGame {α : Type} (p : Play Game α) : Act α := Engine.play (H := host) p

def updateGame (f : Game → Game) : Act Unit := onGame (Play.updateGame f)

def updateWorld (f : World → World) : Act Unit := onGame (Game.updateWorld f)

def game : Act Game := onGame Play.game

def makePredicate (behavior : Behavior) : Act Predicate := do
  let meter := (← game).meters.size
  updateGame fun g => { g with meters := g.meters.push 0 }
  return ⟨behavior, meter⟩

def ask (S : Services Game) (p : Predicate) (id : InstanceId) : Act Bool := do
  updateGame fun g => { g with meters := g.meters.modify p.meter (· + 1) }
  match p.behavior with
  | .gate name => return (Ledger.get? (← game).gates name).getD false
  | .polls least => return least ≤ (((← game).meters[p.meter]?).getD 0 : Nat)
  | .raise f => throw f
  | .cancel result => do
    Engine.drop S id
    return result
  | .bareCancel result => do
    Engine.cancel id
    return result
  | .complete result => do
    Engine.complete id
    return result
  | .resume result => do
    Engine.resume id
    return result
  | .cancelRaise f => do
    Engine.cancel id
    throw f
  | .answer result => return result

def deref (S : Services Game) : Ref → Act (Option EntityId)
  | .nobody => return none
  | .card name => do
    match Ledger.get? (← game).cards name with
    | some e => return some e
    | none => throw .missingKey
  | .player => onGame S.player
  | .npc name => onGame (S.npc name)
  | .obj name => onGame (S.obj name)

def failingName : String := "bad"

def theWatcher (name : String) : Act Unit :=
  Engine.ensureWatcher name (if name.startsWith failingName then [.begin] else []) false

def optionalWatcher : Option String → Act Unit
  | some name => theWatcher name
  | none => pure ()

def stepTimes (w : Wiring host) (id : InstanceId) (elapsed : Option Float) : Nat → Act (List String)
  | 0 => return []
  | n + 1 => do
    let r ← Engine.step w id elapsed
    return r.tag :: (← stepTimes w id elapsed n)

def Move.carryOut (w : Wiring host) (id : InstanceId) : Move → Act Reply
  | .state => return .state id
  | .step elapsed times => do
    let x ← Engine.ofExcept elapsed.toReal
    return .steps (← stepTimes w id (some x) times) id
  | .abort => quietly (Engine.abort w.services id)
  | .cancel => quietly (Engine.drop w.services id)
  | .bareCancel => quietly (Engine.cancel id)
  | .bareComplete => quietly (Engine.complete id)
  | .begin => quietly (Engine.begin id)
  | .jump target => quietly (Engine.jump id target)
  | .watch name => do
    theWatcher name
    quietly (Engine.watch id name)
  | .unwatch name => do
    theWatcher name
    quietly (Engine.unwatch id name)
  | .clearWatchers => quietly (Engine.clearWatchers id)

def Move.run (w : Wiring host) (id : InstanceId) (m : Move) : Act Reply := do
  let _ ← Engine.theInstance (H := host) id
  m.carryOut w id

def collectCard (card : String) : Act Unit := do
  match Ledger.get? (← game).cards card with
  | none => throw .missingKey
  | some e =>
    updateGame fun g =>
      let keep (p : Option EntityId) := if p = some e then none else p
      { g with
        cards := Ledger.erase g.cards card
        world := { g.world with
          player := keep g.world.player
          npcs := g.world.npcs.filter (· ≠ e)
          objs := g.world.objs.filter (· ≠ e) }
        headless := { g.headless with player := keep g.headless.player } }
    onGame (Play.updateEntity e ({ · with gone := true }))

def releaseEntity (e : EntityId) : Act Unit := do
  let g ← game
  if !g.headless.refersTo e && !g.cards.any (·.2 = e) then
    onGame (Play.updateEntity e ({ · with gone := true }))

def setPlayer (player : Option EntityId) : Act Unit := do
  let g ← game
  match g.cast with
  | .headless =>
    updateGame fun g => { g with headless := { g.headless with player } }
    if let some old := g.headless.player then releaseEntity old
  | _ => updateWorld ({ · with player })

def setMap (map : Datum) : Act Unit :=
  updateGame fun g =>
    match g.cast with
    | .headless => { g with headless := { g.headless with map } }
    | _ => { g with world := { g.world with map } }

def alter (e : Option EntityId) (f : Entity → Entity) : Act Unit :=
  match e with
  | some e => onGame (Play.updateEntity e f)
  | none => throw .nobody

def setEntity (e : Option EntityId) (removed : Option Bool) (position : Option (Datum × Datum))
    (name : Option String) : Act Unit := do
  if let some removed := removed then alter e ({ · with removed })
  if let some (x, y) := position then
    let position ← Engine.ofExcept (Point.ofData x y)
    alter e ({ · with position := some position })
  if let some name := name then alter e ({ · with name })

def setFailure (service : String) (fault : Option Fault) : Act Unit :=
  updateWorld fun w => { w with
    failures := match fault with
      | some f => Ledger.put w.failures service f
      | none => Ledger.erase w.failures service }

def setReplies (dialogEnded selectionEnded : Option Bool) (choice : Option Datum) : Act Unit :=
  updateWorld fun w => { w with
    dialogEnded := dialogEnded.getD w.dialogEnded
    selectionEnded := selectionEnded.getD w.selectionEnded
    choice := choice.getD w.choice }

/-- Takes a built-in command out, which can be done once. The commands that steer a script cannot be
taken out. -/
def withdrawOnce (v : Verb) : Act Unit := do
  if v.isControlFlow || (← get).withdrawn.contains v then throw .missingKey
  Engine.withdraw v

def scriptOf (S : Services Game) : Source → Act Script
  | .file name => Engine.loadHere (H := host) S name
  | .text text name => Engine.ofExcept (Script.parse text name none)

def Op.run (w : Wiring host) : Op → Act Reply
  | .runText text name owner => do
    let owner ← deref w.services owner
    return .id (← Engine.startText text name owner)
  | .runScript source owner pausable watcher => do
    let owner ← deref w.services owner
    optionalWatcher watcher
    let script ← scriptOf w.services source
    return .id (← Engine.start script owner pausable watcher)
  | .create text name owner pausable watcher => do
    let owner ← deref w.services owner
    optionalWatcher watcher
    let script ← scriptOf w.services (.text text name)
    return .id (← Engine.create script owner pausable watcher)
  | .tick elapsed times => do
    let x ← Engine.ofExcept elapsed.toReal
    quietly (Engine.tickTimes w (some x) times)
  | .runToEnd text name elapsed maxTicks => do
    let script ← scriptOf w.services (.text text name)
    let x ← Engine.ofExcept elapsed.toReal
    return .number (← Engine.runToEnd w script (some x) maxTicks)
  | .move id m => m.run w id
  | .cancelOwned owner => do
    Engine.cancelOwned w.services (← deref w.services owner)
    return .nothing
  | .cancelAll => quietly (Engine.cancelAll w.services)
  | .setPaused paused => quietly (Engine.setPaused paused)
  | .newGame => quietly (Engine.newGame w.services)
  | .save path => do
    let _ ← Engine.save (H := host) path
    return .nothing
  | .load path => quietly (Engine.load path)
  | .setVariable name value => quietly (Engine.setVariable name value)
  | .forbidSpawn => quietly (modify ({ · with canSpawn := false }))
  | .withdraw tag =>
    match Verb.all.find? (·.tag = tag) with
    | some v => quietly (withdrawOnce v)
    | none => throw .missingKey
  | .reply dialogEnded selectionEnded choice =>
    quietly (setReplies dialogEnded selectionEnded choice)
  | .fail service fault => quietly (setFailure service fault)
  | .gate name isOpen =>
    quietly (updateGame fun g => { g with gates := Ledger.put g.gates name isOpen })
  | .silence number => quietly (onGame (Game.silenceNumbered number))
  | .isPlaying => return .flag (!(← Engine.stage (H := host) (Stage.movieEnded w.services)))
  | .entity ref removed position name => do
    quietly (setEntity (← deref w.services ref) removed position name)
  | .collect card => quietly (collectCard card)
  | .world player map => do
    if let some ref := player then setPlayer (← deref w.services ref)
    if let some map := map then setMap map
    return .nothing
  | .dropWatcher name => do
    if !(← get).watchers.has name then throw .missingKey
    quietly (Engine.dropWatcher name)
  | .place path node => do
    let files ← Engine.ofExcept ((← get).files.place (Path.ofString path) node)
    quietly (modify ({ · with files }))
  | .clearCache => quietly (modify ({ · with cache := [] }))
  | .candidates file map => do
    return .texts ((← Engine.ofExcept ((← get).candidates file map)).map (·.text))
  | .resolve file map => do
    return .text ((← Engine.ofExcept ((← get).resolve file map)).map (·.text))
  | .loadScript file map => return .script (← Engine.loadScript (H := host) file map)
  | .readScript path => return .script (← Engine.readScript (H := host) (Path.ofString path))
  | .randomItem path =>
    return .text (some (← Engine.randomItem (H := host) w.services (Path.ofString path)))
  | .registerWait kind behavior => do
    Engine.registerWait (H := host) kind (← makePredicate behavior)
    return .nothing
  | .register name actions => quietly (Engine.register (H := host) name actions)
  | .reject fault => throw fault

def textArg (c : Command) (i : Nat) : Act String :=
  match c.args[i]? with
  | some (.text s) => pure s
  | _ => throw .missingArgument

def intArg (c : Command) (i : Nat) : Act Int := do
  match Text.readInteger? (← textArg c i).toList with
  | some n => return n
  | none => throw .notANumber

def Action.run (w : Wiring host) (id : InstanceId) (c : Command) : Action → Act Unit
  | .wait behavior => do
    Engine.waitUntil (H := host) id (← makePredicate behavior)
  | .raise f => throw f
  | .jump => do
    Engine.jump id (← intArg c 0)
  | .assign => do
    let x ← textArg c 0
    Engine.assign x (← intArg c 1)
  | .spawn text => do
    let owner := (← Engine.owner? (H := host) id).map (·.1)
    let _ ← Engine.startText (H := host) text "spawned.txt" owner
  | .self m => do
    let _ ← m.run w id
  | .op o => do
    let _ ← o.run w

def runActions (w : Wiring host) (id : InstanceId) (c : Command) : List Action → Act Unit
  | [] => pure ()
  | a :: as => do
    a.run w id c
    runActions w id c as

def perform (w : Wiring host) (actions : List Action) (id : InstanceId) (c : Command) :
    Act Unit := do
  onGame (Game.note "custom" (.text c.name :: c.params.map .text))
  runActions w id c actions

def wiring (cast : Cast) : Nat → Wiring host
  | 0 => {
    services := Game.services cast
    runCommand := fun _ _ _ => throw .tooDeep
    poll := ask (Game.services cast) }
  | n + 1 => {
    services := Game.services cast
    runCommand := perform (wiring cast n)
    poll := ask (Game.services cast) }

def depth : Nat := 140

end EventScript.Rehearsal
