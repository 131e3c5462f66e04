import EventScript.Command.Instruction
import EventScript.Session.Inventory
import EventScript.Session.Lifecycle
import EventScript.Session.Loader

/-!
Carrying out the built-in commands, apart from those that steer the script.
-/

namespace EventScript.Engine

variable {H : Host}

def checkDigits (ns : List Int) : Engine H Unit :=
  if ns.any Text.exceedsDigitLimit then throw .tooManyDigits else pure ()

def assign (x : String) (n : Int) : Engine H Unit := do
  if Text.exceedsDigitLimit n then throw .tooManyDigits
  modify fun s => { s with store := s.store.assign x n }

def add (x : String) (n : Int) : Engine H Unit := do
  modify fun s => { s with store := s.store.add x n }
  if Text.exceedsDigitLimit n || Text.exceedsDigitLimit ((← get).store.value x) then
    throw .tooManyDigits

def assignDatum (x : String) : Datum → Engine H Unit
  | .int n => assign x n
  | d => throw (.notAnInteger x d.shown)

/-- Keeps a choice in a variable. Without one it is only noted, so that a number still has to be one
that can be written out. -/
def keepChoice : Option String → Datum → Engine H Unit
  | some x, d => assignDatum x d
  | none, d => if d.isPrintable then pure () else throw .tooManyDigits

def requirePlayer (S : Services H.Game) : Engine H Unit := do
  if (← play S.player).isNone then throw (.fatal "there is no player")

def entityOfKind (kind : EntityKind) (id : InstanceId) : Engine H (Option EntityId) := do
  match ← owner? id with
  | some (e, x) => return if x.kind = kind then some e else none
  | none => return none

/-- A character by name: the player, or an npc. Without a name it is the owner, if it is one. -/
def character? (S : Services H.Game) (id : InstanceId) (name : String) :
    Engine H (Option EntityId) := do
  if name = "" then entityOfKind .character id
  else
    let player ← play S.player
    let scene := (← get).scene
    if ((player.bind scene.entity?).map (·.name)) = some name then return player
    match ← play (S.npc name) with
    | some e => return some e
    | none => throw (.script .unresolvedTarget ("no npc named \"" ++ name ++ "\""))

def obj? (S : Services H.Game) (id : InstanceId) (name : String) : Engine H (Option EntityId) := do
  if name = "" then entityOfKind .obj id
  else
    match ← play (S.obj name) with
    | some e => return some e
    | none => throw (.script .unresolvedTarget ("no obj named \"" ++ name ++ "\""))

def loadHere (S : Services H.Game) (file : String) : Engine H Script := do
  loadScript file (← play S.mapName)

def loadOptional (S : Services H.Game) (file : String) : Engine H (Option Script) := do
  if file = "" then return none
  return some (← loadHere S file)

def talkText? (S : Services H.Game) (index : Int) : Engine H (Option String) := do
  match ← play (S.talkLine index) with
  | some line => return some line.text
  | none =>
    checkDigits [index]
    return none

def updateEntity (e : Option EntityId) (f : Entity → Entity) : Engine H Unit :=
  match e with
  | none => pure ()
  | some e => play (Play.updateEntity e f)

def updateOfKind (kind : EntityKind) (e : Option EntityId) (f : Entity → Entity) :
    Engine H Unit := do
  let scene := (← get).scene
  match e.bind scene.entity? with
  | none => pure ()
  | some x => if x.kind = kind then updateEntity e f else throw .unfit

def talk (S : Services H.Game) (id : InstanceId) (first last : Int) : Engine H Unit := do
  let holders := (← get).holders
  match ← stage (Stage.beginTalk S holders id first last) with
  | none => checkDigits [first, last]
  | some line =>
    perform S (.showDialog line.text line.portrait)
    suspend id .dialogue

def choose (S : Services H.Game) (id : InstanceId) (first second question : String)
    (out : Option String) : Engine H Unit := do
  let holders := (← get).holders
  stage (Stage.beginSelection holders id)
  perform S (.selection first second question)
  suspend id (.selection out)

def sleep (id : InstanceId) (milliseconds : Int) : Engine H Unit :=
  match Decimal.ofInt? milliseconds with
  | some x => suspend id (.sleep x)
  | none => throw .overflow

def playSound (S : Services H.Game) (id : InstanceId) (file : String) : Engine H Unit := do
  let listener ← play S.listener
  let position := match ← owner? id with
    | some (_, x) => if x.isActor then x.position.getD listener else listener
    | none => listener
  perform S (.playSound file (position.sub listener))

def start (script : Script) (owner : Option EntityId) (pausable : Bool) (watcher : Option String) :
    Engine H InstanceId := do
  let id ← create script owner pausable watcher
  updateInstance id ({ · with counted := true })
  modify fun s => { s with pending := s.pending ++ [id] }
  count Counters.countStart
  return id

def runScript (S : Services H.Game) (id : InstanceId) (file : String) : Engine H Unit := do
  if !(← get).canSpawn then throw (.script .plain "nothing to run scripts with")
  let script ← loadHere S file
  let owner := (← owner? id).map (·.1)
  let _ ← start script owner true none

def refuseRange (least most : Int) : Engine H Unit := do
  checkDigits [least, most]
  throw (.script .plain s!"empty money range {least}-{most}")

def addRandMoney (S : Services H.Game) (least most : Int) : Engine H Unit := do
  requirePlayer S
  if most < least then refuseRange least most
  perform S (.addPlayerMoney (← play (S.random least (most + 1))))

def setLevelFile (S : Services H.Game) (id : InstanceId) (file : String) : Engine H Unit := do
  match ← entityOfKind .character id with
  | none => pure ()
  | some e =>
    let path := (Path.ofString (← get).setup.settings.levelDir).child file
    let list ← play (S.levelList path.text)
    updateEntity (some e) ({ · with levelList := list })

def addRandGoods (S : Services H.Game) (file : String) : Engine H Unit := do
  let setup := (← get).setup
  let item ← randomItem S ((setup.dataRoot.child setup.settings.buyDir).child file)
  if item ≠ "" then addGood S item

def carryOut (S : Services H.Game) (id : InstanceId) : Instruction → Engine H Unit
  | .jumpUnless _ | .jumpIf _ | .jump | .pass | .leave => pure ()
  | .assign x n => assign x n
  | .add x n => add x n
  | .talk first last => talk S id first last
  | .choose a b question out => choose S id a b question out
  | .memoLine index => do
    match ← talkText? S index with
    | some text => perform S (.addMemo text)
    | none => pure ()
  | .messageLine index => do
    match ← talkText? S index with
    | some text => perform S (.showMessage text)
    | none => pure ()
  | .sleep n => sleep id n
  | .fadeOut => do
    stage (Stage.updateFade Fade.fadeOut)
    suspend id .fadeOut
  | .fadeIn => do
    stage (Stage.updateFade Fade.fadeIn)
    suspend id .fadeIn
  | .playSound file => playSound S id file
  | .playMovie file color => do
    let _ ← stage (Stage.playMovie S file color)
  | .stopMovie => stage (Stage.stopMovie S)
  | .waitMovieEnd => do
    if !(← stage (Stage.movieEnded S)) then suspend id .movie
  | .runScript file => runScript S id file
  | .setNpcScript name file => do
    let e ← character? S id name
    let script ← loadOptional S file
    updateEntity e ({ · with script })
  | .setNpcDeathScript name file => do
    let e ← character? S id name
    let deathScript ← loadOptional S file
    updateEntity e ({ · with deathScript })
  | .setObjScript name file => do
    let e ← obj? S id name
    let script ← loadOptional S file
    updateEntity e ({ · with script })
  | .addRandMoney least most => addRandMoney S least most
  | .setNpcLevel name level => do
    let e ← character? S id name
    updateOfKind .character e ({ · with level })
  | .setLevelFile file => setLevelFile S id file
  | .addGoods file => addGood S file
  | .addRandGoods file => addRandGoods S file
  | .deleteOwnGood => do
    match ← owner? id with
    | some (_, x) => if x.isGood then perform S (.deleteGood x.file)
    | none => pure ()
  | .addMagic file => addMagic S file
  | .setMagicLevel file level => do
    perform S (.setMagicLevel file level)
    perform S .updatePracticeView
  | .loadMap file => do
    perform S .stopRain
    log .info ("loading map " ++ file)
    perform S (.loadMap file)
  | .deleteOwnObj => do
    updateEntity (← entityOfKind .obj id) ({ · with removed := true })
  | .openBox name => do
    updateOfKind .obj (← obj? S id name) ({ · with opened := true })
  | .saveTraps => do
    perform S (.saveTrap (← get).setup.settings.trapSavePath)
  | .call c => perform S c
  | .callForPlayer c => do
    requirePlayer S
    perform S c
  | .callIfPlayer c => do
    if (← play S.player).isSome then perform S c

end EventScript.Engine
