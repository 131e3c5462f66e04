import EventScript.Services.Basic
import EventScript.Decimal.Bracket
import EventScript.Path
import EventScript.Text.Digit
import EventScript.Video

/-!
A game without a screen: it keeps a small world, notes in the log what a player would see, and makes
every selection the same way.
-/

namespace EventScript

structure Headless where
  player : Option EntityId := none
  /-- The name of the current map. -/
  map : Datum := .null
  npcs : Ledger String EntityId := []
  objs : Ledger String EntityId := []
  /-- The script of each trap, by map and number. -/
  traps : Ledger (Option String × Int) String := []
  money : Int := 0
  raining : Bool := false
  snowing : Bool := false
  /-- The names of goods by file. -/
  goods : Ledger String String := []
  /-- Names and levels of magics by file. -/
  magics : Ledger String (String × Int) := []
  /-- The option every selection picks. -/
  choice : Datum := .int 0
  talk : TalkText := []
  videos : Array Video := #[]
  /-- How many looks every video lasts. -/
  videoFrames : Int := 1

namespace Headless

def signed (n : Int) : String := if n < 0 then toString n else "+" ++ toString n

def checkDigits (ns : List Int) : Play Headless Unit :=
  if ns.any Text.exceedsDigitLimit then throw .tooManyDigits else pure ()

def residents (h : Headless) : EntityKind → Ledger String EntityId
  | .character => h.npcs
  | .obj => h.objs
  | .good => []

def setResidents (h : Headless) (l : Ledger String EntityId) : EntityKind → Headless
  | .character => { h with npcs := l }
  | .obj => { h with objs := l }
  | .good => h

def noun : EntityKind → String
  | .character => "npc"
  | .obj => "obj"
  | .good => "good"

def refersTo (h : Headless) (e : EntityId) : Bool :=
  h.player = some e || h.npcs.any (·.2 = e) || h.objs.any (·.2 = e)

def release (e : EntityId) : Play Headless Unit := do
  if !(← Play.game).refersTo e then Play.updateEntity e ({ · with gone := true })

/-- Puts a new entity into the world, where its name is that of its file without directory and
extension. One that had this name before is forgotten. -/
def addEntity (kind : EntityKind) (file : String) (x y : Datum) : Play Headless Unit := do
  let name := Path.stem file
  match Point.ofData x y with
  | .error f => throw f
  | .ok position =>
    let before := ((← Play.game).residents kind).get? name
    let e ← Play.introduce { kind, name, position := some position }
    Play.updateGame fun h => h.setResidents ((h.residents kind).put name e) kind
    if let some old := before then release old
    Play.info s!"added {noun kind} {name} at ({x.plain}, {y.plain})"

def dismiss (e : EntityId) : Play Headless Unit := do
  Play.updateEntity e ({ · with removed := true })
  release e

def deleteEntity (kind : EntityKind) (name : String) : Play Headless Unit := do
  if let some e := ((← Play.game).residents kind).get? name then
    Play.updateGame fun h => h.setResidents ((h.residents kind).erase name) kind
    dismiss e
  Play.info s!"deleted {noun kind} {name}"

def dismissAll : List EntityId → Play Headless Unit
  | [] => pure ()
  | e :: es => do
    dismiss e
    dismissAll es

def loadMap (file : String) : Play Headless Unit := do
  let h ← Play.game
  Play.updateGame ({ · with map := .text (Path.stem file), npcs := [], objs := [] })
  dismissAll ((h.npcs ++ h.objs).map Prod.snd)
  Play.info ("loaded map " ++ file)

def movePlayer (x y : Datum) : Play Headless Unit := do
  if let some p := (← Play.game).player then
    match Point.ofData x y with
    | .error f => throw f
    | .ok position => Play.updateEntity p ({ · with position := some position })

def addMoney (amount : Int) : Play Headless Unit := do
  Play.updateGame fun h => { h with money := h.money + amount }
  let money := (← Play.game).money
  checkDigits [amount, money]
  Play.info s!"money {signed amount} => {money}"

def trapMap (map : Option String) (current : Datum) : Except Fault (Option String) :=
  if map.getD "" ≠ "" then .ok map
  else
    match current with
    | .null => .ok none
    | .text m => .ok (some m)
    | _ => .error .wrongKind

def setTrap (index : Int) (file : String) (map : Option String) : Play Headless Unit := do
  match trapMap map (← Play.game).map with
  | .error f => throw f
  | .ok map => Play.updateGame fun h => { h with traps := Ledger.put h.traps (map, index) file }

def setMagicLevel (file : String) (level : Int) : Play Headless Unit :=
  Play.updateGame fun h =>
    match Ledger.get? h.magics file with
    | none => h
    | some (name, _) => { h with magics := Ledger.put h.magics file (name, level) }

def perform : Call → Play Headless Unit
  | .showDialog text portrait => do
    checkDigits [portrait]
    Play.info s!"dialog [{portrait}]: {text}"
  | .showMessage text => Play.info ("message: " ++ text)
  | .selection a b question => do
    let choice := (← Play.game).choice
    if !choice.isPrintable then throw .tooManyDigits
    Play.info ("selection \"" ++ question ++ s!"\": 0) {a} 1) {b}, choosing {choice.plain}")
  | .addMemo text => Play.info ("memo: " ++ text)
  | .deleteGood file => Play.info ("delete good " ++ file)
  | .addNpc file x y _ => addEntity .character file (.int x) (.int y)
  | .deleteNpc name => deleteEntity .character name
  | .addObj file x y _ => addEntity .obj file (.int x) (.int y)
  | .deleteObj name => deleteEntity .obj name
  | .setPlayerTilePosition x y => movePlayer (.int x) (.int y)
  | .addPlayerMoney amount => addMoney amount
  | .loadMap file => loadMap file
  | .setMapTrap index file map => setTrap index file map
  | .beginRain _ => Play.updateGame ({ · with raining := true })
  | .stopRain => Play.updateGame ({ · with raining := false })
  | .showSnow visible => Play.updateGame ({ · with snowing := visible })
  | .setMagicLevel file level => setMagicLevel file level
  | .playMusic file => Play.info ("music " ++ file)
  | .stopMusic => Play.info "music stopped"
  | .playSound file offset =>
    Play.info s!"sound {file} at {Decimal.bracket offset.x offset.y}"
  | _ => pure ()

def fields : List String := [
  "player", "mapName", "npcs", "objs", "traps", "money", "isRaining", "isSnowing"]

def restart (player : String) (map : Datum) : Play Headless Unit := do
  let e ← Play.introduce { kind := .character, name := player }
  Play.updateGame fun h => { h with
    player := some e, map, npcs := [], objs := [], traps := [], money := 0
    raining := false, snowing := false }

def callWorld (service : String) (args : List Datum) : Play Headless Unit :=
  match Call.worldServices.find? (·.1 = service) with
  | none => throw (if fields.contains service then .wrongKind else .unknownService service)
  | some (_, least, most) =>
    if args.length < least || most < args.length then throw .wrongKind
    else
      match service, args with
      | "addNpc", [.text file, x, y, _] => addEntity .character file x y
      | "addObj", [.text file, x, y, _] => addEntity .obj file x y
      | "setPlayerTilePosition", [x, y] => movePlayer x y
      | _, _ =>
        match Call.ofArgs? service args with
        | some c => perform c
        | none =>
          if ["addNpc", "addObj", "loadMap"].contains service then throw .wrongKind else pure ()

def addGood (file : String) : Play Headless (Bool × Option String) := do
  match Ledger.get? (← Play.game).goods file with
  | some name => return (true, some name)
  | none =>
    let name := Path.stem file
    Play.updateGame fun h => { h with goods := Ledger.put h.goods file name }
    return (true, some name)

def addMagic (file : String) : Play Headless (Bool × Option String) := do
  match Ledger.get? (← Play.game).magics file with
  | some (name, _) => return (false, some name)
  | none =>
    let name := Path.stem file
    Play.updateGame fun h => { h with magics := Ledger.put h.magics file (name, 1) }
    return (true, some name)

def addVideo (frames : Int) : Play Headless VideoId := do
  let h ← Play.game
  Play.updateGame fun h => { h with videos := h.videos.push { frames := some frames } }
  return h.videos.size

def playVideo (file : String) (color : Color) : Play Headless (Option VideoId) := do
  checkDigits color.parts
  Play.info s!"video {file} tinted {color.text}"
  return some (← addVideo (← Play.game).videoFrames)

def numbered (number : Int) : Play Headless VideoId := do
  match Video.place? (← Play.game).videos number with
  | some v => return v
  | none => throw .pastEnd

def lookAt (v : VideoId) : Play Headless Bool := do
  match (← Play.game).videos[v]? with
  | none => return true
  | some video =>
    let (ended, video) := video.look
    Play.updateGame fun h => { h with videos := h.videos.modify v fun _ => video }
    return ended

def stopVideo (v : VideoId) : Play Headless Unit :=
  Play.updateGame fun h => { h with videos := h.videos.modify v Video.stop }

def services (random : Int → Int → Play Headless Int) : Services Headless where
  perform := perform
  dialogEnded := return true
  selectionEnded := return true
  choice := return (← Play.game).choice
  talkLine i := return Ledger.get? (← Play.game).talk i
  player := return (← Play.game).player
  mapName := return (← Play.game).map
  npc name := return Ledger.get? (← Play.game).npcs name
  obj name := return Ledger.get? (← Play.game).objs name
  levelList _ := return .null
  addGood := addGood
  addMagic := addMagic
  playVideo := playVideo
  videoStopped := lookAt
  stopVideo := stopVideo
  random := random

end Headless

end EventScript
