import EventScript.Dice
import EventScript.Headless

/-!
A game for rehearsing scripts: it notes every call, answers as it was told to, and fails where it
was told to. In place of its own world it can also put on the headless game, or none at all.
-/

namespace EventScript.Rehearsal

/-- Something that happened, in the words of the service concerned. -/
structure Event where
  name : String
  args : List Datum := []

structure World where
  player : Option EntityId := none
  map : Datum := .null
  npcs : List EntityId := []
  objs : List EntityId := []
  /-- The names of the goods there are, by file. -/
  goods : Ledger String String := []
  /-- The names of the magics there are, by file. -/
  magics : Ledger String String := []
  /-- The files of the magics learned so far. -/
  learned : List String := []
  levels : Ledger String Datum := []
  talk : TalkText := []
  missingVideos : List String := []
  /-- How many looks a video lasts, if it ends by itself. -/
  videoFrames : Option Int := none
  videos : Array Video := #[]
  dialogEnded : Bool := true
  selectionEnded : Bool := true
  choice : Datum := .int 0
  /-- The services that fail, and how. -/
  failures : Ledger String Fault := []

inductive Cast where
  | recorded
  | headless
  | silent
  deriving DecidableEq

structure Game where
  cast : Cast := .recorded
  world : World := {}
  headless : Headless := {}
  events : Array Event := #[]
  /-- The numbers that are drawn in turn, again and again. -/
  dice : List Int := []
  drawn : Nat := 0
  gates : Ledger String Bool := []
  /-- How often each predicate was asked. -/
  meters : Array Nat := #[]
  /-- The entities of the rehearsal, by the names it uses for them. -/
  cards : Ledger String EntityId := []

namespace Game

def note (name : String) (args : List Datum) : Play Game Unit :=
  Play.updateGame fun g => { g with events := g.events.push ⟨name, args⟩ }

def updateWorld (f : World → World) : Play Game Unit :=
  Play.updateGame fun g => { g with world := f g.world }

def world? : Play Game World := return (← Play.game).world

def check (service : String) : Play Game Unit := do
  match Ledger.get? (← world?).failures service with
  | some f => throw f
  | none => pure ()

def record (service : String) (args : List Datum) : Play Game Unit := do
  check service
  note service args

def draw (lo hi : Int) : Play Game Int := do
  if !Dice.isRange lo hi then throw .emptyRange
  note "rng" [.int lo, .int hi]
  let g ← Play.game
  Play.updateGame fun g => { g with drawn := g.drawn + 1 }
  let number := g.dice.getD (g.drawn % g.dice.length) 0
  return Dice.intoRange number lo hi

def named? (ids : List EntityId) (name : String) : Play Game (Option EntityId) := do
  let scene ← get
  return ids.find? fun e => ((scene.entity? e).map (·.name)) = some name

def addGood (file : String) : Play Game (Bool × Option String) := do
  record "addGood" [.text file]
  match Ledger.get? (← world?).goods file with
  | some name => return (true, some name)
  | none => return (false, none)

def addMagic (file : String) : Play Game (Bool × Option String) := do
  record "addMagic" [.text file]
  let w ← world?
  match Ledger.get? w.magics file with
  | none => return (false, none)
  | some name =>
    if w.learned.contains file then return (false, some name)
    updateWorld fun w => { w with learned := file :: w.learned }
    return (true, some name)

def playVideo (file : String) (color : Color) : Play Game (Option VideoId) := do
  record "playVideo" [.text file, Call.colorDatum color]
  let w ← world?
  if w.missingVideos.contains file then return none
  updateWorld fun w => { w with videos := w.videos.push { frames := w.videoFrames } }
  return some w.videos.size

def lookAt (v : VideoId) : Play Game Bool := do
  match (← world?).videos[v]? with
  | none => return true
  | some video =>
    if video.frames.isNone then check "isStopped"
    let (ended, video) := video.look
    updateWorld fun w => { w with videos := w.videos.modify v fun _ => video }
    return ended

def silence (v : VideoId) : Play Game Unit :=
  updateWorld fun w => { w with videos := w.videos.modify v Video.stop }

def silenceNumbered (number : Int) : Play Game Unit := do
  match Video.place? (← world?).videos number with
  | some v => silence v
  | none => return ()

def stopVideo (v : VideoId) : Play Game Unit := do
  if ((← world?).videos[v]?).any (·.frames.isNone) then note "video.stop" [.int v]
  silence v

def recorded : Services Game where
  perform c := record c.service c.args
  dialogEnded := do
    check "isDialogEnd"
    return (← world?).dialogEnded
  selectionEnded := do
    check "isSelectionEnd"
    return (← world?).selectionEnded
  choice := do
    check "getSelection"
    return (← world?).choice
  talkLine i := do
    check "getTextDetail"
    return Ledger.get? (← world?).talk i
  player := do
    check "player"
    return (← world?).player
  mapName := do
    check "currentMapName"
    return (← world?).map
  npc name := do
    check "getNpc"
    named? (← world?).npcs name
  obj name := do
    check "getObj"
    named? (← world?).objs name
  levelList path := do
    record "getLevelLists" [.text path]
    return (Ledger.get? (← world?).levels path).getD .null
  addGood := addGood
  addMagic := addMagic
  playVideo := playVideo
  videoStopped := lookAt
  stopVideo := stopVideo
  random := draw

def services : Cast → Services Game
  | .recorded => recorded
  | .headless =>
    { (Headless.services fun lo _ => return lo).within headless ({ · with headless := · }) with
      random := draw }
  | .silent => Services.silent draw

end Game

end EventScript.Rehearsal
