import EventScript.Cli.Arguments
import EventScript.Dice
import EventScript.Headless
import EventScript.Session.Control

/-!
The command line: it runs one script in the headless game until nothing runs any more and prints the
variables.
-/

namespace EventScript.Cli

structure Game where
  headless : Headless
  dice : Nat

def draw (lo hi : Int) : Play Game Int := do
  if !Dice.isRange lo hi then throw .emptyRange
  Play.updateGame fun g => { g with dice := Dice.next g.dice }
  return Dice.intoRange (Dice.number (← Play.game).dice) lo hi

def services : Services Game :=
  { (Headless.services fun lo _ => return lo).within Game.headless ({ · with headless := · }) with
    random := draw }

def host : Host where
  Game := Game
  Command := Empty
  Predicate := Empty

def wiring : Wiring host where
  services := services
  runCommand command := nomatch command
  poll predicate := nomatch predicate

structure Outcome where
  /-- The exit code, if the arguments already settled it. -/
  exit : Option Nat := none
  fault : Option Fault := none
  /-- What was printed. -/
  out : String := ""
  log : Array LogLine := #[]
  files : Files

def settingsEncoding : String := "utf-8"

def readSettings (a : Arguments) (files : Files) : Except Fault Settings := do
  match a.config.text? with
  | none => return Settings.ofTree Settings.builtin
  | some path =>
    let text ← files.readText path settingsEncoding
    return Settings.ofTree (← Settings.load (some text))

def readTalk (a : Arguments) (settings : Settings) (files : Files) : Except Fault TalkText := do
  match a.talkText.text? with
  | none => return []
  | some path => TalkText.ofText (← files.readText (Path.ofString path).text settings.encoding)

def playerName : String := "player"

def scriptRoot : Setting String → Except Fault (Option String)
  | .unset => .ok none
  | .blank => .error .wrongKind
  | .value s => .ok (some s)

def prepare (a : Arguments) (files : Files) (now : Moment) : Except Fault (Session host) := do
  let settings ← readSettings a files
  let talk ← readTalk a settings files
  let root ← scriptRoot a.root
  let seed := a.seed.value?.getD 0
  if seed < 0 then throw .badSeed
  let headless : Headless :=
    { player := some 0, map := a.map.toDatum .text, choice := a.select.toDatum .int, talk }
  let game : Game := { headless, dice := seed.toNat }
  Session.start settings root none none now files
    { game, entities := #[{ kind := .character, name := playerName }] }

def shownVariables : List (String × Int) → String × Option Fault
  | [] => ("", none)
  | (x, n) :: rest =>
    if Text.exceedsDigitLimit n then ("", some .tooManyDigits)
    else
      let (lines, fault) := shownVariables rest
      (x ++ " = " ++ toString n ++ "\n" ++ lines, fault)

def runScript (a : Arguments) : Engine host Unit := do
  if let some path := a.loadFrom.text? then Engine.load path
  let script ← Engine.readScript (H := host) (Path.ofString a.script)
  let ticks ← match a.maxTicks.value? with
    | some n => Engine.runToEnd wiring script a.tickMs.value? n.toNat
    | none => throw .wrongKind
  if (← get).isRunning then Engine.log .warning s!"scripts still running after {ticks} ticks"
  else Engine.log .info s!"finished after {ticks} ticks"

def saveVariables (a : Arguments) : Engine host Unit := do
  if let some path := a.saveTo.text? then
    let _ ← Engine.save (H := host) path

def outcome (s : Session host) (out : String) (fault : Option Fault) : Outcome :=
  { fault, out, log := s.scene.log, files := s.files }

def runArguments (a : Arguments) (files : Files) (now : Moment) : Outcome :=
  match prepare a files now with
  | .error f => { fault := some f, files }
  | .ok s =>
    match (runScript a).run s with
    | .error f s => outcome s "" (some f)
    | .ok _ s =>
      match shownVariables (s.store.mergeSort fun p q => p.1 ≤ q.1) with
      | (out, some f) => outcome s out (some f)
      | (out, none) =>
        match (saveVariables a).run s with
        | .error f s => outcome s out (some f)
        | .ok _ s => outcome s out none

def run (argv : List String) (files : Files) (now : Moment) : Outcome :=
  match readArguments argv with
  | .misuse => { exit := some 2, files }
  | .help => { exit := some 0, files }
  | .run a => runArguments a files now

end EventScript.Cli
