import EventScript.BuyList
import EventScript.Session.Basic
import EventScript.Settings.Template

/-!
What scripts give to the player: goods, picked goods, magics, and the messages that go with them.
-/

namespace EventScript.Engine

variable {H : Host}

def perform (S : Services H.Game) (c : Call) : Engine H Unit := play (S.perform c)

def showNamed (S : Services H.Game) (template name : String) : Engine H Unit := do
  match Template.fill template "name" name with
  | some text => perform S (.showMessage text)
  | none => throw .badTemplate

def addGood (S : Services H.Game) (file : String) : Engine H Unit := do
  let settings := (← get).setup.settings
  match ← play (S.addGood file) with
  | (true, some name) => showNamed S settings.gotGood name
  | _ => perform S (.showMessage settings.failure)
  perform S .updateGoodsView

def addMagic (S : Services H.Game) (file : String) : Engine H Unit := do
  let settings := (← get).setup.settings
  match ← play (S.addMagic file) with
  | (true, some name) =>
    showNamed S settings.learnedMagic name
    perform S .updateMagicView
  | (false, some name) => showNamed S settings.alreadyLearned name
  | (_, none) => perform S (.showMessage settings.failure)

/-- Picks an entry of a buy list: the header says how many there are, and each has a section. -/
def pick (S : Services H.Game) (path : Path) : Engine H String := do
  let s ← get
  let list ← ofExcept (s.files.readText path.text s.setup.settings.buyEncoding >>= BuyList.parse)
  let written ← ofExcept (list.get? "Header" "Count")
  match Text.readInteger? written.toList with
  | none => throw .notANumber
  | some n =>
    let index ← play (S.random 1 (n + 1))
    ofExcept (list.get? (toString index) "IniFile")

def randomItem (S : Services H.Game) (path : Path) : Engine H String := do
  match ← attempt (pick S path) with
  | .ok file => return file
  | .error .unknownEncoding => throw .unknownEncoding
  | .error f =>
    log .warning s!"could not pick from buy list {path.text}: {f.message}"
    return ""

end EventScript.Engine
