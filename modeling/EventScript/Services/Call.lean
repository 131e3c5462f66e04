import EventScript.Entity

/-!
Calls: what a game is told to do without being asked for an answer. A call is a value, so that a
game can act on it or note it down.
-/

namespace EventScript

inductive Call where
  | showDialog (text : String) (portrait : Int)
  | closeDialog
  | showMessage (text : String)
  | selection (first second question : String)
  | closeSelection
  | addMemo (text : String)
  | deleteGood (file : String)
  | updateGoodsView
  | updateMagicView
  | updatePracticeView
  | addNpc (file : String) (x y direction : Int)
  | deleteNpc (name : String)
  | showNpc (name : String) (visible : Bool)
  | loadNpc (file : String)
  | saveNpc (file : Option String)
  | addObj (file : String) (x y direction : Int)
  | deleteObj (name : String)
  | loadObj (file : String)
  | saveObj (file : Option String)
  | clearBody
  | setPlayerTilePosition (x y : Int)
  | setPlayerDirection (direction : Int)
  | addPlayerMoney (amount : Int)
  | addPlayerLife (amount : Int)
  | addPlayerThew (amount : Int)
  | addPlayerMana (amount : Int)
  | addPlayerExp (amount : Int)
  | fullPlayerLife
  | fullPlayerMana
  | fullPlayerThew
  | loadMap (file : String)
  | freeMap
  | setMapTrap (index : Int) (file : String) (map : Option String)
  | saveTrap (path : String)
  | setMapDrawColor (color : Color)
  | setSpriteDrawColor (color : Color)
  | beginRain (file : String)
  | stopRain
  | showSnow (visible : Bool)
  | setMagicLevel (file : String) (level : Int)
  | playMusic (file : String)
  | stopMusic
  | playSound (file : String) (offset : Point)

namespace Call

def service : Call → String
  | showDialog .. => "showDialog"
  | closeDialog => "closeDialog"
  | showMessage _ => "showMessage"
  | selection .. => "selection"
  | closeSelection => "closeSelection"
  | addMemo _ => "addMemo"
  | deleteGood _ => "deleteGood"
  | updateGoodsView => "updateGoodsView"
  | updateMagicView => "updateMagicView"
  | updatePracticeView => "updatePracticeView"
  | addNpc .. => "addNpc"
  | deleteNpc _ => "deleteNpc"
  | showNpc .. => "showNpc"
  | loadNpc _ => "loadNpc"
  | saveNpc _ => "saveNpc"
  | addObj .. => "addObj"
  | deleteObj _ => "deleteObj"
  | loadObj _ => "loadObj"
  | saveObj _ => "saveObj"
  | clearBody => "clearBody"
  | setPlayerTilePosition .. => "setPlayerTilePosition"
  | setPlayerDirection _ => "setPlayerDirection"
  | addPlayerMoney _ => "addPlayerMoney"
  | addPlayerLife _ => "addPlayerLife"
  | addPlayerThew _ => "addPlayerThew"
  | addPlayerMana _ => "addPlayerMana"
  | addPlayerExp _ => "addPlayerExp"
  | fullPlayerLife => "fullPlayerLife"
  | fullPlayerMana => "fullPlayerMana"
  | fullPlayerThew => "fullPlayerThew"
  | loadMap _ => "loadMap"
  | freeMap => "freeMap"
  | setMapTrap .. => "setMapTrap"
  | saveTrap _ => "saveTrap"
  | setMapDrawColor _ => "setMapDrawColor"
  | setSpriteDrawColor _ => "setSpriteDrawColor"
  | beginRain _ => "beginRain"
  | stopRain => "stopRain"
  | showSnow _ => "showSnow"
  | setMagicLevel .. => "setMagicLevel"
  | playMusic _ => "playMusic"
  | stopMusic => "stopMusic"
  | playSound .. => "playSound"

def colorDatum (c : Color) : Datum := .list (c.parts.map .int)

def pointDatum (p : Point) : Datum := .list [.real p.x, .real p.y]

def textOrNull : Option String → Datum
  | some s => .text s
  | none => .null

def args : Call → List Datum
  | showDialog t p => [.text t, .int p]
  | selection a b q => [.text a, .text b, .text q]
  | showMessage s | addMemo s | deleteGood s | deleteNpc s | loadNpc s | deleteObj s | loadObj s
  | loadMap s | saveTrap s | beginRain s | playMusic s => [.text s]
  | addNpc f x y d | addObj f x y d => [.text f, .int x, .int y, .int d]
  | showNpc n v => [.text n, .bool v]
  | saveNpc f | saveObj f => [textOrNull f]
  | setPlayerTilePosition x y => [.int x, .int y]
  | setPlayerDirection n | addPlayerMoney n | addPlayerLife n | addPlayerThew n | addPlayerMana n
  | addPlayerExp n => [.int n]
  | setMapTrap i f none => [.int i, .text f]
  | setMapTrap i f (some m) => [.int i, .text f, .text m]
  | setMapDrawColor c | setSpriteDrawColor c => [colorDatum c]
  | showSnow v => [.bool v]
  | setMagicLevel f l => [.text f, .int l]
  | playSound f p => [.text f, pointDatum p]
  | closeDialog | closeSelection | updateGoodsView | updateMagicView | updatePracticeView
  | clearBody | fullPlayerLife | fullPlayerMana | fullPlayerThew | freeMap | stopRain
  | stopMusic => []

def worldServices : List (String × Nat × Nat) := [
  ("addNpc", 4, 4), ("deleteNpc", 1, 1), ("showNpc", 2, 2), ("loadNpc", 1, 1), ("saveNpc", 0, 1),
  ("addObj", 4, 4), ("deleteObj", 1, 1), ("loadObj", 1, 1), ("saveObj", 0, 1), ("clearBody", 0, 0),
  ("setPlayerTilePosition", 2, 2), ("setPlayerDirection", 1, 1), ("addPlayerMoney", 1, 1),
  ("addPlayerLife", 1, 1), ("addPlayerThew", 1, 1), ("addPlayerMana", 1, 1),
  ("addPlayerExp", 1, 1), ("fullPlayerLife", 0, 0), ("fullPlayerMana", 0, 0),
  ("fullPlayerThew", 0, 0), ("loadMap", 1, 1), ("freeMap", 0, 0), ("setMapTrap", 2, 3),
  ("saveTrap", 1, 1), ("setMapDrawColor", 1, 1), ("setSpriteDrawColor", 1, 1),
  ("beginRain", 1, 1), ("stopRain", 0, 0), ("showSnow", 1, 1), ("currentMapName", 0, 0),
  ("getLevelLists", 1, 1), ("listenerPosition", 0, 0)]

/-- The call of a service with some arguments, where those that may be left out may be missing. -/
def ofArgs? : String → List Datum → Option Call
  | "showDialog", [.text t] => some (.showDialog t 0)
  | "showDialog", [.text t, .int p] => some (.showDialog t p)
  | "closeDialog", [] => some .closeDialog
  | "showMessage", [.text t] => some (.showMessage t)
  | "selection", [.text a, .text b, .text q] => some (.selection a b q)
  | "closeSelection", [] => some .closeSelection
  | "addMemo", [.text t] => some (.addMemo t)
  | "deleteGood", [.text f] => some (.deleteGood f)
  | "updateGoodsView", [] => some .updateGoodsView
  | "updateMagicView", [] => some .updateMagicView
  | "updatePracticeView", [] => some .updatePracticeView
  | "addNpc", [.text f, .int x, .int y, .int d] => some (.addNpc f x y d)
  | "deleteNpc", [.text n] => some (.deleteNpc n)
  | "showNpc", [.text n, .bool v] => some (.showNpc n v)
  | "loadNpc", [.text f] => some (.loadNpc f)
  | "saveNpc", [] | "saveNpc", [.null] => some (.saveNpc none)
  | "saveNpc", [.text f] => some (.saveNpc (some f))
  | "addObj", [.text f, .int x, .int y, .int d] => some (.addObj f x y d)
  | "deleteObj", [.text n] => some (.deleteObj n)
  | "loadObj", [.text f] => some (.loadObj f)
  | "saveObj", [] | "saveObj", [.null] => some (.saveObj none)
  | "saveObj", [.text f] => some (.saveObj (some f))
  | "clearBody", [] => some .clearBody
  | "setPlayerTilePosition", [.int x, .int y] => some (.setPlayerTilePosition x y)
  | "setPlayerDirection", [.int d] => some (.setPlayerDirection d)
  | "addPlayerMoney", [.int n] => some (.addPlayerMoney n)
  | "addPlayerLife", [.int n] => some (.addPlayerLife n)
  | "addPlayerThew", [.int n] => some (.addPlayerThew n)
  | "addPlayerMana", [.int n] => some (.addPlayerMana n)
  | "addPlayerExp", [.int n] => some (.addPlayerExp n)
  | "fullPlayerLife", [] => some .fullPlayerLife
  | "fullPlayerMana", [] => some .fullPlayerMana
  | "fullPlayerThew", [] => some .fullPlayerThew
  | "loadMap", [.text f] => some (.loadMap f)
  | "freeMap", [] => some .freeMap
  | "setMapTrap", [.int i, .text f] | "setMapTrap", [.int i, .text f, .null] =>
    some (.setMapTrap i f none)
  | "setMapTrap", [.int i, .text f, .text m] => some (.setMapTrap i f (some m))
  | "saveTrap", [.text p] => some (.saveTrap p)
  | "setMapDrawColor", [.list [.int r, .int g, .int b]] => some (.setMapDrawColor ⟨r, g, b⟩)
  | "setSpriteDrawColor", [.list [.int r, .int g, .int b]] => some (.setSpriteDrawColor ⟨r, g, b⟩)
  | "beginRain", [.text f] => some (.beginRain f)
  | "stopRain", [] => some .stopRain
  | "showSnow", [.bool v] => some (.showSnow v)
  | "setMagicLevel", [.text f, .int l] => some (.setMagicLevel f l)
  | "playMusic", [.text f] => some (.playMusic f)
  | "stopMusic", [] => some .stopMusic
  | "playSound", [.text f, .list [.real x, .real y]] => some (.playSound f ⟨x, y⟩)
  | _, _ => none

end Call

end EventScript
