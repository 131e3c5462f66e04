import EventScript.Text.Digit

/-!
The built-in commands: their names and the arguments they take.
-/

namespace EventScript

inductive Verb where
  | ifThen | ifElse | endIf | goto | leave | assign | add | say | talk | choose | memo
  | addToMemo | showMessage | sleep | fadeOut | fadeIn | changeMapColor | changeAsfColor
  | playMusic | stopMusic | playSound | playMovie | stopMovie | waitMovieEnd | runScript
  | setNpcScript | setNpcDeathScript | setObjScript | addMoney | addRandMoney | addLife | addThew
  | addMana | addExp | fullLife | fullMana | fullThew | setPlayerPos | setPlayerDir | setNpcLevel
  | setLevelFile | addGoods | addRandGoods | delGoods | addMagic | setMagicLevel | loadMap
  | freeMap | loadNpc | loadObj | saveNpc | saveObj | addNpc | delNpc | showNpc | addObj | delObj
  | delCurObj | openBox | clearBody | setTrap | setMapTrap | saveMapTrap | showSnow | beginRain
  | endRain
  deriving DecidableEq

namespace Verb

/-- All of them, in the order of their groups: control flow, variables, dialogue, timing and screen,
media, scripts, player, inventory, world, weather. -/
def all : List Verb := [
  .ifThen, .ifElse, .endIf, .goto, .leave, .assign, .add, .say, .talk, .choose, .memo, .addToMemo,
  .showMessage, .sleep, .fadeOut, .fadeIn, .changeMapColor, .changeAsfColor, .playMusic,
  .stopMusic, .playSound, .playMovie, .stopMovie, .waitMovieEnd, .runScript, .setNpcScript,
  .setNpcDeathScript, .setObjScript, .addMoney, .addRandMoney, .addLife, .addThew, .addMana,
  .addExp, .fullLife, .fullMana, .fullThew, .setPlayerPos, .setPlayerDir, .setNpcLevel,
  .setLevelFile, .addGoods, .addRandGoods, .delGoods, .addMagic, .setMagicLevel, .loadMap,
  .freeMap, .loadNpc, .loadObj, .saveNpc, .saveObj, .addNpc, .delNpc, .showNpc, .addObj, .delObj,
  .delCurObj, .openBox, .clearBody, .setTrap, .setMapTrap, .saveMapTrap, .showSnow, .beginRain,
  .endRain]

def name : Verb → String
  | ifThen => "If"
  | ifElse => "Else"
  | endIf => "EndIf"
  | goto => "Goto"
  | leave => "Return"
  | assign => "Assign"
  | add => "Add"
  | say => "Say"
  | talk => "Talk"
  | choose => "Choose"
  | memo => "Memo"
  | addToMemo => "AddToMemo"
  | showMessage => "ShowMessage"
  | sleep => "Sleep"
  | fadeOut => "FadeOut"
  | fadeIn => "FadeIn"
  | changeMapColor => "ChangeMapColor"
  | changeAsfColor => "ChangeAsfColor"
  | playMusic => "PlayMusic"
  | stopMusic => "StopMusic"
  | playSound => "PlaySound"
  | playMovie => "PlayMovie"
  | stopMovie => "StopMovie"
  | waitMovieEnd => "WaitMovieEnd"
  | runScript => "RunScript"
  | setNpcScript => "SetNpcScript"
  | setNpcDeathScript => "SetNpcDeathScript"
  | setObjScript => "SetObjScript"
  | addMoney => "AddMoney"
  | addRandMoney => "AddRandMoney"
  | addLife => "AddLife"
  | addThew => "AddThew"
  | addMana => "AddMana"
  | addExp => "AddExp"
  | fullLife => "FullLife"
  | fullMana => "FullMana"
  | fullThew => "FullThew"
  | setPlayerPos => "SetPlayerPos"
  | setPlayerDir => "SetPlayerDir"
  | setNpcLevel => "SetNpcLevel"
  | setLevelFile => "SetLevelFile"
  | addGoods => "AddGoods"
  | addRandGoods => "AddRandGoods"
  | delGoods => "DelGoods"
  | addMagic => "AddMagic"
  | setMagicLevel => "SetMagicLevel"
  | loadMap => "LoadMap"
  | freeMap => "FreeMap"
  | loadNpc => "LoadNpc"
  | loadObj => "LoadObj"
  | saveNpc => "SaveNpc"
  | saveObj => "SaveObj"
  | addNpc => "AddNpc"
  | delNpc => "DelNpc"
  | showNpc => "ShowNpc"
  | addObj => "AddObj"
  | delObj => "DelObj"
  | delCurObj => "DelCurObj"
  | openBox => "OpenBox"
  | clearBody => "ClearBody"
  | setTrap => "SetTrap"
  | setMapTrap => "SetMapTrap"
  | saveMapTrap => "SaveMapTrap"
  | showSnow => "ShowSnow"
  | beginRain => "BeginRain"
  | endRain => "EndRain"

def tag (v : Verb) : String :=
  match v.name.toList with
  | [] => ""
  | c :: cs =>
    String.ofList (c :: cs.flatMap fun d => if 'A' ≤ d && d ≤ 'Z' then ['_', d] else [d.toUpper])

def ofName? (s : String) : Option Verb :=
  let key := Text.lower s
  all.find? fun v => Text.lower v.name == key

def isControlFlow : Verb → Bool
  | ifThen | ifElse | endIf | goto | leave => true
  | _ => false

end Verb

inductive ArgType where
  | text | int | var | label | condition
  deriving DecidableEq

def ArgType.letter : ArgType → Char
  | text => 's'
  | int => 'i'
  | var => 'v'
  | label => 'l'
  | condition => 'c'

/-- The arguments of a command: their types, how many are needed at least, and the exact counts that
are allowed where not every count in between is. -/
structure Signature where
  types : List ArgType
  required : Nat
  counts : Option (List Nat)

namespace Signature

def accepts (s : Signature) (n : Nat) : Bool :=
  match s.counts with
  | some ns => ns.contains n
  | none => s.required ≤ n && n ≤ s.types.length

end Signature

def Verb.signature : Verb → Signature
  | .ifThen => ⟨[.condition, .label], 1, none⟩
  | .ifElse | .endIf | .leave | .fadeOut | .fadeIn | .stopMusic | .stopMovie
  | .waitMovieEnd | .fullLife | .fullMana | .fullThew | .freeMap | .delCurObj
  | .clearBody | .saveMapTrap | .endRain => ⟨[], 0, none⟩
  | .goto => ⟨[.label], 1, none⟩
  | .assign | .add => ⟨[.var, .int], 2, none⟩
  | .say => ⟨[.text, .int], 1, none⟩
  | .talk | .addRandMoney | .setPlayerPos => ⟨[.int, .int], 2, none⟩
  | .choose => ⟨[.text, .text, .text, .var], 3, none⟩
  | .memo | .playMusic | .playSound | .runScript | .setLevelFile | .addGoods
  | .addRandGoods | .addMagic | .loadMap | .loadNpc | .loadObj | .delNpc | .beginRain =>
    ⟨[.text], 1, none⟩
  | .addToMemo | .showMessage | .sleep | .addMoney | .addLife | .addThew | .addMana
  | .addExp | .setPlayerDir | .showSnow => ⟨[.int], 1, none⟩
  | .changeMapColor | .changeAsfColor => ⟨[.int, .int, .int], 3, none⟩
  | .playMovie => ⟨[.text, .int, .int, .int], 4, some [1, 4]⟩
  | .setNpcScript | .setNpcDeathScript | .setObjScript => ⟨[.text, .text], 2, none⟩
  | .setNpcLevel | .setMagicLevel | .showNpc => ⟨[.text, .int], 2, none⟩
  | .delGoods | .saveNpc | .saveObj | .delObj | .openBox => ⟨[.text], 0, none⟩
  | .addNpc | .addObj => ⟨[.text, .int, .int, .int], 4, none⟩
  | .setTrap => ⟨[.text, .int, .text], 3, none⟩
  | .setMapTrap => ⟨[.int, .text], 2, none⟩

end EventScript
