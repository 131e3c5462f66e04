import EventScript.Command.Basic
import EventScript.Services.Basic

/-!
Instructions: what the built-in commands do, with their arguments in place. Most of them pass one
call on to the game.
-/

namespace EventScript

inductive Instruction where
  /-- Goes on if the condition holds and jumps otherwise. -/
  | jumpUnless (c : Condition)
  | jumpIf (c : Condition)
  | jump
  | pass
  | leave
  | assign (x : String) (n : Int)
  | add (x : String) (n : Int)
  | talk (first last : Int)
  | choose (first second question : String) (out : Option String)
  /-- Puts a line of talk text into the memo. -/
  | memoLine (index : Int)
  /-- Shows a line of talk text as a message. -/
  | messageLine (index : Int)
  | sleep (milliseconds : Int)
  | fadeOut
  | fadeIn
  | playSound (file : String)
  | playMovie (file : String) (color : Color)
  | stopMovie
  | waitMovieEnd
  | runScript (file : String)
  | setNpcScript (name file : String)
  | setNpcDeathScript (name file : String)
  | setObjScript (name file : String)
  | addRandMoney (least most : Int)
  | setNpcLevel (name : String) (level : Int)
  | setLevelFile (file : String)
  | addGoods (file : String)
  | addRandGoods (file : String)
  | deleteOwnGood
  | addMagic (file : String)
  | setMagicLevel (file : String) (level : Int)
  | loadMap (file : String)
  | deleteOwnObj
  | openBox (name : String)
  | saveTraps
  /-- Passes a call on to the game. -/
  | call (c : Call)
  /-- Passes a call on that makes no sense without a player. -/
  | callForPlayer (c : Call)
  /-- Passes a call on if there is a player. -/
  | callIfPlayer (c : Call)

namespace Instruction

def nonEmpty (s : String) : Option String := if s = "" then none else some s

def ofArgs? : Verb → List Arg → Option Instruction
  | .ifThen, [.condition c] => some (.jumpUnless c)
  | .ifThen, [.condition c, .label _] => some (.jumpIf c)
  | .ifElse, [] => some .jump
  | .endIf, [] => some .pass
  | .goto, [.label _] => some .jump
  | .leave, [] => some .leave
  | .assign, [.var x, .int n] => some (.assign x n)
  | .add, [.var x, .int n] => some (.add x n)
  | .say, [.text t] => some (.call (.showDialog t 0))
  | .say, [.text t, .int p] => some (.call (.showDialog t p))
  | .talk, [.int a, .int b] => some (.talk a b)
  | .choose, [.text a, .text b, .text q] => some (.choose a b q none)
  | .choose, [.text a, .text b, .text q, .var x] => some (.choose a b q (some x))
  | .memo, [.text t] => some (.call (.addMemo t))
  | .addToMemo, [.int i] => some (.memoLine i)
  | .showMessage, [.int i] => some (.messageLine i)
  | .sleep, [.int n] => some (.sleep n)
  | .fadeOut, [] => some .fadeOut
  | .fadeIn, [] => some .fadeIn
  | .changeMapColor, [.int r, .int g, .int b] => some (.call (.setMapDrawColor ⟨r, g, b⟩))
  | .changeAsfColor, [.int r, .int g, .int b] => some (.call (.setSpriteDrawColor ⟨r, g, b⟩))
  | .playMusic, [.text f] => some (.call (.playMusic f))
  | .stopMusic, [] => some (.call .stopMusic)
  | .playSound, [.text f] => some (.playSound f)
  | .playMovie, [.text f] => some (.playMovie f .white)
  | .playMovie, [.text f, .int r, .int g, .int b] => some (.playMovie f ⟨r, g, b⟩)
  | .stopMovie, [] => some .stopMovie
  | .waitMovieEnd, [] => some .waitMovieEnd
  | .runScript, [.text f] => some (.runScript f)
  | .setNpcScript, [.text n, .text f] => some (.setNpcScript n f)
  | .setNpcDeathScript, [.text n, .text f] => some (.setNpcDeathScript n f)
  | .setObjScript, [.text n, .text f] => some (.setObjScript n f)
  | .addMoney, [.int n] => some (.callForPlayer (.addPlayerMoney n))
  | .addRandMoney, [.int a, .int b] => some (.addRandMoney a b)
  | .addLife, [.int n] => some (.callForPlayer (.addPlayerLife n))
  | .addThew, [.int n] => some (.callForPlayer (.addPlayerThew n))
  | .addMana, [.int n] => some (.callForPlayer (.addPlayerMana n))
  | .addExp, [.int n] => some (.callForPlayer (.addPlayerExp n))
  | .fullLife, [] => some (.callIfPlayer .fullPlayerLife)
  | .fullMana, [] => some (.callIfPlayer .fullPlayerMana)
  | .fullThew, [] => some (.callIfPlayer .fullPlayerThew)
  | .setPlayerPos, [.int x, .int y] => some (.callForPlayer (.setPlayerTilePosition x y))
  | .setPlayerDir, [.int d] => some (.callForPlayer (.setPlayerDirection d))
  | .setNpcLevel, [.text n, .int l] => some (.setNpcLevel n l)
  | .setLevelFile, [.text f] => some (.setLevelFile f)
  | .addGoods, [.text f] => some (.addGoods f)
  | .addRandGoods, [.text f] => some (.addRandGoods f)
  | .delGoods, [] => some .deleteOwnGood
  | .delGoods, [.text f] => some (.call (.deleteGood f))
  | .addMagic, [.text f] => some (.addMagic f)
  | .setMagicLevel, [.text f, .int l] => some (.setMagicLevel f l)
  | .loadMap, [.text f] => some (.loadMap f)
  | .freeMap, [] => some (.call .freeMap)
  | .loadNpc, [.text f] => some (.call (.loadNpc f))
  | .loadObj, [.text f] => some (.call (.loadObj f))
  | .saveNpc, [] => some (.call (.saveNpc none))
  | .saveNpc, [.text f] => some (.call (.saveNpc (nonEmpty f)))
  | .saveObj, [] => some (.call (.saveObj none))
  | .saveObj, [.text f] => some (.call (.saveObj (nonEmpty f)))
  | .addNpc, [.text f, .int x, .int y, .int d] => some (.call (.addNpc f x y d))
  | .delNpc, [.text n] => some (.call (.deleteNpc n))
  | .showNpc, [.text n, .int v] => some (.call (.showNpc n (v != 0)))
  | .addObj, [.text f, .int x, .int y, .int d] => some (.call (.addObj f x y d))
  | .delObj, [] => some .deleteOwnObj
  | .delObj, [.text n] => some (if n = "" then .deleteOwnObj else .call (.deleteObj n))
  | .delCurObj, [] => some .deleteOwnObj
  | .openBox, [] => some (.openBox "")
  | .openBox, [.text n] => some (.openBox n)
  | .clearBody, [] => some (.call .clearBody)
  | .setTrap, [.text m, .int i, .text f] => some (.call (.setMapTrap i f (some m)))
  | .setMapTrap, [.int i, .text f] => some (.call (.setMapTrap i f none))
  | .saveMapTrap, [] => some .saveTraps
  | .showSnow, [.int v] => some (.call (.showSnow (v != 0)))
  | .beginRain, [.text f] => some (.call (.beginRain f))
  | .endRain, [] => some (.call .stopRain)
  | _, _ => none

end Instruction

end EventScript
