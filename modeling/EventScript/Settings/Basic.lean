import EventScript.Settings.Toml

/-!
Settings: a built-in tree, into which a settings text is merged. Merging keeps the kind of every
value, so that the settings a session needs can always be read off the tree.
-/

namespace EventScript

namespace Settings

def builtin : Ledger String Datum := [
  ("script", .table [
    ("MAX_STEPS_PER_TICK", .int 1),
    ("SCRIPT_ROOT", .text "script"),
    ("MAP_DIR", .text "map"),
    ("COMMON_DIR", .text "common"),
    ("ENCODING", .text "utf-8")]),
  ("fade", .table [("RATE", .real 0.02)]),
  ("paths", .table [
    ("LEVEL_DIR", .text "ini/level"),
    ("BUY_DIR", .text "ini/buy"),
    ("TRAP_SAVE_PATH", .text "save/game/Traps.ini"),
    ("INI_ENCODING", .text "utf-8")]),
  ("messages", .table [
    ("GOT_GOOD", .text "你获得了\x7bname\x7d"),
    ("LEARNED_MAGIC", .text "你学会了\x7bname\x7d"),
    ("ALREADY_LEARNED_MAGIC", .text "你已经学会了\x7bname\x7d"),
    ("ERROR", .text "错误")])]

def merge (a b : Ledger String Datum) : Except Fault (Ledger String Datum) :=
  match Datum.mergeInto [] a b with
  | (m, none) => .ok m
  | (_, some path) => .error (.mergeConflict path)

def load (text : Option String) : Except Fault (Ledger String Datum) :=
  match text with
  | none => .ok builtin
  | some t => do merge builtin (← Toml.parse t)

end Settings

structure Settings where
  maxSteps : Int
  scriptRoot : String
  mapDir : String
  commonDir : String
  encoding : String
  fadeRate : Float
  levelDir : String
  buyDir : String
  trapSavePath : String
  buyEncoding : String
  gotGood : String
  learnedMagic : String
  alreadyLearned : String
  failure : String

namespace Settings

def textAt (t : Ledger String Datum) (path : List String) : String :=
  match (Datum.table t).at? path with
  | some (.text s) => s
  | _ => ""

def ofTree (t : Ledger String Datum) : Settings where
  maxSteps := match (Datum.table t).at? ["script", "MAX_STEPS_PER_TICK"] with
    | some (.int n) => n
    | _ => 1
  scriptRoot := textAt t ["script", "SCRIPT_ROOT"]
  mapDir := textAt t ["script", "MAP_DIR"]
  commonDir := textAt t ["script", "COMMON_DIR"]
  encoding := textAt t ["script", "ENCODING"]
  fadeRate := match (Datum.table t).at? ["fade", "RATE"] with
    | some (.real x) => x
    | _ => 0
  levelDir := textAt t ["paths", "LEVEL_DIR"]
  buyDir := textAt t ["paths", "BUY_DIR"]
  trapSavePath := textAt t ["paths", "TRAP_SAVE_PATH"]
  buyEncoding := textAt t ["paths", "INI_ENCODING"]
  gotGood := textAt t ["messages", "GOT_GOOD"]
  learnedMagic := textAt t ["messages", "LEARNED_MAGIC"]
  alreadyLearned := textAt t ["messages", "ALREADY_LEARNED_MAGIC"]
  failure := textAt t ["messages", "ERROR"]

end Settings

end EventScript
