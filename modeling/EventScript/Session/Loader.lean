import EventScript.Script.Parser
import EventScript.Session.Basic

/-!
Finding scripts: first among those of the current map, then among those common to all maps. A script
is read once and then kept.
-/

namespace EventScript

namespace Session

variable {H : Host}

def candidates (s : Session H) (file : String) (map : Datum) : Except Fault (List Path) :=
  let root := s.setup.root
  let common := (root.child s.setup.settings.commonDir).child file
  if !map.isTruthy then .ok [common]
  else
    match map with
    | .text m => .ok [((root.child s.setup.settings.mapDir).child m).child file, common]
    | _ => .error .wrongKind

def firstFile (files : Files) : List Path → Except Fault (Option Path)
  | [] => .ok none
  | p :: ps => do
    if ← files.isFile p.text then return some p
    firstFile files ps

def resolve (s : Session H) (file : String) (map : Datum) : Except Fault (Option Path) := do
  firstFile s.files (← s.candidates file map)

end Session

namespace Engine

variable {H : Host}

def readScript (path : Path) : Engine H Script := do
  let s ← get
  match s.cache.get? path with
  | some script => return script
  | none =>
    let text ← ofExcept (s.files.readText path.text s.setup.settings.encoding)
    let script ← ofExcept (Script.parse text path.name (some path.text))
    let bad := script.errors.length
    if 0 < bad then log .warning s!"{path.text} has {bad} invalid lines"
    modify fun s => { s with cache := s.cache.put path script }
    return script

def loadScript (file : String) (map : Datum) : Engine H Script := do
  match ← ofExcept ((← get).resolve file map) with
  | some path => readScript path
  | none => throw (.script .unresolvedTarget s!"no script file {file} for map {map.plain}")

end Engine

end EventScript
