import EventScript.Encoding.Basic
import EventScript.Ledger
import EventScript.Path
import EventScript.Text.Blank

/-!
The files a session reads and writes, as a value. Paths are walked part by part from the working
directory; what lies outside it is not known, except that the directories above it are there.
-/

namespace EventScript

inductive Node where
  | file (bytes : List UInt8)
  | directory

abbrev Files := Ledger (List String) Node

/-- A path as it is walked: its parts, dots among them, and whether a slash follows the last. -/
structure Route where
  isAbsolute : Bool
  parts : List String
  slashed : Bool

namespace Route

def pathLimit : Nat := 4096

def partLimit : Nat := 255

def parentPart : String := ".."

def isDots (part : String) : Bool := part = "." || part = parentPart

def ofText (s : String) : Route where
  isAbsolute := s.startsWith "/"
  parts := (s.splitOn "/").filter (· ≠ "")
  slashed := s.endsWith "/"

def ofPath (s : String) : Except Fault Route :=
  if s.toList.contains (Char.ofNat 0) then .error .embeddedZero
  else if s = "" then .error .noSuchFile
  else if pathLimit ≤ s.utf8ByteSize then .error .nameTooLong
  else .ok (ofText s)

end Route

namespace Files

open Route

def isAbove (place : List String) : Bool := place.all (· = parentPart)

def isDirectory (fs : Files) (place : List String) : Bool :=
  isAbove place || fs.any fun (p, n) =>
    (p == place && match n with | .directory => true | .file _ => false) ||
      (place.length < p.length && p.take place.length == place)

def node? (fs : Files) (place : List String) : Option Node :=
  if isDirectory fs place then some .directory else Ledger.get? fs place

def next (place : List String) (part : String) : List String :=
  if part = "." then place
  else if part = parentPart && !isAbove place then place.dropLast
  else place ++ [part]

def enter (fs : Files) (place : List String) (part : String) : Except Fault (List String) :=
  match fs.node? place with
  | none => .error .noSuchFile
  | some (.file _) => .error .notDirectory
  | some .directory =>
    if partLimit < part.utf8ByteSize then .error .nameTooLong else .ok (next place part)

def walk (fs : Files) (isAbsolute : Bool) (parts : List String) : Except Fault (List String) :=
  if !isAbsolute then parts.foldlM (enter fs) []
  else if parts.all isDots then .ok [parentPart]
  else .error .noSuchFile

def read (fs : Files) (path : String) : Except Fault (List UInt8) := do
  let r ← ofPath path
  match fs.node? (← fs.walk r.isAbsolute r.parts) with
  | some (.file bs) => if r.slashed then .error .notDirectory else .ok bs
  | some .directory => .error .isDirectory
  | none => .error .noSuchFile

def isFile (fs : Files) (path : String) : Except Fault Bool :=
  match fs.read path with
  | .ok _ => .ok true
  | .error .nameTooLong => .error .nameTooLong
  | .error _ => .ok false

def write (fs : Files) (path : String) (bs : List UInt8) : Except Fault Files := do
  let r ← ofPath path
  if r.slashed then
    let _ ← fs.enter (← fs.walk r.isAbsolute r.parts.dropLast) "."
    throw .isDirectory
  let place ← fs.walk r.isAbsolute r.parts
  match fs.node? place with
  | some .directory => throw .isDirectory
  | _ => return Ledger.put fs place (.file bs)

def makeDirectories (fs : Files) : List String → List String → Except Fault (Files × List String)
  | place, [] => .ok (fs, place)
  | place, part :: parts =>
    let place := next place part
    match fs.node? place with
    | some .directory => makeDirectories fs place parts
    | some (.file _) => .error (if parts.isEmpty then .fileExists else .notDirectory)
    | none => makeDirectories (Ledger.put fs place .directory) place parts

def place (fs : Files) (p : Path) (n : Node) : Except Fault Files :=
  match n with
  | .directory => (fs.makeDirectories [] p.parts).map (·.1)
  | .file bs => do
    let (fs, _) ← fs.makeDirectories [] p.parts.dropLast
    fs.write p.text bs

def readText (fs : Files) (path : String) (encoding : String) : Except Fault String := do
  if encoding.toList.contains (Char.ofNat 0) then throw .embeddedZero
  let bs ← fs.read path
  match Encoding.ofName? encoding with
  | none => throw .unknownEncoding
  | some e => return String.ofList (Text.unifyBreaks (← e.decode bs))

end Files

end EventScript
