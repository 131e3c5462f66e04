import EventScript.Cli.Run

/-!
The program: it reads the working directory, runs the command line on it, and writes back the
variables if they were to be saved.
-/

namespace EventScript.Cli

def usage : String :=
  "usage: eventscript [-h] [-t FILE] [-c FILE] [--root DIR] [--map NAME] [--tick-ms X] " ++
    "[--max-ticks N] [--select N] [--seed N] [--variables FILE] [--save-variables FILE] [-v] script"

/-- Collects the files below a directory. -/
partial def collect (directory : String) (place : List String) (files : Files) : IO Files := do
  let mut files := files
  for entry in ← (← IO.FS.realPath directory).readDir do
    let child := place ++ [entry.fileName]
    let path := directory ++ "/" ++ entry.fileName
    match (← entry.path.symlinkMetadata).type with
    | .dir => files ← collect path child (Ledger.put files child .directory)
    | .file => files := Ledger.put files child (.file (← IO.FS.readBinFile path).toList)
    | _ => pure ()
  return files

def writeBack (argv : List String) (files : Files) : IO Unit := do
  if let .run a := readArguments argv then
    if let some path := a.saveTo.text? then
      if let .ok bytes := files.read path then
        IO.FS.writeBinFile path ⟨bytes.toArray⟩

def epoch : Moment := ⟨1970, 1, 1, 0, 0, 0, 0⟩

def program (argv : List String) : IO UInt32 := do
  let r := Cli.run argv (← collect "." [] []) epoch
  for line in r.log do
    IO.eprintln (line.level.tag.pushn ' ' (8 - line.level.tag.length) ++ line.text)
  IO.print r.out
  match r.exit, r.fault with
  | some code, _ =>
    if code = 0 then IO.println usage else IO.eprintln usage
    return UInt32.ofNat code
  | none, some f =>
    writeBack argv r.files
    IO.eprintln f.message
    return 1
  | none, none =>
    writeBack argv r.files
    return 0

end EventScript.Cli

def main (argv : List String) : IO UInt32 := EventScript.Cli.program argv
