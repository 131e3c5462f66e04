import EventScript.Command.Parser
import EventScript.Script.Basic
import EventScript.Script.Block

/-!
Reading a whole script: line by line, then blocks, then jumps to labels. Jumps only go forward.
-/

namespace EventScript

def Command.jumpLabel? (c : Command) : Option String :=
  if c.isValid then
    match c.kind, c.args with
    | .builtin .goto, .label l :: _ => some l
    | .builtin .ifThen, [_, .label l] => some l
    | _, _ => none
  else none

def Command.resolveLabel (labels : Ledger String Nat) (i : Nat) (c : Command) : Command :=
  match c.jumpLabel? with
  | none => c
  | some l =>
    match labels.get? l with
    | none => { c with error := some (.unknownLabel l) }
    | some t =>
      if t ≤ i then { c with error := some (.backwardLabel l) } else { c with target := some t }

def resolveLabels (labels : Ledger String Nat) (commands : List Command) : List Command :=
  commands.mapIdx (Command.resolveLabel labels)

namespace Script

structure Draft where
  commands : List Command := []
  labels : Ledger String Nat := []

/-- Adds one line. A label stands before the next command; the last of several with one name
counts. -/
def Draft.addLine (d : Draft) (source : List Char) (number : Int) : Except Fault Draft :=
  match labelOf? (Command.bare source) with
  | some l => .ok { d with labels := d.labels.put (String.ofList l) d.commands.length }
  | none =>
    match Command.parseLine (Command.bare source) number with
    | .error f => .error f
    | .ok none => .ok d
    | .ok (some c) => .ok { d with commands := d.commands ++ [c] }

def Draft.addLines (d : Draft) (number : Int) : List (List Char) → Except Fault Draft
  | [] => .ok d
  | l :: ls =>
    match d.addLine l number with
    | .error f => .error f
    | .ok d => d.addLines (number + 1) ls

def ofDraft (name : String) (path : Option String) (d : Draft) : Script :=
  { name, path, labels := d.labels
    commands := resolveLabels d.labels (resolveBlocks d.commands) }

def parse (text name : String) (path : Option String) : Except Fault Script :=
  (Draft.addLines {} 1 (Text.lines text.toList)).map (ofDraft name path)

end Script

end EventScript
