import EventScript.Command.Basic

/-!
Blocks: each `If` without a label is matched with its `Else` and `EndIf`. A false `If` goes past
its `Else`, or past its `EndIf`; an `Else` that is reached goes past the `EndIf`. What stays open
runs to the end of the script.
-/

namespace EventScript

/-- An open block: the indices of its `If` and, once seen, of its `Else`. -/
structure Block where
  ifIndex : Nat
  elseIndex : Option Nat := none
  deriving DecidableEq

def Block.indices (b : Block) : List Nat := b.ifIndex :: b.elseIndex.toList

/-- Commands read so far, with the targets known so far, and the blocks still open, innermost
first. -/
structure BlockState where
  commands : List Command := []
  stack : List Block := []

inductive BlockMark where
  | opening | middle | closing | none
  deriving DecidableEq

def Command.blockMark (c : Command) : BlockMark :=
  if c.isValid then
    match c.kind with
    | .builtin .ifThen => if c.args.length = 1 then .opening else .none
    | .builtin .ifElse => .middle
    | .builtin .endIf => .closing
    | _ => .none
  else .none

def setTarget (commands : List Command) (i t : Nat) : List Command :=
  commands.modify i fun c => { c with target := some t }

namespace BlockState

def push (s : BlockState) (c : Command) : BlockState :=
  let i := s.commands.length
  match c.blockMark, s.stack with
  | .none, _ => { s with commands := s.commands ++ [c] }
  | .opening, _ => { commands := s.commands ++ [c], stack := { ifIndex := i } :: s.stack }
  | .middle, { ifIndex, elseIndex := none } :: outer =>
    { commands := setTarget (s.commands ++ [c]) ifIndex (i + 1)
      stack := { ifIndex, elseIndex := some i } :: outer }
  | .middle, _ => { s with commands := s.commands ++ [{ c with error := some .elseAlone }] }
  | .closing, b :: outer =>
    { commands := setTarget (s.commands ++ [c]) (b.elseIndex.getD b.ifIndex) (i + 1)
      stack := outer }
  | .closing, [] => { s with commands := s.commands ++ [{ c with error := some .endIfAlone }] }

def close (s : BlockState) : List Command :=
  (s.stack.flatMap Block.indices).foldl (fun cs i => setTarget cs i s.commands.length) s.commands

end BlockState

def resolveBlocks (commands : List Command) : List Command :=
  (commands.foldl BlockState.push {}).close

end EventScript
