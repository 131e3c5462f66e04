import EventScript.Script.Block
import Mathlib.Tactic.Lemma

/-! Programs with nested blocks, written out as commands one after the other. Matching the blocks
gives each jump the place behind the branch that it skips. -/

namespace EventScript

/-- How a command is written. Nothing but messages depends on it. -/
structure Spelling where
  name : String
  params : List String := []
  line : Int

def Spelling.command (l : Spelling) (v : Verb) (args : List Arg) (target : Option Nat := none) :
    Command :=
  { kind := .builtin v, name := l.name, params := l.params, args, line := l.line, target }

/-- Statements, the first of them with the rest. A block has one branch or two. -/
inductive Program where
  | done
  | assign (l : Spelling) (x : String) (n : Int) (rest : Program)
  | add (l : Spelling) (x : String) (n : Int) (rest : Program)
  | leave (l : Spelling) (rest : Program)
  | ifThen (l : Spelling) (c : Condition) (yes : Program) (lEnd : Spelling) (rest : Program)
  | ifElse (l : Spelling) (c : Condition) (yes : Program) (lElse : Spelling) (no : Program)
      (lEnd : Spelling) (rest : Program)

structure Result where
  store : Store
  /-- Whether the program was left on the way. -/
  left : Bool := false

def Result.andThen (r : Result) (f : Store → Result) : Result := if r.left then r else f r.store

namespace Program

def eval : Program → Store → Result
  | done, s => { store := s }
  | assign _ x n rest, s => rest.eval (s.assign x n)
  | add _ x n rest, s => rest.eval (s.add x n)
  | leave _ _, s => { store := s, left := true }
  | ifThen _ c yes _ rest, s => if c.holds s then (yes.eval s).andThen rest.eval else rest.eval s
  | ifElse _ c yes _ no _ rest, s =>
    (if c.holds s then yes.eval s else no.eval s).andThen rest.eval

/-- A program as it is written, without targets. -/
def commands : Program → List Command
  | done => []
  | assign l x n rest => l.command .assign [.var x, .int n] :: rest.commands
  | add l x n rest => l.command .add [.var x, .int n] :: rest.commands
  | leave l rest => l.command .leave [] :: rest.commands
  | ifThen l c yes lEnd rest =>
    l.command .ifThen [.condition c] :: (yes.commands ++ lEnd.command .endIf [] :: rest.commands)
  | ifElse l c yes lElse no lEnd rest =>
    l.command .ifThen [.condition c] :: (yes.commands ++
      lElse.command .ifElse [] :: (no.commands ++ lEnd.command .endIf [] :: rest.commands))

def size (p : Program) : Nat := p.commands.length

def compile : Program → Nat → List Command
  | done, _ => []
  | assign l x n rest, k => l.command .assign [.var x, .int n] :: rest.compile (k + 1)
  | add l x n rest, k => l.command .add [.var x, .int n] :: rest.compile (k + 1)
  | leave l rest, k => l.command .leave [] :: rest.compile (k + 1)
  | ifThen l c yes lEnd rest, k =>
    let next := k + 1 + yes.size + 1
    l.command .ifThen [.condition c] (some next) ::
      (yes.compile (k + 1) ++ lEnd.command .endIf [] :: rest.compile next)
  | ifElse l c yes lElse no lEnd rest, k =>
    let other := k + 1 + yes.size + 1
    let next := other + no.size + 1
    l.command .ifThen [.condition c] (some other) :: (yes.compile (k + 1) ++
      lElse.command .ifElse [] (some next) ::
        (no.compile other ++ lEnd.command .endIf [] :: rest.compile next))

lemma length_compile (p : Program) (k : Nat) : (p.compile k).length = p.size := by
  induction p generalizing k with
  | done => rfl
  | assign l x n rest ih | add l x n rest ih | leave l rest ih =>
    simpa [compile, size, commands] using ih (k + 1)
  | ifThen l c yes lEnd rest ihYes ihRest =>
    simp [compile, size, commands, ihYes, ihRest]
  | ifElse l c yes lElse no lEnd rest ihYes ihNo ihRest =>
    simp [compile, size, commands, ihYes, ihNo, ihRest]

end Program

lemma setTarget_append (cs ds : List Command) (l : Spelling) (v : Verb) (args : List Arg)
    (t : Nat) :
    setTarget (cs ++ l.command v args :: ds) cs.length t =
      cs ++ l.command v args (some t) :: ds := by
  unfold setTarget
  induction cs with
  | nil => rfl
  | cons d cs ih => simpa using ih

lemma length_around {α : Type} (xs ys : List α) (a : α) :
    (xs ++ a :: ys).length = xs.length + 1 + ys.length := by
  simp
  omega

namespace BlockState

variable (cs ds : List Command) (blocks : List Block) (l m : Spelling)

lemma push_plain {c : Command} (h : c.blockMark = .none) :
    push ⟨cs, blocks⟩ c = ⟨cs ++ [c], blocks⟩ := by
  simp [push, h]

lemma push_opening (c : Condition) :
    push ⟨cs, blocks⟩ (l.command .ifThen [.condition c]) =
      ⟨cs ++ [l.command .ifThen [.condition c]], { ifIndex := cs.length } :: blocks⟩ := rfl

lemma push_middle (args : List Arg) :
    push ⟨cs ++ l.command .ifThen args :: ds, { ifIndex := cs.length } :: blocks⟩
        (m.command .ifElse []) =
      ⟨cs ++ l.command .ifThen args (some (cs.length + 1 + ds.length + 1)) :: ds ++
          [m.command .ifElse []],
        { ifIndex := cs.length, elseIndex := some (cs.length + 1 + ds.length) } :: blocks⟩ := by
  rw [← length_around cs ds (l.command .ifThen args), List.append_assoc, List.cons_append,
    ← setTarget_append, ← List.cons_append, ← List.append_assoc]
  rfl

lemma push_closing {b : Block} (hb : b.elseIndex.getD b.ifIndex = cs.length) (v : Verb)
    (args : List Arg) :
    push ⟨cs ++ l.command v args :: ds, b :: blocks⟩ (m.command .endIf []) =
      ⟨cs ++ l.command v args (some (cs.length + 1 + ds.length + 1)) :: ds ++ [m.command .endIf []],
        blocks⟩ := by
  rw [← length_around cs ds (l.command v args), List.append_assoc, List.cons_append,
    ← setTarget_append, ← List.cons_append, ← List.append_assoc, ← hb]
  rfl

end BlockState

namespace Program

/-- A program leaves open no block of its own and closes none around it. -/
lemma foldl_push (p : Program) (cs : List Command) (blocks : List Block) :
    p.commands.foldl BlockState.push ⟨cs, blocks⟩ = ⟨cs ++ p.compile cs.length, blocks⟩ := by
  induction p generalizing cs blocks with
  | done => simp [commands, compile]
  | assign l x n rest ih | add l x n rest ih | leave l rest ih =>
    rw [commands, List.foldl_cons, BlockState.push_plain _ _ rfl, ih]
    simp [compile]
  | ifThen l c yes lEnd rest ihYes ihRest =>
    rw [commands, List.foldl_cons, BlockState.push_opening, List.foldl_append, ihYes,
      List.foldl_cons, List.append_assoc, List.singleton_append,
      BlockState.push_closing _ _ _ _ _ rfl, ihRest]
    simp only [compile, length_around, length_compile, List.length_nil, Nat.add_zero,
      List.append_assoc, List.cons_append, List.nil_append, Nat.add_assoc]
  | ifElse l c yes lElse no lEnd rest ihYes ihNo ihRest =>
    rw [commands, List.foldl_cons, BlockState.push_opening, List.foldl_append, ihYes,
      List.foldl_cons, List.append_assoc, List.singleton_append, BlockState.push_middle,
      List.foldl_append, ihNo, List.foldl_cons]
    rw [List.append_assoc _ [_], List.singleton_append, BlockState.push_closing _ _ _ _ _ ?_, ihRest]
    · simp only [compile, length_around, length_compile, List.length_nil, Nat.add_zero,
        List.append_assoc, List.cons_append, List.nil_append, Nat.add_assoc]
    · simp only [length_around, Option.getD_some]

lemma resolveBlocks_commands (p : Program) : resolveBlocks p.commands = p.compile 0 := by
  unfold resolveBlocks
  rw [p.foldl_push]
  simp [BlockState.close]

end Program

end EventScript
