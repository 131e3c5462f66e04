import EventScript.Command.Instruction
import EventScript.Script.Basic
import Mathlib.Data.List.Basic

/-! What scripts do that only set variables and steer. Each command moves the cursor forward and
touches no variables but those it names. -/

namespace EventScript

def Verb.isPlain : Verb → Bool
  | ifThen | ifElse | endIf | goto | leave | assign | add => true
  | _ => false

def Command.isPlain (c : Command) : Bool :=
  !c.isValid || match c.kind with
    | .builtin v => v.isPlain
    | _ => false

def Script.IsPlain (s : Script) : Prop := ∀ c ∈ s.commands, c.isPlain = true

/-- What a command asks for that could be read. -/
def Command.instruction? (c : Command) : Option Instruction :=
  if c.isValid then
    match c.kind with
    | .builtin v => Instruction.ofArgs? v c.args
    | _ => none
  else none

lemma Command.instruction?_of {c : Command} {v : Verb} (hc : c.error = none)
    (hv : c.kind = .builtin v) : c.instruction? = Instruction.ofArgs? v c.args := by
  simp [instruction?, isValid, hc, hv]

lemma Command.instruction?_of_error {c : Command} {e : LineError} (hc : c.error = some e) :
    c.instruction? = none := by
  simp [instruction?, isValid, hc]

lemma Command.instruction?_eq_some {c : Command} {i : Instruction} : c.instruction? = some i ↔
    c.error = none ∧ ∃ v, c.kind = .builtin v ∧ Instruction.ofArgs? v c.args = some i := by
  unfold instruction?
  cases hk : c.kind <;> simp [isValid]

def Condition.names : Condition → List String
  | compare x _ _ => [x]
  | never => []

/-- The variables that an instruction reads or writes. -/
def Instruction.names : Instruction → List String
  | jumpUnless c | jumpIf c => c.names
  | assign x _ | add x _ => [x]
  | choose _ _ _ out => out.toList
  | _ => []

def Command.names (c : Command) : List String := c.instruction?.elim [] Instruction.names

def Script.names (s : Script) : List String := s.commands.flatMap Command.names

/-- The same values of some variables, and the same of them defined. -/
def Store.AgreesOn (xs : List String) (s t : Store) : Prop :=
  ∀ x ∈ xs, Ledger.get? s x = Ledger.get? t x

namespace Store.AgreesOn

variable {xs : List String} {s t : Store}

lemma assign (h : s.AgreesOn xs t) (x : String) (n : Int) :
    (s.assign x n).AgreesOn xs (t.assign x n) := by
  intro y hy
  unfold Store.assign
  rw [Ledger.get?_put, Ledger.get?_put, h y hy]

lemma add (h : s.AgreesOn xs t) (x : String) (n : Int) :
    (s.add x n).AgreesOn xs (t.add x n) := by
  intro y hy
  unfold Store.add Store.value
  rw [Ledger.get?_put, Ledger.get?_put, h y hy]
  by_cases hxy : x = y
  · rw [hxy, h y hy]
  · rw [if_neg hxy, if_neg hxy]

end Store.AgreesOn

lemma Condition.holds_congr {c : Condition} {s t : Store} (h : s.AgreesOn c.names t) :
    c.holds s = c.holds t := by
  cases c with
  | never => rfl
  | compare x op n =>
    simp only [holds, h x (List.mem_singleton_self x)]

structure Spot where
  cursor : Nat
  store : Store

namespace Spot

def jump (p : Spot) : Option Nat → Spot
  | some t => if t < p.cursor then p else { p with cursor := t }
  | none => p

def Agrees (xs : List String) (p q : Spot) : Prop :=
  p.cursor = q.cursor ∧ p.store.AgreesOn xs q.store

variable {xs : List String} {p q : Spot}

@[simp] lemma jump_store (p : Spot) (target : Option Nat) : (p.jump target).store = p.store := by
  unfold jump
  split
  · split <;> rfl
  · rfl

lemma le_jump (p : Spot) (target : Option Nat) : p.cursor ≤ (p.jump target).cursor := by
  unfold jump
  split
  · split
    · exact Nat.le_refl _
    · next h => exact Nat.le_of_not_lt h
  · exact Nat.le_refl _

lemma Agrees.jump (h : p.Agrees xs q) (target : Option Nat) :
    (p.jump target).Agrees xs (q.jump target) := by
  refine ⟨?_, by simpa using h.2⟩
  unfold Spot.jump
  rw [h.1]
  split
  · split
    · exact h.1
    · rfl
  · exact h.1

end Spot

namespace Instruction

/-- What an instruction of a plain script does; `size` is the end of the script. A number that is
too long to be written is not assigned, and steers nobody in a condition. -/
def act (size : Nat) (target : Option Nat) (p : Spot) : Instruction → Spot
  | jumpUnless c => if c.isPrintable && !c.holds p.store then p.jump target else p
  | jumpIf c => if c.isPrintable && c.holds p.store then p.jump target else p
  | jump => p.jump target
  | leave => p.jump (some size)
  | assign x n => if Text.exceedsDigitLimit n then p else { p with store := p.store.assign x n }
  | add x n => { p with store := p.store.add x n }
  | _ => p

variable {size : Nat} {target : Option Nat} {p q : Spot} {i : Instruction}

lemma le_act : p.cursor ≤ (i.act size target p).cursor := by
  cases i with
  | jumpUnless c | jumpIf c =>
    rw [act]
    split <;> simp [Spot.le_jump]
  | jump | leave => exact p.le_jump _
  | assign x n =>
    rw [act]
    split <;> exact Nat.le_refl _
  | _ => exact Nat.le_refl _

lemma get?_act {x : String} (hx : x ∉ i.names) :
    Ledger.get? (i.act size target p).store x = Ledger.get? p.store x := by
  cases i with
  | jumpUnless c | jumpIf c =>
    rw [act]
    split <;> simp
  | jump | leave => exact congrArg (Ledger.get? · x) (p.jump_store _)
  | assign y n =>
    have hy : y ≠ x := fun h => hx (h ▸ List.mem_singleton_self y)
    rw [act]
    split
    · rfl
    · exact Ledger.get?_put_of_ne p.store n hy
  | add y n =>
    have hy : y ≠ x := fun h => hx (h ▸ List.mem_singleton_self y)
    exact Ledger.get?_put_of_ne p.store _ hy
  | _ => rfl

lemma act_agrees {xs : List String} (hi : i.names ⊆ xs) (h : p.Agrees xs q) :
    (i.act size target p).Agrees xs (i.act size target q) := by
  have hholds {c : Condition} (hc : c.names ⊆ xs) : c.holds p.store = c.holds q.store :=
    Condition.holds_congr fun x hx => h.2 x (hc hx)
  cases i with
  | jumpUnless c | jumpIf c =>
    rw [act, act, hholds hi]
    split
    · exact h.jump target
    · exact h
  | jump | leave => exact h.jump _
  | assign x n =>
    rw [act, act]
    split
    · exact h
    · exact ⟨h.1, h.2.assign x n⟩
  | add x n => exact ⟨h.1, h.2.add x n⟩
  | _ => exact h

end Instruction

namespace Command

/-- What a command of a plain script does. Nothing happens in a line that could not be read. -/
def act (size : Nat) (p : Spot) (c : Command) : Spot :=
  match c.instruction? with
  | some i => i.act size c.target p
  | none => p

variable {size : Nat} {p q : Spot} {c : Command}

lemma le_act : p.cursor ≤ (c.act size p).cursor := by
  unfold act
  split
  · exact Instruction.le_act
  · exact Nat.le_refl _

lemma get?_act {x : String} (hx : x ∉ c.names) :
    Ledger.get? (c.act size p).store x = Ledger.get? p.store x := by
  unfold act
  split
  · next i hi => exact Instruction.get?_act (by simpa [names, hi] using hx)
  · rfl

lemma act_agrees {xs : List String} (hc : c.names ⊆ xs) (h : p.Agrees xs q) :
    (c.act size p).Agrees xs (c.act size q) := by
  unfold act
  split
  · next i hi => exact Instruction.act_agrees (by simpa [names, hi] using hc) h
  · exact h

end Command

namespace Script

def advance (s : Script) (p : Spot) : Spot :=
  match s.commands[p.cursor]? with
  | some c => c.act s.size { p with cursor := p.cursor + 1 }
  | none => p

variable {s : Script} {p q : Spot}

lemma advance_of_le (h : s.size ≤ p.cursor) : s.advance p = p := by
  unfold advance
  rw [List.getElem?_eq_none h]

lemma lt_advance (h : p.cursor < s.size) : p.cursor < (s.advance p).cursor := by
  unfold advance
  rw [List.getElem?_eq_getElem h]
  exact Command.le_act (p := { p with cursor := p.cursor + 1 })

lemma lt_advance_of_lt (h : (s.advance p).cursor < s.size) : p.cursor < (s.advance p).cursor := by
  refine lt_advance (Nat.lt_of_not_le fun hend => ?_)
  rw [advance_of_le hend] at h
  exact Nat.not_lt.mpr hend h

lemma names_subset {c : Command} (hc : c ∈ s.commands) : c.names ⊆ s.names :=
  fun _ hx => List.mem_flatMap.mpr ⟨c, hc, hx⟩

lemma get?_advance {x : String} (hx : x ∉ s.names) :
    Ledger.get? (s.advance p).store x = Ledger.get? p.store x := by
  unfold advance
  split
  · next c hc => exact Command.get?_act fun h => hx (names_subset (List.mem_of_getElem? hc) h)
  · rfl

lemma advance_agrees (h : p.Agrees s.names q) : (s.advance p).Agrees s.names (s.advance q) := by
  unfold advance
  rw [h.1]
  split
  · next c hc => exact Command.act_agrees (names_subset (List.mem_of_getElem? hc)) ⟨rfl, h.2⟩
  · exact h

end Script

end EventScript
