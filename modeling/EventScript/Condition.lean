import EventScript.Fault
import EventScript.Store.Basic
import EventScript.Text.Digit

/-!
Conditions of a script: a variable compared with an integer. Anything else that is written where a
condition belongs never holds, and neither does a comparison with an undefined variable.
-/

namespace EventScript

inductive Comparator where
  | eq | gt | ge | lt | le | ne
  deriving DecidableEq

namespace Comparator

def text : Comparator → String
  | eq => "=="
  | gt => ">>"
  | ge => ">="
  | lt => "<<"
  | le => "<="
  | ne => "<>"

def ofText? (s : String) : Option Comparator :=
  [eq, gt, ge, lt, le, ne].find? (·.text == s)

def holds : Comparator → Int → Int → Bool
  | eq, a, b => a == b
  | gt, a, b => a > b
  | ge, a, b => a ≥ b
  | lt, a, b => a < b
  | le, a, b => a ≤ b
  | ne, a, b => a != b

end Comparator

inductive Condition where
  | compare (name : String) (comparator : Comparator) (value : Int)
  | never
  deriving DecidableEq

namespace Condition

def holds (c : Condition) (s : Store) : Bool :=
  match c with
  | never => false
  | compare x op n =>
    match Ledger.get? s x with
    | none => false
    | some v => op.holds v n

def text? : Condition → Option String
  | compare x op n => some (x ++ op.text ++ toString n)
  | never => none

def isPrintable : Condition → Bool
  | compare _ _ n => !Text.exceedsDigitLimit n
  | never => true

def isComparatorChar (c : Char) : Bool := c == '<' || c == '>' || c == '='

def isVariable : List Char → Bool
  | '$' :: cs => !cs.isEmpty && cs.all Text.isWordChar
  | _ => false

/-- Cuts a condition into variable, comparator and literal; the blanks around them are dropped. -/
def cut (cs : List Char) : List Char × List Char × List Char :=
  let cs := Text.trim cs
  let x := cs.take 1 ++ (cs.drop 1).takeWhile Text.isWordChar
  let rest := Text.trimLeft (cs.drop x.length)
  let op := rest.takeWhile isComparatorChar
  (x, op, Text.trimLeft (rest.drop op.length))

/-- Only a literal with too many digits fails; every other malformed text is a condition that never
holds. -/
def parse (cs : List Char) : Except Fault Condition :=
  let (x, op, literal) := cut cs
  match Comparator.ofText? (String.ofList op) with
  | none => .ok never
  | some op =>
    if isVariable x && Text.isIntegerLiteral literal then
      if Text.literalTooLong literal then .error .tooManyDigits
      else .ok (compare (String.ofList x) op (Text.literalValue literal))
    else .ok never

def evaluate (cs : List Char) (s : Store) : Except Fault Bool := (parse cs).map (·.holds s)

end Condition

end EventScript
